import MegaraidDashboard.Soundness.Inventory
import MegaraidDashboard.Soundness.TemperatureRelevance

/-! # Runs that start from the payloads

A poll reads its commands, parses them and commits the snapshot; a `StorcliError` or an `OSError` is recorded as a
failed collection, any other exception of the commands ends the poll without a trace, and every exception of the
transaction is recorded after it was rolled back. The parsers guarantee what the detection assumes, so its invariants
hold whatever the commands answer and whatever the database does.
-/

namespace MegaraidDashboard.Services

open Storcli Storcli.Inventory

/-- How the transaction of a poll ends. -/
inductive Transaction where
  | commits
  /-- An exception before the detector gets the stored temperature states. -/
  | readFails (error : String)
  /-- An exception from there up to the detection. -/
  | insertFails (error : String)
  /-- An exception afterwards, up to the commit. -/
  | commitFails (error : String)

/-- One call of `run_once`: what the commands answer, the clock, how the transaction ends, and whether
`_record_collection_failure` returns. -/
structure Poll where
  probes : Probes
  now : ℤ
  transaction : Transaction
  records : Bool

/-- The exceptions that `run_once` records; the others go up. -/
def recordedError : InventoryError → Bool
  | .storcli _ _ | .osError => true
  | _ => false

section Runs

variable [PyText] [PyNumbers] [PyConversions] [Sha256] (settings : Settings) (clock : ℕ → ℤ)
  (parsers : OperationParsers) (describe : InventoryError → String)

/-- `run_once` -/
def Poll.attempt (poll : Poll) : Attempt :=
  match collectStorcliSnapshot poll.probes parsers poll.now with
  | .ok (snapshot, _) =>
    match poll.transaction with
    | .commits => .committed snapshot
    | .readFails error => .collectionFailed (if poll.records then some error else none)
    | .insertFails error => .insertFailed snapshot (if poll.records then some error else none)
    | .commitFails error => .commitFailed snapshot (if poll.records then some error else none)
  | .error error => .collectionFailed (if recordedError error && poll.records then some (describe error) else none)

/-- The runs of the collector job. -/
def runOnce (run : DetectionRun) (poll : Poll) : DetectionRun :=
  run.step settings clock (poll.attempt parsers describe)

variable {settings clock parsers describe}

theorem capturedAt_of_collected {probes : Probes} {now : ℤ} {snapshot : StorcliSnapshot} {raw : Fields}
    (returned : collectStorcliSnapshot probes parsers now = .ok (snapshot, raw)) : snapshot.capturedAt = now := by
  obtain ⟨_, _, _, _, _, rfl⟩ := inventoried_of_collected returned
  rfl

variable (parsers describe) in
/-- A poll commits an accepted snapshot of its own time, or it fails. -/
theorem attempt_cases (poll : Poll) :
    (∃ snapshot, poll.attempt parsers describe = .committed snapshot ∧ snapshot.Accepted ∧
      snapshot.capturedAt = poll.now) ∨ (poll.attempt parsers describe).isFailed = true := by
  rw [Poll.attempt]
  cases collected : collectStorcliSnapshot poll.probes parsers poll.now with
  | ok result =>
    obtain ⟨snapshot, raw⟩ := result
    cases poll.transaction with
    | commits => exact .inl ⟨snapshot, rfl, accepted_of_collected collected, capturedAt_of_collected collected⟩
    | readFails error => exact .inr rfl
    | insertFails error => exact .inr rfl
    | commitFails error => exact .inr rfl
  | error error => exact .inr rfl

/-- What the polls so far leave: the invariants of the detection, and the time of one of them. -/
structure Collected (settings : Settings) (polls : List Poll) (run : DetectionRun) : Prop where
  sound : run.Sound settings
  reported : run.AllReported settings
  times : ∀ latest ∈ run.history.head?, ∃ poll ∈ polls, latest.snapshot.capturedAt = poll.now

theorem Collected.runOnce {polls : List Poll} {run : DetectionRun} (collected : Collected settings polls run)
    {poll : Poll} (later : ∀ earlier ∈ polls, earlier.now ≤ poll.now) :
    Collected settings (polls ++ [poll]) (runOnce settings clock parsers describe run poll) := by
  rcases attempt_cases parsers describe poll with
    ⟨snapshot, attempt, accepted, captured⟩ | failed
  · have next : AcceptedLater run snapshot := by
      refine ⟨accepted, ?_⟩
      intro latest newest
      obtain ⟨earlier, member, time⟩ := collected.times latest newest
      rw [time, captured]
      exact later earlier member
    rw [Services.runOnce, attempt]
    refine ⟨collected.sound.step clock next, collected.reported.commit collected.sound.recorded next, ?_⟩
    intro latest newest
    obtain rfl := Option.some.inj newest
    exact ⟨poll, List.mem_append_right _ List.mem_cons_self, captured⟩
  · rw [Services.runOnce]
    generalize poll.attempt parsers describe = attempt at failed ⊢
    have times : ∀ latest ∈ run.history.head?, ∃ earlier ∈ polls ++ [poll], latest.snapshot.capturedAt = earlier.now := by
      intro latest newest
      obtain ⟨earlier, member, time⟩ := collected.times latest newest
      exact ⟨earlier, List.mem_append_left _ member, time⟩
    cases attempt with
    | committed snapshot => cases failed
    | collectionFailed error => exact ⟨collected.sound.step clock trivial, collected.reported, times⟩
    | insertFailed snapshot error => exact ⟨collected.sound.step clock trivial, collected.reported, times⟩
    | commitFailed snapshot error => exact ⟨collected.sound.step clock trivial, collected.reported, times⟩

variable (settings clock parsers describe)

/-- Whatever the commands of the polls answer and however their transactions end: every critical condition of the newest inventory was reported since it
began, by an event of that interval, and the stored state is what the detection relies on. -/
theorem critical_conditions_reported_from_payloads (polls : List Poll)
    (ordered : polls.Pairwise fun earlier later => earlier.now ≤ later.now) :
    (polls.foldl (runOnce settings clock parsers describe) ⟨.initial, []⟩).Sound settings ∧
      (polls.foldl (runOnce settings clock parsers describe) ⟨.initial, []⟩).AllReported settings := by
  suffices collected : Collected settings polls (polls.foldl (runOnce settings clock parsers describe) ⟨.initial, []⟩) from
    ⟨collected.sound, collected.reported⟩
  induction polls using List.reverseRecOn with
  | nil =>
    exact ⟨DetectionRun.sound_initial settings, fun _ _ newest => (nomatch newest), fun _ newest => (nomatch newest)⟩
  | append_singleton polls poll ih =>
    obtain ⟨earlier, -, later⟩ := List.pairwise_append.mp ordered
    rw [List.foldl_append, List.foldl_cons, List.foldl_nil]
    exact (ih earlier).runOnce fun first member => later first member poll List.mem_cons_self

end Runs

/-- A poll of two drives after one that found no storcli and one whose commit failed. -/
theorem twoDrives_reported :
    let _ := PyText.ascii
    let _ := plainNumbers
    let _ := plainConversions
    let _ := zeroHash
    let missing : Probes := { twoDriveProbes with controller := .error (.storcli .notAvailable "") }
    let polls : List Poll := [⟨missing, 0, .commits, true⟩, ⟨twoDriveProbes, 1, .commitFails "disk full", false⟩,
      ⟨twoDriveProbes, 2, .commits, true⟩]
    (polls.foldl (runOnce Settings.default (fun tick => (tick : ℤ)) noParsers fun _ => "")
      ⟨.initial, []⟩).AllReported Settings.default := by
  intro _ _ _ _ missing polls
  exact (critical_conditions_reported_from_payloads Settings.default (fun tick => (tick : ℤ)) noParsers (fun _ => "")
    polls (by simp [polls])).2

end MegaraidDashboard.Services
