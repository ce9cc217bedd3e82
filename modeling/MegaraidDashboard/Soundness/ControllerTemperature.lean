import MegaraidDashboard.Machine.Run
import MegaraidDashboard.Model.Services.TelegramNotifier
import MegaraidDashboard.Soundness.FailedAttempts

/-! # Recovery of the controller temperature under pruning

A run saves polls, prunes snapshots by retention transactions and lets other transactions happen that
touch neither. The two stored clear times summarize every reading ever saved, and they answer what a
delivery cycle asks for as the whole history would.
-/

namespace MegaraidDashboard.Services

open Db Storcli

/-- The controller temperature of one saved poll. -/
structure SavedReading where
  capturedAt : ℤ
  temperature : Option ℤ

def SavedReading.clears (boundary : ℤ) (reading : SavedReading) : Bool :=
  reading.temperature.any fun temperature => decide (temperature ≤ boundary)

/-- The capture times of the readings at or below the boundary. -/
def clearTimes (boundary : ℤ) (saved : List SavedReading) : List ℤ :=
  (saved.filter (SavedReading.clears boundary)).map (·.capturedAt)

/-- The recovery answer computed from every reading ever saved. -/
def recoveredInHistory (settings : Settings) (saved : List SavedReading) (event : Event) (asOf : ℤ) : Bool :=
  event.category == .controllerTemperature && event.severity != .info &&
    saved.any fun reading => reading.clears (controllerClearBoundary settings event.severity) &&
      decide (event.occurredAt < reading.capturedAt) && decide (reading.capturedAt ≤ asOf)

/-- The world and the readings of its committed polls. -/
structure ReadingRun where
  world : World
  saved : List SavedReading

inductive ReadingStep where
  | poll (snapshot : StorcliSnapshot)
  | retention (windows : RetentionSettings) (now : ℤ)
  /-- Any other transaction of the application. -/
  | elsewhere (world : World)

section Clears

variable {boundary : ℤ} {saved : List SavedReading}

theorem mem_clearTimes {time : ℤ} :
    time ∈ clearTimes boundary saved ↔ ∃ reading ∈ saved, reading.clears boundary = true ∧
      reading.capturedAt = time := by
  simp only [clearTimes, List.mem_map, List.mem_filter, and_assoc]

theorem clearTimes_concat (reading : SavedReading) :
    clearTimes boundary (saved ++ [reading]) =
      clearTimes boundary saved ++ if reading.clears boundary then [reading.capturedAt] else [] := by
  rw [clearTimes, List.filter_append, List.map_append, clearTimes, List.filter_singleton]
  cases reading.clears boundary <;> rfl

theorem recoveredInHistory_iff {settings : Settings} {event : Event} {asOf : ℤ} :
    recoveredInHistory settings saved event asOf = true ↔
      event.category = .controllerTemperature ∧ event.severity ≠ .info ∧
        ∃ time ∈ clearTimes (controllerClearBoundary settings event.severity) saved,
          event.occurredAt < time ∧ time ≤ asOf := by
  simp only [recoveredInHistory, Bool.and_eq_true, beq_iff_eq, bne_iff_ne, List.any_eq_true, decide_eq_true_eq,
    and_assoc, mem_clearTimes]
  constructor
  · rintro ⟨category, severity, reading, member, clears, after, before⟩
    exact ⟨category, severity, _, ⟨reading, member, clears, rfl⟩, after, before⟩
  · rintro ⟨category, severity, time, ⟨reading, member, clears, rfl⟩, after, before⟩
    exact ⟨category, severity, reading, member, clears, after, before⟩

def ControllerSnapshot.reading (snapshot : ControllerSnapshot) : SavedReading :=
  ⟨snapshot.capturedAt, snapshot.rocTemperatureCelsius⟩

theorem controllerTemperatureRecovered_iff {settings : Settings} {db : Database} {event : Event} {asOf : ℤ} :
    controllerTemperatureRecovered settings db event asOf = true ↔
      event.category = .controllerTemperature ∧ event.severity ≠ .info ∧
        ((∃ cleared ∈ storedClearTime db event.severity, event.occurredAt < cleared ∧ cleared ≤ asOf) ∨
          ∃ time ∈ clearTimes (controllerClearBoundary settings event.severity)
            (db.snapshots.map ControllerSnapshot.reading), event.occurredAt < time ∧ time ≤ asOf) := by
  simp only [controllerTemperatureRecovered, Bool.and_eq_true, Bool.or_eq_true, beq_iff_eq, bne_iff_ne,
    List.any_eq_true, decide_eq_true_eq, and_assoc, mem_clearTimes, Option.any_eq_true, List.mem_map]
  refine and_congr_right fun category => and_congr_right fun severity => or_congr_right ?_
  constructor
  · rintro ⟨snapshot, member, after, before, temperature, some, clears⟩
    refine ⟨_, ⟨_, ⟨snapshot, member, rfl⟩, ?_, rfl⟩, after, before⟩
    simp only [ControllerSnapshot.reading, SavedReading.clears, Option.any_eq_true, decide_eq_true_eq]
    exact ⟨temperature, some, clears⟩
  · rintro ⟨time, ⟨reading, ⟨snapshot, member, rfl⟩, clears, rfl⟩, after, before⟩
    simp only [ControllerSnapshot.reading, SavedReading.clears, Option.any_eq_true, decide_eq_true_eq] at clears
    exact ⟨snapshot, member, after, before, clears⟩

/-- One pass of the loop keeps the maximum of the clear times, when the retained snapshots are saved
readings or the new one. -/
theorem clearedAt_eq_max? {snapshots : List ControllerSnapshot} {temperature : Option ℤ} {captured : ℤ}
    (retained : ∀ snapshot ∈ snapshots, ControllerSnapshot.reading snapshot ∈ saved ++ [⟨captured, temperature⟩]) :
    clearedAt snapshots boundary (clearTimes boundary saved).max? temperature captured =
      (clearTimes boundary (saved ++ [⟨captured, temperature⟩])).max? := by
  rw [clearTimes_concat]
  cases clears : SavedReading.clears boundary ⟨captured, temperature⟩ with
  | true =>
    have cleared : (temperature.any fun temperature => decide (temperature ≤ boundary)) = true := clears
    rw [if_pos rfl, List.max?_concat]
    simp only [clearedAt, cleared, ↓reduceIte]
    cases (clearTimes boundary saved).max? with
    | none => rfl
    | some existing =>
      simp only [Option.elim_some]
      split
      · next later => rw [max_eq_right later.le]
      · next later => rw [max_eq_left (not_lt.mp later)]
  | false =>
    have uncleared : (temperature.any fun temperature => decide (temperature ≤ boundary)) = false := clears
    rw [if_neg Bool.false_ne_true, List.append_nil]
    simp only [clearedAt, uncleared, Bool.false_eq_true, ↓reduceIte]
    cases existing : (clearTimes boundary saved).max? with
    | some existing => rfl
    | none =>
      -- no reading was ever clear, so that the retained ones answer nothing
      have none : (snapshots.filter fun snapshot => decide (snapshot.capturedAt ≤ captured) &&
          snapshot.rocTemperatureCelsius.any fun temperature => decide (temperature ≤ boundary)) = [] := by
        apply List.filter_eq_nil_iff.mpr
        intro snapshot member both
        have clear := (Bool.and_eq_true_iff.mp both).2
        rcases List.mem_append.mp (retained snapshot member) with old | new
        · have time := mem_clearTimes.mpr ⟨_, old, clear, rfl⟩
          rw [List.max?_eq_none_iff.mp existing] at time
          cases time
        · have same := List.mem_singleton.mp new
          change SavedReading.clears boundary (ControllerSnapshot.reading snapshot) = true at clear
          rw [same, clears] at clear
          cases clear
      simp only [Option.isNone_none, ↓reduceIte, none, List.map_nil, List.max?_nil]

end Clears

variable [PyText]

section Steps

variable (settings : Settings) (clock : ℕ → ℤ)

def ReadingRun.step (run : ReadingRun) : ReadingStep → ReadingRun
  | .poll snapshot =>
    { world := run.world.poll settings clock snapshot
      saved := run.saved ++ [⟨snapshot.capturedAt, snapshot.controller.rocTemperatureCelsius⟩] }
  | .retention windows now => { run with world := run.world.retention windows now }
  | .elsewhere world => { run with world := world }

/-- Only polls and the retention write snapshots, and only polls write the clear times. -/
def LeavesReadings (run : ReadingRun) : ReadingStep → Prop
  | .elsewhere world => world.db.snapshots = run.world.db.snapshots ∧
      world.db.rocWarningClearedAt = run.world.db.rocWarningClearedAt ∧
      world.db.rocCriticalClearedAt = run.world.db.rocCriticalClearedAt
  | _ => True

theorem poll_storedClearTime (world : World) (snapshot : StorcliSnapshot) {severity : Severity}
    (alert : severity ≠ .info) :
    storedClearTime (world.poll settings clock snapshot).db severity =
      clearedAt (world.db.snapshots ++ [.ofStorcli world.db.nextSnapshotId snapshot])
        (controllerClearBoundary settings severity) (storedClearTime world.db severity)
        snapshot.controller.rocTemperatureCelsius snapshot.capturedAt := by
  simp only [World.poll, applyTemperatureStates_eq, foldl_record]
  cases severity with
  | info => exact absurd rfl alert
  | warning => rfl
  | critical => rfl

end Steps

/-- What the stored clear times and the retained snapshots say of the saved readings. -/
structure ReadingRun.Tracked (settings : Settings) (run : ReadingRun) : Prop where
  cleared : ∀ severity ≠ .info, storedClearTime run.world.db severity =
    (clearTimes (controllerClearBoundary settings severity) run.saved).max?
  retained : ∀ snapshot ∈ run.world.db.snapshots, ControllerSnapshot.reading snapshot ∈ run.saved

omit [PyText] in
theorem ReadingRun.tracked_initial (settings : Settings) : ReadingRun.Tracked settings ⟨.initial, []⟩ where
  cleared := by
    intro severity alert
    cases severity with
    | info => exact absurd rfl alert
    | warning => rfl
    | critical => rfl
  retained := List.forall_mem_nil _

theorem ReadingRun.Tracked.poll {settings : Settings} {run : ReadingRun} (tracked : run.Tracked settings)
    (clock : ℕ → ℤ) (snapshot : StorcliSnapshot) :
    (run.step settings clock (.poll snapshot)).Tracked settings := by
  have retained : ∀ row ∈ run.world.db.snapshots ++ [.ofStorcli run.world.db.nextSnapshotId snapshot],
      ControllerSnapshot.reading row ∈
        run.saved ++ [⟨snapshot.capturedAt, snapshot.controller.rocTemperatureCelsius⟩] := by
    intro row member
    rcases List.mem_append.mp member with old | new
    · exact List.mem_append_left _ (tracked.retained row old)
    · rw [List.mem_singleton.mp new]
      exact List.mem_append_right _ List.mem_cons_self
  constructor
  · intro severity alert
    simp only [ReadingRun.step]
    rw [poll_storedClearTime settings clock _ _ alert, tracked.cleared severity alert]
    exact clearedAt_eq_max? retained
  · simp only [ReadingRun.step, poll_snapshots]
    exact retained

theorem ReadingRun.Tracked.step {settings : Settings} {clock : ℕ → ℤ} {run : ReadingRun} {label : ReadingStep}
    (tracked : run.Tracked settings) (leaves : LeavesReadings run label) :
    (run.step settings clock label).Tracked settings := by
  cases label with
  | poll snapshot => exact tracked.poll clock snapshot
  | retention windows now =>
    constructor
    · intro severity alert
      refine Eq.trans ?_ (tracked.cleared severity alert)
      cases severity with
      | info => exact absurd rfl alert
      | warning => exact retention_rocWarningClearedAt run.world windows now
      | critical => exact retention_rocCriticalClearedAt run.world windows now
    · intro snapshot member
      obtain ⟨keep, -, kept⟩ := retention_snapshots run.world windows now
      simp only [ReadingRun.step, kept] at member
      exact tracked.retained snapshot (List.mem_of_mem_filter member)
  | elsewhere world =>
    obtain ⟨snapshots, warning, critical⟩ := leaves
    constructor
    · intro severity alert
      refine Eq.trans ?_ (tracked.cleared severity alert)
      cases severity with
      | info => exact absurd rfl alert
      | warning => exact warning
      | critical => exact critical
    · intro snapshot member
      simp only [ReadingRun.step] at member
      exact tracked.retained snapshot (snapshots ▸ member)

omit [PyText] in
/-- A time that no stored clear lies after is answered as by the whole history. -/
theorem ReadingRun.Tracked.recovered {settings : Settings} {run : ReadingRun} (tracked : run.Tracked settings)
    {event : Event} {asOf : ℤ} (below : ∀ cleared ∈ storedClearTime run.world.db event.severity, cleared ≤ asOf) :
    controllerTemperatureRecovered settings run.world.db event asOf =
      recoveredInHistory settings run.saved event asOf := by
  rw [Bool.eq_iff_iff, controllerTemperatureRecovered_iff, recoveredInHistory_iff]
  refine and_congr_right fun category => and_congr_right fun alert => ?_
  rw [tracked.cleared _ alert] at below ⊢
  rw [List.exists_mem_window_iff below, or_iff_left_of_imp]
  rintro ⟨time, member, after, within⟩
  rw [← List.exists_mem_window_iff below]
  obtain ⟨reading, inside, clears, same⟩ := mem_clearTimes.mp member
  obtain ⟨snapshot, row, rfl⟩ := List.mem_map.mp inside
  exact ⟨time, mem_clearTimes.mpr ⟨_, tracked.retained snapshot row, clears, same⟩, after, within⟩

/-- An active incident has not recovered. -/
theorem not_recovered_of_active {settings : Settings} {db : Database} {event : Event} {now : ℤ}
    (active : deliveryRelevance settings db event now = .active) :
    controllerTemperatureRecovered settings db event now = false := by
  by_cases system : event.category = .system
  · simp [controllerTemperatureRecovered, system]
  · simp only [deliveryRelevance, system, ↓reduceIte] at active
    split at active
    · cases active
    · cases active
    · split at active
      · cases active
      · split_ifs at active with stale superseded
        rw [incidentSuperseded, Bool.or_eq_true, not_or] at superseded
        exact Bool.eq_false_iff.mpr superseded.2

/-- In every run of polls and retention transactions, the stored clear times are the greatest clear times
ever saved, and a delivery cycle that runs at a time not before the stored clear gets, to everything it
asks, the answer of the whole history. -/
theorem controller_recovery_survives_pruning (settings : Settings) (clock : ℕ → ℤ) (labels : List ReadingStep)
    (leaves : Machine.Guarded (ReadingRun.step settings clock) LeavesReadings ⟨.initial, []⟩ labels) :
    let run := labels.foldl (ReadingRun.step settings clock) ⟨.initial, []⟩
    (∀ severity ≠ .info, storedClearTime run.world.db severity =
      (clearTimes (controllerClearBoundary settings severity) run.saved).max?) ∧
    ∀ (event : Event) (now : ℤ), (∀ cleared ∈ storedClearTime run.world.db event.severity, cleared ≤ now) →
      ∀ query ∈ recoveryQueries settings run.world.db event now,
        controllerTemperatureRecovered settings run.world.db query.1 query.2 =
          recoveredInHistory settings run.saved query.1 query.2 := by
  intro run
  have tracked : run.Tracked settings :=
    leaves.invariant (ReadingRun.tracked_initial settings) fun _ _ tracked leaves => tracked.step leaves
  refine ⟨tracked.cleared, ?_⟩
  intro event now below query asked
  rcases List.mem_append.mp asked with relevance | repeats
  · obtain ⟨-, same⟩ := List.mem_ite_nil_right.mp relevance
    obtain rfl := List.mem_singleton.mp same
    exact tracked.recovered below
  · obtain ⟨active, repeats⟩ := List.mem_ite_nil_right.mp repeats
    obtain ⟨other, member, rfl⟩ := List.mem_map.mp repeats
    have incident := (List.mem_filter.mp (List.mem_of_mem_filter member)).2
    simp only [sentSince, Bool.and_eq_true, beq_iff_eq] at incident
    obtain ⟨⟨⟨⟨⟨⟨-, severity⟩, category⟩, -⟩, -⟩, -⟩, -⟩ := incident
    by_cases temperature : event.category = .controllerTemperature ∧ event.severity ≠ .info
    · -- the candidate has not recovered, so that the stored clear is not later than its time
      have unrecovered := not_recovered_of_active active
      have earlier : ∀ cleared ∈ storedClearTime run.world.db event.severity, cleared ≤ event.occurredAt := by
        intro cleared stored
        by_contra later
        refine Bool.eq_false_iff.mp unrecovered (controllerTemperatureRecovered_iff.mpr ?_)
        exact ⟨temperature.1, temperature.2, .inl ⟨cleared, stored, not_le.mp later, below cleared stored⟩⟩
      rw [← severity] at earlier
      exact tracked.recovered earlier
    · have left : ¬controllerTemperatureRecovered settings run.world.db other event.occurredAt = true := by
        rw [controllerTemperatureRecovered_iff, severity, category]
        exact fun recovered => temperature ⟨recovered.1, recovered.2.1⟩
      have right : ¬recoveredInHistory settings run.saved other event.occurredAt = true := by
        rw [recoveredInHistory_iff, severity, category]
        exact fun recovered => temperature ⟨recovered.1, recovered.2.1⟩
      rw [Bool.eq_false_iff.mpr left, Bool.eq_false_iff.mpr right]

/-! ## A pruned episode -/

/-- Two critical episodes, each of which cools down in two readings without an event of its own; the
retention keeps the second one. -/
def prunedEpisodes : List ReadingStep :=
  let restart := 2 * Timestamp.day
  [.poll (rocSnapshot 0 none), .poll (rocSnapshot (10 * Timestamp.minute) (some 106)),
    .poll (rocSnapshot Timestamp.hour (some 102)), .poll (rocSnapshot (2 * Timestamp.hour) (some 100)),
    .poll (rocSnapshot restart (some 106)), .poll (rocSnapshot (restart + Timestamp.hour) (some 102)),
    .poll (rocSnapshot (restart + 2 * Timestamp.hour) (some 100)),
    .retention ⟨1, 1, by decide, by decide⟩ (restart + 3 * Timestamp.hour)]

/-- The times at which the events of the two episodes are recorded. -/
def episodeClock (tick : ℕ) : ℤ :=
  if tick < 3 then 11 * Timestamp.minute else 2 * Timestamp.day + Timestamp.second

omit [PyText] in
/-- The alerts of both episodes, asked for after the second one has ended. -/
theorem controller_recovery_survives_pruning_episodes :
    let _ := PyText.ascii
    let run := prunedEpisodes.foldl (ReadingRun.step Settings.default episodeClock) ⟨.initial, []⟩
    ∀ event ∈ run.world.db.events, ∀ query ∈ recoveryQueries Settings.default run.world.db event
      (2 * Timestamp.day + 2 * Timestamp.hour + Timestamp.minute),
      controllerTemperatureRecovered Settings.default run.world.db query.1 query.2 =
        recoveredInHistory Settings.default run.saved query.1 query.2 := by
  intro text run event first
  refine (controller_recovery_survives_pruning Settings.default episodeClock prunedEpisodes ?_).2 event _ ?_
  · exact ⟨trivial, trivial, trivial, trivial, trivial, trivial, trivial, trivial, trivial⟩
  · revert event
    decide +kernel

omit [PyText] in
/-- The clock has stepped back behind the second clear, and the first one has been pruned. -/
theorem not_controller_recovery_survives_pruning :
    ¬ ∀ [PyText] (settings : Settings) (clock : ℕ → ℤ) (labels : List ReadingStep),
      Machine.Guarded (ReadingRun.step settings clock) LeavesReadings ⟨.initial, []⟩ labels →
        let run := labels.foldl (ReadingRun.step settings clock) ⟨.initial, []⟩
        ∀ event ∈ run.world.db.events, ∀ now, ∀ query ∈ recoveryQueries settings run.world.db event now,
          controllerTemperatureRecovered settings run.world.db query.1 query.2 =
            recoveredInHistory settings run.saved query.1 query.2 := by
  intro survives
  let _ := PyText.ascii
  have answers := survives Settings.default episodeClock prunedEpisodes
    ⟨trivial, trivial, trivial, trivial, trivial, trivial, trivial, trivial, trivial⟩
  have same : ∀ event ∈ (prunedEpisodes.foldl (ReadingRun.step Settings.default episodeClock)
      ⟨.initial, []⟩).world.db.events, ∀ query ∈ recoveryQueries Settings.default _ event
        (2 * Timestamp.day + Timestamp.minute), _ := fun event member => answers event member _
  revert same
  decide +kernel

end MegaraidDashboard.Services
