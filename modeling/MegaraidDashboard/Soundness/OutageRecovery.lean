import Mathlib.Data.Int.ConditionallyCompleteOrder
import MegaraidDashboard.Model.Services.RebuildMarkers
import MegaraidDashboard.Soundness.FailedAttempts

/-! # Recovery from a collection outage

The collector infers an outage from the newest event of category `system`. Every poll that ends an
outage records one recovery and no other poll records any, as long as no rebuild progress marker is
recorded during an outage.
-/

namespace MegaraidDashboard.Services

open Db Storcli

/-- What the collector or a rebuild-status request does to the shared database. -/
inductive Activity where
  | attempt (attempt : Attempt)
  | rebuildStatus (enclosureId slotId : ℤ) (status : RebuildStatus) (username : String)

/-- A committed poll: whether it followed a recorded failure, and the recoveries that it recorded. -/
structure RecoveryRecord where
  afterOutage : Bool
  recoveries : ℕ
deriving DecidableEq

/-- The collector's run, whether a failed poll was recorded since the last committed one, and the
committed polls, newest first. -/
structure OutageRun where
  run : DetectionRun
  outage : Bool
  log : List RecoveryRecord

def isRecovery (event : Event) : Bool :=
  event.category == .system && event.summary == collectionRecovered.summary

/-- An attempt whose failure event was recorded. -/
def Attempt.failureRecorded : Attempt → Bool
  | .committed _ => false
  | .collectionFailed error => error.isSome
  | .insertFailed _ error => error.isSome
  | .commitFailed _ error => error.isSome

def OutageRun.initial : OutageRun := ⟨⟨.initial, []⟩, false, []⟩

section Steps

variable [PyText] (settings : Settings) (clock : ℕ → ℤ)

def OutageRun.step (state : OutageRun) : Activity → OutageRun
  | .attempt attempt =>
    let run := state.run.step settings clock attempt
    if attempt.isFailed then
      { state with run := run, outage := state.outage || attempt.failureRecorded }
    else
      { run := run
        outage := false
        log := ⟨state.outage, (run.world.db.events.drop state.run.world.db.events.length).countP isRecovery⟩ ::
          state.log }
  | .rebuildStatus enclosureId slotId status username =>
    { state with
      run := { state.run with
        world := state.run.world.rebuildStatus clock enclosureId slotId status username } }

end Steps

/-- A rebuild-status request records no progress marker while an outage lasts. -/
def NoMarkerInOutage (state : OutageRun) : Activity → Prop
  | .attempt _ => True
  | .rebuildStatus enclosureId slotId status _ => state.outage = true → status.inProgress = true →
      markerRecorded state.run.world.db enclosureId slotId .system
        (rebuildProgressSummary enclosureId slotId) = true

/-- The poll records one recovery when it ends an outage, and none otherwise. -/
def RecoveryRecord.Exact (record : RecoveryRecord) : Prop :=
  record.recoveries = if record.afterOutage then 1 else 0

/-! ## The newest system event -/

/-- A summary from which the collector infers an outage. -/
def reportsOutage (summary : String) : Bool :=
  Py.startsWith summary collectionFailedPrefix || Py.startsWith summary monitoringStalePrefix

/-- No event of the world is later than the next clock reading. -/
def World.EventsPast (clock : ℕ → ℤ) (world : World) : Prop :=
  ∀ event ∈ world.db.events, event.occurredAt ≤ clock world.tick

section Newest

variable {clock : ℕ → ℤ} {world : World} {event : DetectedEvent}

theorem World.EventsPast.record (past : world.EventsPast clock) (monotone : Monotone clock) :
    (world.record clock event).EventsPast clock := by
  intro row member
  have later : clock world.tick ≤ clock (world.tick + 1) := monotone (Nat.le_succ _)
  rcases List.mem_append.mp member with old | new
  · exact (past row old).trans later
  · obtain rfl := List.mem_singleton.mp new
    exact later

/-- A recorded system event decides whether an outage is inferred. -/
theorem latestSystemEventWasCollectionFailure_record (past : world.EventsPast clock)
    (system : event.category = .system) :
    latestSystemEventWasCollectionFailure (world.record clock event).db = reportsOutage event.summary := by
  have newest : latestSystemEvent (world.record clock event).db =
      some (eventRow (world.db.events.length + 1) (clock world.tick) event) :=
    List.latest?_filter_concat_of_pos (by simp [system]) past
  rw [latestSystemEventWasCollectionFailure, newest]
  rfl

/-- Any other event does not. -/
theorem latestSystemEventWasCollectionFailure_record_of_ne (other : event.category ≠ .system) :
    latestSystemEventWasCollectionFailure (world.record clock event).db =
      latestSystemEventWasCollectionFailure world.db := by
  have newest : latestSystemEvent (world.record clock event).db = latestSystemEvent world.db :=
    List.latest?_filter_concat_of_neg (by simpa using other)
  rw [latestSystemEventWasCollectionFailure, newest]
  rfl

/-- A list of events without a system event leaves the inferred outage alone. -/
theorem latestSystemEventWasCollectionFailure_foldl {events : List DetectedEvent}
    (others : ∀ event ∈ events, event.category ≠ .system) :
    latestSystemEventWasCollectionFailure (events.foldl (World.record clock) world).db =
      latestSystemEventWasCollectionFailure world.db := by
  induction events generalizing world with
  | nil => rfl
  | cons event rest ih =>
    rw [List.foldl_cons, ih fun other member => others other (List.mem_cons_of_mem _ member),
      latestSystemEventWasCollectionFailure_record_of_ne (others event List.mem_cons_self)]

theorem World.EventsPast.foldl {events : List DetectedEvent} (past : world.EventsPast clock)
    (monotone : Monotone clock) : (events.foldl (World.record clock) world).EventsPast clock := by
  induction events generalizing world with
  | nil => exact past
  | cons event rest ih => exact ih (past.record monotone)

/-- Only the event rows decide. -/
theorem latestSystemEventWasCollectionFailure_congr {db other : Database} (events : db.events = other.events) :
    latestSystemEventWasCollectionFailure db = latestSystemEventWasCollectionFailure other := by
  simp only [latestSystemEventWasCollectionFailure, latestSystemEvent, events]

end Newest

/-! ## One activity -/

/-- What the run knows: the outage that the collector infers is the real one, and every poll recorded
what it had to. -/
structure OutageRun.Tracked (clock : ℕ → ℤ) (state : OutageRun) : Prop where
  past : state.run.world.EventsPast clock
  outage : latestSystemEventWasCollectionFailure state.run.world.db = state.outage
  exact : ∀ record ∈ state.log, record.Exact

theorem OutageRun.tracked_initial (clock : ℕ → ℤ) : OutageRun.initial.Tracked clock where
  past := by
    intro event member
    cases member
  outage := rfl
  exact := by
    intro record member
    cases member

section Failures

variable {clock : ℕ → ℤ} {world : World}

/-- A recorded failure starts an outage, with or without the stale alert behind it. -/
theorem recordCollectionFailure_outage (settings : Settings) (monotone : Monotone clock)
    (past : world.EventsPast clock) (error : String) :
    (world.recordCollectionFailure settings clock error).EventsPast clock ∧
      latestSystemEventWasCollectionFailure (world.recordCollectionFailure settings clock error).db = true := by
  simp only [World.recordCollectionFailure]
  split
  · refine ⟨past.record monotone, ?_⟩
    rw [latestSystemEventWasCollectionFailure_record past rfl, reportsOutage, Bool.or_eq_true]
    left
    exact Py.startsWith_append _ _
  · next summary stale =>
    refine ⟨(past.record monotone).record monotone, ?_⟩
    rw [latestSystemEventWasCollectionFailure_record (past.record monotone) rfl, reportsOutage, Bool.or_eq_true]
    right
    simp only [monitoringStaleSummary, Option.bind_eq_bind, Option.bind_eq_some_iff] at stale
    obtain ⟨_, _, _, _, _, _, _, _, made⟩ := stale
    exact Option.some.inj made ▸ Py.startsWith_append _ _

end Failures

section RebuildStatus

variable {clock : ℕ → ℤ} {world : World}

/-- The progress marker does not look like a failure. -/
theorem reportsOutage_rebuildProgressSummary (enclosureId slotId : ℤ) :
    reportsOutage (rebuildProgressSummary enclosureId slotId) = false := by
  have front (head : String) (long : head.toList.length ≤ "rebuild progress observed ".toList.length) :
      Py.startsWith (rebuildProgressSummary enclosureId slotId) head =
        Py.startsWith "rebuild progress observed " head := Py.startsWith_append_of_length_le long
  rw [reportsOutage, front _ (by decide), front _ (by decide)]
  decide

/-- An operator action is no system event. -/
theorem recordOperatorAction_outage (monotone : Monotone clock) (past : world.EventsPast clock)
    (username message : String) :
    (world.recordOperatorAction clock username message).EventsPast clock ∧
      latestSystemEventWasCollectionFailure (world.recordOperatorAction clock username message).db =
        latestSystemEventWasCollectionFailure world.db := by
  constructor
  · intro row member
    have later : clock world.tick ≤ clock (world.tick + 1) := monotone (Nat.le_succ _)
    rcases List.mem_append.mp member with old | new
    · exact (past row old).trans later
    · obtain rfl := List.mem_singleton.mp new
      exact later
  · have newest : latestSystemEvent (world.recordOperatorAction clock username message).db =
        latestSystemEvent world.db := by
      simp only [latestSystemEvent, World.recordOperatorAction, Database.insertEvent]
      exact List.latest?_filter_concat_of_neg (by simp)
    rw [latestSystemEventWasCollectionFailure, newest]
    rfl

/-- Recording the progress marker ends an inferred outage; finding it recorded does not. -/
theorem recordRebuildProgressObservedOnce_outage (monotone : Monotone clock) (past : world.EventsPast clock)
    (enclosureId slotId : ℤ) (status : RebuildStatus)
    (unmarked : latestSystemEventWasCollectionFailure world.db = true →
      markerRecorded world.db enclosureId slotId .system (rebuildProgressSummary enclosureId slotId) = true) :
    (world.recordRebuildProgressObservedOnce clock enclosureId slotId status).EventsPast clock ∧
      latestSystemEventWasCollectionFailure
        (world.recordRebuildProgressObservedOnce clock enclosureId slotId status).db =
        latestSystemEventWasCollectionFailure world.db := by
  unfold World.recordRebuildProgressObservedOnce
  split
  · exact ⟨past, rfl⟩
  · next fresh =>
    refine ⟨past.record monotone, ?_⟩
    rw [latestSystemEventWasCollectionFailure_record past rfl]
    cases outage : latestSystemEventWasCollectionFailure world.db with
    | false => exact reportsOutage_rebuildProgressSummary _ _
    | true => exact absurd (unmarked outage) fresh

theorem recordRebuildCompleteOnce_outage (monotone : Monotone clock) (past : world.EventsPast clock)
    (enclosureId slotId : ℤ) (username : String) :
    (world.recordRebuildCompleteOnce clock enclosureId slotId username).EventsPast clock ∧
      latestSystemEventWasCollectionFailure
        (world.recordRebuildCompleteOnce clock enclosureId slotId username).db =
        latestSystemEventWasCollectionFailure world.db := by
  unfold World.recordRebuildCompleteOnce
  split
  · exact ⟨past, rfl⟩
  · exact recordOperatorAction_outage monotone past _ _

/-- A request that records no progress marker during an inferred outage leaves it alone. -/
theorem rebuildStatus_outage (monotone : Monotone clock) (past : world.EventsPast clock)
    (enclosureId slotId : ℤ) (status : RebuildStatus) (username : String)
    (unmarked : latestSystemEventWasCollectionFailure world.db = true → status.inProgress = true →
      markerRecorded world.db enclosureId slotId .system (rebuildProgressSummary enclosureId slotId) = true) :
    (world.rebuildStatus clock enclosureId slotId status username).EventsPast clock ∧
      latestSystemEventWasCollectionFailure
        (world.rebuildStatus clock enclosureId slotId status username).db =
        latestSystemEventWasCollectionFailure world.db := by
  simp only [World.rebuildStatus]
  cases inProgress : status.inProgress with
  | false =>
    cases complete : status.complete with
    | false => exact ⟨past, rfl⟩
    | true => exact recordRebuildCompleteOnce_outage monotone past enclosureId slotId username
  | true =>
    obtain ⟨markedPast, same⟩ := recordRebuildProgressObservedOnce_outage monotone past enclosureId slotId
      status fun outage => unmarked outage inProgress
    cases complete : status.complete with
    | false => exact ⟨markedPast, same⟩
    | true =>
      obtain ⟨completePast, kept⟩ := recordRebuildCompleteOnce_outage monotone markedPast enclosureId slotId
        username
      exact ⟨completePast, kept.trans same⟩

end RebuildStatus

section Poll

variable [PyText] {settings : Settings} {clock : ℕ → ℤ} {world : World} {snapshot : StorcliSnapshot}

theorem eventsPast_poll (monotone : Monotone clock) (past : world.EventsPast clock) :
    (world.poll settings clock snapshot).EventsPast clock := by
  have stored : (world.stored settings snapshot).EventsPast clock := past
  have recorded : ((world.pollEvents settings snapshot).foldl (World.record clock)
      (world.stored settings snapshot)).EventsPast clock := stored.foldl monotone
  intro event member
  rw [poll_events] at member
  rw [foldl_record] at recorded
  rw [poll_tick]
  exact recorded event member

/-- A committed poll leaves no inferred outage. -/
theorem latestSystemEventWasCollectionFailure_poll (monotone : Monotone clock)
    (past : world.EventsPast clock) :
    latestSystemEventWasCollectionFailure (world.poll settings clock snapshot).db = false := by
  have recorded : (world.poll settings clock snapshot).db.events =
      ((world.pollEvents settings snapshot).foldl (World.record clock) world).db.events := by
    rw [poll_events, foldl_record]
  rw [latestSystemEventWasCollectionFailure_congr recorded, World.pollEvents, List.foldl_append]
  have others : ∀ event ∈ (world.detection settings snapshot).1, event.category ≠ .system :=
    fun event member => category_ne_system_of_mem_detectedEvents member
  cases outage : latestSystemEventWasCollectionFailure world.db with
  | false =>
    rw [if_neg Bool.false_ne_true, List.foldl_nil, latestSystemEventWasCollectionFailure_foldl others, outage]
  | true =>
    rw [if_pos rfl, List.foldl_cons, List.foldl_nil,
      latestSystemEventWasCollectionFailure_record (past.foldl monotone) rfl]
    decide

omit [PyText] in
theorem countP_isRecovery_eventRows (tick id : ℕ) (events : List DetectedEvent) :
    (eventRows clock tick id events).countP isRecovery = events.countP fun event =>
      event.category == .system && event.summary == collectionRecovered.summary := by
  induction events generalizing tick id with
  | nil => rfl
  | cons event rest ih =>
    rw [eventRows, List.countP_cons, List.countP_cons, ih]
    rfl

/-- A committed poll records one recovery when it inferred an outage, and none otherwise. -/
theorem recoveries_poll : (((world.poll settings clock snapshot).db.events.drop
      world.db.events.length).countP isRecovery) =
    if latestSystemEventWasCollectionFailure world.db then 1 else 0 := by
  have others : (world.detection settings snapshot).1.countP (fun event =>
      event.category == .system && event.summary == collectionRecovered.summary) = 0 := by
    rw [List.countP_eq_zero]
    intro event member recovery
    rw [Bool.and_eq_true, beq_iff_eq] at recovery
    exact category_ne_system_of_mem_detectedEvents member recovery.1
  rw [poll_events, List.drop_left, countP_isRecovery_eventRows, World.pollEvents, List.countP_append, others]
  split
  · decide
  · rfl

end Poll

/-! ## Runs -/

section Runs

variable [PyText] {settings : Settings} {clock : ℕ → ℤ}

theorem OutageRun.Tracked.step {state : OutageRun} {activity : Activity} (tracked : state.Tracked clock)
    (monotone : Monotone clock) (unmarked : NoMarkerInOutage state activity) :
    (state.step settings clock activity).Tracked clock := by
  have failed (detector : EventDetector) (error : Option String) :
      ({ state.run.world with detector := detector }.recordFailure settings clock error).EventsPast clock ∧
      latestSystemEventWasCollectionFailure
        ({ state.run.world with detector := detector }.recordFailure settings clock error).db =
        (state.outage || error.isSome) := by
    cases error with
    | none => exact ⟨tracked.past, by simp [World.recordFailure, tracked.outage]⟩
    | some error =>
      have before : World.EventsPast clock { state.run.world with detector := detector } := tracked.past
      obtain ⟨past, outage⟩ := recordCollectionFailure_outage settings monotone before error
      exact ⟨past, by simpa [World.recordFailure] using outage⟩
  cases activity with
  | attempt attempt =>
    cases attempt with
    | committed snapshot =>
      refine ⟨eventsPast_poll monotone tracked.past,
        latestSystemEventWasCollectionFailure_poll monotone tracked.past, ?_⟩
      intro record member
      rcases List.mem_cons.mp member with rfl | earlier
      · simp only [RecoveryRecord.Exact, ← tracked.outage]
        exact recoveries_poll
      · exact tracked.exact record earlier
    | collectionFailed error =>
      obtain ⟨past, outage⟩ := failed state.run.world.detector error
      exact ⟨past, outage, tracked.exact⟩
    | insertFailed snapshot error =>
      obtain ⟨past, outage⟩ := failed _ error
      exact ⟨past, outage, tracked.exact⟩
    | commitFailed snapshot error =>
      obtain ⟨past, outage⟩ := failed _ error
      exact ⟨past, outage, tracked.exact⟩
  | rebuildStatus enclosureId slotId status username =>
    have quiet : latestSystemEventWasCollectionFailure state.run.world.db = true → status.inProgress = true →
        markerRecorded state.run.world.db enclosureId slotId .system
          (rebuildProgressSummary enclosureId slotId) = true := tracked.outage ▸ unmarked
    obtain ⟨past, outage⟩ := rebuildStatus_outage monotone tracked.past enclosureId slotId status username quiet
    exact ⟨past, outage.trans tracked.outage, tracked.exact⟩

/-- In every run of attempts and rebuild-status requests that records no progress marker during an
outage, each committed poll records exactly one recovery when it ends an outage, and none otherwise. -/
theorem recoveries_exact (settings : Settings) (clock : ℕ → ℤ) (monotone : Monotone clock)
    (activities : List Activity)
    (unmarked : Machine.Guarded (OutageRun.step settings clock) NoMarkerInOutage .initial activities) :
    ∀ record ∈ (activities.foldl (OutageRun.step settings clock) .initial).log, record.Exact := by
  have tracked : (activities.foldl (OutageRun.step settings clock) .initial).Tracked clock :=
    unmarked.invariant (OutageRun.tracked_initial clock)
      fun state activity tracked unmarked => tracked.step monotone unmarked
  exact tracked.exact

/-! ## A hidden outage -/

def rebuilding : RebuildStatus := ⟨some 10, "In progress"⟩

instance (state : OutageRun) : ∀ activity, Decidable (NoMarkerInOutage state activity)
  | .attempt _ => .isTrue trivial
  | .rebuildStatus _ _ _ _ => inferInstanceAs (Decidable (_ → _ → _))

instance (record : RecoveryRecord) : Decidable record.Exact := inferInstanceAs (Decidable (_ = _))

omit [PyText] in
/-- A progress marker before an outage, and the recovery after it. -/
theorem recoveries_exact_after_marker :
    let _ := PyText.ascii
    ∀ record ∈ ([.rebuildStatus 252 0 rebuilding "admin", .attempt (.committed (bareSnapshot 0 none)),
      .attempt (.collectionFailed (some "TimeoutError: ")),
      .attempt (.committed (bareSnapshot 1 none))].foldl
        (OutageRun.step Settings.default fun tick => (tick : ℤ)) .initial).log, record.Exact :=
  let _ := PyText.ascii
  recoveries_exact Settings.default (fun tick => (tick : ℤ)) (fun _ _ le => Int.ofNat_le.mpr le)
    [.rebuildStatus 252 0 rebuilding "admin", .attempt (.committed (bareSnapshot 0 none)),
      .attempt (.collectionFailed (some "TimeoutError: ")),
      .attempt (.committed (bareSnapshot 1 none))] (by decide)

omit [PyText] in
/-- A progress marker between a failed poll and the next committed one hides the outage. -/
theorem not_recoveries_exact :
    ¬ ∀ [PyText] (settings : Settings) (clock : ℕ → ℤ) (_ : Monotone clock) (activities : List Activity),
      ∀ record ∈ (activities.foldl (OutageRun.step settings clock) .initial).log, record.Exact := by
  intro exact
  let _ := PyText.ascii
  have hidden := exact Settings.default (fun tick => (tick : ℤ)) (fun _ _ le => Int.ofNat_le.mpr le)
    [.attempt (.committed (bareSnapshot 0 none)), .attempt (.collectionFailed (some "TimeoutError: ")),
      .rebuildStatus 252 0 rebuilding "admin", .attempt (.committed (bareSnapshot 1 none))]
  revert hidden
  decide

end Runs

end MegaraidDashboard.Services
