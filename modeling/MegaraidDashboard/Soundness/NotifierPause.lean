import MegaraidDashboard.Machine.Run
import MegaraidDashboard.Model.Services.Notifier

/-! # Alerts held back by maintenance

The cycles of a maintenance window do nothing, so that the rows at its end are those at its begin and the
events recorded since. The first cycle afterwards takes up the pending events that are not older than
their suppress window, and leaves the others for ever; it takes up none where the longest window does not fit
between the first instant and now.
-/

namespace MegaraidDashboard.Services

open Db Web

/-- Within the window every cycle finds maintenance active. -/
def CyclesPaused (run : NotifierRun) : NotifierStep → Prop
  | .cycle now _ => maintenanceActive run.maintenance now = true
  | .abortedCycle now _ _ => maintenanceActive run.maintenance now = true
  | _ => True

/-- What a maintenance window that begins at some time holds back: the events recorded after its begin, and
the older ones that were pending and selectable then. -/
def HeldBack (settings : AlertSettings) (before after : NotifierRun) (startedAt : ℤ) (event : Event) : Prop :=
  severityRank settings.alertSeverityThreshold ≤ severityRank event.severity ∧
    (event ∈ after.db.events.drop before.db.events.length ∨
      event ∈ before.db.events ∧ event.notifiedAt = none ∧
        startedAt - settings.suppressWindow event.category ≤ event.occurredAt)

/-- The first cycle after the window attempts everything that was held back. -/
def AllAttempted (settings : AlertSettings) (before after : NotifierRun) (startedAt now : ℤ)
    (transport : Event → Bool) : Prop :=
  ∀ event, HeldBack settings before after startedAt event →
    event ∈ (runNotifierCycle settings after.maintenance after.db now transport).attempted

section Cycle

variable {settings : AlertSettings} {now : ℤ} {transport : Event → Bool}

theorem attempted_notify (cycle : NotifierCycle) (event : Event) :
    (cycle.notify settings now transport event).attempted = cycle.attempted ++
      if now - settings.suppressWindow event.category ≤ event.occurredAt then [event] else [] := by
  simp only [NotifierCycle.notify]
  split
  · next old => rw [if_neg (not_le.mpr old), List.append_nil]
  · next young =>
    rw [if_pos (not_lt.mp young)]
    split
    · rfl
    · split <;> rfl

/-- A cycle attempts the events that are not older than their window. -/
theorem attempted_foldl (events : List Event) (cycle : NotifierCycle) :
    (events.foldl (NotifierCycle.notify settings now transport) cycle).attempted = cycle.attempted ++
      events.filter fun event => decide (now - settings.suppressWindow event.category ≤ event.occurredAt) := by
  induction events generalizing cycle with
  | nil => exact (List.append_nil _).symm
  | cons event rest ih =>
    rw [List.foldl_cons, ih, attempted_notify, List.append_assoc, List.filter_cons]
    by_cases young : now - settings.suppressWindow event.category ≤ event.occurredAt
    · simp only [young, ↓reduceIte, decide_true, List.singleton_append]
    · simp only [young, ↓reduceIte, decide_false, Bool.false_eq_true, List.nil_append]

theorem suppressWindow_le_max (settings : AlertSettings) (category : Category) :
    settings.suppressWindow category ≤ settings.maxSuppressWindow := by
  have unit : (0 : ℤ) ≤ Timestamp.minute := by decide
  apply mul_le_mul_of_nonneg_right _ unit
  cases category <;> simp [perCategorySuppressMinutes]

/-- What a cycle outside maintenance attempts. -/
theorem mem_attempted_iff {maintenance : Option MaintenanceRecord} {db : Database} {event : Event}
    (ended : maintenanceActive maintenance now = false) :
    event ∈ (runNotifierCycle settings maintenance db now transport).attempted ↔
      0 ≤ now - settings.maxSuppressWindow ∧ event ∈ db.events ∧
        severityRank settings.alertSeverityThreshold ≤ severityRank event.severity ∧
        event.notifiedAt = none ∧ now - settings.suppressWindow event.category ≤ event.occurredAt := by
  rw [runNotifierCycle, attempted_foldl, List.nil_append, List.mem_filter]
  by_cases reaches : 0 ≤ now - settings.maxSuppressWindow
  · have earliest : settings.earliestSince now = some (now - settings.maxSuppressWindow) := if_pos reaches
    rw [cycleEvents, ended, if_neg Bool.false_ne_true, earliest]
    dsimp only
    rw [pendingEvents, List.mem_insertionSort, List.mem_filter]
    simp only [Bool.and_eq_true, decide_eq_true_eq, Option.isNone_iff_eq_none, and_assoc]
    have wide := suppressWindow_le_max settings event.category
    constructor
    · rintro ⟨member, severe, pending, -, young⟩
      exact ⟨reaches, member, severe, pending, young⟩
    · rintro ⟨-, member, severe, pending, young⟩
      exact ⟨member, severe, pending, by omega, young⟩
  · have earliest : settings.earliestSince now = none := if_neg reaches
    rw [cycleEvents, ended, if_neg Bool.false_ne_true, earliest]
    exact iff_of_false (fun both => List.not_mem_nil both.1) fun both => reaches both.1

end Cycle

section Window

variable {settings : AlertSettings}

/-- A step inside the window appends pending rows at most. -/
theorem step_events_of_paused {run : NotifierRun} {label : NotifierStep} (paused : CyclesPaused run label) :
    ∃ rows, (run.step settings label).db.events = run.db.events ++ rows ∧
      ∀ row ∈ rows, row.notifiedAt = none := by
  cases label with
  | record occurredAt severity category subject summary before after operatorUsername =>
    exact ⟨_, rfl, by simp⟩
  | maintenanceStart request username now => exact ⟨_, rfl, by simp⟩
  | maintenanceStop username now =>
    simp only [NotifierRun.step]
    split
    · exact ⟨_, rfl, by simp⟩
    · exact ⟨[], (List.append_nil _).symm, List.forall_mem_nil _⟩
  | cycle now transport =>
    have active : maintenanceActive run.maintenance now = true := paused
    refine ⟨[], ?_, List.forall_mem_nil _⟩
    simp only [NotifierRun.step, runNotifierCycle, cycleEvents, active, ↓reduceIte, List.foldl_nil,
      List.append_nil]
  | abortedCycle now transport after => exact ⟨[], (List.append_nil _).symm, List.forall_mem_nil _⟩

/-- The rows of a window: those of its begin, and pending ones behind them. -/
theorem events_of_paused {run : NotifierRun} {labels : List NotifierStep}
    (paused : Machine.Guarded (NotifierRun.step settings) CyclesPaused run labels) :
    ∃ rows, (labels.foldl (NotifierRun.step settings) run).db.events = run.db.events ++ rows ∧
      ∀ row ∈ rows, row.notifiedAt = none := by
  have inv := @Machine.Guarded.invariant _ _ _ _
    (fun state : NotifierRun => ∃ rows, state.db.events = run.db.events ++ rows ∧
      ∀ row ∈ rows, row.notifiedAt = none) _ _ paused
  refine inv ⟨[], (List.append_nil _).symm, List.forall_mem_nil _⟩ ?_
  rintro state label ⟨rows, events, pending⟩ paused
  obtain ⟨more, appended, morePending⟩ := step_events_of_paused paused
  refine ⟨rows ++ more, by rw [appended, events, List.append_assoc], ?_⟩
  intro row member
  rcases List.mem_append.mp member with old | new
  · exact pending row old
  · exact morePending row new

end Window

/-! ## An alert that ages out -/

/-- Two hours of maintenance. -/
def twoHours : MaintenanceStartRequest where
  durationMinutes := 120
  reason := "disk swap"
  durationRange := by decide
  reasonNonblank := by decide
  reasonStripped := by decide
  reasonLength := by decide

/-- A failed drive, recorded at the given time. -/
def driveFailed (time : ℤ) : NotifierStep :=
  .record time .critical .pdState (.physicalDrive 252 0) "PD e252:s0 state changed from Onln to Failed" none none
    none

/-- Its row behind the audit event of the maintenance start. -/
def driveFailedRow (time : ℤ) : Event where
  id := 2
  occurredAt := time
  severity := .critical
  category := .pdState
  subject := .physicalDrive 252 0
  summary := "PD e252:s0 state changed from Onln to Failed"
  beforeJson := none
  afterJson := none
  operatorUsername := none
  notifiedAt := none

/-- A thousand days after the first instant. -/
def pauseStart : ℤ := 1000 * Timestamp.day

end MegaraidDashboard.Services
