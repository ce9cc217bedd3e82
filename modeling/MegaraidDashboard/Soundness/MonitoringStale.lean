import MegaraidDashboard.Soundness.OutageRecovery

/-! # One stale alert per outage

The collector infers the start of an outage from the newest saved snapshot and from the failures after
it. `StaleRun` knows the outage itself; the retention, which may drop that snapshot, is part of the run.
The two agree as long as a poll that fails without the snapshot of the last success comes after the
outage's own alert.
-/

namespace MegaraidDashboard.Services

open Db Storcli

/-! ## The rule -/

/-- At the newest of the failed polls, listed newest first, enough polls have failed for long enough. -/
def staleDue (settings : Settings) (lastSuccess : Option ℤ) (failures : List ℤ) : Bool :=
  decide (staleMinFailedPolls ≤ failures.length) &&
    failures.head?.any fun newest => (lastSuccess.or failures.getLast?).any fun start =>
      decide (settings.collectorStaleAlertMinutes * Timestamp.minute ≤ newest - start)

/-- The newest failed poll is the first one of the outage at which the alert is due. -/
def firstStaleDue (settings : Settings) (lastSuccess : Option ℤ) (failures : List ℤ) : Bool :=
  staleDue settings lastSuccess failures && failures.tail.tails.all fun earlier =>
    !staleDue settings lastSuccess earlier

/-- What `_monitoring_stale_summary` decides, from the time of the newest snapshot, the times of all
recorded failures and those of all recorded alerts. -/
def staleAnswer (settings : Settings) (lastSaved : Option ℤ) (failed alerts : List ℤ) (failureAt : ℤ) : Bool :=
  let times := failed.filter fun time => lastSaved.all fun lastSaved => decide (lastSaved < time)
  decide (staleMinFailedPolls ≤ times.length) && (lastSaved.or times.min?).any fun start =>
    decide (settings.collectorStaleAlertMinutes * Timestamp.minute ≤ failureAt - start) &&
      !alerts.any fun time => decide (start < time)

def isCollectionFailure (event : Event) : Bool :=
  event.category == .system && summaryStartsWith event collectionFailedPrefix

def isMonitoringStale (event : Event) : Bool :=
  event.category == .system && summaryStartsWith event monitoringStalePrefix

/-- The times of the rows that pass the test. -/
def rowTimes (test : Event → Bool) (rows : List Event) : List ℤ := (rows.filter test).map (·.occurredAt)

@[simp] theorem rowTimes_append (test : Event → Bool) (first second : List Event) :
    rowTimes test (first ++ second) = rowTimes test first ++ rowTimes test second := by
  rw [rowTimes, List.filter_append, List.map_append, rowTimes, rowTimes]

theorem rowTimes_eq_nil {test : Event → Bool} {rows : List Event} (none : ∀ row ∈ rows, test row = false) :
    rowTimes test rows = [] := by
  rw [rowTimes, List.map_eq_nil_iff, List.filter_eq_nil_iff]
  exact fun row member => Bool.eq_false_iff.mp (none row member)

theorem monitoringStaleSummary_isSome (settings : Settings) (db : Database) (failureAt : ℤ) :
    (monitoringStaleSummary settings db failureAt).isSome =
      staleAnswer settings (db.snapshots.map (·.capturedAt)).max? (rowTimes isCollectionFailure db.events)
        (rowTimes isMonitoringStale db.events) failureAt := by
  have times : failureTimes db = (rowTimes isCollectionFailure db.events).filter fun time =>
      (db.snapshots.map (·.capturedAt)).max?.all fun lastSaved => decide (lastSaved < time) := by
    rw [rowTimes, List.filter_map, List.filter_filter]
    simp only [failureTimes, isCollectionFailure, Function.comp_def, Bool.and_comm]
  have alerts (start : ℤ) : (db.events.any fun event => event.category == .system &&
      summaryStartsWith event monitoringStalePrefix && decide (start < event.occurredAt)) =
      (rowTimes isMonitoringStale db.events).any fun time => decide (start < time) := by
    rw [rowTimes, List.any_map, List.any_filter]
    rfl
  simp only [monitoringStaleSummary, staleAnswer, ← times, ← alerts]
  by_cases enough : staleMinFailedPolls ≤ (failureTimes db).length
  · cases ((db.snapshots.map (·.capturedAt)).max?).or (failureTimes db).min? with
    | none => simp [enough, guard]
    | some start =>
      simp only [Option.bind_eq_bind, Option.bind_some, Option.any_some]
      generalize (db.events.any fun event => event.category == .system &&
        summaryStartsWith event monitoringStalePrefix && decide (start < event.occurredAt)) = reported
      by_cases long : settings.collectorStaleAlertMinutes * Timestamp.minute ≤ failureAt - start
      · cases reported <;> simp [enough, guard, long]
      · simp [enough, guard, long]
  · simp [enough, guard]

/-! ## Rows of one activity -/

theorem summaryStartsWith_append {event : Event} {front rest head : String}
    (summary : event.summary = front ++ rest) (long : head.toList.length ≤ front.toList.length) :
    summaryStartsWith event head = Py.startsWith (asciiLower front) (asciiLower head) := by
  rw [summaryStartsWith, summary, asciiLower_append]
  apply Py.startsWith_append_of_length_le
  simp only [asciiLower, String.toList_ofList, List.length_map]
  exact long

/-- The event of a failed poll. -/
def failureEvent (error : String) : DetectedEvent where
  severity := .warning
  category := .system
  subject := .controller
  summary := collectionFailedPrefix ++ s!" {error}"
  before := none
  after := none

/-- The event of an alert. -/
def staleEvent (summary : String) : DetectedEvent where
  severity := .critical
  category := .system
  subject := .controller
  summary := summary
  before := none
  after := some [("monitoring_outage", .bool true)]

theorem tests_of_failureEvent {row : Event} {error : String} (category : row.category = .system)
    (summary : row.summary = (failureEvent error).summary) :
    isCollectionFailure row = true ∧ isMonitoringStale row = false := by
  have system : (row.category == Category.system) = true := beq_iff_eq.mpr category
  rw [isCollectionFailure, isMonitoringStale, system, Bool.true_and, Bool.true_and,
    summaryStartsWith_append summary le_rfl, summaryStartsWith_append summary (by decide)]
  decide

theorem tests_of_staleEvent {row : Event} {settings : Settings} {db : Database} {failureAt : ℤ}
    (category : row.category = .system)
    (made : monitoringStaleSummary settings db failureAt = some row.summary) :
    isCollectionFailure row = false ∧ isMonitoringStale row = true := by
  obtain ⟨rest, summary⟩ : ∃ rest, row.summary = monitoringStalePrefix ++ rest := by
    simp only [monitoringStaleSummary, Option.bind_eq_bind, Option.bind_eq_some_iff] at made
    obtain ⟨_, _, _, _, _, _, _, _, made⟩ := made
    exact ⟨_, (Option.some.inj made).symm⟩
  have system : (row.category == Category.system) = true := beq_iff_eq.mpr category
  rw [isCollectionFailure, isMonitoringStale, system, Bool.true_and, Bool.true_and]
  constructor
  · rw [summaryStartsWith, summary]
    simp [Py.startsWith, asciiLower, monitoringStalePrefix, collectionFailedPrefix, List.isPrefixOf]
  · rw [summaryStartsWith_append summary le_rfl]
    decide

section Recording

variable (settings : Settings) (clock : ℕ → ℤ) (world : World) (error : String)

/-- The answer that a failed poll gets, with its own failure recorded. -/
def World.staleAlert : Bool :=
  staleAnswer settings (world.db.snapshots.map (·.capturedAt)).max?
    (rowTimes isCollectionFailure world.db.events ++ [clock world.tick])
    (rowTimes isMonitoringStale world.db.events) (clock world.tick)

theorem recordCollectionFailure_of_none
    (made : monitoringStaleSummary settings (world.record clock (failureEvent error)).db (clock world.tick) = none) :
    world.recordCollectionFailure settings clock error = world.record clock (failureEvent error) := by
  simp only [World.recordCollectionFailure]
  split
  · rfl
  · next summary stale => cases made.symm.trans stale

theorem recordCollectionFailure_of_some {summary : String}
    (made : monitoringStaleSummary settings (world.record clock (failureEvent error)).db (clock world.tick) =
      some summary) :
    world.recordCollectionFailure settings clock error =
      (world.record clock (failureEvent error)).record clock (staleEvent summary) := by
  simp only [World.recordCollectionFailure]
  split
  · next quiet => cases made.symm.trans quiet
  · next other stale =>
    obtain rfl := Option.some.inj (made.symm.trans stale)
    rfl

/-- The rows that a recorded failure appends. -/
theorem recordCollectionFailure_rows : ∃ rows,
    (world.recordCollectionFailure settings clock error).db.events = world.db.events ++ rows ∧
    rowTimes isCollectionFailure rows = [clock world.tick] ∧
    rowTimes isMonitoringStale rows =
      (if world.staleAlert settings clock then [clock (world.tick + 1)] else []) ∧
    world.tick < (world.recordCollectionFailure settings clock error).tick ∧
    ∀ row ∈ rows, ∃ reading < (world.recordCollectionFailure settings clock error).tick,
      row.occurredAt = clock reading := by
  let row := eventRow (world.db.events.length + 1) (clock world.tick) (failureEvent error)
  obtain ⟨failed, quiet⟩ := @tests_of_failureEvent row error rfl rfl
  have failures : rowTimes isCollectionFailure [row] = [clock world.tick] := by
    simp only [rowTimes, List.filter_singleton, failed, cond_true]
    rfl
  have alerts : rowTimes isMonitoringStale [row] = [] := by
    simp only [rowTimes, List.filter_singleton, quiet, cond_false, List.map_nil]
  have answer : (monitoringStaleSummary settings (world.record clock (failureEvent error)).db
      (clock world.tick)).isSome = world.staleAlert settings clock := by
    have events : (world.record clock (failureEvent error)).db.events = world.db.events ++ [row] := rfl
    rw [monitoringStaleSummary_isSome, events, rowTimes_append, rowTimes_append, failures, alerts, List.append_nil]
    rfl
  rw [← answer]
  cases made : monitoringStaleSummary settings (world.record clock (failureEvent error)).db (clock world.tick) with
  | none =>
    rw [recordCollectionFailure_of_none _ _ _ _ made]
    refine ⟨[row], rfl, failures, alerts, Nat.lt_succ_self _, ?_⟩
    intro other member
    obtain rfl := List.mem_singleton.mp member
    exact ⟨world.tick, Nat.lt_succ_self _, rfl⟩
  | some summary =>
    let alert := eventRow (world.db.events.length + 1 + 1) (clock (world.tick + 1)) (staleEvent summary)
    obtain ⟨silent, stale⟩ := @tests_of_staleEvent alert _ _ _ rfl made
    rw [recordCollectionFailure_of_some _ _ _ _ made]
    refine ⟨[row, alert], ?_, ?_, ?_, Nat.lt_add_of_pos_right Nat.two_pos, ?_⟩
    · simp only [World.record, Database.insertEvent, List.length_append, List.length_singleton,
        List.append_assoc]
      rfl
    · change rowTimes isCollectionFailure ([row] ++ [alert]) = _
      rw [rowTimes_append, failures, rowTimes_eq_nil (by simpa using silent), List.append_nil]
    · change rowTimes isMonitoringStale ([row] ++ [alert]) = _
      rw [rowTimes_append, alerts, List.nil_append]
      simp only [rowTimes, List.filter_singleton, stale, cond_true, Option.isSome_some, ↓reduceIte]
      rfl
    · change ∀ other ∈ [row, alert], ∃ reading < world.tick + 1 + 1, other.occurredAt = clock reading
      intro other member
      rcases List.mem_cons.mp member with rfl | last
      · exact ⟨world.tick, by omega, rfl⟩
      · obtain rfl := List.mem_singleton.mp last
        exact ⟨world.tick + 1, by omega, rfl⟩

variable [PyText] (snapshot : StorcliSnapshot)

/-- A committed poll appends no failure and no alert. -/
theorem poll_rows : ∃ rows, (world.poll settings clock snapshot).db.events = world.db.events ++ rows ∧
    rowTimes isCollectionFailure rows = [] ∧ rowTimes isMonitoringStale rows = [] := by
  refine ⟨_, poll_events settings clock world snapshot, ?_⟩
  have quiet : ∀ row ∈ eventRows clock world.tick (world.db.events.length + 1) (world.pollEvents settings snapshot),
      isCollectionFailure row = false ∧ isMonitoringStale row = false := by
    intro row member
    obtain ⟨event, emitted, _, _, -, -, rfl⟩ := mem_eventRows member
    rcases List.mem_append.mp emitted with detection | recovery
    · have other : (event.category == Category.system) = false :=
        beq_eq_false_iff_ne.mpr (category_ne_system_of_mem_detectedEvents detection)
      exact ⟨Bool.and_eq_false_iff.mpr (.inl other), Bool.and_eq_false_iff.mpr (.inl other)⟩
    · obtain ⟨-, same⟩ := List.mem_ite_nil_right.mp recovery
      obtain rfl := List.mem_singleton.mp same
      have recovered : Py.startsWith (asciiLower collectionRecovered.summary) (asciiLower collectionFailedPrefix) =
          false ∧ Py.startsWith (asciiLower collectionRecovered.summary) (asciiLower monitoringStalePrefix) =
            false := by
        decide
      exact ⟨Bool.and_eq_false_iff.mpr (.inr recovered.1), Bool.and_eq_false_iff.mpr (.inr recovered.2)⟩
  exact ⟨rowTimes_eq_nil fun row member => (quiet row member).1,
    rowTimes_eq_nil fun row member => (quiet row member).2⟩

end Recording

/-! ## Runs -/

inductive CollectorStep where
  | attempt (attempt : Attempt)
  | retention (now : ℤ)

/-- The world with the outage as it is: the newest successful poll, and the recorded failures, newest
first, and the alerts since then. -/
structure StaleRun where
  world : World
  lastSuccess : Option ℤ
  failures : List ℤ
  alerts : List ℤ

def StaleRun.initial : StaleRun := ⟨.initial, none, [], []⟩

section Steps

variable [PyText] (settings : Settings) (clock : ℕ → ℤ)

def World.attempt (world : World) (attempt : Attempt) : World :=
  (DetectionRun.step settings clock ⟨world, []⟩ attempt).world

/-- The rows that a step appended. -/
def appendedRows (before after : World) : List Event := after.db.events.drop before.db.events.length

def StaleRun.step (run : StaleRun) : CollectorStep → StaleRun
  | .attempt (.committed snapshot) =>
    { world := run.world.attempt settings clock (.committed snapshot)
      lastSuccess := some snapshot.capturedAt
      failures := []
      alerts := [] }
  | .attempt failed =>
    let world := run.world.attempt settings clock failed
    { run with
      world := world
      failures := if failed.failureRecorded then clock run.world.tick :: run.failures else run.failures
      alerts := run.alerts ++ rowTimes isMonitoringStale (appendedRows run.world world) }
  | .retention now => { run with world := run.world.retention settings.toRetentionSettings now }

end Steps

/-- A capture time is a clock reading between the ones before and the ones after it. -/
def CapturesInOrder (clock : ℕ → ℤ) (run : StaleRun) : CollectorStep → Prop
  | .attempt (.committed snapshot) => (∀ earlier < run.world.tick, clock earlier ≤ snapshot.capturedAt) ∧
      (∀ previous ∈ run.lastSuccess, previous ≤ snapshot.capturedAt) ∧
      snapshot.capturedAt ≤ clock run.world.tick
  | _ => True

/-- A failed poll does not carry the time of the last success, and when the snapshot of that success has
been pruned, the outage was reported later than its first failure. -/
def SuccessVisible (clock : ℕ → ℤ) (run : StaleRun) : CollectorStep → Prop
  | .attempt attempt => attempt.failureRecorded = true → ∀ success ∈ run.lastSuccess,
      success < clock run.world.tick ∧
      (run.world.db.snapshots = [] → ∃ alert ∈ run.alerts, ∃ first ∈ run.failures.getLast?, first < alert)
  | .retention _ => True

/-- The step records one alert when it is the first failed poll of the outage at which the alert is due,
and no alert otherwise. -/
def StaleAlertExact [PyText] (settings : Settings) (clock : ℕ → ℤ) (run : StaleRun) (label : CollectorStep) :
    Prop :=
  (rowTimes isMonitoringStale (appendedRows run.world (run.step settings clock label).world)).length =
    match label with
    | .attempt attempt =>
      if attempt.failureRecorded &&
        firstStaleDue settings run.lastSuccess (clock run.world.tick :: run.failures) then 1 else 0
    | .retention _ => 0

instance (clock : ℕ → ℤ) (run : StaleRun) : ∀ label, Decidable (CapturesInOrder clock run label)
  | .attempt (.committed _) => inferInstanceAs (Decidable (_ ∧ _ ∧ _))
  | .attempt (.collectionFailed _) => .isTrue trivial
  | .attempt (.insertFailed _ _) => .isTrue trivial
  | .attempt (.commitFailed _ _) => .isTrue trivial
  | .retention _ => .isTrue trivial

instance (clock : ℕ → ℤ) (run : StaleRun) : ∀ label, Decidable (SuccessVisible clock run label)
  | .attempt _ => inferInstanceAs (Decidable (_ → ∀ success ∈ run.lastSuccess, _))
  | .retention _ => .isTrue trivial

instance [PyText] (settings : Settings) (clock : ℕ → ℤ) (run : StaleRun) (label : CollectorStep) :
    Decidable (StaleAlertExact settings clock run label) := inferInstanceAs (Decidable (_ = _))

/-- What the tables say of the outage. -/
structure StaleRun.Tracked (settings : Settings) (clock : ℕ → ℤ) (run : StaleRun) : Prop where
  read : ∀ event ∈ run.world.db.events, ∃ reading < run.world.tick, event.occurredAt = clock reading
  captured : ∀ snapshot ∈ run.world.db.snapshots, ∃ success ∈ run.lastSuccess, snapshot.capturedAt ≤ success
  saved : (run.world.db.snapshots.map (·.capturedAt)).max? = none ∨
    (run.world.db.snapshots.map (·.capturedAt)).max? = run.lastSuccess
  failed : ∃ older, rowTimes isCollectionFailure run.world.db.events = older ++ run.failures.reverse ∧
    ∀ time ∈ older, ∃ success ∈ run.lastSuccess, time ≤ success
  alerted : ∃ older, rowTimes isMonitoringStale run.world.db.events = older ++ run.alerts ∧
    ∀ time ∈ older, ∃ success ∈ run.lastSuccess, time ≤ success
  since : ∀ time ∈ run.failures, ∀ success ∈ run.lastSuccess, success < time
  past : ∀ time ∈ run.failures, time ≤ clock run.world.tick
  sorted : run.failures.Pairwise (· ≥ ·)
  later : ∀ alert ∈ run.alerts, ∀ start ∈ run.lastSuccess.or run.failures.getLast?, start < alert
  reported : run.alerts = [] ↔ ∀ stage ∈ run.failures.tails, staleDue settings run.lastSuccess stage = false

theorem StaleRun.tracked_initial (settings : Settings) (clock : ℕ → ℤ) :
    StaleRun.initial.Tracked settings clock where
  read := List.forall_mem_nil _
  captured := List.forall_mem_nil _
  saved := .inl rfl
  failed := ⟨[], rfl, List.forall_mem_nil _⟩
  alerted := ⟨[], rfl, List.forall_mem_nil _⟩
  since := List.forall_mem_nil _
  past := List.forall_mem_nil _
  sorted := .nil
  later := List.forall_mem_nil _
  reported := by
    refine iff_of_true rfl ?_
    intro stage member
    obtain rfl := List.mem_singleton.mp member
    rfl

section Answer

variable {settings : Settings} {clock : ℕ → ℤ} {run : StaleRun}

theorem firstStaleDue_cons (lastSuccess : Option ℤ) (time : ℤ) (failures : List ℤ) :
    firstStaleDue settings lastSuccess (time :: failures) = true ↔
      staleDue settings lastSuccess (time :: failures) = true ∧
        ∀ stage ∈ failures.tails, staleDue settings lastSuccess stage = false := by
  simp only [firstStaleDue, Bool.and_eq_true, List.tail_cons, List.all_eq_true, Bool.not_eq_true']

/-- The oldest of the failures is the least. -/
theorem min?_reverse_of_sorted {times : List ℤ} (sorted : times.Pairwise (· ≥ ·)) :
    times.reverse.min? = times.getLast? := by
  rw [List.min?_eq_head?, List.head?_reverse]
  rw [List.pairwise_reverse]
  exact sorted.imp fun le => min_eq_left le

/-- While alerts stand, so do failures. -/
theorem StaleRun.Tracked.failures_ne_nil (tracked : run.Tracked settings clock) (alerts : run.alerts ≠ []) :
    run.failures ≠ [] := by
  intro none
  refine alerts (tracked.reported.mpr ?_)
  rw [none]
  intro stage member
  obtain rfl := List.mem_singleton.mp member
  rfl

theorem StaleRun.Tracked.alert_later (tracked : run.Tracked settings clock) {time alert start : ℤ}
    (member : alert ∈ run.alerts) (begun : start ∈ run.lastSuccess.or (time :: run.failures).getLast?) :
    start < alert := by
  refine tracked.later alert member start ?_
  have some := tracked.failures_ne_nil (List.ne_nil_of_mem member)
  rw [List.getLast?_cons_of_ne_nil some] at begun
  exact begun

/-- A failed poll that sees the last success gets the right answer. -/
theorem StaleRun.Tracked.staleAnswer_of_saved (tracked : run.Tracked settings clock) {time : ℤ}
    (fresh : ∀ success ∈ run.lastSuccess, success < time) (past : ∀ failure ∈ run.failures, failure ≤ time) :
    staleAnswer settings run.lastSuccess (rowTimes isCollectionFailure run.world.db.events ++ [time])
        (rowTimes isMonitoringStale run.world.db.events) time =
      firstStaleDue settings run.lastSuccess (time :: run.failures) := by
  obtain ⟨older, failed, olderBound⟩ := tracked.failed
  obtain ⟨olderAlerts, alerted, olderAlertsBound⟩ := tracked.alerted
  have sorted : (time :: run.failures).Pairwise (· ≥ ·) := List.pairwise_cons.mpr ⟨past, tracked.sorted⟩
  have times : (rowTimes isCollectionFailure run.world.db.events ++ [time]).filter (fun failure =>
      run.lastSuccess.all fun lastSaved => decide (lastSaved < failure)) = (time :: run.failures).reverse := by
    rw [failed, List.append_assoc, ← List.reverse_cons, List.filter_append]
    have dropped : older.filter (fun failure => run.lastSuccess.all fun lastSaved =>
        decide (lastSaved < failure)) = [] := by
      apply List.filter_eq_nil_iff.mpr
      intro failure member counted
      obtain ⟨success, newest, le⟩ := olderBound failure member
      rw [newest, Option.all_some, decide_eq_true_eq] at counted
      exact absurd counted (not_lt.mpr le)
    have kept : (time :: run.failures).reverse.filter (fun failure => run.lastSuccess.all fun lastSaved =>
        decide (lastSaved < failure)) = (time :: run.failures).reverse := by
      apply List.filter_eq_self.mpr
      intro failure member
      rw [Option.all_eq_true]
      intro success newest
      rw [decide_eq_true_eq]
      rcases List.mem_cons.mp (List.mem_reverse.mp member) with rfl | old
      · exact fresh success newest
      · exact tracked.since failure old success newest
    rw [dropped, kept, List.nil_append]
  have quiet : ∀ start ∈ run.lastSuccess.or (time :: run.failures).getLast?,
      ((rowTimes isMonitoringStale run.world.db.events).any fun alert => decide (start < alert)) = true ↔
        run.alerts ≠ [] := by
    intro start begun
    rw [alerted, List.any_append, Bool.or_eq_true, List.any_eq_true, List.any_eq_true]
    constructor
    · rintro (⟨alert, member, after⟩ | ⟨alert, member, -⟩)
      · exfalso
        obtain ⟨success, newest, le⟩ := olderAlertsBound alert member
        rw [Option.mem_def.mp newest, Option.some_or] at begun
        obtain rfl := Option.some.inj begun
        exact absurd (of_decide_eq_true after) (not_lt.mpr le)
      · exact List.ne_nil_of_mem member
    · intro some
      obtain ⟨alert, member⟩ := List.exists_mem_of_ne_nil _ some
      exact .inr ⟨alert, member, decide_eq_true (tracked.alert_later member begun)⟩
  rw [Bool.eq_iff_iff, firstStaleDue_cons, ← tracked.reported]
  simp only [staleAnswer, times, min?_reverse_of_sorted sorted, staleDue, List.length_reverse, Bool.and_eq_true,
    decide_eq_true_eq, List.head?_cons, Option.any_some, Option.any_eq_true, Bool.not_eq_true']
  constructor
  · rintro ⟨enough, start, begun, long, unreported⟩
    refine ⟨⟨enough, start, begun, long⟩, ?_⟩
    by_contra some
    rw [(quiet start begun).mpr some] at unreported
    cases unreported
  · rintro ⟨⟨enough, start, begun, long⟩, none⟩
    refine ⟨enough, start, begun, long, ?_⟩
    exact Bool.eq_false_iff.mpr fun reported => (quiet start begun).mp reported none

/-- A failed poll without the last success in the tables, after the outage's own alert, gets none. -/
theorem StaleRun.Tracked.staleAnswer_of_pruned (tracked : run.Tracked settings clock) (time : ℤ)
    {alert first : ℤ}
    (member : alert ∈ run.alerts) (oldest : first ∈ run.failures.getLast?) (after : first < alert) :
    staleAnswer settings none (rowTimes isCollectionFailure run.world.db.events ++ [time])
        (rowTimes isMonitoringStale run.world.db.events) time = false ∧
      firstStaleDue settings run.lastSuccess (time :: run.failures) = false := by
  obtain ⟨older, failed, -⟩ := tracked.failed
  obtain ⟨olderAlerts, alerted, -⟩ := tracked.alerted
  constructor
  · rw [Bool.eq_false_iff]
    intro answer
    simp only [staleAnswer, Option.none_or, Bool.and_eq_true, Option.any_eq_true, Bool.not_eq_true'] at answer
    obtain ⟨-, start, least, -, unreported⟩ := answer
    have counted : first ∈ (rowTimes isCollectionFailure run.world.db.events ++ [time]).filter
        fun time => (none : Option ℤ).all fun lastSaved => decide (lastSaved < time) := by
      refine List.mem_filter.mpr ⟨?_, rfl⟩
      rw [failed]
      refine List.mem_append_left _ (List.mem_append_right _ (List.mem_reverse.mpr ?_))
      exact List.mem_of_getLast? oldest
    have le : start ≤ first := (List.le_min?_iff least).mp le_rfl first counted
    have reported : ((rowTimes isMonitoringStale run.world.db.events).any fun alert => decide (start < alert)) =
        true := by
      rw [alerted]
      exact List.any_eq_true.mpr ⟨alert, List.mem_append_right _ member, decide_eq_true (le.trans_lt after)⟩
    rw [reported] at unreported
    cases unreported
  · rw [Bool.eq_false_iff]
    intro due
    have none := tracked.reported.mpr ((firstStaleDue_cons _ _ _).mp due).2
    rw [none] at member
    cases member

/-- A failed poll raises the alert when it is due for the first time. -/
theorem StaleRun.Tracked.staleAlert (tracked : run.Tracked settings clock)
    (visible : ∀ success ∈ run.lastSuccess, success < clock run.world.tick ∧
      (run.world.db.snapshots = [] → ∃ alert ∈ run.alerts, ∃ first ∈ run.failures.getLast?, first < alert)) :
    run.world.staleAlert settings clock =
      firstStaleDue settings run.lastSuccess (clock run.world.tick :: run.failures) := by
  rcases tracked.saved with none | saved
  · rw [World.staleAlert, none]
    have empty : run.world.db.snapshots = [] := List.map_eq_nil_iff.mp (List.max?_eq_none_iff.mp none)
    cases newest : run.lastSuccess with
    | none =>
      rw [← newest]
      exact newest ▸ tracked.staleAnswer_of_saved (fun success member => (visible success member).1) tracked.past
    | some success =>
      rw [← newest]
      obtain ⟨alert, member, first, oldest, after⟩ := (visible success newest).2 empty
      obtain ⟨answer, due⟩ := tracked.staleAnswer_of_pruned (clock run.world.tick) member oldest after
      rw [answer, due]
  · rw [World.staleAlert, saved]
    exact tracked.staleAnswer_of_saved (fun success member => (visible success member).1) tracked.past

end Answer

/-! ## Steps -/

section Steps

variable [PyText] {settings : Settings} {clock : ℕ → ℤ} {run : StaleRun}

/-- A failed attempt changes the database as its recorded failure does. -/
theorem attempt_of_isFailed {attempt : Attempt} (failed : attempt.isFailed = true) (world : World) :
    ∃ detector error, world.attempt settings clock attempt =
      ({ world with detector := detector } : World).recordFailure settings clock error ∧
      attempt.failureRecorded = error.isSome := by
  cases attempt with
  | committed snapshot => cases failed
  | collectionFailed error => exact ⟨world.detector, error, rfl, rfl⟩
  | insertFailed snapshot error => exact ⟨_, error, rfl, rfl⟩
  | commitFailed snapshot error => exact ⟨_, error, rfl, rfl⟩

theorem step_of_isFailed {attempt : Attempt} (failed : attempt.isFailed = true) :
    run.step settings clock (.attempt attempt) =
      { run with
        world := run.world.attempt settings clock attempt
        failures := if attempt.failureRecorded then clock run.world.tick :: run.failures else run.failures
        alerts := run.alerts ++ rowTimes isMonitoringStale
          (appendedRows run.world (run.world.attempt settings clock attempt)) } := by
  cases attempt with
  | committed snapshot => cases failed
  | collectionFailed error => rfl
  | insertFailed snapshot error => rfl
  | commitFailed snapshot error => rfl

omit [PyText] in
theorem appendedRows_of_append {before after : World} {rows : List Event}
    (events : after.db.events = before.db.events ++ rows) : appendedRows before after = rows := by
  rw [appendedRows, events, List.drop_left]

omit [PyText] in
/-- A recorded failure, in terms of the outage. -/
theorem StaleRun.Tracked.failedStep (tracked : run.Tracked settings clock) (monotone : Monotone clock)
    {world : World} {rows : List Event} {due : Bool}
    (events : world.db.events = run.world.db.events ++ rows)
    (snapshots : world.db.snapshots = run.world.db.snapshots)
    (failures : rowTimes isCollectionFailure rows = [clock run.world.tick])
    (alerts : rowTimes isMonitoringStale rows = if due then [clock (run.world.tick + 1)] else [])
    (ticks : run.world.tick < world.tick)
    (readings : ∀ row ∈ rows, ∃ reading < world.tick, row.occurredAt = clock reading)
    (answer : due = firstStaleDue settings run.lastSuccess (clock run.world.tick :: run.failures))
    (fresh : ∀ success ∈ run.lastSuccess, success < clock run.world.tick) :
    StaleRun.Tracked settings clock
      { run with
        world := world
        failures := clock run.world.tick :: run.failures
        alerts := run.alerts ++ rowTimes isMonitoringStale rows } where
  read := by
    intro event member
    rw [events] at member
    rcases List.mem_append.mp member with old | new
    · obtain ⟨reading, before, same⟩ := tracked.read event old
      exact ⟨reading, before.trans ticks, same⟩
    · exact readings event new
  captured := snapshots ▸ tracked.captured
  saved := snapshots ▸ tracked.saved
  failed := by
    obtain ⟨older, failed, bound⟩ := tracked.failed
    refine ⟨older, ?_, bound⟩
    rw [events, rowTimes_append, failed, failures, List.reverse_cons, List.append_assoc]
  alerted := by
    obtain ⟨older, alerted, bound⟩ := tracked.alerted
    refine ⟨older, ?_, bound⟩
    rw [events, rowTimes_append, alerted, List.append_assoc]
  since := by
    intro time member success newest
    rcases List.mem_cons.mp member with rfl | old
    · exact fresh success newest
    · exact tracked.since time old success newest
  past := by
    intro time member
    have later : clock run.world.tick ≤ clock world.tick := monotone ticks.le
    rcases List.mem_cons.mp member with rfl | old
    · exact later
    · exact (tracked.past time old).trans later
  sorted := List.pairwise_cons.mpr ⟨tracked.past, tracked.sorted⟩
  later := by
    intro alert member start begun
    rcases List.mem_append.mp member with old | new
    · exact tracked.alert_later old begun
    · rw [alerts] at new
      obtain ⟨made, same⟩ := List.mem_ite_nil_right.mp new
      obtain rfl := List.mem_singleton.mp same
      rw [answer, firstStaleDue_cons] at made
      have long := made.1
      simp only [staleDue, Bool.and_eq_true, List.head?_cons, Option.any_some, Option.any_eq_true,
        decide_eq_true_eq] at long
      obtain ⟨-, begin, same, long⟩ := long
      obtain rfl : begin = start := Option.some.inj (same.symm.trans begun)
      have positive : 0 < (settings.collectorStaleAlertMinutes : ℤ) * Timestamp.minute := by
        have minutes := settings.stalePositive
        rw [show Timestamp.minute = 60000000 from rfl]
        omega
      have next : clock run.world.tick ≤ clock (run.world.tick + 1) := monotone (Nat.le_succ _)
      omega
  reported := by
    change _ ↔ ∀ stage ∈ (clock run.world.tick :: run.failures) :: run.failures.tails, _
    rw [alerts, List.append_eq_nil_iff, List.forall_mem_cons, ← tracked.reported]
    cases made : due with
    | true =>
      rw [made] at answer
      refine iff_of_false (fun both => nomatch both.2) ?_
      rintro ⟨undue, -⟩
      rw [((firstStaleDue_cons _ _ _).mp answer.symm).1] at undue
      cases undue
    | false =>
      rw [made] at answer
      constructor
      · rintro ⟨none, -⟩
        refine ⟨?_, none⟩
        by_contra reached
        have first := (firstStaleDue_cons run.lastSuccess (clock run.world.tick) run.failures).mpr
          ⟨Bool.not_eq_false _ ▸ reached, tracked.reported.mp none⟩
        rw [first] at answer
        cases answer
      · rintro ⟨-, none⟩
        exact ⟨none, rfl⟩

/-- A failed attempt keeps what is known and raises the alert exactly when it is due. -/
theorem StaleRun.Tracked.attempt (tracked : run.Tracked settings clock) (monotone : Monotone clock)
    {attempt : Attempt} (failed : attempt.isFailed = true)
    (visible : SuccessVisible clock run (.attempt attempt)) :
    (run.step settings clock (.attempt attempt)).Tracked settings clock ∧
      StaleAlertExact settings clock run (.attempt attempt) := by
  obtain ⟨detector, error, world, recorded⟩ := attempt_of_isFailed failed run.world
  cases error with
  | none =>
    have unrecorded : attempt.failureRecorded = false := recorded
    have none : appendedRows run.world (run.world.attempt settings clock attempt) = [] := by
      rw [world]
      exact appendedRows_of_append (List.append_nil _).symm
    constructor
    · rw [step_of_isFailed failed, none, unrecorded, world]
      have same : run.alerts ++ rowTimes isMonitoringStale [] = run.alerts := List.append_nil _
      rw [same]
      exact ⟨tracked.read, tracked.captured, tracked.saved, tracked.failed, tracked.alerted, tracked.since,
        tracked.past, tracked.sorted, tracked.later, tracked.reported⟩
    · rw [StaleAlertExact, step_of_isFailed failed, none]
      simp only [unrecorded, Bool.false_and, Bool.false_eq_true, ↓reduceIte]
      rfl
  | some error =>
    have recorded : attempt.failureRecorded = true := recorded
    let before : World := { run.world with detector := detector }
    obtain ⟨rows, events, failures, alerts, ticks, readings⟩ := recordCollectionFailure_rows settings clock
      before error
    have keeps := recordFailure_keeps settings clock before (some error)
    have answer : before.staleAlert settings clock =
        firstStaleDue settings run.lastSuccess (clock run.world.tick :: run.failures) :=
      tracked.staleAlert (visible recorded)
    have appended : appendedRows run.world (run.world.attempt settings clock attempt) = rows := by
      rw [world]
      exact appendedRows_of_append events
    constructor
    · rw [step_of_isFailed failed, appended, recorded, if_pos rfl, world]
      exact tracked.failedStep monotone events keeps.1 failures alerts ticks readings answer
        fun success newest => (visible recorded success newest).1
    · rw [StaleAlertExact, step_of_isFailed failed]
      simp only [appended, alerts, recorded, answer, Bool.true_and]
      split <;> rfl

/-- A committed poll ends the outage without an alert. -/
theorem StaleRun.Tracked.poll (tracked : run.Tracked settings clock)
    {snapshot : StorcliSnapshot} (ordered : CapturesInOrder clock run (.attempt (.committed snapshot))) :
    (run.step settings clock (.attempt (.committed snapshot))).Tracked settings clock ∧
      StaleAlertExact settings clock run (.attempt (.committed snapshot)) := by
  obtain ⟨readings, newest, next⟩ := ordered
  obtain ⟨rows, events, failures, alerts⟩ := poll_rows settings clock run.world snapshot
  have saved : ∀ row ∈ run.world.db.snapshots, row.capturedAt ≤ snapshot.capturedAt := by
    intro row member
    obtain ⟨success, last, le⟩ := tracked.captured row member
    exact le.trans (newest success last)
  have bound (test : Event → Bool) : ∀ time ∈ rowTimes test run.world.db.events, time ≤ snapshot.capturedAt := by
    intro time member
    obtain ⟨event, inside, rfl⟩ := List.mem_map.mp member
    obtain ⟨reading, before, same⟩ := tracked.read event (List.mem_of_mem_filter inside)
    exact same ▸ readings reading before
  constructor
  · constructor
    · intro event member
      change event ∈ (run.world.poll settings clock snapshot).db.events at member
      rw [poll_events] at member
      change ∃ reading < (run.world.poll settings clock snapshot).tick, _
      rw [poll_tick]
      rcases List.mem_append.mp member with old | new
      · obtain ⟨reading, before, same⟩ := tracked.read event old
        exact ⟨reading, by omega, same⟩
      · obtain ⟨_, -, _, reading, -, before, rfl⟩ := mem_eventRows new
        exact ⟨reading, before, rfl⟩
    · intro row member
      change row ∈ (run.world.poll settings clock snapshot).db.snapshots at member
      rw [poll_snapshots] at member
      refine ⟨_, rfl, ?_⟩
      rcases List.mem_append.mp member with old | new
      · exact saved row old
      · rw [List.mem_singleton.mp new]
        exact le_rfl
    · right
      change ((run.world.poll settings clock snapshot).db.snapshots.map (·.capturedAt)).max? = some _
      rw [poll_snapshots, List.map_append, List.map_singleton, List.max?_concat]
      cases old : (run.world.db.snapshots.map (·.capturedAt)).max? with
      | none => rfl
      | some top =>
        obtain ⟨row, member, same⟩ := List.mem_map.mp (List.max?_mem old)
        have le : top ≤ snapshot.capturedAt := same ▸ saved row member
        exact congrArg some (max_eq_right le)
    · refine ⟨_, ?_, fun time member => ⟨_, rfl, bound isCollectionFailure time member⟩⟩
      change rowTimes isCollectionFailure (run.world.poll settings clock snapshot).db.events = _
      rw [events, rowTimes_append, failures]
      rfl
    · refine ⟨_, ?_, fun time member => ⟨_, rfl, bound isMonitoringStale time member⟩⟩
      change rowTimes isMonitoringStale (run.world.poll settings clock snapshot).db.events = _
      rw [events, rowTimes_append, alerts]
      rfl
    · exact List.forall_mem_nil _
    · exact List.forall_mem_nil _
    · exact .nil
    · exact List.forall_mem_nil _
    · refine iff_of_true rfl ?_
      intro stage member
      obtain rfl := List.mem_singleton.mp member
      rfl
  · change (rowTimes isMonitoringStale (appendedRows run.world (run.world.poll settings clock snapshot))).length = 0
    rw [appendedRows_of_append events, alerts, List.length_nil]

/-- A retention transaction may take the last success away, but nothing else. -/
theorem StaleRun.Tracked.retention (tracked : run.Tracked settings clock) (now : ℤ) :
    (run.step settings clock (.retention now)).Tracked settings clock ∧
      StaleAlertExact settings clock run (.retention now) := by
  obtain ⟨keep, upward, kept⟩ := retention_snapshots run.world settings.toRetentionSettings now
  constructor
  · simp only [StaleRun.step]
    constructor
    · simp only [retention_events, retention_tick]
      exact tracked.read
    · intro row member
      simp only [kept] at member
      exact tracked.captured row (List.mem_of_mem_filter member)
    · have times : ((run.world.db.snapshots.filter fun snapshot => keep snapshot.capturedAt).map
          (·.capturedAt)).max? = (run.world.db.snapshots.map (·.capturedAt)).max?.filter keep := by
        rw [← List.max?_filter_of_upward upward, List.filter_map]
        rfl
      simp only [kept, times]
      rcases tracked.saved with none | same
      · exact .inl (by rw [none, Option.filter_none])
      · rw [same]
        cases run.lastSuccess with
        | none => exact .inl rfl
        | some success =>
          cases retained : keep success with
          | true => exact .inr (Option.filter_some_pos retained)
          | false => exact .inl (Option.filter_some_neg retained)
    · simp only [retention_events]
      exact tracked.failed
    · simp only [retention_events]
      exact tracked.alerted
    · exact tracked.since
    · simp only [retention_tick]
      exact tracked.past
    · exact tracked.sorted
    · exact tracked.later
    · exact tracked.reported
  · have none : appendedRows run.world (run.world.retention settings.toRetentionSettings now) = [] :=
      appendedRows_of_append (by rw [retention_events, List.append_nil])
    simp only [StaleAlertExact, StaleRun.step, none]
    rfl

end Steps

variable [PyText]

/-- Every step of a run in which the clock does not go back and no failed poll misses the last success
records an alert exactly when it is the first one of its outage at which the alert is due. -/
theorem monitoring_stale_once_per_outage (settings : Settings) (clock : ℕ → ℤ) (monotone : Monotone clock)
    (labels : List CollectorStep) (label : CollectorStep)
    (ordered : Machine.Guarded (StaleRun.step settings clock) (CapturesInOrder clock) .initial
      (labels ++ [label]))
    (visible : Machine.Guarded (StaleRun.step settings clock) (SuccessVisible clock) .initial
      (labels ++ [label])) :
    StaleAlertExact settings clock (labels.foldl (StaleRun.step settings clock) .initial) label := by
  have kept (run : StaleRun) (label : CollectorStep) (tracked : run.Tracked settings clock)
      (guards : CapturesInOrder clock run label ∧ SuccessVisible clock run label) :
      (run.step settings clock label).Tracked settings clock ∧ StaleAlertExact settings clock run label := by
    cases label with
    | retention now => exact tracked.retention now
    | attempt attempt =>
      cases failed : attempt.isFailed with
      | true => exact tracked.attempt monotone failed guards.2
      | false =>
        cases attempt with
        | committed snapshot => exact tracked.poll guards.1
        | collectionFailed error => cases failed
        | insertFailed snapshot error => cases failed
        | commitFailed snapshot error => cases failed
  obtain ⟨before, last⟩ := Machine.Guarded.append_iff.mp (ordered.and visible)
  have tracked := before.invariant (StaleRun.tracked_initial settings clock)
    fun run label tracked guards => (kept run label tracked guards).1
  exact (kept _ _ tracked last.1).2

/-! ## An outage behind the retention -/

/-- The readings of the clock: two failed polls, one successful poll, one failed poll 32 days later. -/
def outageClock (tick : ℕ) : ℤ :=
  if tick < 2 then 1000 * Timestamp.day else if tick < 4 then 1000 * Timestamp.day + 10 * Timestamp.minute
  else 1032 * Timestamp.day

omit [PyText] in
theorem outageClock_monotone : Monotone outageClock := by
  intro earlier later le
  have units : Timestamp.minute = 60000000 ∧ Timestamp.day = 86400000000 := by decide
  simp only [outageClock, units]
  split_ifs <;> omega

def failedPoll : CollectorStep := .attempt (.collectionFailed (some "StorcliNotAvailable: timeout"))

def successfulPoll : CollectorStep :=
  .attempt (.committed (bareSnapshot (1000 * Timestamp.day + 10 * Timestamp.minute) none))

omit [PyText] in
/-- Two failed polls and a successful one, with a third failed poll long afterwards. -/
theorem monitoring_stale_once_per_outage_recovered :
    let _ := PyText.ascii
    StaleAlertExact Settings.default outageClock
      ([failedPoll, failedPoll, successfulPoll].foldl (StaleRun.step Settings.default outageClock) .initial)
      failedPoll := by
  let _ := PyText.ascii
  refine monitoring_stale_once_per_outage Settings.default outageClock outageClock_monotone
    [failedPoll, failedPoll, successfulPoll] failedPoll ?_ ?_
  · decide +kernel
  · decide +kernel

omit [PyText] in
/-- The retention has dropped the successful poll: one failed poll is reported as an outage. -/
theorem not_monitoring_stale_once_per_outage :
    ¬ ∀ [PyText] (settings : Settings) (clock : ℕ → ℤ), Monotone clock →
      ∀ (labels : List CollectorStep) (label : CollectorStep),
        Machine.Guarded (StaleRun.step settings clock) (CapturesInOrder clock) .initial (labels ++ [label]) →
        StaleAlertExact settings clock (labels.foldl (StaleRun.step settings clock) .initial) label := by
  intro exact
  let _ := PyText.ascii
  have last := exact Settings.default outageClock outageClock_monotone
    [failedPoll, failedPoll, successfulPoll, .retention (1031 * Timestamp.day)] failedPoll (by decide +kernel)
  revert last
  decide +kernel

end MegaraidDashboard.Services
