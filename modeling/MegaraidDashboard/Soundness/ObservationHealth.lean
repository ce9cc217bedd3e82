import MegaraidDashboard.Model.Services.ObservationHealth
import MegaraidDashboard.Soundness.MonitoringStale
import MegaraidDashboard.Soundness.RelevanceDetails

/-! # The banner tells what the collector knows

The banner reads the tables. Over any run of polls and retention transactions it says what an observer of the polls
would say, and it is there exactly while an alert of the hardware waits for fresh data.
-/

namespace MegaraidDashboard.Services

open Db Storcli

/-! ## The two readers of the tables -/

section Agreement

variable [PyText]

/-- While the window is a duration at all, the pages show the banner exactly while the alert waits for fresh data. -/
theorem observationWarning_iff_awaiting (settings : Settings) (db : Database) (now : ℤ) (event : Event)
    (duration : freshness settings ≤ Timestamp.timedeltaMax) (other : event.category ≠ .system) :
    (∃ text, observationWarning true settings db now = some (some text)) ↔
      deliveryRelevance settings db event now = .awaiting "awaiting_fresh_data" := by
  rw [observationWarning, deliveryRelevance, if_neg other, Timestamp.timedelta, if_pos duration]
  cases snapshotAt db now with
  | none => simp
  | some snapshot =>
    dsimp only
    cases Timestamp.minus now (freshness settings) with
    | none => simp
    | some oldest =>
      simp only [Bool.not_true, Bool.false_eq_true, ↓reduceIte, Option.map_some, Option.some.injEq]
      generalize (db.events.any fun event => event.category == .system &&
        summaryStartsWith event collectionFailedPrefix && decide (snapshot.capturedAt ≤ event.occurredAt) &&
        decide (event.occurredAt ≤ now)) = failed
      by_cases old : snapshot.capturedAt < oldest
      · simp [old]
      · cases failed with
        | true => simp [old]
        | false =>
          have decided := @objectRelevance_ne_awaiting_fresh_data _ settings db event snapshot
          simp only [old, Bool.false_eq_true, or_self, ↓reduceIte, exists_false, reduceCtorEq, false_iff]
          split_ifs
          · intro same
            cases same
          · exact decided

omit [PyText] in
/-- Before the first poll. -/
theorem observationWarning_iff_awaiting_empty :
    let _ := PyText.ascii
    let event : Event := ⟨1, 0, .critical, .pdState, .physicalDrive 252 0, "PD e252:s0", none, none, none, none⟩
    (∃ text, observationWarning true .default .empty 0 = some (some text)) ↔
      deliveryRelevance .default .empty event 0 = .awaiting "awaiting_fresh_data" := by
  let _ := PyText.ascii
  exact observationWarning_iff_awaiting .default .empty 0 _ (by decide) (by decide)

end Agreement

/-! ## Runs -/

/-- What an observer of the polls says: of the newest successful one, while its snapshot is kept, and of the failures
since then. -/
def expectedWarning (settings : Settings) (run : StaleRun) (now : ℤ) : Option String :=
  match if run.world.db.snapshots = [] then none else run.lastSuccess with
  | none => some noObservationText
  | some success =>
    if success < now - freshness settings then some (staleObservationText success)
    else if run.failures = [] then none else some (failedObservationText success)

/-- A capture time lies after the readings before it and not after the next one. -/
def CapturesBetween (clock : ℕ → ℤ) (run : StaleRun) : CollectorStep → Prop
  | .attempt (.committed snapshot) => (∀ earlier < run.world.tick, clock earlier < snapshot.capturedAt) ∧
      (∀ previous ∈ run.lastSuccess, previous ≤ snapshot.capturedAt) ∧
      snapshot.capturedAt ≤ clock run.world.tick
  | _ => True

/-- What the tables say of the polls. -/
structure StaleRun.Observed (clock : ℕ → ℤ) (run : StaleRun) : Prop where
  read : ∀ event ∈ run.world.db.events, ∃ reading < run.world.tick, event.occurredAt = clock reading
  captured : ∀ snapshot ∈ run.world.db.snapshots, ∃ success ∈ run.lastSuccess, snapshot.capturedAt ≤ success ∧
    ∃ newest ∈ run.world.db.snapshots, newest.capturedAt = success
  failed : ∃ older, rowTimes isCollectionFailure run.world.db.events = older ++ run.failures.reverse ∧
    ∀ time ∈ older, ∃ success ∈ run.lastSuccess, time < success
  since : ∀ time ∈ run.failures, ∀ success ∈ run.lastSuccess, success ≤ time
  next : ∀ success ∈ run.lastSuccess, success ≤ clock run.world.tick

namespace StaleRun.Observed

variable {settings : Settings} {clock : ℕ → ℤ} {run : StaleRun}

theorem initial (clock : ℕ → ℤ) : StaleRun.initial.Observed clock where
  read := List.forall_mem_nil _
  captured := List.forall_mem_nil _
  failed := ⟨[], rfl, List.forall_mem_nil _⟩
  since := List.forall_mem_nil _
  next := nofun

variable [PyText] (observed : run.Observed clock)

include observed

theorem attempt (monotone : Monotone clock) {attempt : Attempt} (failed : attempt.isFailed = true) :
    (run.step settings clock (.attempt attempt)).Observed clock := by
  obtain ⟨detector, error, world, recorded⟩ := attempt_of_isFailed failed run.world
  rw [step_of_isFailed failed, world]
  cases error with
  | none =>
    have unrecorded : attempt.failureRecorded = false := recorded
    rw [unrecorded]
    exact ⟨observed.read, observed.captured, observed.failed, observed.since, observed.next⟩
  | some error =>
    have recorded : attempt.failureRecorded = true := recorded
    let before : World := { run.world with detector := detector }
    obtain ⟨rows, events, failures, -, ticks, readings⟩ := recordCollectionFailure_rows settings clock before error
    have snapshots : (before.recordFailure settings clock (some error)).db.snapshots = run.world.db.snapshots :=
      (recordFailure_keeps settings clock before (some error)).1
    rw [recorded, if_pos rfl]
    refine ⟨?_, ?_, ?_, ?_, ?_⟩
    · intro event member
      have member : event ∈ run.world.db.events ++ rows := events ▸ member
      rcases List.mem_append.mp member with old | new
      · obtain ⟨reading, earlier, same⟩ := observed.read event old
        exact ⟨reading, earlier.trans ticks, same⟩
      · exact readings event new
    · change ∀ snapshot ∈ (before.recordFailure settings clock (some error)).db.snapshots, _
      simp only [before] at snapshots ⊢
      rw [snapshots]
      exact observed.captured
    · obtain ⟨older, failed, bound⟩ := observed.failed
      refine ⟨older, ?_, bound⟩
      change rowTimes isCollectionFailure (before.recordCollectionFailure settings clock error).db.events = _
      rw [events, rowTimes_append, failures, List.reverse_cons, ← List.append_assoc]
      exact congrArg (· ++ _) failed
    · intro time member success newest
      rcases List.mem_cons.mp member with rfl | old
      · exact observed.next success newest
      · exact observed.since time old success newest
    · exact fun success newest => (observed.next success newest).trans (monotone ticks.le)

theorem poll (monotone : Monotone clock) {snapshot : StorcliSnapshot}
    (ordered : CapturesBetween clock run (.attempt (.committed snapshot))) :
    (run.step settings clock (.attempt (.committed snapshot))).Observed clock := by
  obtain ⟨readings, newest, next⟩ := ordered
  obtain ⟨rows, events, failures, -⟩ := poll_rows settings clock run.world snapshot
  refine ⟨?_, ?_, ?_, List.forall_mem_nil _, ?_⟩
  · intro event member
    change event ∈ (run.world.poll settings clock snapshot).db.events at member
    change ∃ reading < (run.world.poll settings clock snapshot).tick, _
    rw [poll_events] at member
    rw [poll_tick]
    rcases List.mem_append.mp member with old | new
    · obtain ⟨reading, before, same⟩ := observed.read event old
      exact ⟨reading, by omega, same⟩
    · obtain ⟨_, -, _, reading, -, before, rfl⟩ := mem_eventRows new
      exact ⟨reading, before, rfl⟩
  · intro row member
    change row ∈ (run.world.poll settings clock snapshot).db.snapshots at member
    change ∃ success ∈ some snapshot.capturedAt, row.capturedAt ≤ success ∧
      ∃ newest ∈ (run.world.poll settings clock snapshot).db.snapshots, newest.capturedAt = success
    rw [poll_snapshots] at member ⊢
    refine ⟨_, rfl, ?_, _, List.mem_append_right _ (List.mem_singleton.mpr rfl), rfl⟩
    rcases List.mem_append.mp member with old | new
    · obtain ⟨success, last, le, -⟩ := observed.captured row old
      exact le.trans (newest success last)
    · exact (List.mem_singleton.mp new) ▸ le_rfl
  · refine ⟨rowTimes isCollectionFailure run.world.db.events, ?_, ?_⟩
    · change rowTimes isCollectionFailure (run.world.poll settings clock snapshot).db.events = _
      rw [events, rowTimes_append, failures]
      rfl
    · intro time member
      obtain ⟨event, inside, rfl⟩ := List.mem_map.mp member
      obtain ⟨reading, before, same⟩ := observed.read event (List.mem_of_mem_filter inside)
      exact ⟨_, rfl, same ▸ readings reading before⟩
  · intro success last
    obtain rfl := Option.some.inj last
    change snapshot.capturedAt ≤ clock (run.world.poll settings clock snapshot).tick
    rw [poll_tick]
    exact next.trans (monotone (Nat.le_add_right _ _))

omit [PyText] in
/-- A retention transaction takes all snapshots or keeps the newest one. -/
theorem retention [PyText] (now : ℤ) : (run.step settings clock (.retention now)).Observed clock := by
  obtain ⟨keep, upward, kept⟩ := retention_snapshots run.world settings.toRetentionSettings now
  simp only [StaleRun.step]
  refine ⟨?_, ?_, ?_, observed.since, ?_⟩
  · simp only [retention_events, retention_tick]
    exact observed.read
  · intro row member
    simp only [kept] at member ⊢
    obtain ⟨inside, keeps⟩ := List.mem_filter.mp member
    obtain ⟨success, last, le, newest, stored, same⟩ := observed.captured row inside
    exact ⟨success, last, le, newest, List.mem_filter.mpr ⟨stored, upward _ _ keeps (same ▸ le)⟩, same⟩
  · simp only [retention_events]
    exact observed.failed
  · simp only [retention_tick]
    exact observed.next

theorem step (monotone : Monotone clock) (label : CollectorStep) (ordered : CapturesBetween clock run label) :
    (run.step settings clock label).Observed clock := by
  cases label with
  | retention now => exact observed.retention now
  | attempt attempt =>
    cases failed : attempt.isFailed with
    | true => exact observed.attempt monotone failed
    | false =>
      cases attempt with
      | committed snapshot => exact observed.poll monotone ordered
      | collectionFailed error => cases failed
      | insertFailed snapshot error => cases failed
      | commitFailed snapshot error => cases failed

omit [PyText]

/-- The newest snapshot is the one of the last success. -/
theorem snapshotAt_eq {now : ℤ} (seen : ∀ success ∈ run.lastSuccess, success ≤ now) :
    (snapshotAt run.world.db now).map (·.capturedAt) = if run.world.db.snapshots = [] then none else run.lastSuccess := by
  have all : (run.world.db.snapshots.filter fun snapshot => decide (snapshot.capturedAt ≤ now)) =
      run.world.db.snapshots := by
    refine List.filter_eq_self.mpr fun row member => ?_
    obtain ⟨success, last, le, -⟩ := observed.captured row member
    exact decide_eq_true (le.trans (seen success last))
  rw [snapshotAt, all]
  split_ifs with empty
  · rw [empty]
    rfl
  · cases found : run.world.db.snapshots.latest? (·.capturedAt) with
    | none => exact absurd (List.latest?_eq_none.mp found) empty
    | some snapshot =>
      obtain ⟨success, last, le, newest, stored, same⟩ := observed.captured snapshot (List.latest?_mem found)
      rw [Option.map_some, show run.lastSuccess = some success from last]
      exact congrArg some (le_antisymm le (same ▸ List.le_of_latest? found stored))

/-- The statement finds a failure exactly when a poll failed after the last success. -/
theorem failure_iff {now success : ℤ} (last : run.lastSuccess = some success)
    (later : ∀ reading < run.world.tick, clock reading ≤ now) :
    (run.world.db.events.any fun event => event.category == .system && summaryStartsWith event collectionFailedPrefix &&
      decide (success ≤ event.occurredAt) && decide (event.occurredAt ≤ now)) = true ↔ run.failures ≠ [] := by
  obtain ⟨older, failed, bound⟩ := observed.failed
  have times : (∃ event ∈ run.world.db.events, isCollectionFailure event = true ∧ success ≤ event.occurredAt) ↔
      ∃ time ∈ older ++ run.failures.reverse, success ≤ time := by
    rw [← failed]
    simp only [rowTimes, List.mem_map, List.mem_filter]
    constructor
    · rintro ⟨event, member, failure, le⟩
      exact ⟨_, ⟨event, ⟨member, failure⟩, rfl⟩, le⟩
    · rintro ⟨_, ⟨event, ⟨member, failure⟩, rfl⟩, le⟩
      exact ⟨event, member, failure, le⟩
  have query : (run.world.db.events.any fun event => event.category == .system &&
      summaryStartsWith event collectionFailedPrefix && decide (success ≤ event.occurredAt) &&
      decide (event.occurredAt ≤ now)) = true ↔
      ∃ event ∈ run.world.db.events, isCollectionFailure event = true ∧ success ≤ event.occurredAt := by
    rw [List.any_eq_true]
    refine exists_congr fun event => and_congr_right fun member => ?_
    obtain ⟨reading, before, same⟩ := observed.read event member
    have past : event.occurredAt ≤ now := same ▸ later reading before
    simp only [isCollectionFailure, Bool.and_eq_true, decide_eq_true_eq, past, and_true]
  rw [query, times]
  constructor
  · rintro ⟨time, member, le⟩ none
    rw [none, List.reverse_nil, List.append_nil] at member
    obtain ⟨other, same, early⟩ := bound time member
    obtain rfl := Option.some.inj (last.symm.trans same)
    exact absurd le (not_le.mpr early)
  · intro some_
    obtain ⟨time, rest, failures⟩ := List.exists_cons_of_ne_nil some_
    refine ⟨time, List.mem_append_right _ (List.mem_reverse.mpr (failures ▸ List.mem_cons_self)), ?_⟩
    exact observed.since time (failures ▸ List.mem_cons_self) success last

end StaleRun.Observed

variable [PyText]

/-- After any run of polls and retention transactions, whenever a page is asked for, the banner says what an observer of
the polls would say, unless the window reaches back before all times. -/
theorem observationWarning_exact (settings : Settings) (clock : ℕ → ℤ) (monotone : Monotone clock)
    (labels : List CollectorStep)
    (ordered : Machine.Guarded (StaleRun.step settings clock) (CapturesBetween clock) .initial labels) (now : ℤ)
    (later : ∀ reading < (labels.foldl (StaleRun.step settings clock) .initial).world.tick, clock reading ≤ now)
    (seen : ∀ success ∈ (labels.foldl (StaleRun.step settings clock) .initial).lastSuccess, success ≤ now)
    (window : freshness settings ≤ now) :
    observationWarning true settings (labels.foldl (StaleRun.step settings clock) .initial).world.db now =
      some (expectedWarning settings (labels.foldl (StaleRun.step settings clock) .initial) now) := by
  have observed := ordered.invariant (StaleRun.Observed.initial clock)
    fun run label observed guard => observed.step monotone label guard
  generalize labels.foldl (StaleRun.step settings clock) .initial = run at observed later seen ⊢
  have newest := observed.snapshotAt_eq seen
  rw [observationWarning, expectedWarning, ← newest]
  cases found : snapshotAt run.world.db now with
  | none => rfl
  | some snapshot =>
    have last : run.lastSuccess = some snapshot.capturedAt := by
      rw [found, Option.map_some] at newest
      split_ifs at newest
      exact newest.symm
    have failure := observed.failure_iff last later
    have reaches : 0 ≤ now - freshness settings := by omega
    simp only [Bool.not_true, Bool.false_eq_true, ↓reduceIte, Option.map_some, Timestamp.minus, reaches,
      Option.some.injEq]
    generalize (run.world.db.events.any fun event => event.category == .system &&
      summaryStartsWith event collectionFailedPrefix && decide (snapshot.capturedAt ≤ event.occurredAt) &&
      decide (event.occurredAt ≤ now)) = failed at failure ⊢
    cases failed with
    | true => rw [if_neg (failure.mp rfl), if_pos rfl]
    | false =>
      have quiet : run.failures = [] := by_contra fun some_ => Bool.false_ne_true (failure.mpr some_)
      rw [if_pos quiet, if_neg Bool.false_ne_true]

omit [PyText] in
/-- A successful poll and a failed one. -/
theorem observationWarning_exact_failed :
    let _ := PyText.ascii
    let labels : List CollectorStep := [.attempt (.committed (bareSnapshot Timestamp.day none)), failedPoll]
    let run := labels.foldl (StaleRun.step .default fun _ => Timestamp.day) .initial
    observationWarning true .default run.world.db Timestamp.day = some (expectedWarning .default run Timestamp.day) := by
  let _ := PyText.ascii
  have ordered : Machine.Guarded (StaleRun.step .default fun _ => Timestamp.day)
      (CapturesBetween fun _ => Timestamp.day) .initial
      [.attempt (.committed (bareSnapshot Timestamp.day none)), failedPoll] :=
    ⟨⟨fun earlier before => absurd before (Nat.not_lt_zero earlier), nofun, le_rfl⟩, trivial, trivial⟩
  refine observationWarning_exact .default (fun _ => Timestamp.day) monotone_const _ ordered Timestamp.day
    (fun _ _ => le_rfl) ?_ (by decide)
  intro success last
  obtain rfl := Option.some.inj last
  exact le_rfl

end MegaraidDashboard.Services
