import MegaraidDashboard.Machine.Run
import MegaraidDashboard.Soundness.Retention

/-! # Runs of polls and retention transactions

The invariant of a run names the readings behind the hourly and the daily rows. It survives every
admissible step when the hourly window is no shorter than the raw window, and a run of two polls and
two transactions breaks it for every other pair of windows.
-/

namespace MegaraidDashboard.Db

open Timestamp

/-- Committed polls and retention runs, in their order. -/
inductive RetentionStep where
  | save (snapshot : ControllerSnapshot)
  | retain (now : ℤ)

/-- The tables, every reading ever saved, and the times of the committed transactions. -/
structure RetentionRun where
  store : MetricsStore
  saved : List Reading
  applied : List ℤ

def RetentionRun.initial : RetentionRun := ⟨⟨[], ∅, ∅⟩, [], []⟩

def RetentionRun.step (settings : RetentionSettings) (run : RetentionRun) :
    RetentionStep → RetentionRun
  | .save snapshot =>
    { run with
      store := { run.store with snapshots := run.store.snapshots ++ [snapshot] }
      saved := run.saved ++ readings [snapshot] }
  | .retain now =>
    match runRetentionTransaction settings run.store now with
    | none => run
    | some store => { run with store := store, applied := now :: run.applied }

theorem RetentionRun.step_retain {settings : RetentionSettings} {store after : MetricsStore} {now : ℤ}
    (success : runRetentionTransaction settings store now = some after) (saved : List Reading)
    (applied : List ℤ) :
    RetentionRun.step settings ⟨store, saved, applied⟩ (.retain now) = ⟨after, saved, now :: applied⟩ := by
  simp only [step, success]

theorem RetentionRun.mem_applied_retain {settings : RetentionSettings} {run : RetentionRun}
    {now earlier : ℤ} (member : earlier ∈ (run.step settings (.retain now)).applied) :
    earlier = now ∨ earlier ∈ run.applied := by
  simp only [step] at member
  split at member
  · exact .inr member
  · exact List.mem_cons.mp member

/-- Polls are not older than an applied raw cutoff and count errors from zero; transactions run at
non-decreasing times. -/
def RetentionRun.Admissible (settings : RetentionSettings) (run : RetentionRun) :
    RetentionStep → Prop
  | .save snapshot =>
    (∀ now ∈ run.applied, ∀ cutoff ∈ settings.rawCutoff now, cutoff ≤ snapshot.capturedAt) ∧
      ∀ reading ∈ readings [snapshot], reading.CountersNonneg
  | .retain now => Representable now ∧ ∀ earlier ∈ run.applied, earlier ≤ now

/-- What retention promises under these settings, over every admissible run from an empty store. -/
def RetentionConserves (settings : RetentionSettings) : Prop :=
  ∀ steps, Machine.Guarded (RetentionRun.step settings) (RetentionRun.Admissible settings) .initial steps →
    let run := steps.foldl (RetentionRun.step settings) .initial
    Accounted run.saved run.store ∧
      ∀ now after, runRetentionTransaction settings run.store now = some after →
        runRetentionTransaction settings after now = some after

/-- The readings counted in the hourly and daily rows lie behind the cutoffs that moved them. -/
structure RetentionRun.Conserved (settings : RetentionSettings) (run : RetentionRun)
    (hourly daily : List Reading) : Prop where
  saved : run.saved.Perm (readings run.store.snapshots ++ (hourly ++ daily))
  hourlyAccounts : TableAccounts Reading.hourKey hourly run.store.hourly
  dailyAccounts : TableAccounts Reading.dayKey daily run.store.daily
  nonneg : ∀ reading ∈ run.saved, reading.CountersNonneg
  rawLate : ∀ now ∈ run.applied, ∀ cutoff ∈ settings.rawCutoff now,
    ∀ reading ∈ readings run.store.snapshots, cutoff ≤ reading.capturedAt
  hourlyLate : ∀ now ∈ run.applied, ∀ cutoff ∈ settings.hourlyCutoff now,
    ∀ reading ∈ hourly, cutoff ≤ reading.capturedAt
  hourlyEarly : ∀ reading ∈ hourly, ∃ now ∈ run.applied, ∃ cutoff ∈ settings.rawCutoff now,
    reading.capturedAt < cutoff
  dailyEarly : ∀ reading ∈ daily, ∃ now ∈ run.applied, ∃ cutoff ∈ settings.hourlyCutoff now,
    reading.capturedAt < cutoff

theorem RetentionSettings.rawCutoff_aligned {settings : RetentionSettings} {now cutoff : ℤ}
    (applied : settings.rawCutoff now = some cutoff) : hour ∣ cutoff := by
  obtain ⟨start, _, rfl⟩ := Option.map_eq_some_iff.mp applied
  exact hour_dvd_hourBucket start

theorem RetentionSettings.hourlyCutoff_aligned {settings : RetentionSettings} {now cutoff : ℤ}
    (applied : settings.hourlyCutoff now = some cutoff) : day ∣ cutoff := by
  obtain ⟨start, _, rfl⟩ := Option.map_eq_some_iff.mp applied
  exact day_dvd_dayBucket start

/-- With the longer hourly window, a day is folded only after all its hours were. -/
theorem RetentionSettings.hourlyCutoff_le_rawCutoff {settings : RetentionSettings} {now hourlyCut : ℤ}
    (ordered : settings.metricsRawRetentionDays ≤ settings.metricsHourlyRetentionDays)
    (hourlyEq : settings.hourlyCutoff now = some hourlyCut) :
    ∃ rawCut, settings.rawCutoff now = some rawCut ∧ hourlyCut ≤ rawCut := by
  simp only [hourlyCutoff, rawCutoff, minusDays, Option.map_eq_some_iff] at hourlyEq ⊢
  obtain ⟨start, startEq, rfl⟩ := hourlyEq
  have windows : (settings.metricsRawRetentionDays : ℤ) * day ≤ settings.metricsHourlyRetentionDays * day :=
    mul_le_mul_of_nonneg_right (by exact_mod_cast ordered) day_pos.le
  split at startEq
  · next fits =>
    obtain rfl := Option.some.inj startEq
    refine ⟨_, ⟨now - settings.metricsRawRetentionDays * day, if_pos (by omega), rfl⟩, ?_⟩
    exact (dayBucket_mono (by omega)).trans (dayBucket_le_hourBucket _)
  · cases startEq

/-- A reading is kept raw, moved into its hour, or moved on into its day. -/
private theorem split_perm (raw hourly daily : List Reading) (rawCut hourlyCut : ℤ) :
    (raw ++ (hourly ++ daily)).Perm
      ((raw.filter fun reading => decide (rawCut ≤ reading.capturedAt)) ++
        (((hourly ++ raw.filter fun reading => decide (reading.capturedAt < rawCut)).filter
            fun reading => decide (hourlyCut ≤ reading.capturedAt)) ++
          (daily ++ (hourly ++ raw.filter fun reading => decide (reading.capturedAt < rawCut)).filter
            fun reading => decide (reading.capturedAt < hourlyCut)))) := by
  have cut (rows : List Reading) (bound : ℤ) :
      ((rows.filter fun reading => decide (bound ≤ reading.capturedAt)) ++
        rows.filter fun reading => decide (reading.capturedAt < bound)).Perm rows := by
    have late : (fun reading : Reading => decide (reading.capturedAt < bound)) =
        fun reading => !decide (bound ≤ reading.capturedAt) := by
      funext reading
      rw [← decide_not, decide_eq_decide, not_le]
    rw [late]
    exact List.filter_append_perm _ rows
  generalize movedEq : (raw.filter fun reading => decide (reading.capturedAt < rawCut)) = moved
  have rawCutPerm := cut raw rawCut
  rw [movedEq] at rawCutPerm
  have hoursPerm := cut (hourly ++ moved) hourlyCut
  rw [List.perm_iff_count] at rawCutPerm hoursPerm ⊢
  intro reading
  have first := rawCutPerm reading
  have second := hoursPerm reading
  simp only [List.count_append] at first second ⊢
  omega

/-- A committed transaction moves what lies behind the raw cutoff into hours, and what lies behind
the hourly cutoff into days. -/
theorem RetentionRun.Conserved.retained {settings : RetentionSettings} {run : RetentionRun}
    {hourly daily : List Reading} {now : ℤ} {store : MetricsStore}
    (ordered : settings.metricsRawRetentionDays ≤ settings.metricsHourlyRetentionDays)
    (inv : run.Conserved settings hourly daily)
    (success : runRetentionTransaction settings run.store now = some store) :
    ∃ hourly' daily',
      RetentionRun.Conserved settings { run with store := store, applied := now :: run.applied }
        hourly' daily' := by
  simp only [runRetentionTransaction, Option.bind_eq_bind, Option.bind_eq_some_iff] at success
  obtain ⟨rawCut, rawEq, hourlyCut, hourlyEq, final⟩ := success
  obtain rfl := Option.some.inj final
  generalize movedEq : ((readings run.store.snapshots).filter fun reading =>
    decide (reading.capturedAt < rawCut)) = moved
  have movedRaw : ∀ reading ∈ moved, reading ∈ readings run.store.snapshots := by
    intro reading member
    rw [← movedEq] at member
    exact List.mem_of_mem_filter member
  have isSaved : ∀ reading ∈ readings run.store.snapshots ++ (hourly ++ daily), reading.CountersNonneg :=
    fun reading member => inv.nonneg reading (inv.saved.mem_iff.mpr member)
  -- A reading still stored raw is behind no hourly cutoff of an earlier transaction.
  have rawAfterDays : ∀ earlier ∈ run.applied, ∀ cutoff ∈ settings.hourlyCutoff earlier,
      ∀ reading ∈ readings run.store.snapshots, cutoff ≤ reading.capturedAt := by
    intro earlier member cutoff cutoffEq reading stored
    obtain ⟨rawCutoff, rawCutoffEq, le⟩ := settings.hourlyCutoff_le_rawCutoff ordered cutoffEq
    exact le.trans (inv.rawLate earlier member rawCutoff rawCutoffEq reading stored)
  have hoursLate : ∀ earlier ∈ run.applied, ∀ cutoff ∈ settings.hourlyCutoff earlier,
      ∀ reading ∈ hourly ++ moved, cutoff ≤ reading.capturedAt := by
    intro earlier member cutoff cutoffEq reading counted
    rcases List.mem_append.mp counted with old | new
    · exact inv.hourlyLate earlier member cutoff cutoffEq reading old
    · exact rawAfterDays earlier member cutoff cutoffEq reading (movedRaw reading new)
  have hours : TableAccounts Reading.hourKey (hourly ++ moved)
      (downsampleToHourly run.store rawCut).hourly := by
    rw [← movedEq]
    apply downsampleToHourly_accounts inv.hourlyAccounts
    · exact fun reading member => isSaved reading (List.mem_append_left _ member)
    · intro counted member reading stored same
      obtain ⟨earlier, applied, cutoff, cutoffEq, early⟩ := inv.hourlyEarly counted member
      have late := inv.rawLate earlier applied cutoff cutoffEq reading stored
      have aligned := RetentionSettings.rawCutoff_aligned cutoffEq
      have sameHour : hourBucket counted.capturedAt = hourBucket reading.capturedAt :=
        congrArg BucketKey.bucketStart same
      rw [← le_hourBucket_iff aligned, ← sameHour, le_hourBucket_iff aligned] at late
      omega
  have days : TableAccounts Reading.dayKey
      (daily ++ (hourly ++ moved).filter fun reading => decide (reading.capturedAt < hourlyCut))
      (downsampleToDaily (downsampleToHourly run.store rawCut) hourlyCut).daily := by
    apply downsampleToDaily_accounts (settings.hourlyCutoff_aligned hourlyEq) hours inv.dailyAccounts
    · intro reading member
      rcases List.mem_append.mp member with old | new
      · exact isSaved reading (List.mem_append_right _ (List.mem_append_left _ old))
      · exact isSaved reading (List.mem_append_left _ (movedRaw reading new))
    · intro counted member reading present same
      obtain ⟨earlier, applied, cutoff, cutoffEq, early⟩ := inv.dailyEarly counted member
      have late := hoursLate earlier applied cutoff cutoffEq reading present
      have aligned := RetentionSettings.hourlyCutoff_aligned cutoffEq
      have sameDay : dayBucket counted.capturedAt = dayBucket reading.capturedAt :=
        congrArg BucketKey.bucketStart same
      rw [← le_dayBucket_iff aligned, ← sameDay, le_dayBucket_iff aligned] at late
      omega
  refine ⟨(hourly ++ moved).filter fun reading => decide (hourlyCut ≤ reading.capturedAt),
    daily ++ (hourly ++ moved).filter fun reading => decide (reading.capturedAt < hourlyCut), ?_⟩
  have keptRaw : readings (pruneHourlyMetrics (pruneRawSnapshots
      (downsampleToDaily (downsampleToHourly run.store rawCut) hourlyCut) rawCut) hourlyCut).snapshots =
      (readings run.store.snapshots).filter fun reading => decide (rawCut ≤ reading.capturedAt) :=
    readings_pruneRawSnapshots _ _
  have early : ∀ reading ∈ hourly ++ moved, ∃ earlier ∈ now :: run.applied,
      ∃ cutoff ∈ settings.rawCutoff earlier, reading.capturedAt < cutoff := by
    intro reading member
    rcases List.mem_append.mp member with old | new
    · obtain ⟨earlier, applied, rest⟩ := inv.hourlyEarly reading old
      exact ⟨earlier, List.mem_cons_of_mem _ applied, rest⟩
    · rw [← movedEq] at new
      exact ⟨now, List.mem_cons_self .., rawCut, rawEq, of_decide_eq_true (List.mem_filter.mp new).2⟩
  have hoursLateNow : ∀ earlier ∈ now :: run.applied, ∀ cutoff ∈ settings.hourlyCutoff earlier,
      ∀ reading ∈ hourly ++ moved, hourlyCut ≤ reading.capturedAt → cutoff ≤ reading.capturedAt := by
    intro earlier member cutoff cutoffEq reading counted late
    rcases List.mem_cons.mp member with rfl | older
    · rw [hourlyEq, Option.mem_some_iff] at cutoffEq
      omega
    · exact hoursLate earlier older cutoff cutoffEq reading counted
  exact {
    saved := inv.saved.trans (by
      rw [keptRaw, ← movedEq]
      exact split_perm _ _ _ rawCut hourlyCut)
    hourlyAccounts := pruneHourlyMetrics_accounts (settings.hourlyCutoff_aligned hourlyEq) hours
    dailyAccounts := days
    nonneg := inv.nonneg
    rawLate := by
      intro earlier member cutoff cutoffEq reading stored
      change reading ∈ readings (pruneHourlyMetrics _ hourlyCut).snapshots at stored
      rw [keptRaw, List.mem_filter, decide_eq_true_eq] at stored
      rcases List.mem_cons.mp member with rfl | older
      · rw [rawEq, Option.mem_some_iff] at cutoffEq
        omega
      · exact inv.rawLate earlier older cutoff cutoffEq reading stored.1
    hourlyLate := by
      intro earlier member cutoff cutoffEq reading counted
      obtain ⟨present, late⟩ := List.mem_filter.mp counted
      exact hoursLateNow earlier member cutoff cutoffEq reading present (of_decide_eq_true late)
    hourlyEarly := fun reading counted => early reading (List.mem_of_mem_filter counted)
    dailyEarly := by
      intro reading counted
      rcases List.mem_append.mp counted with old | new
      · obtain ⟨earlier, applied, rest⟩ := inv.dailyEarly reading old
        exact ⟨earlier, List.mem_cons_of_mem _ applied, rest⟩
      · exact ⟨now, List.mem_cons_self .., hourlyCut, hourlyEq,
          of_decide_eq_true (List.mem_filter.mp new).2⟩ }

/-- A raw window longer than the range of `datetime` makes every transaction fail. -/
theorem runRetentionTransaction_eq_none {settings : RetentionSettings} {now : ℤ}
    (representable : Representable now) (long : 3652058 < settings.metricsRawRetentionDays)
    (store : MetricsStore) : runRetentionTransaction settings store now = none := by
  have window : (3652059 : ℤ) * day ≤ settings.metricsRawRetentionDays * day :=
    mul_le_mul_of_nonneg_right (by exact_mod_cast long) day_pos.le
  have bounded : now ≤ 3652059 * day - 1 := representable.2
  have fails : settings.rawCutoff now = none := by
    rw [RetentionSettings.rawCutoff, minusDays, if_neg (by omega), Option.map_none]
  simp only [runRetentionTransaction, fails, Option.bind_eq_bind, Option.bind_none]

/-- Every admissible step keeps the readings accounted for. -/
theorem RetentionRun.Conserved.step {settings : RetentionSettings} {run : RetentionRun}
    {step : RetentionStep}
    (ordered : settings.metricsRawRetentionDays ≤ settings.metricsHourlyRetentionDays ∨
      3652058 < settings.metricsRawRetentionDays)
    (admissible : run.Admissible settings step) (inv : ∃ hourly daily, run.Conserved settings hourly daily) :
    ∃ hourly daily, (run.step settings step).Conserved settings hourly daily := by
  obtain ⟨hourly, daily, inv⟩ := inv
  cases step with
  | save snapshot =>
    obtain ⟨late, nonneg⟩ := admissible
    have stored : ∀ reading ∈ readings [snapshot], reading.capturedAt = snapshot.capturedAt := by
      intro reading member
      obtain ⟨drive, _, rfl⟩ := List.mem_map.mp (by simpa [readings] using member)
      rfl
    refine ⟨hourly, daily, { inv with saved := ?_, nonneg := ?_, rawLate := ?_ }⟩
    · change (run.saved ++ readings [snapshot]).Perm
        (readings (run.store.snapshots ++ [snapshot]) ++ (hourly ++ daily))
      rw [readings_append, List.append_assoc]
      exact (inv.saved.append_right _).trans (by
        rw [List.append_assoc]
        exact List.perm_append_comm.append_left _)
    · intro reading member
      rcases List.mem_append.mp member with old | new
      · exact inv.nonneg reading old
      · exact nonneg reading new
    · intro now member cutoff cutoffEq reading present
      change reading ∈ readings (run.store.snapshots ++ [snapshot]) at present
      rw [readings_append] at present
      rcases List.mem_append.mp present with old | new
      · exact inv.rawLate now member cutoff cutoffEq reading old
      · rw [stored reading new]
        exact late now member cutoff cutoffEq
  | retain now =>
    simp only [RetentionRun.step]
    cases result : runRetentionTransaction settings run.store now with
    | none => exact ⟨hourly, daily, inv⟩
    | some after =>
      rcases ordered with ordered | long
      · exact inv.retained ordered result
      · rw [runRetentionTransaction_eq_none admissible.1 long] at result
        cases result

theorem RetentionRun.conserved_initial (settings : RetentionSettings) :
    RetentionRun.initial.Conserved settings [] [] where
  saved := by simp [RetentionRun.initial, readings]
  hourlyAccounts := fun _ => rfl
  dailyAccounts := fun _ => rfl
  nonneg := by simp [RetentionRun.initial]
  rawLate := by simp [RetentionRun.initial]
  hourlyLate := by simp
  hourlyEarly := by simp
  dailyEarly := by simp

theorem RetentionRun.Conserved.accounted {settings : RetentionSettings} {run : RetentionRun}
    {hourly daily : List Reading} (inv : run.Conserved settings hourly daily) :
    Accounted run.saved run.store :=
  ⟨hourly, daily, inv.saved, inv.hourlyAccounts, inv.dailyAccounts⟩

/-! ## The shorter hourly window

Two polls of one hour and the next: the first transaction folds the first hour into its day, the
second one reaches the other hour an hour later and overwrites the daily row.
-/

private def lossDrive : PhysicalDriveSnapshot where
  enclosureId := 252
  slotId := 0
  deviceId := 0
  serialNumber := "S0"
  state := "Onln"
  diskGroupId := some 0
  temperatureCelsius := some 30
  mediaErrors := 0
  otherErrors := 0
  predictiveFailures := 0
  smartAlert := false

private def lossSnapshot (id : ℕ) (capturedAt : ℤ) : ControllerSnapshot where
  id := id
  capturedAt := capturedAt
  alarmState := "On"
  cvPresent := false
  bbuPresent := false
  rocTemperatureCelsius := none
  virtualDrives := []
  physicalDrives := [lossDrive]
  cachevault := none

/-- The run that loses a reading, for any raw window. -/
def lossSteps (settings : RetentionSettings) : List RetentionStep :=
  [.save (lossSnapshot 1 0), .save (lossSnapshot 2 hour),
    .retain (settings.metricsRawRetentionDays * day + hour),
    .retain (settings.metricsRawRetentionDays * day + 2 * hour)]

/-- The tables after both transactions, for any hourly window of whole days. -/
private def lossStore : MetricsStore :=
  pruneHourlyMetrics (pruneRawSnapshots (downsampleToDaily (downsampleToHourly
    (pruneHourlyMetrics (pruneRawSnapshots (downsampleToDaily (downsampleToHourly
      ⟨[lossSnapshot 1 0, lossSnapshot 2 hour], ∅, ∅⟩ hour) day) hour) day)
    (2 * hour)) day) (2 * hour)) day

/-- A cutoff past the first day treats the rows of that day alike, wherever it lies. -/
private theorem retain_firstDay {settings : RetentionSettings} {store : MetricsStore} {now rawCut : ℤ}
    (rawEq : settings.rawCutoff now = some rawCut)
    (shorter : settings.metricsHourlyRetentionDays < settings.metricsRawRetentionDays)
    (late : settings.metricsRawRetentionDays * day ≤ now)
    (firstDay : ∀ entry ∈ (downsampleToHourly store rawCut).hourly.entries, entry.1.bucketStart < day) :
    runRetentionTransaction settings store now =
      some (pruneHourlyMetrics (pruneRawSnapshots (downsampleToDaily
        (downsampleToHourly store rawCut) day) rawCut) day) := by
  have windows : ((settings.metricsHourlyRetentionDays : ℤ) + 1) * day ≤
      settings.metricsRawRetentionDays * day :=
    mul_le_mul_of_nonneg_right (by exact_mod_cast shorter) day_pos.le
  rw [add_mul, one_mul] at windows
  have start : day ≤ now - settings.metricsHourlyRetentionDays * day := by omega
  have positive := day_pos
  have hourlyEq : settings.hourlyCutoff now =
      some (dayBucket (now - settings.metricsHourlyRetentionDays * day)) := by
    rw [RetentionSettings.hourlyCutoff, minusDays, if_pos (by omega), Option.map_some]
  have past := (le_dayBucket_iff (dvd_refl day) _).mpr start
  generalize dayBucket (now - settings.metricsHourlyRetentionDays * day) = cutoff at hourlyEq past
  simp only [runRetentionTransaction, rawEq, hourlyEq, Option.bind_eq_bind, Option.bind_some,
    Option.pure_def, Option.some.injEq]
  have sameDaily : downsampleToDaily (downsampleToHourly store rawCut) cutoff =
      downsampleToDaily (downsampleToHourly store rawCut) day := by
    have rows : ((downsampleToHourly store rawCut).hourly.entries.filter fun entry =>
        decide (entry.1.bucketStart < cutoff)) =
        (downsampleToHourly store rawCut).hourly.entries.filter fun entry =>
          decide (entry.1.bucketStart < day) := by
      apply List.filter_congr
      intro entry member
      have := firstDay entry member
      rw [decide_eq_decide]
      omega
    simp only [downsampleToDaily, rows]
  rw [sameDaily]
  have kept (table : MetricsTable) (firstDay : ∀ entry ∈ table.entries, entry.1.bucketStart < day) :
      table.filterKeys (fun key => decide (cutoff ≤ key.bucketStart)) =
        table.filterKeys fun key => decide (day ≤ key.bucketStart) := by
    simp only [AList.filterKeys, AList.mk.injEq]
    apply List.filter_congr
    intro entry member
    have := firstDay entry member
    rw [decide_eq_decide]
    omega
  simp only [pruneHourlyMetrics]
  rw [kept (pruneRawSnapshots (downsampleToDaily (downsampleToHourly store rawCut) day) rawCut).hourly
    firstDay]

private theorem rawCutoff_add_hours (settings : RetentionSettings) (hours : ℕ) :
    settings.rawCutoff (settings.metricsRawRetentionDays * day + hours * hour) = some (hours * hour) := by
  have start : minusDays (settings.metricsRawRetentionDays * day + hours * hour)
      settings.metricsRawRetentionDays = some (hours * hour) := by
    rw [minusDays, add_sub_cancel_left]
    exact if_pos (mul_nonneg (Int.natCast_nonneg hours) hour_pos.le)
  have aligned : hourBucket (hours * hour) = hours * hour :=
    le_antisymm (hourBucket_le _) ((le_hourBucket_iff (dvd_mul_left ..) _).mpr le_rfl)
  rw [RetentionSettings.rawCutoff, start, Option.map_some, aligned]

private theorem lossSteps_store {settings : RetentionSettings}
    (shorter : settings.metricsHourlyRetentionDays < settings.metricsRawRetentionDays) :
    (lossSteps settings).foldl (RetentionRun.step settings) .initial =
      ⟨lossStore, readings [lossSnapshot 1 0] ++ readings [lossSnapshot 2 hour],
        [settings.metricsRawRetentionDays * day + 2 * hour,
          settings.metricsRawRetentionDays * day + hour]⟩ := by
  have hours := hour_pos
  have first := @retain_firstDay settings ⟨[lossSnapshot 1 0, lossSnapshot 2 hour], ∅, ∅⟩
    (settings.metricsRawRetentionDays * day + hour) hour
    (by simpa using rawCutoff_add_hours settings 1) shorter (by omega) (by decide)
  have second := @retain_firstDay settings (pruneHourlyMetrics (pruneRawSnapshots (downsampleToDaily
      (downsampleToHourly ⟨[lossSnapshot 1 0, lossSnapshot 2 hour], ∅, ∅⟩ hour) day) hour) day)
    (settings.metricsRawRetentionDays * day + 2 * hour) (2 * hour)
    (by simpa using rawCutoff_add_hours settings 2) shorter (by omega) (by decide)
  rw [lossSteps, List.foldl_cons, List.foldl_cons, List.foldl_cons, List.foldl_cons, List.foldl_nil]
  have saves : ((RetentionRun.initial.step settings (.save (lossSnapshot 1 0))).step settings
      (.save (lossSnapshot 2 hour))) =
      ⟨⟨[lossSnapshot 1 0, lossSnapshot 2 hour], ∅, ∅⟩,
        readings [lossSnapshot 1 0] ++ readings [lossSnapshot 2 hour], []⟩ := rfl
  rw [saves, RetentionRun.step_retain first, RetentionRun.step_retain second, lossStore]

private theorem lossSteps_admissible {settings : RetentionSettings}
    (fits : settings.metricsRawRetentionDays ≤ 3652058) :
    Machine.Guarded (RetentionRun.step settings) (RetentionRun.Admissible settings) .initial
      (lossSteps settings) := by
  have hours := hour_pos
  have days := day_eq
  have window : (settings.metricsRawRetentionDays : ℤ) * day ≤ 3652058 * day :=
    mul_le_mul_of_nonneg_right (by exact_mod_cast fits) day_pos.le
  have start := mul_nonneg (Int.natCast_nonneg settings.metricsRawRetentionDays) day_pos.le
  have nonneg (id : ℕ) (t : ℤ) : ∀ reading ∈ readings [lossSnapshot id t], reading.CountersNonneg := by
    intro reading member
    obtain rfl := List.mem_singleton.mp member
    exact ⟨le_rfl, le_rfl, le_rfl⟩
  have limit : datetimeMax = 3652059 * day - 1 := by rw [datetimeMax]
  refine ⟨⟨nofun, nonneg 1 0⟩, ⟨nofun, nonneg 2 hour⟩, ⟨⟨by omega, by omega⟩, nofun⟩,
    ⟨⟨by omega, by omega⟩, ?_⟩, trivial⟩
  intro earlier member
  rcases RetentionRun.mem_applied_retain member with rfl | old
  · omega
  · cases old

/-- The second hour of the day replaces the daily row that counted the first. -/
private theorem not_accounted_lossStore :
    ¬ Accounted (readings [lossSnapshot 1 0] ++ readings [lossSnapshot 2 hour]) lossStore := by
  rintro ⟨hourly, daily, saved, hourlyAccounts, dailyAccounts⟩
  have noHours : hourly = [] := by
    apply List.eq_nil_iff_forall_not_mem.mpr
    intro reading member
    obtain ⟨row, stored⟩ := hourlyAccounts.exists_row member
    have empty : lossStore.hourly.entries = [] := by decide
    rw [AList.lookup, empty] at stored
    cases stored
  have noRaw : readings lossStore.snapshots = [] := by decide
  rw [noHours, noRaw, List.nil_append, List.nil_append] at saved
  have stored : (lossStore.daily.lookup ⟨0, lossDrive.key⟩).map (·.sampleCount) = some 1 := by decide
  obtain ⟨row, rowEq, count⟩ := Option.map_eq_some_iff.mp stored
  have counted := (dailyAccounts.row rowEq).sampleCount
  rw [count, ← (saved.filter _).length_eq] at counted
  exact absurd counted (by decide)

private theorem not_retentionConserves {settings : RetentionSettings}
    (shorter : settings.metricsHourlyRetentionDays < settings.metricsRawRetentionDays)
    (fits : settings.metricsRawRetentionDays ≤ 3652058) : ¬ RetentionConserves settings := by
  intro conserves
  have accounted := (conserves _ (lossSteps_admissible fits)).1
  rw [lossSteps_store shorter] at accounted
  exact not_accounted_lossStore accounted

/-- Retention conserves measurements exactly when the hourly window is no shorter than the raw
window, or when the raw window makes every transaction fail. -/
theorem retentionConserves_iff (settings : RetentionSettings) :
    RetentionConserves settings ↔
      settings.metricsRawRetentionDays ≤ settings.metricsHourlyRetentionDays ∨
        3652058 < settings.metricsRawRetentionDays := by
  constructor
  · intro conserves
    by_contra shorter
    rw [not_or, not_le, not_lt] at shorter
    exact not_retentionConserves shorter.1 shorter.2 conserves
  · intro ordered steps admissible
    have inv := admissible.invariant ⟨[], [], RetentionRun.conserved_initial settings⟩
      fun run step inv admitted => RetentionRun.Conserved.step ordered admitted inv
    obtain ⟨hourly, daily, inv⟩ := inv
    exact ⟨inv.accounted, fun now after success => runRetentionTransaction_idempotent success⟩

/-- Two raw days and one hourly day lose a reading. -/
theorem not_retentionConserves_two_one : ¬ RetentionConserves ⟨2, 1, by decide, by decide⟩ :=
  not_retentionConserves (by decide) (by decide)

end MegaraidDashboard.Db
