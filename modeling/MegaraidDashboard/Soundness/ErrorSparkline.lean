import MegaraidDashboard.Model.Services.DriveDetail

/-! # The sparkline of a drive follows its newest readings

A day of the sparkline stands for the newest reading of the serial that is not later than the day, whatever slot it
comes from and however many days have no reading.
-/

namespace MegaraidDashboard.Services

section Statement

/-- The order of the statement: by time, then by identifier. -/
def RawRow.order (row : RawRow) : ℤ ×ₗ ℕ := toLex (row.reading.capturedAt, row.id)

/-- A stored reading of the serial, not before one instant and before another. -/
structure Reads (rows : List RawRow) (serialNumber : String) (since upTo : ℤ) (row : RawRow) : Prop where
  stored : row ∈ rows
  serial : row.reading.drive.serialNumber = serialNumber
  since : since ≤ row.reading.capturedAt
  before : row.reading.capturedAt < upTo

/-- The newest of the rows that qualify, if one does. -/
inductive Newest (qualifies : RawRow → Prop) : Option RawRow → Prop
  | none (empty : ∀ row, ¬qualifies row) : Newest qualifies none
  | some {row : RawRow} (qualified : qualifies row) (newest : ∀ other, qualifies other → other.order ≤ row.order) :
      Newest qualifies (some row)

/-- The counters of a reading together; without a reading there are no errors. -/
def errorTotal (newest : Option RawRow) : ℤ :=
  newest.elim 0 fun row => row.reading.drive.mediaErrors + row.reading.drive.otherErrors +
    row.reading.drive.predictiveFailures

/-- The sparkline of the days up to the last one, over the rows of the table. -/
structure FollowsReadings (rows : List RawRow) (serialNumber : String) (days endDay : ℤ) (sparkline : ErrorSparkline) :
    Prop where
  dates : sparkline.points.map (·.date) = (List.range days.toNat).map fun offset : ℕ => endDay - (days - 1) + offset
  totals : ∀ point ∈ sparkline.points, ∃ newest,
    Newest (Reads rows serialNumber ((endDay - (days - 1)) * Timestamp.day) ((point.date + 1) * Timestamp.day)) newest ∧
      point.totalCount = errorTotal newest
  deltas : ∀ point ∈ sparkline.points, ∃ before,
    Newest (Reads rows serialNumber ((endDay - (days - 1)) * Timestamp.day) (point.date * Timestamp.day)) before ∧
      point.incrementalDelta = max 0 (point.totalCount - errorTotal before)
  current : ∃ newest, Newest (fun row => row ∈ rows ∧ row.reading.drive.serialNumber = serialNumber) newest ∧
    sparkline.currentTotal = errorTotal newest ∧
    sparkline.mediaErrors = newest.elim 0 (·.reading.drive.mediaErrors) ∧
    sparkline.otherErrors = newest.elim 0 (·.reading.drive.otherErrors) ∧
    sparkline.shieldCounter = newest.elim 0 (·.reading.drive.predictiveFailures)
  covered : sparkline.currentTotal ≤ (sparkline.points.map (·.incrementalDelta)).sum

end Statement

section Rows

variable {rows selected : List RawRow} {serialNumber : String} {startDay endDay : ℤ}

theorem dateOf_lt_iff {timestamp date : ℤ} : dateOf timestamp < date ↔ timestamp < date * Timestamp.day :=
  Int.ediv_lt_iff_lt_mul Timestamp.day_pos

theorem le_dateOf_iff {timestamp date : ℤ} : date ≤ dateOf timestamp ↔ date * Timestamp.day ≤ timestamp :=
  Int.le_ediv_iff_mul_le Timestamp.day_pos

theorem dateOf_mono {first second : ℤ} (le : first ≤ second) : dateOf first ≤ dateOf second :=
  Int.ediv_le_ediv Timestamp.day_pos le

theorem capturedAt_le_of_order {first second : RawRow} (le : first.order ≤ second.order) :
    first.reading.capturedAt ≤ second.reading.capturedAt :=
  (Prod.Lex.toLex_le_toLex.mp le).elim le_of_lt fun same => same.1.le

theorem mem_sparklineRows {row : RawRow} : row ∈ sparklineRows rows serialNumber startDay endDay ↔
    Reads rows serialNumber (startDay * Timestamp.day) ((endDay + 1) * Timestamp.day) row := by
  rw [sparklineRows, List.mem_orderBy, List.mem_filter, Bool.and_eq_true, Bool.and_eq_true, beq_iff_eq,
    decide_eq_true_iff, decide_eq_true_iff]
  exact ⟨fun ⟨stored, ⟨serial, since⟩, before⟩ => ⟨stored, serial, since, before⟩,
    fun ⟨stored, serial, since, before⟩ => ⟨stored, ⟨serial, since⟩, before⟩⟩

theorem sorted_sparklineRows : (sparklineRows rows serialNumber startDay endDay).Pairwise fun first second =>
    first.order ≤ second.order :=
  List.pairwise_orderBy _ _

/-- In the order of time, the last row is the newest. -/
theorem newest_getLast? {qualifies : RawRow → Prop}
    (sorted : selected.Pairwise fun first second => first.order ≤ second.order)
    (members : ∀ row, row ∈ selected ↔ qualifies row) : Newest qualifies selected.getLast? := by
  rw [← List.latest?_eq_getLast? sorted]
  rcases found : selected.latest? RawRow.order with _ | row
  · obtain rfl := List.latest?_eq_none.mp found
    exact .none fun row qualified => List.not_mem_nil ((members row).mpr qualified)
  · refine .some ((members row).mp (List.latest?_mem found)) fun other qualified => ?_
    exact List.le_of_latest? found ((members other).mpr qualified)

/-- The rows up to a day, in the order of time: those before it, then its own. -/
theorem filter_dateOf_lt_succ (sorted : selected.Pairwise fun first second => first.order ≤ second.order) (date : ℤ) :
    selected.filter (fun row => decide (dateOf row.reading.capturedAt < date + 1)) =
      selected.filter (fun row => decide (dateOf row.reading.capturedAt < date)) ++
        selected.filter (fun row => decide (dateOf row.reading.capturedAt = date)) := by
  induction selected with
  | nil => rfl
  | cons first rest ih =>
    obtain ⟨least, sorted⟩ := List.pairwise_cons.mp sorted
    have later (row : RawRow) (member : row ∈ rest) :
        dateOf first.reading.capturedAt ≤ dateOf row.reading.capturedAt :=
      dateOf_mono (capturedAt_le_of_order (least row member))
    rcases lt_trichotomy (dateOf first.reading.capturedAt) date with earlier | same | after
    · rw [List.filter_cons_of_pos (by simp; omega), List.filter_cons_of_pos (by simpa using earlier),
        List.filter_cons_of_neg (by simpa using earlier.ne), ih sorted, List.cons_append]
    · have none_before : rest.filter (fun row => decide (dateOf row.reading.capturedAt < date)) = [] := by
        refine List.filter_eq_nil_iff.mpr fun row member => ?_
        have := later row member
        simp; omega
      rw [List.filter_cons_of_pos (by simp; omega), List.filter_cons_of_neg (by simp; omega),
        List.filter_cons_of_pos (by simpa using same), ih sorted, none_before]
      rfl
    · rw [List.filter_cons_of_neg (by simp; omega), List.filter_cons_of_neg (by simp; omega),
        List.filter_cons_of_neg (by simp; omega), ih sorted]

end Rows

section Days

variable {selected : List RawRow} {startDay : ℤ}

theorem lookup_recordDay {latestByDay : AList fun _ : ℤ => DailyErrorSnapshot} {daily : DailyErrorSnapshot}
    (newest : ∀ previous ∈ latestByDay.lookup daily.day, previous.capturedAt ≤ daily.capturedAt) (date : ℤ) :
    (recordDay latestByDay daily).lookup date = if date = daily.day then some daily else latestByDay.lookup date := by
  have inserted : recordDay latestByDay daily = latestByDay.insert daily.day daily := by
    rw [recordDay]
    split
    · rfl
    · next previous found => exact if_pos (newest previous found)
  rw [inserted]
  split
  · next same => rw [same, AList.lookup_insert]
  · next other => rw [AList.lookup_insert_ne other]

/-- The first loop keeps the last row of each day. -/
theorem lookup_recordDays (sorted : selected.Pairwise fun first second => first.order ≤ second.order) :
    ∀ date, (selected.foldl (fun found row => recordDay found row.daily) ∅).lookup date =
      ((selected.filter fun row => decide (dateOf row.reading.capturedAt = date)).getLast?).map RawRow.daily := by
  induction selected using List.reverseRecOn with
  | nil => exact fun _ => rfl
  | append_singleton earlier last ih =>
    intro date
    obtain ⟨sorted, -, newest⟩ := List.pairwise_append.mp sorted
    have ih := ih sorted
    have fresh : ∀ previous ∈ (earlier.foldl (fun found row => recordDay found row.daily) ∅).lookup last.daily.day,
        previous.capturedAt ≤ last.daily.capturedAt := by
      intro previous found
      rw [ih, Option.mem_def, Option.map_eq_some_iff] at found
      obtain ⟨row, least, rfl⟩ := found
      have member := List.mem_of_mem_filter (List.mem_of_getLast? least)
      exact capturedAt_le_of_order (newest row member last List.mem_cons_self)
    rw [List.foldl_append, List.foldl_cons, List.foldl_nil, lookup_recordDay fresh, ih, List.filter_append]
    split
    · next same =>
      have own : dateOf last.reading.capturedAt = date := same.symm
      rw [List.filter_cons_of_pos (by simpa using own), List.filter_nil, List.getLast?_concat]
      rfl
    · next other =>
      have foreign : dateOf last.reading.capturedAt ≠ date := Ne.symm other
      rw [List.filter_cons_of_neg (by simpa using foreign), List.filter_nil, List.append_nil]

/-- The last row before a day. -/
def carried (selected : List RawRow) (date : ℤ) : Option RawRow :=
  (selected.filter fun row => decide (dateOf row.reading.capturedAt < date)).getLast?

/-- The snapshot that stands for the last row. -/
def carriedSnapshot (startDay : ℤ) (newest : Option RawRow) : DailyErrorSnapshot :=
  newest.elim ⟨startDay, 0, 0, 0, 0, 0⟩ RawRow.daily

theorem total_carriedSnapshot (newest : Option RawRow) : (carriedSnapshot startDay newest).total = errorTotal newest := by
  cases newest with
  | none => rfl
  | some row => simp [carriedSnapshot, DailyErrorSnapshot.total, RawRow.daily, errorTotal]

/-- A day's row replaces the row carried so far, if the day has one. -/
theorem carriedSnapshot_succ (sorted : selected.Pairwise fun first second => first.order ≤ second.order) (date : ℤ) :
    (((selected.foldl (fun found row => recordDay found row.daily) ∅).lookup date).getD
      (carriedSnapshot startDay (carried selected date))) = carriedSnapshot startDay (carried selected (date + 1)) := by
  rw [lookup_recordDays sorted, carried, carried, filter_dateOf_lt_succ sorted, List.getLast?_append]
  cases (selected.filter fun row => decide (dateOf row.reading.capturedAt = date)).getLast? with
  | none => rfl
  | some row => rfl

/-- The point that the second loop makes of a day. -/
def carriedPoint (selected : List RawRow) (date : ℤ) : ErrorSparklinePoint where
  date
  totalCount := errorTotal (carried selected (date + 1))
  incrementalDelta := max 0 (errorTotal (carried selected (date + 1)) - errorTotal (carried selected date))

@[simp] theorem date_carriedPoint (date : ℤ) : (carriedPoint selected date).date = date := rfl

/-- Before the first day nothing is carried. -/
theorem carried_startDay (within : ∀ row ∈ selected, startDay ≤ dateOf row.reading.capturedAt) :
    carried selected startDay = none := by
  rw [carried, List.getLast?_eq_none_iff, List.filter_eq_nil_iff]
  intro row member
  have lower := within row member
  simpa using lower

/-- The second loop after its first days: it carries the last row before the next day. -/
theorem foldl_sparklineStep (sorted : selected.Pairwise fun first second => first.order ≤ second.order)
    (within : ∀ row ∈ selected, startDay ≤ dateOf row.reading.capturedAt) (days : ℕ) :
    (List.range days).foldl
        (SparklineLoop.step startDay (selected.foldl (fun found row => recordDay found row.daily) ∅)) (.start startDay) =
      { points := (List.range days).map fun offset : ℕ => carriedPoint selected (startDay + offset)
        previousTotal := errorTotal (carried selected (startDay + days))
        latest := carriedSnapshot startDay (carried selected (startDay + days)) } := by
  induction days with
  | zero =>
    rw [Nat.cast_zero, add_zero, carried_startDay within]
    rfl
  | succ days ih =>
    rw [List.range_succ, List.foldl_append, List.foldl_cons, List.foldl_nil, ih, SparklineLoop.step]
    simp only [carriedSnapshot_succ sorted, total_carriedSnapshot, List.map_append, List.map_cons, List.map_nil]
    rw [Nat.cast_succ, ← add_assoc]
    rfl

/-- The increments cover the last total. -/
theorem errorTotal_le_sum (within : ∀ row ∈ selected, startDay ≤ dateOf row.reading.capturedAt) (days : ℕ) :
    errorTotal (carried selected (startDay + days)) ≤
      (((List.range days).map fun offset : ℕ => carriedPoint selected (startDay + offset)).map (·.incrementalDelta)).sum := by
  induction days with
  | zero =>
    rw [Nat.cast_zero, add_zero, carried_startDay within]
    exact le_rfl
  | succ days ih =>
    have step := le_max_right 0
      (errorTotal (carried selected (startDay + days + 1)) - errorTotal (carried selected (startDay + days)))
    rw [List.range_succ, List.map_append, List.map_append, List.sum_append, Nat.cast_succ, ← add_assoc]
    simp only [List.map_cons, List.map_nil, List.sum_cons, List.sum_nil, carriedPoint]
    simp only [carriedPoint] at ih
    omega

end Days

section Sparkline

variable {rows : List RawRow} {serialNumber : String} {days endDay todayUtc : ℤ}

/-- The row carried into a day is the newest before it. -/
theorem newest_carried {startDay date : ℤ} (bound : date ≤ endDay + 1) :
    Newest (Reads rows serialNumber (startDay * Timestamp.day) (date * Timestamp.day))
      (carried (sparklineRows rows serialNumber startDay endDay) date) := by
  refine newest_getLast? (sorted_sparklineRows.filter _) fun row => ?_
  rw [List.mem_filter, mem_sparklineRows, decide_eq_true_iff, dateOf_lt_iff]
  constructor
  · exact fun ⟨reads, before⟩ => { reads with before }
  · intro reads
    refine ⟨{ reads with before := reads.before.trans_le ?_ }, reads.before⟩
    exact Int.mul_le_mul_of_nonneg_right bound Timestamp.day_pos.le

/-- The last day is that of the newest reading of the serial, so that its window holds the newest reading. -/
theorem newest_of_window {startDay : ℤ} (ordered : startDay ≤ sparklineEndDay rows serialNumber todayUtc)
    {newest : Option RawRow}
    (inWindow : Newest (Reads rows serialNumber (startDay * Timestamp.day)
      ((sparklineEndDay rows serialNumber todayUtc + 1) * Timestamp.day)) newest) :
    Newest (fun row => row ∈ rows ∧ row.reading.drive.serialNumber = serialNumber) newest := by
  have last (row : RawRow) (stored : row ∈ rows) (serial : row.reading.drive.serialNumber = serialNumber) :
      row.reading.capturedAt < (sparklineEndDay rows serialNumber todayUtc + 1) * Timestamp.day ∧
        ∃ top, Reads rows serialNumber (startDay * Timestamp.day)
          ((sparklineEndDay rows serialNumber todayUtc + 1) * Timestamp.day) top := by
    have member : row.reading.capturedAt ∈ (rows.filter fun row => row.reading.drive.serialNumber == serialNumber).map
        (·.reading.capturedAt) :=
      List.mem_map.mpr ⟨row, List.mem_filter.mpr ⟨stored, beq_iff_eq.mpr serial⟩, rfl⟩
    obtain ⟨greatest, found⟩ := Option.isSome_iff_exists.mp (List.isSome_max?_of_mem member)
    have lastDay : sparklineEndDay rows serialNumber todayUtc = dateOf greatest := by
      rw [sparklineEndDay, found]
      rfl
    have le := List.le_of_max?_eq_some found member
    obtain ⟨top, inside, rfl⟩ := List.mem_map.mp (List.max?_mem found)
    obtain ⟨topStored, topSerial⟩ := List.mem_filter.mp inside
    rw [lastDay] at ordered ⊢
    have before := dateOf_lt_iff.mp (lt_add_one (dateOf top.reading.capturedAt))
    exact ⟨le.trans_lt before, top, topStored, beq_iff_eq.mp topSerial, le_dateOf_iff.mp ordered, before⟩
  cases inWindow with
  | none empty =>
    refine .none fun row ⟨stored, serial⟩ => ?_
    obtain ⟨-, top, reads⟩ := last row stored serial
    exact empty top reads
  | some qualified newest =>
    refine .some ⟨qualified.stored, qualified.serial⟩ fun other ⟨stored, serial⟩ => ?_
    by_cases since : startDay * Timestamp.day ≤ other.reading.capturedAt
    · exact newest other ⟨stored, serial, since, (last other stored serial).1⟩
    · exact Prod.Lex.toLex_le_toLex.mpr (.inl ((not_le.mp since).trans_le qualified.since))

/-- Over any rows, the sparkline of a serial follows its readings. -/
theorem error_sparkline_follows_readings (rows : List RawRow) (serialNumber : String) (days todayUtc : ℤ)
    (positive : 0 < days) (starts : days - 1 ≤ sparklineEndDay rows serialNumber todayUtc)
    (ends : sparklineEndDay rows serialNumber todayUtc < dateMax) :
    ∃ sparkline, loadErrorSparkline rows serialNumber days todayUtc = .ok sparkline ∧
      FollowsReadings rows serialNumber days (sparklineEndDay rows serialNumber todayUtc) sparkline := by
  have fits : ¬(sparklineEndDay rows serialNumber todayUtc - (days - 1) < 0 ∨
      dateMax ≤ sparklineEndDay rows serialNumber todayUtc) := by omega
  have ordered : sparklineEndDay rows serialNumber todayUtc - (days - 1) ≤ sparklineEndDay rows serialNumber todayUtc := by
    omega
  have stop : sparklineEndDay rows serialNumber todayUtc - (days - 1) + days.toNat =
      sparklineEndDay rows serialNumber todayUtc + 1 := by omega
  have within : ∀ row ∈ sparklineRows rows serialNumber (sparklineEndDay rows serialNumber todayUtc - (days - 1))
      (sparklineEndDay rows serialNumber todayUtc),
      sparklineEndDay rows serialNumber todayUtc - (days - 1) ≤ dateOf row.reading.capturedAt :=
    fun row member => le_dateOf_iff.mpr (mem_sparklineRows.mp member).since
  rw [loadErrorSparkline, if_neg (not_le.mpr positive)]
  dsimp only
  rw [if_neg fits, foldl_sparklineStep sorted_sparklineRows within]
  refine ⟨_, rfl, ?_, ?_, ?_, ?_, ?_⟩
  · exact List.map_map
  · intro point member
    obtain ⟨offset, inside, rfl⟩ := List.mem_map.mp member
    have early := List.mem_range.mp inside
    refine ⟨_, newest_carried ?_, rfl⟩
    rw [date_carriedPoint]
    omega
  · intro point member
    obtain ⟨offset, inside, rfl⟩ := List.mem_map.mp member
    have early := List.mem_range.mp inside
    refine ⟨_, newest_carried ?_, rfl⟩
    rw [date_carriedPoint]
    omega
  · have window : Newest (Reads rows serialNumber
        ((sparklineEndDay rows serialNumber todayUtc - (days - 1)) * Timestamp.day)
        ((sparklineEndDay rows serialNumber todayUtc + 1) * Timestamp.day)) _ := newest_carried le_rfl
    have newest := newest_of_window ordered window
    rw [← stop] at newest
    refine ⟨_, newest, total_carriedSnapshot _, ?_⟩
    cases carried _ _ with
    | none => exact ⟨rfl, rfl, rfl⟩
    | some row => exact ⟨rfl, rfl, rfl⟩
  · exact (total_carriedSnapshot _).trans_le (errorTotal_le_sum within days.toNat)

/-- Two readings of one day, one of the day after next in another slot, and one of another serial. -/
private def sparklineTable : List RawRow :=
  [⟨1, 100 * Timestamp.day + 5, 252, 4, 9, "A", "Onln", some 0, some 31, 2, 1, 0, false⟩,
    ⟨2, 100 * Timestamp.day + 9, 252, 4, 9, "A", "Onln", some 0, some 31, 3, 1, 0, false⟩,
    ⟨3, 102 * Timestamp.day, 252, 6, 11, "A", "Onln", some 0, some 31, 3, 1, 4, false⟩,
    ⟨4, 103 * Timestamp.day, 252, 4, 9, "B", "Onln", some 0, some 31, 9, 9, 9, false⟩]

theorem error_sparkline_follows_readings_moved :
    ∃ sparkline, loadErrorSparkline sparklineTable "A" 7 0 = .ok sparkline ∧
      FollowsReadings sparklineTable "A" 7 (sparklineEndDay sparklineTable "A" 0) sparkline :=
  error_sparkline_follows_readings sparklineTable "A" 7 0 (by decide) (by decide) (by decide)

end Sparkline

end MegaraidDashboard.Services
