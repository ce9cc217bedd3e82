import MegaraidDashboard.Model.Python.Text
import MegaraidDashboard.Model.Time

/-! # Dates and numbers as text

The calendar arithmetic of `datetime`, `isoformat` on UTC values and `fromisoformat` on the forms that
`isoformat` writes, `int` on decimal text, and the percent encoding of a query value on ASCII text.
-/

namespace MegaraidDashboard.Py

/-! ## Calendar -/

section Calendar

/-- `_is_leap` -/
def isLeap (year : ℕ) : Bool := year % 4 == 0 && (year % 100 != 0 || year % 400 == 0)

/-- `_days_before_year` -/
def daysBeforeYear (year : ℕ) : ℕ := (year - 1) * 365 + (year - 1) / 4 - (year - 1) / 100 + (year - 1) / 400

/-- `_days_in_month`, by the kind of year -/
def daysInMonth (leap : Bool) (month : ℕ) : ℕ :=
  [0, 31, 28, 31, 30, 31, 30, 31, 31, 30, 31, 30, 31].getD month 0 + if month == 2 && leap then 1 else 0

/-- `_days_before_month`, by the kind of year -/
def daysBeforeMonth (leap : Bool) (month : ℕ) : ℕ :=
  [0, 0, 31, 59, 90, 120, 151, 181, 212, 243, 273, 304, 334].getD month 0 +
    if decide (2 < month) && leap then 1 else 0

structure Date where
  year : ℕ
  month : ℕ
  day : ℕ
deriving DecidableEq, Repr

/-- `_ymd2ord` -/
def ymd2ord (date : Date) : ℕ :=
  daysBeforeYear date.year + daysBeforeMonth (isLeap date.year) date.month + date.day

/-- The month and the day of a day of the year, counted from zero. -/
def monthDay (leap : Bool) (n : ℕ) : ℕ × ℕ :=
  let month := (n + 50) / 32
  let preceding := daysBeforeMonth leap month
  if n < preceding then (month - 1, n - (preceding - daysInMonth leap (month - 1)) + 1)
  else (month, n - preceding + 1)

/-- `_ord2ymd` -/
def ord2ymd (ordinal : ℕ) : Date :=
  let n400 := (ordinal - 1) / 146097
  let n := (ordinal - 1) % 146097
  let n100 := n / 36524
  let n := n % 36524
  let n4 := n / 1461
  let n := n % 1461
  let n1 := n / 365
  let n := n % 365
  let year := n400 * 400 + n100 * 100 + n4 * 4 + n1 + 1
  if n1 = 4 ∨ n100 = 4 then ⟨year - 1, 12, 31⟩
  else
    let monthDay := monthDay (n1 == 3 && (n4 != 24 || n100 == 3)) n
    ⟨year, monthDay.1, monthDay.2⟩

/-- The check of the `date` constructor. -/
def Date.Valid (date : Date) : Prop :=
  (1 ≤ date.year ∧ date.year ≤ 9999) ∧ (1 ≤ date.month ∧ date.month ≤ 12) ∧
    1 ≤ date.day ∧ date.day ≤ daysInMonth (isLeap date.year) date.month

instance (date : Date) : Decidable date.Valid := inferInstanceAs (Decidable (_ ∧ _))

private theorem monthDay_table (leap : Bool) : ∀ n < 365 + leap.toNat,
    (1 ≤ (monthDay leap n).1 ∧ (monthDay leap n).1 ≤ 12) ∧
      (1 ≤ (monthDay leap n).2 ∧ (monthDay leap n).2 ≤ daysInMonth leap (monthDay leap n).1) ∧
      daysBeforeMonth leap (monthDay leap n).1 + (monthDay leap n).2 = n + 1 := by
  cases leap <;> decide +kernel

/-- The kind of the year at its place in the cycles of 400, 100 and 4 years. -/
private theorem isLeap_cycle (n400 : ℕ) {n100 n4 n1 : ℕ} (centuries : n100 < 4) (fours : n4 < 25) (years : n1 < 4) :
    isLeap (n400 * 400 + n100 * 100 + n4 * 4 + n1 + 1) = (n1 == 3 && (n4 != 24 || n100 == 3)) := by
  rw [Bool.eq_iff_iff]
  simp only [isLeap, Bool.and_eq_true, Bool.or_eq_true, beq_iff_eq, bne_iff_ne, ne_eq]
  omega

private theorem daysBeforeYear_cycle (n400 : ℕ) {n100 n4 n1 : ℕ} (centuries : n100 < 4) (fours : n4 < 25)
    (years : n1 < 4) : daysBeforeYear (n400 * 400 + n100 * 100 + n4 * 4 + n1 + 1) =
      n400 * 146097 + n100 * 36524 + n4 * 1461 + n1 * 365 := by
  simp only [daysBeforeYear]
  omega

/-- The last day of a cycle is the last day of a leap year. -/
private theorem lastDay_cycle {year ordinal : ℕ} (leap : isLeap year = true)
    (whole : daysBeforeYear year + 366 = ordinal) (bound : 1 ≤ year ∧ year ≤ 9999) :
    ymd2ord ⟨year, 12, 31⟩ = ordinal ∧ Date.Valid ⟨year, 12, 31⟩ := by
  have table : 31 ≤ daysInMonth true 12 := by decide
  refine ⟨?_, bound, by simp, by simp, ?_⟩
  · rw [← whole, ymd2ord, leap, Nat.add_assoc]
    rfl
  · rw [leap]
    exact table

/-- The date of every day that `date` can hold is valid and leads back to the day. -/
theorem ymd2ord_ord2ymd {ordinal : ℕ} (positive : 1 ≤ ordinal) (bound : ordinal ≤ 3652059) :
    ymd2ord (ord2ymd ordinal) = ordinal ∧ (ord2ymd ordinal).Valid := by
  unfold ord2ymd
  extract_lets n400 r400 n100 r100 n4 r4 n1 r1 year
  have split : ordinal - 1 = n400 * 146097 + n100 * 36524 + n4 * 1461 + n1 * 365 + r1 := by omega
  have centuries : n100 ≤ 4 := by omega
  have fours : n4 ≤ 24 := by omega
  have years : n1 ≤ 4 := by omega
  have rest : r1 < 365 := by omega
  have era : n400 < 25 := by omega
  split_ifs with last
  · rcases last with lastYear | lastCentury
    · have century : n100 < 4 := by omega
      have final : r1 = 0 := by omega
      have place : year - 1 = n400 * 400 + n100 * 100 + n4 * 4 + 3 + 1 := by omega
      rw [place]
      apply lastDay_cycle
      · rw [isLeap_cycle n400 century (by omega) (by omega)]
        have : n4 ≠ 24 ∨ n100 = 3 := by omega
        simpa using this
      · rw [daysBeforeYear_cycle n400 century (by omega) (by omega)]
        omega
      · omega
    · have final : n4 = 0 ∧ n1 = 0 ∧ r1 = 0 := by omega
      have place : year - 1 = n400 * 400 + 3 * 100 + 24 * 4 + 3 + 1 := by omega
      rw [place]
      apply lastDay_cycle
      · exact @isLeap_cycle n400 3 24 3 (by omega) (by omega) (by omega)
      · rw [@daysBeforeYear_cycle n400 3 24 3 (by omega) (by omega) (by omega)]
        omega
      · omega
  · have century : n100 < 4 := by omega
    have leap := @isLeap_cycle n400 n100 n4 n1 century (by omega) (by omega)
    have before := @daysBeforeYear_cycle n400 n100 n4 n1 century (by omega) (by omega)
    obtain ⟨month, day, table⟩ := monthDay_table (n1 == 3 && (n4 != 24 || n100 == 3)) r1 (by omega)
    have yearBound : 1 ≤ year ∧ year ≤ 9999 := by omega
    refine ⟨?_, yearBound, month, day.1, ?_⟩
    · change daysBeforeYear year + daysBeforeMonth (isLeap year) (monthDay _ r1).1 + (monthDay _ r1).2 = ordinal
      rw [leap, before, Nat.add_assoc, table]
      omega
    · change (monthDay _ r1).2 ≤ daysInMonth (isLeap year) (monthDay _ r1).1
      rw [leap]
      exact day.2

end Calendar

/-! ## Digits -/

section Digits

/-- The `width` last decimal digits, as `%02d` and its like print a number that fits. -/
def zeroPadded : ℕ → ℕ → List Char
  | 0, _ => []
  | width + 1, n => zeroPadded width (n / 10) ++ [(n % 10).digitChar]

/-- The number that the first `width` characters spell, and the characters after them. -/
def readDigits (width : ℕ) (chars : List Char) : Option (ℕ × List Char) :=
  let digits := chars.take width
  if digits.length = width ∧ ∀ c ∈ digits, c.isDigit = true then
    some (Nat.ofDigitChars 10 digits 0, chars.drop width)
  else none

theorem length_zeroPadded (width n : ℕ) : (zeroPadded width n).length = width := by
  induction width generalizing n with
  | zero => rfl
  | succ width ih => rw [zeroPadded, List.length_append, ih, List.length_singleton]

theorem isDigit_of_mem_zeroPadded {width n : ℕ} {c : Char} (member : c ∈ zeroPadded width n) :
    c.isDigit = true := by
  induction width generalizing n with
  | zero => cases member
  | succ width ih =>
    rw [zeroPadded, List.mem_append, List.mem_singleton] at member
    rcases member with front | rfl
    · exact ih front
    · rw [Nat.isDigit_digitChar]
      exact decide_eq_true (Nat.mod_lt n (by decide))

theorem ofDigitChars_zeroPadded {width n : ℕ} (fits : n < 10 ^ width) :
    Nat.ofDigitChars 10 (zeroPadded width n) 0 = n := by
  induction width generalizing n with
  | zero =>
    rw [pow_zero] at fits
    rw [zeroPadded, Nat.ofDigitChars_nil]
    omega
  | succ width ih =>
    have front : n / 10 < 10 ^ width := by
      rw [pow_succ] at fits
      omega
    rw [zeroPadded, Nat.ofDigitChars_append, ih front,
      Nat.ofDigitChars_cons_digitChar_of_lt_ten (Nat.mod_lt n (by decide)), Nat.ofDigitChars_nil]
    omega

/-- A printed number reads back. -/
theorem readDigits_zeroPadded {width n : ℕ} (fits : n < 10 ^ width) (rest : List Char) :
    readDigits width (zeroPadded width n ++ rest) = some (n, rest) := by
  have front : (zeroPadded width n ++ rest).take width = zeroPadded width n :=
    List.take_left' (length_zeroPadded width n)
  have back : (zeroPadded width n ++ rest).drop width = rest := List.drop_left' (length_zeroPadded width n)
  rw [readDigits, front, back, ofDigitChars_zeroPadded fits]
  exact if_pos ⟨length_zeroPadded width n, fun c member => isDigit_of_mem_zeroPadded member⟩

/-- The digit groups of an integer literal: ASCII digits, with single underscores between them. -/
def readDigitGroups : List Char → Option (List Char)
  | [] => none
  | [c] => if c.isDigit then some [c] else none
  | c :: '_' :: rest => if c.isDigit then (readDigitGroups rest).map (c :: ·) else none
  | c :: rest => if c.isDigit then (readDigitGroups rest).map (c :: ·) else none

/-- `int(text)` on text whose digits are ASCII; no result is the `ValueError`. -/
def parseInt (text : String) : Option ℤ :=
  match (strip text).toList with
  | '-' :: rest => (readDigitGroups rest).map fun digits => -Nat.ofDigitChars 10 digits 0
  | '+' :: rest => (readDigitGroups rest).map fun digits => Nat.ofDigitChars 10 digits 0
  | chars => (readDigitGroups chars).map fun digits => Nat.ofDigitChars 10 digits 0

theorem readDigitGroups_of_isDigit {digits : List Char} (some_ : digits ≠ [])
    (all : ∀ c ∈ digits, c.isDigit = true) : readDigitGroups digits = some digits := by
  induction digits with
  | nil => exact absurd rfl some_
  | cons c rest ih =>
    have digit : c.isDigit = true := all c List.mem_cons_self
    cases rest with
    | nil => rw [readDigitGroups, if_pos digit]
    | cons d rest =>
      have second : d.isDigit = true := all d (List.mem_cons_of_mem _ List.mem_cons_self)
      have other : d ≠ '_' := by
        rintro rfl
        exact absurd second (by decide)
      rw [readDigitGroups, if_pos digit, ih (List.cons_ne_nil d rest) fun x inside => all x (List.mem_cons_of_mem _ inside)]
      · rfl
      · exact List.cons_ne_nil d rest
      · intro tail same
        exact other (List.cons.inj same).1

/-- A text of characters that are no whitespace is stripped already. -/
theorem strip_of_notSpace {chars : List Char} (solid : ∀ c ∈ chars, isSpace c = false) :
    strip (String.ofList chars) = String.ofList chars := by
  have kept : ∀ l : List Char, (∀ c ∈ l, isSpace c = false) → l.dropWhile isSpace = l := by
    intro l solid
    cases l with
    | nil => rfl
    | cons c rest => rw [List.dropWhile_cons_of_neg (by simp [solid c List.mem_cons_self])]
  rw [strip, String.toList_ofList, kept chars solid, kept, List.reverse_reverse]
  exact fun c member => solid c (List.mem_reverse.mp member)

theorem isSpace_of_isDigit {c : Char} (digit : c.isDigit = true) : isSpace c = false := by
  simp only [Char.isDigit, ge_iff_le, Bool.and_eq_true, decide_eq_true_eq, UInt32.le_iff_toNat_le] at digit
  have bounds : 48 ≤ c.toNat ∧ c.toNat ≤ 57 := digit
  simp only [isSpace, Bool.or_eq_false_iff, Bool.and_eq_false_iff, decide_eq_false_iff_not, beq_eq_false_iff_ne]
  omega

/-- `int(str(n))` for a natural number. -/
theorem parseInt_toString (n : ℕ) : parseInt (toString n) = some (n : ℤ) := by
  have digits : ∀ c ∈ Nat.toDigits 10 n, c.isDigit = true := fun c member =>
    Nat.isDigit_of_mem_toDigits (by decide) (by decide) member
  have text : toString n = String.ofList (Nat.toDigits 10 n) := Nat.repr_eq_ofList_toDigits
  have groups := readDigitGroups_of_isDigit Nat.toDigits_ne_nil digits
  have value : Nat.ofDigitChars 10 (Nat.toDigits 10 n) 0 = n := Nat.ofDigitChars_ten_toDigits
  rw [parseInt, text, strip_of_notSpace fun c member => isSpace_of_isDigit (digits c member), String.toList_ofList]
  split
  · next rest same =>
    exact absurd (digits '-' (same ▸ List.mem_cons_self)) (by decide)
  · next rest same =>
    exact absurd (digits '+' (same ▸ List.mem_cons_self)) (by decide)
  · rw [groups, Option.map_some, value]

end Digits

/-! ## Instants -/

section Instants

open Timestamp

/-- `datetime.isoformat` of a UTC value. -/
def isoformat (t : ℤ) : String :=
  let date := ord2ymd ((t / day).toNat + 1)
  let seconds := (t % day / second).toNat
  let microsecond := (t % second).toNat
  String.ofList (zeroPadded 4 date.year ++ '-' :: zeroPadded 2 date.month ++ '-' :: zeroPadded 2 date.day ++
    'T' :: zeroPadded 2 (seconds / 3600) ++ ':' :: zeroPadded 2 (seconds / 60 % 60) ++ ':' ::
      zeroPadded 2 (seconds % 60) ++ (if microsecond = 0 then [] else '.' :: zeroPadded 6 microsecond) ++
    "+00:00".toList)

/-- The rest of the characters behind an expected one. -/
def readChar (expected : Char) : List Char → Option (List Char)
  | [] => none
  | c :: rest => if c = expected then some rest else none

/-- `YYYY-MM-DD` of a valid date. -/
def readDate (chars : List Char) : Option (Date × List Char) := do
  let (year, chars) ← readDigits 4 chars
  let chars ← readChar '-' chars
  let (month, chars) ← readDigits 2 chars
  let chars ← readChar '-' chars
  let (day, chars) ← readDigits 2 chars
  if Date.Valid ⟨year, month, day⟩ then some (⟨year, month, day⟩, chars) else none

/-- `HH:MM:SS`, in seconds. -/
def readClock (chars : List Char) : Option (ℕ × List Char) := do
  let (hour, chars) ← readDigits 2 chars
  let chars ← readChar ':' chars
  let (minute, chars) ← readDigits 2 chars
  let chars ← readChar ':' chars
  let (second, chars) ← readDigits 2 chars
  if hour < 24 ∧ minute < 60 ∧ second < 60 then some (hour * 3600 + minute * 60 + second, chars) else none

/-- The optional `.ffffff`. -/
def readFraction : List Char → Option (ℕ × List Char)
  | '.' :: chars => readDigits 6 chars
  | chars => some (0, chars)

/-- The optional `Z`, `+HH:MM` or `-HH:MM` at the end, in microseconds east of UTC. -/
def readOffset : List Char → Option (Option ℤ)
  | [] => some none
  | ['Z'] => some (some 0)
  | sign :: chars => do
    let (hours, chars) ← readDigits 2 chars
    let chars ← readChar ':' chars
    let (minutes, chars) ← readDigits 2 chars
    let offset := hours * hour + minutes * minute
    if chars ≠ [] ∨ 24 ≤ hours ∨ 60 ≤ minutes then none
    else if sign = '+' then some (some offset)
    else if sign = '-' then some (some (-offset))
    else none

/-- A `datetime`: the local time in microseconds and, for an aware value, its offset. -/
structure LocalTime where
  time : ℤ
  utcoffset : Option ℤ
deriving DecidableEq, Repr

/-- `datetime.fromisoformat` on the forms `YYYY-MM-DDTHH:MM:SS[.ffffff][offset]`, with any separator of
one character between the date and the time; no result is the `ValueError`. -/
def fromisoformat (text : String) : Option LocalTime := do
  let (date, chars) ← readDate text.toList
  let chars := chars.drop 1
  let (seconds, chars) ← readClock chars
  let (microseconds, chars) ← readFraction chars
  let utcoffset ← readOffset chars
  some ⟨(ymd2ord date - 1) * day + seconds * second + microseconds, utcoffset⟩

@[simp] theorem readChar_cons (c : Char) (rest : List Char) : readChar c (c :: rest) = some rest := if_pos rfl

theorem readDate_zeroPadded {date : Date} (valid : date.Valid) (rest : List Char) :
    readDate (zeroPadded 4 date.year ++ '-' :: (zeroPadded 2 date.month ++ '-' :: (zeroPadded 2 date.day ++ rest))) =
      some (date, rest) := by
  obtain ⟨yearBound, monthBound, dayBound⟩ := valid
  have short : daysInMonth (isLeap date.year) date.month ≤ 31 + 1 := by
    have table : ∀ leap, ∀ month ≤ 12, daysInMonth leap month ≤ 31 + 1 := by decide
    exact table _ _ monthBound.2
  have year : date.year < 10 ^ 4 := by omega
  have month : date.month < 10 ^ 2 := by omega
  have day : date.day < 10 ^ 2 := by omega
  rw [readDate, readDigits_zeroPadded year]
  simp only [Option.bind_eq_bind, Option.bind_some, readChar_cons, readDigits_zeroPadded month,
    readDigits_zeroPadded day]
  exact if_pos ⟨yearBound, monthBound, dayBound⟩

theorem readClock_zeroPadded {hour minute second : ℕ} (hours : hour < 24) (minutes : minute < 60)
    (seconds : second < 60) (rest : List Char) :
    readClock (zeroPadded 2 hour ++ ':' :: (zeroPadded 2 minute ++ ':' :: (zeroPadded 2 second ++ rest))) =
      some (hour * 3600 + minute * 60 + second, rest) := by
  rw [readClock, readDigits_zeroPadded (n := hour) (by omega)]
  simp only [Option.bind_eq_bind, Option.bind_some, readChar_cons, readDigits_zeroPadded (n := minute) (by omega : minute < 10 ^ 2),
    readDigits_zeroPadded (n := second) (by omega : second < 10 ^ 2)]
  exact if_pos ⟨hours, minutes, seconds⟩

/-- The offset starts with a sign, so that it is not taken for a fraction. -/
theorem readFraction_zeroPadded {microsecond : ℕ} (fits : microsecond < 10 ^ 6) (rest : List Char) :
    readFraction ((if microsecond = 0 then [] else '.' :: zeroPadded 6 microsecond) ++ '+' :: rest) =
      some (microsecond, '+' :: rest) := by
  split_ifs with whole
  · rw [whole]
    rfl
  · exact readDigits_zeroPadded fits ('+' :: rest)

/-- `fromisoformat` inverts `isoformat`, with and without microseconds. -/
theorem fromisoformat_isoformat {t : ℤ} (holds : Representable t) :
    fromisoformat (isoformat t) = some ⟨t, some 0⟩ := by
  obtain ⟨nonneg, bounded⟩ := holds
  simp only [datetimeMax, day, hour, minute, second] at bounded
  have days : (t / day).toNat + 1 ≤ 3652059 := by
    simp only [day, hour, minute, second]
    omega
  have clock : (t % day / second).toNat < 86400 := by
    simp only [day, hour, minute, second]
    omega
  have fraction : (t % second).toNat < 10 ^ 6 := by
    simp only [second]
    omega
  obtain ⟨ordinal, valid⟩ := ymd2ord_ord2ymd (Nat.le_add_left 1 _) days
  have offset : readOffset ('+' :: "00:00".toList) = some (some 0) := by decide
  rw [fromisoformat, isoformat, String.toList_ofList]
  simp only [List.append_assoc, List.cons_append]
  rw [readDate_zeroPadded valid]
  simp only [Option.bind_eq_bind, Option.bind_some, List.drop_succ_cons, List.drop_zero]
  rw [readClock_zeroPadded (by omega) (by omega) (by omega), Option.bind_some]
  change ((readFraction (_ ++ '+' :: "00:00".toList)).bind _) = _
  rw [readFraction_zeroPadded fraction, Option.bind_some]
  dsimp only
  rw [offset, Option.bind_some, ordinal]
  congr 2
  simp only [day, hour, minute, second]
  omega

theorem isoformat_ascii (t : ℤ) : ∀ c ∈ (isoformat t).toList, c.toNat < 128 := by
  have digits : ∀ width n, ∀ c ∈ zeroPadded width n, c.toNat < 128 := by
    intro width n c member
    have digit := isDigit_of_mem_zeroPadded member
    simp only [Char.isDigit, ge_iff_le, Bool.and_eq_true, decide_eq_true_eq, UInt32.le_iff_toNat_le] at digit
    have bound : c.toNat ≤ 57 := digit.2
    omega
  have zone : ∀ c ∈ "+00:00".toList, c.toNat < 128 := by decide
  intro c member
  rw [isoformat, String.toList_ofList] at member
  simp only [List.mem_append, List.mem_cons] at member
  split_ifs at member with whole
  · rcases member with ((((((m | rfl | m) | rfl | m) | rfl | m) | rfl | m) | rfl | m) | m) | m
    all_goals first | exact digits _ _ _ m | exact zone _ m | decide | cases m
  · simp only [List.mem_cons] at member
    rcases member with ((((((m | rfl | m) | rfl | m) | rfl | m) | rfl | m) | rfl | m) | rfl | m) | m
    all_goals first | exact digits _ _ _ m | exact zone _ m | decide

end Instants

/-! ## Query strings -/

section Query

/-- The characters that `urllib.parse.quote` leaves alone. -/
def isUnreserved (c : Char) : Bool := c.isAlphanum || c ∈ ['_', '.', '-', '~', '/']

/-- A digit of a percent escape. -/
def hexDigit (n : ℕ) : Char := ("0123456789ABCDEF".toList).getD n '0'

def hexValue (c : Char) : Option ℕ :=
  if c.isDigit then some (c.toNat - '0'.toNat)
  else if 'a' ≤ c ∧ c ≤ 'f' then some (c.toNat - 'a'.toNat + 10)
  else if 'A' ≤ c ∧ c ≤ 'F' then some (c.toNat - 'A'.toNat + 10)
  else none

def quoteChar (c : Char) : List Char :=
  if isUnreserved c then [c] else ['%', hexDigit (c.toNat / 16), hexDigit (c.toNat % 16)]

/-- `urlencode` of the templates, which is `urllib.parse.quote`, on ASCII text. -/
def urlencode (text : String) : String := String.ofList (text.toList.flatMap quoteChar)

/-- `urllib.parse.unquote_plus` on the escapes of ASCII characters. -/
def unquotePlusChars : List Char → List Char
  | [] => []
  | '%' :: high :: low :: rest => match hexValue high, hexValue low with
    | some high, some low => Char.ofNat (high * 16 + low) :: unquotePlusChars rest
    | _, _ => '%' :: unquotePlusChars (high :: low :: rest)
  | '+' :: rest => ' ' :: unquotePlusChars rest
  | c :: rest => c :: unquotePlusChars rest

def unquotePlus (text : String) : String := String.ofList (unquotePlusChars text.toList)

/-- `urllib.parse.parse_qsl` with blank values kept; a piece without `=` is a name with an empty value. -/
def parseQuery (query : String) : List (String × String) :=
  (split query '&').filterMap fun piece =>
    if piece = "" then none
    else match splitOnce piece '=' with
      | some (name, value) => some (unquotePlus name, unquotePlus value)
      | none => some (unquotePlus piece, "")

/-- `request.query_params.get(name)`, which takes the last value of a repeated name. -/
def queryParam (query name : String) : Option String :=
  ((parseQuery query).reverse.find? fun pair => pair.1 == name).map Prod.snd

theorem hexValue_hexDigit : ∀ n < 16, hexValue (hexDigit n) = some n := by decide

/-- A character that starts no escape stands for itself. -/
theorem unquotePlusChars_cons {c : Char} (percent : c ≠ '%') (plus : c ≠ '+') (rest : List Char) :
    unquotePlusChars (c :: rest) = c :: unquotePlusChars rest := by
  rw [unquotePlusChars]
  · intro high low tail same
    exact absurd same percent
  · exact plus

theorem unquotePlusChars_eq_self {chars : List Char} (plain : ∀ c ∈ chars, c ≠ '%' ∧ c ≠ '+') :
    unquotePlusChars chars = chars := by
  induction chars with
  | nil => rfl
  | cons c rest ih =>
    obtain ⟨percent, plus⟩ := plain c List.mem_cons_self
    rw [unquotePlusChars_cons percent plus, ih fun d inside => plain d (List.mem_cons_of_mem _ inside)]

/-- A quoted character reads back. -/
theorem unquotePlusChars_quoteChar {c : Char} (ascii : c.toNat < 128) (rest : List Char) :
    unquotePlusChars (quoteChar c ++ rest) = c :: unquotePlusChars rest := by
  rw [quoteChar]
  split_ifs with plain
  · apply unquotePlusChars_cons
    · rintro rfl
      exact absurd plain (by decide)
    · rintro rfl
      exact absurd plain (by decide)
  · have high := hexValue_hexDigit (c.toNat / 16) (by omega)
    have low := hexValue_hexDigit (c.toNat % 16) (by omega)
    simp only [List.cons_append, List.nil_append, unquotePlusChars, high, low]
    rw [show c.toNat / 16 * 16 + c.toNat % 16 = c.toNat by omega, Char.ofNat_toNat]

theorem unquotePlus_urlencode {text : String} (ascii : IsAscii text) : unquotePlus (urlencode text) = text := by
  have chars : ∀ l : List Char, (∀ c ∈ l, c.toNat < 128) → unquotePlusChars (l.flatMap quoteChar) = l := by
    intro l ascii
    induction l with
    | nil => rfl
    | cons c rest ih =>
      rw [List.flatMap_cons, unquotePlusChars_quoteChar (ascii c List.mem_cons_self),
        ih fun d inside => ascii d (List.mem_cons_of_mem _ inside)]
  rw [unquotePlus, urlencode, String.toList_ofList, chars _ ascii, String.ofList_toList]

/-- A quoted ASCII text holds no separator of a query. -/
theorem mem_urlencode {text : String} (ascii : IsAscii text) {c : Char} (member : c ∈ (urlencode text).toList) :
    c ≠ '&' ∧ c ≠ '=' := by
  have table : ∀ n < 128, ∀ d ∈ quoteChar (Char.ofNat n), d ≠ '&' ∧ d ≠ '=' := by decide +kernel
  rw [urlencode, String.toList_ofList, List.mem_flatMap] at member
  obtain ⟨original, inside, quoted⟩ := member
  have small := ascii original inside
  exact table original.toNat small c (by rwa [Char.ofNat_toNat])

theorem splitChars_eq_singleton {sep : Char} {chars : List Char} (whole : sep ∉ chars) :
    splitChars sep chars = [chars] := by
  induction chars with
  | nil => rfl
  | cons c rest ih =>
    rw [List.mem_cons, not_or] at whole
    rw [splitChars, if_neg (Ne.symm whole.1), ih whole.2]

theorem splitChars_append_cons {sep : Char} {front : List Char} (whole : sep ∉ front) (rest : List Char) :
    splitChars sep (front ++ sep :: rest) = front :: splitChars sep rest := by
  induction front with
  | nil => rw [List.nil_append, splitChars, if_pos rfl]
  | cons c front ih =>
    rw [List.mem_cons, not_or] at whole
    rw [List.cons_append, splitChars, if_neg (Ne.symm whole.1), ih whole.2]

theorem splitOnce_append_cons {sep : Char} {front : List Char} (whole : sep ∉ front) (rest : List Char) :
    splitOnce (String.ofList (front ++ sep :: rest)) sep = some (String.ofList front, String.ofList rest) := by
  have taken : ∀ c ∈ front, (c != sep) = true := fun c member => bne_iff_ne.mpr fun same => whole (same ▸ member)
  have before : (front ++ sep :: rest).takeWhile (· != sep) = front := by
    rw [List.takeWhile_append_of_pos taken]
    simp
  have after : (front ++ sep :: rest).dropWhile (· != sep) = sep :: rest := by
    rw [List.dropWhile_append_of_pos taken]
    simp
  rw [splitOnce, String.toList_ofList, List.span_eq_takeWhile_dropWhile, before, after]

private theorem piece_ne_empty (name value : List Char) : String.ofList (name ++ '=' :: value) ≠ "" := by
  intro empty
  have chars := congrArg String.toList empty
  rw [String.toList_ofList] at chars
  exact List.append_ne_nil_of_right_ne_nil _ (List.cons_ne_nil _ _) chars

/-- A query of one parameter. -/
theorem parseQuery_single {name value : List Char} (named : '=' ∉ name) (whole : '&' ∉ name ++ '=' :: value) :
    parseQuery (String.ofList (name ++ '=' :: value)) =
      [(unquotePlus (String.ofList name), unquotePlus (String.ofList value))] := by
  rw [parseQuery, split, String.toList_ofList, splitChars_eq_singleton whole]
  simp only [List.map_cons, List.map_nil, List.filterMap_cons, List.filterMap_nil, piece_ne_empty, ↓reduceIte,
    splitOnce_append_cons named]

/-- A query of two parameters. -/
theorem parseQuery_pair {name value name' value' : List Char} (names : '&' ∉ name ∧ '=' ∉ name)
    (names' : '&' ∉ name' ∧ '=' ∉ name') (values : '&' ∉ value) (values' : '&' ∉ value') :
    parseQuery (String.ofList (name ++ '=' :: value ++ '&' :: (name' ++ '=' :: value'))) =
      [(unquotePlus (String.ofList name), unquotePlus (String.ofList value)),
        (unquotePlus (String.ofList name'), unquotePlus (String.ofList value'))] := by
  have first : '&' ∉ name ++ '=' :: value := by
    simp only [List.mem_append, List.mem_cons, not_or]
    exact ⟨names.1, by decide, values⟩
  have second : '&' ∉ name' ++ '=' :: value' := by
    simp only [List.mem_append, List.mem_cons, not_or]
    exact ⟨names'.1, by decide, values'⟩
  rw [parseQuery, split, String.toList_ofList, splitChars_append_cons first, splitChars_eq_singleton second]
  simp only [List.map_cons, List.map_nil, List.filterMap_cons, List.filterMap_nil, piece_ne_empty, ↓reduceIte,
    splitOnce_append_cons names.2, splitOnce_append_cons names'.2]

end Query

end MegaraidDashboard.Py
