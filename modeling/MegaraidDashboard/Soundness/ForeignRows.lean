import Mathlib.Algebra.BigOperators.Group.List.Basic
import Mathlib.Algebra.Ring.Int.Defs
import MegaraidDashboard.ToMathlib.FirstOccurrences
import MegaraidDashboard.ToMathlib.Raises
import MegaraidDashboard.Model.Storcli.ForeignConfig

/-! # What the rows of a foreign configuration say

The parser gathers the rows of a foreign configuration by their disk group in two loops that change the same entries.
Here each number of its answer is told from the rows: the ids that they name, the drives of an id, the first size of an
id that can be read, and without any row the first counts of the summary fields.
-/

namespace MegaraidDashboard.Storcli

open JsonText

variable [PyText] [PyNumbers]

/-! ## Rows -/

/-- The rows under the names with `dg`. -/
def groupRows (response : Fields) : List Fields :=
  listedMappings (fun normalized => Py.contains normalized "dg") response

/-- The id that such a row names. -/
def rowGroup (row : Fields) : Option ℤ := coerceDgId (if row.has "DG" then row.get "DG" else row.get "DG/VD")

/-- The id that a drive names. -/
def driveGroup (drive : Fields) : Option ℤ := coerceDgId (drive.get "DG")

def readableSize (row : Fields) : Option ℤ :=
  match row.get "Size" with
  | some (.str text) => (sizeStringToBytes text).toOption
  | _ => none

/-- The first size of an id among some rows. -/
def sizeAmong (rows : List Fields) (id : ℤ) : Option ℤ :=
  (rows.filter fun row => rowGroup row == some id).findSome? readableSize

/-- The drives of an id. -/
def drivesAmong (drives : List Fields) (id : ℤ) : ℕ := drives.countP fun drive => driveGroup drive == some id

/-- The ids that the rows name, each once. -/
def groupIds (response : Fields) : List ℤ :=
  ((groupRows response).filterMap rowGroup ++ (foreignDrives response).filterMap driveGroup).firstOccurrences

/-! ## The loops -/

section Loops

/-- Entries under the ids of a list. -/
def entriesOf (ids : List ℤ) (count : ℤ → ℕ) (size : ℤ → Option ℤ) : List ForeignConfigDiskGroup :=
  ids.map fun id => ⟨id, count id, size id⟩

variable {ids : List ℤ} {count count' : ℤ → ℕ} {size size' : ℤ → Option ℤ} {dgId : ℤ}
  {change : ForeignConfigDiskGroup → ForeignConfigDiskGroup}

omit [PyText] [PyNumbers] in
theorem any_entriesOf : (entriesOf ids count size).any (fun group => group.dgId == dgId) = true ↔ dgId ∈ ids := by
  simp [entriesOf]

omit [PyText] [PyNumbers] in
/-- A change of one entry, which is a new one unless the id is known. -/
theorem updateGroup_entriesOf (changed : change ⟨dgId, count dgId, size dgId⟩ = ⟨dgId, count' dgId, size' dgId⟩)
    (fresh : dgId ∉ ids → count dgId = 0 ∧ size dgId = none)
    (counts : ∀ id ≠ dgId, count' id = count id) (sizes : ∀ id ≠ dgId, size' id = size id) :
    updateGroup dgId change (entriesOf ids count size) = entriesOf (ids.appendNew dgId) count' size' := by
  have others (id : ℤ) (different : id ≠ dgId) : (⟨id, count id, size id⟩ : ForeignConfigDiskGroup) =
      ⟨id, count' id, size' id⟩ := by rw [counts id different, sizes id different]
  rw [updateGroup]
  by_cases known : dgId ∈ ids
  · rw [if_pos (any_entriesOf.mpr known), List.appendNew_of_mem known, entriesOf, List.map_map]
    refine List.map_congr_left fun id _ => ?_
    rw [Function.comp_apply]
    split_ifs with same
    · obtain rfl := same
      exact changed
    · exact others id same
  · obtain ⟨zero, none⟩ := fresh known
    rw [if_neg (mt any_entriesOf.mp known), List.appendNew_of_notMem known, entriesOf, entriesOf, List.map_append]
    rw [zero, none] at changed
    refine congrArg₂ (· ++ ·) (List.map_congr_left fun id member => others id ?_) (congrArg (fun group => [group]) changed)
    rintro rfl
    exact known member

omit [PyText] [PyNumbers] in
theorem any_sized (fresh : dgId ∉ ids → size dgId = none) :
    (entriesOf ids count size).any (fun group => group.dgId == dgId && group.sizeBytes.isSome) = (size dgId).isSome := by
  rw [Bool.eq_iff_iff, entriesOf, List.any_map, List.any_eq_true]
  constructor
  · rintro ⟨id, -, sized⟩
    simp only [Function.comp_apply, Bool.and_eq_true, beq_iff_eq] at sized
    exact sized.1 ▸ sized.2
  · intro sized
    have known : dgId ∈ ids := by
      by_contra unknown
      rw [fresh unknown] at sized
      cases sized
    exact ⟨dgId, known, by simp [sized]⟩

theorem sizeAmong_concat (rows : List Fields) (row : Fields) (id : ℤ) :
    sizeAmong (rows ++ [row]) id = (sizeAmong rows id).or (if rowGroup row = some id then readableSize row else none) := by
  rw [sizeAmong, List.filter_append, List.findSome?_append, sizeAmong]
  by_cases named : rowGroup row = some id
  · simp [named]
  · simp [named]

theorem sizeAmong_of_notMem {rows : List Fields} {id : ℤ} (unnamed : id ∉ rows.filterMap rowGroup) :
    sizeAmong rows id = none := by
  have nothing : (rows.filter fun row => rowGroup row == some id) = [] := by
    refine List.filter_eq_nil_iff.mpr fun row member named => unnamed ?_
    exact List.mem_filterMap.mpr ⟨row, member, beq_iff_eq.mp named⟩
  rw [sizeAmong, nothing, List.findSome?_nil]

omit [PyText] [PyNumbers] in
theorem orNone_eq_ok {answer : Except NumberError ℤ} {value : Option ℤ} (read : orNone answer = .ok value) :
    value = answer.toOption := by
  match answer, read with
  | .ok _, read => exact (Except.ok.inj read).symm
  | .error .valueError, read => exact (Except.ok.inj read).symm
  | .error .arithmeticError, read => cases read

/-- The entries after some rows under names with `dg`. -/
def noted (rows : List Fields) : List ForeignConfigDiskGroup :=
  entriesOf (rows.filterMap rowGroup).firstOccurrences (fun _ => 0) (sizeAmong rows)

theorem noteGroup_noted {done : List Fields} {row : Fields} {later : List ForeignConfigDiskGroup}
    (stepped : noteGroup (noted done) row = .ok later) : later = noted (done ++ [row]) := by
  have fresh : ∀ id, id ∉ (done.filterMap rowGroup).firstOccurrences → sizeAmong done id = none :=
    fun id unseen => sizeAmong_of_notMem (mt List.mem_firstOccurrences.mpr unseen)
  rw [noteGroup, ← rowGroup] at stepped
  rw [noted, List.filterMap_append]
  cases group : rowGroup row with
  | none =>
    rw [group] at stepped
    obtain rfl := Except.ok.inj stepped
    have kept : sizeAmong (done ++ [row]) = sizeAmong done := by
      funext id
      rw [sizeAmong_concat, group, if_neg (Option.some_ne_none id).symm, Option.or_none]
    rw [List.filterMap_cons_none group, List.filterMap_nil, List.append_nil, kept, noted]
  | some dgId =>
    have others : ∀ id ≠ dgId, sizeAmong (done ++ [row]) id = sizeAmong done id := by
      intro id different
      rw [sizeAmong_concat, group, if_neg fun same => different (Option.some.inj same).symm, Option.or_none]
    have own : sizeAmong (done ++ [row]) dgId = (sizeAmong done dgId).or (readableSize row) := by
      rw [sizeAmong_concat, if_pos group]
    rw [List.filterMap_cons_some group, List.filterMap_nil, List.firstOccurrences_concat]
    simp only [group] at stepped
    have sized : ((noted done).any fun group => group.dgId == dgId && group.sizeBytes.isSome) =
        (sizeAmong done dgId).isSome := any_sized (fresh dgId)
    rw [sized] at stepped
    split at stepped
    · next text given unsized =>
      obtain ⟨size, read, stepped⟩ := Except.bind_eq_ok stepped
      obtain rfl := Except.ok.inj stepped
      have readable : readableSize row = size := by rw [readableSize, given, orNone_eq_ok read]
      rw [Option.isSome_eq_false_iff, Option.isNone_iff_eq_none] at unsized
      refine updateGroup_entriesOf ?_ (fun unseen => ⟨rfl, fresh dgId unseen⟩) (fun _ _ => rfl) others
      rw [own, unsized, Option.none_or, readable]
    · next unread =>
      obtain rfl := Except.ok.inj stepped
      refine updateGroup_entriesOf ?_ (fun unseen => ⟨rfl, fresh dgId unseen⟩) (fun _ _ => rfl) others
      rw [own]
      cases known : sizeAmong done dgId with
      | some size => rfl
      | none =>
        rw [known] at unread
        have unreadable : readableSize row = none := by
          rw [readableSize]
          split
          · next text given => exact (unread text given rfl).elim
          · rfl
        rw [unreadable, id_eq, Option.or_none]

/-- The entries after some drives as well. -/
def counted (rows drives : List Fields) : List ForeignConfigDiskGroup :=
  entriesOf (rows.filterMap rowGroup ++ drives.filterMap driveGroup).firstOccurrences (drivesAmong drives) (sizeAmong rows)

omit [PyText] in
theorem drivesAmong_concat (drives : List Fields) (drive : Fields) (id : ℤ) :
    drivesAmong (drives ++ [drive]) id = drivesAmong drives id + if driveGroup drive = some id then 1 else 0 := by
  rw [drivesAmong, List.countP_append, List.countP_singleton, drivesAmong]
  simp only [beq_iff_eq]

omit [PyText] in
theorem drivesAmong_of_notMem {drives : List Fields} {id : ℤ} (unnamed : id ∉ drives.filterMap driveGroup) :
    drivesAmong drives id = 0 := by
  refine List.countP_eq_zero.mpr fun drive member named => unnamed ?_
  exact List.mem_filterMap.mpr ⟨drive, member, beq_iff_eq.mp named⟩

theorem countDrive_counted (rows done : List Fields) (drive : Fields) :
    countDrive (counted rows done) drive = counted rows (done ++ [drive]) := by
  rw [countDrive, ← driveGroup, counted, counted, List.filterMap_append]
  cases group : driveGroup drive with
  | none =>
    have kept : drivesAmong (done ++ [drive]) = drivesAmong done := by
      funext id
      rw [drivesAmong_concat, group, if_neg (Option.some_ne_none id).symm, Nat.add_zero]
    rw [List.filterMap_cons_none group, List.filterMap_nil, List.append_nil, kept]
  | some dgId =>
    have own : drivesAmong (done ++ [drive]) dgId = drivesAmong done dgId + 1 := by
      rw [drivesAmong_concat, if_pos group]
    have others : ∀ id ≠ dgId, drivesAmong (done ++ [drive]) id = drivesAmong done id := by
      intro id different
      rw [drivesAmong_concat, group, if_neg fun same => different (Option.some.inj same).symm, Nat.add_zero]
    rw [List.filterMap_cons_some group, List.filterMap_nil, ← List.append_assoc, List.firstOccurrences_concat]
    refine updateGroup_entriesOf ?_ ?_ others fun _ _ => rfl
    · rw [own]
      rfl
    · intro unseen
      rw [List.mem_firstOccurrences, List.mem_append, not_or] at unseen
      exact ⟨drivesAmong_of_notMem unseen.2, sizeAmong_of_notMem unseen.1⟩

theorem foldl_countDrive (rows done drives : List Fields) :
    drives.foldl countDrive (counted rows done) = counted rows (done ++ drives) := by
  induction drives generalizing done with
  | nil => rw [List.foldl_nil, List.append_nil]
  | cons drive drives ih =>
    rw [List.foldl_cons, countDrive_counted, ih, List.append_assoc, List.singleton_append]

end Loops

/-- The disk groups of the answer are those that the rows name, each with its drives and its first size. -/
theorem foreignDiskGroups_perm {response : Fields} {groups : List ForeignConfigDiskGroup}
    (answered : foreignDiskGroups response (foreignDrives response) = .ok groups) :
    groups.Perm (entriesOf (groupIds response) (drivesAmong (foreignDrives response)) (sizeAmong (groupRows response))) := by
  obtain ⟨gathered, looped, answered⟩ := Except.bind_eq_ok answered
  obtain rfl := Except.ok.inj answered
  have found : gathered = noted ([] ++ groupRows response) := by
    refine Except.foldlM_invariant (I := fun done state => state = noted done) ?_ rfl looped
    rintro done row _ later rfl stepped
    exact noteGroup_noted stepped
  have start : noted (groupRows response) = counted (groupRows response) [] := by
    rw [noted, counted, List.filterMap_nil, List.append_nil]
    rfl
  rw [found, List.nil_append, start, foldl_countDrive, List.nil_append]
  exact List.orderBy_perm _ _

/-! ## Sizes and counts -/

/-- The total size that a field tells. -/
def readableTotal : String × Value → Option ℤ
  | (key, .str text) =>
    if Py.contains (Py.casefold key) "total" && Py.contains (Py.casefold key) "size" then (sizeStringToBytes text).toOption
    else none
  | _ => none

/-- The first sizes of the ids that have one. -/
def groupSizes (response : Fields) : List ℤ := (groupIds response).filterMap (sizeAmong (groupRows response))

/-- The first total that can be read, or else the sum of the sizes. -/
def totalSize (response : Fields) : Option ℤ :=
  (response.findSome? readableTotal).or (if groupSizes response = [] then none else some (groupSizes response).sum)

/-- The positive count that a summary field tells. -/
def positiveCount (field : String × Value) : Option ℤ :=
  let normalized := Py.casefold field.1
  if Py.contains normalized "total" && Py.contains normalized "foreign" && Py.contains normalized "count" then
    (coerceCount field.2).toOption.join.filter fun count => decide (0 < count)
  else none

/-- The names and the counts of the summary fields. -/
def countFields (response : Fields) : List (String × ℤ) :=
  response.filterMap fun field => (positiveCount field).map fun count => (Py.casefold field.1, count)

def firstCount (marker : String) (fields : List (String × ℤ)) : ℤ :=
  (fields.find? fun field => Py.contains field.1 marker).elim 0 Prod.snd

/-- The first count of disk groups and the first one of drives among the others. -/
def reportedCounts (response : Fields) : ℤ × ℤ :=
  (firstCount "dg" (countFields response),
    firstCount "drive" ((countFields response).eraseP fun field => Py.contains field.1 "dg"))

theorem reportedTotalSize_eq_ok {response : Fields} {size : Option ℤ} (read : reportedTotalSize response = .ok size) :
    size = response.findSome? readableTotal := by
  induction response with
  | nil => exact (Except.ok.inj read).symm
  | cons field rest ih =>
    obtain ⟨key, value⟩ := field
    rw [List.findSome?_cons]
    cases value with
    | str text =>
      rw [reportedTotalSize] at read
      rw [readableTotal]
      split_ifs at read ⊢ with total
      · obtain ⟨found, answered, read⟩ := Except.bind_eq_ok read
        rw [← orNone_eq_ok answered]
        cases found with
        | some size => exact (Except.ok.inj read).symm
        | none => exact ih read
      · exact ih read
    | scalar | arr | obj => exact ih read

theorem foreignTotalSizeBytes_eq_ok {response : Fields} {groups : List ForeignConfigDiskGroup} {size : Option ℤ}
    (perm : groups.Perm
      (entriesOf (groupIds response) (drivesAmong (foreignDrives response)) (sizeAmong (groupRows response))))
    (answered : foreignTotalSizeBytes response groups = .ok size) : size = totalSize response := by
  obtain ⟨reported, read, answered⟩ := Except.bind_eq_ok answered
  rw [totalSize, ← reportedTotalSize_eq_ok read]
  cases reported with
  | some size => exact (Except.ok.inj answered).symm
  | none =>
    have sizes : (groups.filterMap (·.sizeBytes)).Perm (groupSizes response) := by
      refine (perm.filterMap _).trans (List.Perm.of_eq ?_)
      rw [entriesOf, List.filterMap_map]
      rfl
    obtain rfl := Except.ok.inj answered
    rw [Option.none_or, sizes.isEmpty_eq, ← List.sum_eq_foldl, sizes.sum_eq]
    simp only [List.isEmpty_iff]

theorem countFields_cons_none {field : String × Value} {rest : Fields} (silent : positiveCount field = none) :
    countFields (field :: rest) = countFields rest := by
  rw [countFields, List.filterMap_cons_none (by rw [silent]; rfl), countFields]

theorem countFields_cons_some {field : String × Value} {rest : Fields} {count : ℤ} (told : positiveCount field = some count) :
    countFields (field :: rest) = (Py.casefold field.1, count) :: countFields rest := by
  rw [countFields, List.filterMap_cons_some (by rw [told]; rfl), countFields]

/-- One field changes one of the counts at most. -/
theorem summaryCountStep_eq_ok {counts later : ℤ × ℤ} {field : String × Value}
    (stepped : summaryCountStep counts field = .ok later) :
    positiveCount field = none ∧ later = counts ∨
      ∃ count > 0, positiveCount field = some count ∧
        later = if Py.contains (Py.casefold field.1) "dg" && counts.1 == 0 then (count, counts.2)
          else if Py.contains (Py.casefold field.1) "drive" && counts.2 == 0 then (counts.1, count) else counts := by
  unfold summaryCountStep at stepped
  unfold positiveCount
  dsimp only at stepped ⊢
  by_cases named : (Py.contains (Py.casefold field.1) "total" && Py.contains (Py.casefold field.1) "foreign" &&
      Py.contains (Py.casefold field.1) "count") = true
  · rw [if_pos named] at stepped ⊢
    obtain ⟨coerced, answered, stepped⟩ := Except.bind_eq_ok stepped
    rw [answered]
    cases coerced with
    | none =>
      obtain rfl := Except.ok.inj stepped
      exact .inl ⟨rfl, rfl⟩
    | some count =>
      have shown : (Except.ok (some count) : Except ForeignError (Option ℤ)).toOption.join = some count := rfl
      rw [shown, Option.filter_some]
      dsimp only at stepped
      by_cases small : count ≤ 0
      · rw [if_pos small] at stepped
        obtain rfl := Except.ok.inj stepped
        exact .inl ⟨if_neg (by simpa using small), rfl⟩
      · rw [if_neg small] at stepped
        refine .inr ⟨count, not_le.mp small, if_pos (by simpa using small), ?_⟩
        split_ifs at stepped ⊢
        · exact (Except.ok.inj stepped).symm
        · exact (Except.ok.inj stepped).symm
        · exact (Except.ok.inj stepped).symm
  · rw [if_neg named] at stepped ⊢
    exact .inl ⟨rfl, (Except.ok.inj stepped).symm⟩

/-- The counts after the rest of the fields; a count that is there already stays. -/
theorem foldlM_summaryCountStep_eq_ok {fields : Fields} {counts final : ℤ × ℤ}
    (answered : fields.foldlM summaryCountStep counts = .ok final) :
    final = (if counts.1 = 0 then firstCount "dg" (countFields fields) else counts.1,
      if counts.2 = 0 then firstCount "drive" (if counts.1 = 0 then
        (countFields fields).eraseP fun field => Py.contains field.1 "dg" else countFields fields) else counts.2) := by
  induction fields generalizing counts with
  | nil =>
    obtain rfl := Except.ok.inj answered
    obtain ⟨groups, drives⟩ := counts
    by_cases first : groups = 0 <;> by_cases second : drives = 0 <;> simp [first, second, countFields, firstCount]
  | cons field rest ih =>
    rw [List.foldlM_cons] at answered
    obtain ⟨later, stepped, answered⟩ := Except.bind_eq_ok answered
    rw [ih answered]
    rcases summaryCountStep_eq_ok stepped with ⟨silent, rfl⟩ | ⟨count, positive, told, rfl⟩
    · rw [countFields_cons_none silent]
    · rw [countFields_cons_some told]
      obtain ⟨groups, drives⟩ := counts
      have some_ : count ≠ 0 := positive.ne'
      by_cases first : groups = 0 <;> by_cases second : drives = 0 <;>
        cases dg : Py.contains (Py.casefold field.1) "dg" <;>
        cases drive : Py.contains (Py.casefold field.1) "drive" <;>
        simp [first, second, dg, drive, some_, firstCount]

theorem foreignSummaryCounts_eq_ok {response : Fields} {counts : ℤ × ℤ}
    (answered : foreignSummaryCounts response = .ok counts) : counts = reportedCounts response :=
  foldlM_summaryCountStep_eq_ok answered

/-! ## The summary -/

/-- The numbers of disk groups and of drives: those of the rows, or without any row those of the summary fields. -/
def toldCounts (response : Fields) : ℤ × ℤ :=
  if groupIds response = [] ∧ foreignDrives response = [] then reportedCounts response
  else ((groupIds response).length, (foreignDrives response).length)

/-- The summary says what the rows say. -/
structure Summarises (response : Fields) (summary : ForeignSummary) : Prop where
  counts : (summary.dgCount, summary.driveCount) = toldCounts response
  size : summary.totalSizeBytes = totalSize response
  groups : summary.diskGroups.Perm
    (entriesOf (groupIds response) (drivesAmong (foreignDrives response)) (sizeAmong (groupRows response)))

theorem summarises_of_foreignSummary {response : Fields} {summary : ForeignSummary}
    (answered : foreignSummary response = .ok (some summary)) : Summarises response summary := by
  obtain ⟨groups, gathered, answered⟩ := Except.bind_eq_ok answered
  obtain ⟨size, summed, answered⟩ := Except.bind_eq_ok answered
  have perm := foreignDiskGroups_perm gathered
  have total := foreignTotalSizeBytes_eq_ok perm summed
  have length : groups.length = (groupIds response).length := by rw [perm.length_eq, entriesOf, List.length_map]
  have rowless : (groups.length = 0 ∧ (foreignDrives response).length = 0) ↔
      groupIds response = [] ∧ foreignDrives response = [] := by
    rw [length, List.length_eq_zero_iff, List.length_eq_zero_iff]
  by_cases none : groups.length = 0 ∧ (foreignDrives response).length = 0
  · rw [if_pos none] at answered
    obtain ⟨counts, counted, answered⟩ := Except.bind_eq_ok answered
    obtain ⟨dgs, drives⟩ := counts
    dsimp only at answered
    split_ifs at answered with some_
    · obtain rfl := Option.some.inj (Except.ok.inj answered)
      refine ⟨?_, total, perm⟩
      rw [toldCounts, if_pos (rowless.mp none)]
      exact foreignSummaryCounts_eq_ok counted
    · cases answered
  · rw [if_neg none] at answered
    obtain rfl := Option.some.inj (Except.ok.inj answered)
    refine ⟨?_, total, perm⟩
    rw [toldCounts, if_neg (mt rowless.mpr none), length]

end MegaraidDashboard.Storcli
