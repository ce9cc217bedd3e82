import MegaraidDashboard.Model.Services.RebuildMarkers
import MegaraidDashboard.Soundness.ReplacementAudit
import MegaraidDashboard.ToMathlib.Decimals

/-! # Rebuild markers of a replacement cycle

A cycle of a slot begins with a successful insert, which the audit log shows by its text alone. Within a cycle
the markers of the slot are those behind the row of the insert, so that each one is recorded once, at the first
request that observes its state.
-/

namespace MegaraidDashboard.Services

open Db

/-- No word of the serial number begins with `failed`, and no NUL ends the text for LIKE. -/
def SucceededInsert.readable (insert : SucceededInsert) : Bool :=
  !insert.serialNumber.toList.contains (Char.ofNat 0) &&
    ((asciiLower insert.serialNumber).toList.splitOn ' ').all fun word => !"failed".toList.isPrefixOf word

/-! ## The texts -/

section Texts

theorem slotToken_natCast (enclosureId slotId : ℕ) :
    Web.slotToken (enclosureId : ℤ) (slotId : ℤ) = Web.slotToken enclosureId slotId := rfl

theorem slotReference_injective {enclosureId slotId enclosureId' slotId' : ℕ}
    (same : (Web.slotReference enclosureId slotId).toList = (Web.slotReference enclosureId' slotId').toList) :
    enclosureId = enclosureId' ∧ slotId = slotId' := by
  rw [Web.slotReference_toList, Web.slotReference_toList] at same
  obtain ⟨enclosure, slot⟩ := List.first_word_inj (Nat.notMem_toString rfl enclosureId)
    (Nat.notMem_toString rfl enclosureId') same
  exact ⟨Nat.toString_injective (String.toList_inj.mp enclosure), Nat.toString_injective (String.toList_inj.mp slot)⟩

/-- The characters of the message around a slot, a serial number and a position. -/
def insertChars (reference serial dg array row : List Char) : List Char :=
  "replace step insert drive".toList ++ ' ' :: (reference ++ ' ' :: ("serial".toList ++ ' ' :: (serial ++
    ' ' :: ("dg=".toList ++ dg ++ ' ' :: ("array=".toList ++ array ++ ' ' :: ("row=".toList ++ row ++
      ' ' :: "succeeded".toList))))))

theorem message_toList (insert : SucceededInsert) : insert.message.toList =
    insertChars (Web.slotReference insert.enclosureId insert.slotId).toList insert.serialNumber.toList
      (toString insert.dg).toList (toString insert.array).toList (toString insert.row).toList := by
  have opening : "replace step insert ".toList ++ "drive ".toList = "replace step insert drive".toList ++ [' '] := by
    decide
  have serial : " serial ".toList = ' ' :: ("serial".toList ++ [' ']) := by decide
  have dg : " dg=".toList = ' ' :: "dg=".toList := by decide
  have array : " array=".toList = ' ' :: "array=".toList := by decide
  have row : " row=".toList = ' ' :: "row=".toList := by decide
  have blank : " ".toList = [' '] := by decide
  delta SucceededInsert.message Web.insertMessage Web.slotToken insertChars
  generalize Web.slotReference insert.enclosureId insert.slotId = reference
  generalize toString insert.dg = dgText, toString insert.array = arrayText, toString insert.row = rowText
  simp only [String.toList_append, serial, dg, array, row, blank]
  rw [← List.append_assoc, opening]
  simp only [List.append_assoc, List.cons_append, List.nil_append]

theorem map_toLower_insertChars {reference serial dg array row : List Char}
    (reference_ : reference.map Char.toLower = reference) (dg_ : dg.map Char.toLower = dg)
    (array_ : array.map Char.toLower = array) (row_ : row.map Char.toLower = row) :
    (insertChars reference serial dg array row).map Char.toLower =
      insertChars reference (serial.map Char.toLower) dg array row := by
  have front : "replace step insert drive".toList.map Char.toLower = "replace step insert drive".toList := by
    decide
  have word : "serial".toList.map Char.toLower = "serial".toList := by decide
  have dgWord : "dg=".toList.map Char.toLower = "dg=".toList := by decide
  have arrayWord : "array=".toList.map Char.toLower = "array=".toList := by decide
  have rowWord : "row=".toList.map Char.toLower = "row=".toList := by decide
  have outcome : "succeeded".toList.map Char.toLower = "succeeded".toList := by decide
  have blank : Char.toLower ' ' = ' ' := by decide
  delta insertChars
  simp only [List.map_append, List.map_cons, reference_, dg_, array_, row_, front, word, dgWord,
    arrayWord, rowWord, outcome, blank]

/-- A NUL is neither in the fixed words nor in the numbers. -/
theorem nul_mem_insertChars {reference serial dg array row : List Char} (reference_ : Char.ofNat 0 ∉ reference)
    (dg_ : Char.ofNat 0 ∉ dg) (array_ : Char.ofNat 0 ∉ array) (row_ : Char.ofNat 0 ∉ row)
    (member : Char.ofNat 0 ∈ insertChars reference serial dg array row) : Char.ofNat 0 ∈ serial := by
  have front : Char.ofNat 0 ∉ "replace step insert drive".toList := by decide
  have word : Char.ofNat 0 ∉ "serial".toList := by decide
  have dgWord : Char.ofNat 0 ∉ "dg=".toList := by decide
  have arrayWord : Char.ofNat 0 ∉ "array=".toList := by decide
  have rowWord : Char.ofNat 0 ∉ "row=".toList := by decide
  have outcome : Char.ofNat 0 ∉ "succeeded".toList := by decide
  have blank : Char.ofNat 0 ≠ ' ' := by decide
  delta insertChars at member
  simpa only [List.mem_append, List.mem_cons, reference_, dg_, array_, row_, front, word, dgWord,
    arrayWord, rowWord, outcome, blank, or_false, false_or] using member

theorem toLower_number (number : ℕ) : (toString number).toList.map Char.toLower = (toString number).toList :=
  Web.map_toLower_of_reference fun _ member => .inl (Nat.isDigit_of_mem_toString member)

/-- What LIKE sees of a message without NUL. -/
theorem likeText_message {insert : SucceededInsert} (clean : Char.ofNat 0 ∉ insert.serialNumber.toList) :
    (Web.likeText insert.message).toList =
      insertChars (Web.slotReference insert.enclosureId insert.slotId).toList (asciiLower insert.serialNumber).toList
        (toString insert.dg).toList (toString insert.array).toList (toString insert.row).toList := by
  have whole := @Web.likeText_append insert.message (fun char member nul => by
    subst nul
    rw [message_toList] at member
    exact clean (nul_mem_insertChars (Web.notMem_slotReference (by decide) _ _) (Nat.notMem_toString (by decide) _)
      (Nat.notMem_toString (by decide) _) (Nat.notMem_toString (by decide) _) member)) ""
  rw [String.append_empty] at whole
  have plain : Web.likeText "" = "" := by decide
  rw [whole, plain, String.append_empty, asciiLower, String.toList_ofList, message_toList,
    map_toLower_insertChars (Web.map_toLower_of_reference fun char member => Web.mem_slotReference member)
      (toLower_number _) (toLower_number _) (toLower_number _), asciiLower, String.toList_ofList]

/-- The words of a message, with those of the serial number in their place. -/
theorem splitOn_insertChars {reference serial dg array row : List Char} (reference_ : ' ' ∉ reference)
    (dg_ : ' ' ∉ dg) (array_ : ' ' ∉ array) (row_ : ' ' ∉ row) :
    (insertChars reference serial dg array row).splitOn ' ' =
      ["replace".toList, "step".toList, "insert".toList, "drive".toList] ++ [reference, "serial".toList] ++
        serial.splitOn ' ' ++
        ["dg=".toList ++ dg, "array=".toList ++ array, "row=".toList ++ row, "succeeded".toList] := by
  have word : ' ' ∉ "serial".toList := by decide
  have dgWord : ' ' ∉ "dg=".toList ++ dg := by
    rw [List.mem_append, not_or]
    exact ⟨by decide, dg_⟩
  have arrayWord : ' ' ∉ "array=".toList ++ array := by
    rw [List.mem_append, not_or]
    exact ⟨by decide, array_⟩
  have rowWord : ' ' ∉ "row=".toList ++ row := by
    rw [List.mem_append, not_or]
    exact ⟨by decide, row_⟩
  have outcome : ' ' ∉ "succeeded".toList := by decide
  have front : "replace step insert drive".toList.splitOn ' ' =
      ["replace".toList, "step".toList, "insert".toList, "drive".toList] := by decide
  delta insertChars
  rw [List.splitOn_append_cons_self, front, List.splitOn_append_cons_self, List.splitOn_eq_singleton reference_,
    List.splitOn_append_cons_self, List.splitOn_eq_singleton word, List.splitOn_append_cons_self,
    List.splitOn_append_cons_self, List.splitOn_eq_singleton dgWord, List.splitOn_append_cons_self,
    List.splitOn_eq_singleton arrayWord, List.splitOn_append_cons_self, List.splitOn_eq_singleton rowWord,
    List.splitOn_eq_singleton outcome]
  simp only [List.cons_append, List.nil_append]

/-- A text with a blank before `failed` has a word that begins so. -/
theorem failed_word_of_contains {text : String} (inside : Py.contains text " failed" = true) :
    ∃ word ∈ text.toList.splitOn ' ', "failed".toList <+: word := by
  obtain ⟨before, after, whole⟩ := Py.contains_iff.mp inside
  have mark : " failed".toList = ' ' :: "failed".toList := by decide
  have plain : ' ' ∉ "failed".toList := by decide
  rw [mark, List.append_assoc, List.cons_append] at whole
  obtain ⟨back, words, split⟩ := List.splitOn_word_append after plain
  rw [whole, List.splitOn_append_cons_self, split]
  exact ⟨_, List.mem_append_right _ List.mem_cons_self, List.prefix_append _ _⟩

/-- A word with another first character than `f` does not begin with `failed`. -/
theorem not_failed_prefix {first : Char} {rest word : List Char} (same : word = first :: rest) (other : first ≠ 'f') :
    ¬"failed".toList <+: word := by
  have letters : "failed".toList = 'f' :: "ailed".toList := by decide
  rintro ⟨back, whole⟩
  rw [letters, same, List.cons_append, List.cons_eq_cons] at whole
  exact other whole.1.symm

theorem insertHead_toList (enclosureId slotId : ℕ) :
    (s!"replace step insert {Web.slotToken (enclosureId : ℤ) (slotId : ℤ)} ").toList =
      "replace step insert drive".toList ++ ' ' :: ((Web.slotReference enclosureId slotId).toList ++ [' ']) := by
  rw [slotToken_natCast]
  change ("replace step insert " ++ ("drive " ++ Web.slotReference enclosureId slotId) ++ " ").toList = _
  have opening : "replace step insert ".toList ++ "drive ".toList = "replace step insert drive".toList ++ [' '] := by
    decide
  have blank : " ".toList = [' '] := by decide
  rw [String.toList_append, String.toList_append, String.toList_append, blank, ← List.append_assoc, opening,
    List.append_assoc, List.append_assoc, List.singleton_append]

/-- No word of a readable message begins with `failed`. -/
theorem not_failed_insertChars {enclosureId slotId dg array row : ℕ} {serial : List Char}
    (readable : ∀ word ∈ serial.splitOn ' ', ¬"failed".toList <+: word) :
    ∀ word ∈ (insertChars (Web.slotReference enclosureId slotId).toList serial (toString dg).toList
      (toString array).toList (toString row).toList).splitOn ' ', ¬"failed".toList <+: word := by
  have blank (number : ℕ) : ' ' ∉ (toString number).toList := Nat.notMem_toString (by decide) number
  have position {head : String} {first : Char} {rest : List Char} (same : head.toList = first :: rest)
      (other : first ≠ 'f') (number : List Char) : ¬"failed".toList <+: head.toList ++ number :=
    not_failed_prefix (by rw [same, List.cons_append]) other
  rw [splitOn_insertChars (Web.notMem_slotReference (by decide) _ _) (blank dg) (blank array) (blank row)]
  intro word member
  simp only [List.mem_append, List.mem_cons, List.not_mem_nil, or_false] at member
  rcases member with ((fixed | rfl | rfl) | inside) | rfl | rfl | rfl | rfl
  · rcases fixed with rfl | rfl | rfl | rfl
    · decide
    · decide
    · decide
    · decide
  · rintro ⟨back, whole⟩
    have letter : 'f' ∈ (Web.slotReference enclosureId slotId).toList := by
      rw [← whole]
      exact List.mem_append_left _ (by decide)
    exact Web.notMem_slotReference (by decide) _ _ letter
  · decide
  · exact readable word inside
  · exact position (by decide : "dg=".toList = 'd' :: ['g', '=']) (by decide) _
  · exact position (by decide : "array=".toList = 'a' :: ['r', 'r', 'a', 'y', '=']) (by decide) _
  · exact position (by decide : "row=".toList = 'r' :: ['o', 'w', '=']) (by decide) _
  · decide

/-- The audit row of a successful insert whose serial number is readable opens a cycle of its slot. -/
theorem isSuccessfulInsert_message {insert : SucceededInsert} (readable : insert.readable = true) {event : Event}
    (category : event.category = .operatorAction) (summary : event.summary = insert.message) :
    isSuccessfulInsert insert.enclosureId insert.slotId event = true := by
  rw [SucceededInsert.readable, Bool.and_eq_true, Bool.not_eq_true'] at readable
  obtain ⟨clean, readable⟩ := readable
  have clean : Char.ofNat 0 ∉ insert.serialNumber.toList := fun member => by
    rw [List.contains_iff_mem.mpr member] at clean
    cases clean
  have seen := likeText_message clean
  have starts : Py.startsWith (Web.likeText insert.message)
      s!"replace step insert {Web.slotToken (insert.enclosureId : ℤ) (insert.slotId : ℤ)} " = true := by
    rw [Py.startsWith, List.isPrefixOf_iff_prefix, insertHead_toList, seen]
    delta insertChars
    apply (List.prefix_append_right_inj _).mpr
    apply (List.prefix_cons_inj _).mpr
    apply (List.prefix_append_right_inj _).mpr
    exact List.prefix_append [' '] _
  have ends : Py.endsWith (Web.likeText insert.message) " succeeded" = true := by
    have outcome : " succeeded".toList = ' ' :: "succeeded".toList := by decide
    rw [Py.endsWith_iff, outcome, seen]
    delta insertChars
    refine ⟨"replace step insert drive".toList ++ ' ' :: ((Web.slotReference insert.enclosureId insert.slotId).toList ++
      ' ' :: ("serial".toList ++ ' ' :: ((asciiLower insert.serialNumber).toList ++ ' ' :: ("dg=".toList ++
        (toString insert.dg).toList ++ ' ' :: ("array=".toList ++ (toString insert.array).toList ++
          ' ' :: ("row=".toList ++ (toString insert.row).toList)))))), ?_⟩
    simp only [List.append_assoc, List.cons_append]
  have whole : Py.contains (Web.likeText insert.message) " failed" = false := by
    apply Bool.eq_false_iff.mpr
    intro inside
    obtain ⟨word, member, failed⟩ := failed_word_of_contains inside
    rw [seen] at member
    refine not_failed_insertChars (fun word member failed => ?_) word member failed
    have calm := List.all_eq_true.mp readable word member
    rw [List.isPrefixOf_iff_prefix.mpr failed] at calm
    cases calm
  delta isSuccessfulInsert
  rw [category, summary]
  simp only [starts, ends, whole, beq_self_eq_true, Bool.not_false, Bool.and_self]

/-- An audit row that opens a cycle of the slot and carries the message of an insert is one of the slot's. -/
theorem slot_of_isSuccessfulInsert {enclosureId slotId : ℕ} {event : Event} {insert : SucceededInsert}
    (opens : isSuccessfulInsert enclosureId slotId event = true) (summary : event.summary = insert.message) :
    insert.enclosureId = enclosureId ∧ insert.slotId = slotId := by
  delta isSuccessfulInsert at opens
  simp only [Bool.and_eq_true] at opens
  have starts := opens.1.1.2
  rw [summary, Py.startsWith, List.isPrefixOf_iff_prefix, insertHead_toList] at starts
  obtain ⟨rest, lowered, -⟩ := Web.likeText_split insert.message
  rw [message_toList, map_toLower_insertChars
    (Web.map_toLower_of_reference fun char member => Web.mem_slotReference member)
    (toLower_number _) (toLower_number _) (toLower_number _)] at lowered
  obtain ⟨back, whole⟩ := starts
  rw [← whole] at lowered
  delta insertChars at lowered
  simp only [List.append_assoc, List.cons_append, List.nil_append] at lowered
  have same := (List.cons_eq_cons.mp (List.append_cancel_left lowered)).2
  exact slotReference_injective (List.first_word_inj (Web.notMem_slotReference (by decide) _ _)
    (Web.notMem_slotReference (by decide) _ _) same).1

theorem rebuildProgressSummary_toList (enclosureId slotId : ℕ) : (rebuildProgressSummary enclosureId slotId).toList =
    "rebuild progress observed drive ".toList ++ (Web.slotReference enclosureId slotId).toList := by
  delta rebuildProgressSummary
  rw [slotToken_natCast]
  change ("rebuild progress observed " ++ ("drive " ++ Web.slotReference enclosureId slotId)).toList = _
  have front : "rebuild progress observed ".toList ++ "drive ".toList = "rebuild progress observed drive ".toList := by
    decide
  rw [String.toList_append, String.toList_append, ← List.append_assoc, front]

theorem rebuildCompleteSummary_toList (enclosureId slotId : ℕ) : (rebuildCompleteSummary enclosureId slotId).toList =
    "rebuild complete drive ".toList ++ (Web.slotReference enclosureId slotId).toList := by
  delta rebuildCompleteSummary
  rw [slotToken_natCast]
  change ("rebuild complete " ++ ("drive " ++ Web.slotReference enclosureId slotId)).toList = _
  have front : "rebuild complete ".toList ++ "drive ".toList = "rebuild complete drive ".toList := by decide
  rw [String.toList_append, String.toList_append, ← List.append_assoc, front]

theorem rebuildProgressSummary_injective {enclosureId slotId enclosureId' slotId' : ℕ}
    (same : rebuildProgressSummary enclosureId slotId = rebuildProgressSummary enclosureId' slotId') :
    enclosureId = enclosureId' ∧ slotId = slotId' := by
  have chars := congrArg String.toList same
  rw [rebuildProgressSummary_toList, rebuildProgressSummary_toList] at chars
  exact slotReference_injective (List.append_cancel_left chars)

theorem rebuildCompleteSummary_injective {enclosureId slotId enclosureId' slotId' : ℕ}
    (same : rebuildCompleteSummary enclosureId slotId = rebuildCompleteSummary enclosureId' slotId') :
    enclosureId = enclosureId' ∧ slotId = slotId' := by
  have chars := congrArg String.toList same
  rw [rebuildCompleteSummary_toList, rebuildCompleteSummary_toList] at chars
  exact slotReference_injective (List.append_cancel_left chars)

/-- The third character tells a rebuild marker from an insert. -/
theorem insert_chars_ne_rebuild_chars {back back' : List Char} :
    "replace step insert drive".toList ++ back ≠ "rebuild complete drive ".toList ++ back' := by
  have front : ∃ tail, "replace step insert drive".toList = 'r' :: 'e' :: 'p' :: tail :=
    ⟨"lace step insert drive".toList, by decide⟩
  have other : ∃ tail, "rebuild complete drive ".toList = 'r' :: 'e' :: 'b' :: tail :=
    ⟨"uild complete drive ".toList, by decide⟩
  obtain ⟨_, front⟩ := front
  obtain ⟨_, other⟩ := other
  rw [front, other]
  intro same
  exact absurd (List.cons_eq_cons.mp (List.cons_eq_cons.mp (List.cons_eq_cons.mp same).2).2).1 (by decide)

theorem message_ne_rebuildCompleteSummary (insert : SucceededInsert) (enclosureId slotId : ℕ) :
    insert.message ≠ rebuildCompleteSummary enclosureId slotId := by
  intro same
  have chars := congrArg String.toList same
  rw [message_toList, rebuildCompleteSummary_toList] at chars
  exact insert_chars_ne_rebuild_chars chars

theorem isSuccessfulInsert_rebuildCompleteSummary (enclosureId slotId enclosureId' slotId' : ℕ) {event : Event}
    (summary : event.summary = rebuildCompleteSummary enclosureId' slotId') :
    isSuccessfulInsert enclosureId slotId event = false := by
  apply Bool.eq_false_iff.mpr
  intro opens
  delta isSuccessfulInsert at opens
  simp only [Bool.and_eq_true] at opens
  have starts := opens.1.1.2
  obtain ⟨rest, lowered, -⟩ := Web.likeText_split event.summary
  rw [Py.startsWith, List.isPrefixOf_iff_prefix, insertHead_toList] at starts
  obtain ⟨back, whole⟩ := starts
  have front : "rebuild complete drive ".toList.map Char.toLower = "rebuild complete drive ".toList := by
    decide
  rw [← whole, summary, rebuildCompleteSummary_toList, List.map_append, front, List.append_assoc, List.append_assoc] at lowered
  exact insert_chars_ne_rebuild_chars lowered.symm

/-- Progress markers and other rows of the system are no operator actions. -/
theorem isSuccessfulInsert_of_category {enclosureId slotId : ℕ} {event : Event}
    (category : event.category ≠ .operatorAction) : isSuccessfulInsert enclosureId slotId event = false := by
  have other : (event.category == Category.operatorAction) = false := beq_eq_false_iff_ne.mpr category
  delta isSuccessfulInsert
  simp only [other, Bool.false_and]

end Texts

/-! ## The rows of a cycle -/

/-- The rows with the category and the summary of a marker. -/
def markerRows (category : Category) (summary : String) (events : List Event) : List Event :=
  events.filter fun event => event.category == category && event.summary == summary

/-- No row is later than the next clock reading or carries the next identifier. -/
def World.RowsPast (clock : ℕ → ℤ) (world : World) : Prop :=
  ∀ event ∈ world.db.events, event.occurredAt ≤ clock world.tick ∧ event.id ≤ world.db.events.length

/-- One more row, with the next identifier and clock reading. -/
structure Appended (clock : ℕ → ℤ) (world after : World) (row : Event) : Prop where
  events : after.db.events = world.db.events ++ [row]
  tick : after.tick = world.tick + 1
  time : row.occurredAt = clock world.tick
  id : row.id = world.db.events.length + 1

/-- The rows since a successful insert of the slot, whose own row opens the cycle. -/
structure CycleLog (clock : ℕ → ℤ) (enclosureId slotId : ℕ) (earlier : List Event) (opening : Event)
    (since : List Event) (world : World) : Prop where
  past : world.RowsPast clock
  events : world.db.events = earlier ++ opening :: since
  opens : isSuccessfulInsert enclosureId slotId opening = true
  before : ∀ event ∈ earlier, event.occurredAt ≤ opening.occurredAt ∧ event.id < opening.id
  after : ∀ event ∈ since, opening.occurredAt ≤ event.occurredAt ∧ opening.id < event.id ∧
    isSuccessfulInsert enclosureId slotId event = false

section Log

variable {clock : ℕ → ℤ} {world after : World} {row : Event} {enclosureId slotId : ℕ} {earlier since : List Event}
  {opening : Event}

theorem appended_record (clock : ℕ → ℤ) (world : World) (event : DetectedEvent) : ∃ row, Appended clock world (world.record clock event) row ∧
    row.category = event.category ∧ row.summary = event.summary :=
  ⟨_, ⟨rfl, rfl, rfl, rfl⟩, rfl, rfl⟩

theorem appended_operatorAction (clock : ℕ → ℤ) (world : World) (username message : String) :
    ∃ row, Appended clock world (world.recordOperatorAction clock username message) row ∧
      row.category = .operatorAction ∧ row.summary = message :=
  ⟨_, ⟨rfl, rfl, rfl, rfl⟩, rfl, rfl⟩

theorem World.RowsPast.append (past : world.RowsPast clock) (monotone : Monotone clock)
    (appended : Appended clock world after row) : after.RowsPast clock := by
  have later : clock world.tick ≤ clock after.tick := by
    rw [appended.tick]
    exact monotone (Nat.le_succ _)
  have length : after.db.events.length = world.db.events.length + 1 := by
    rw [appended.events, List.length_append, List.length_singleton]
  intro event member
  rw [appended.events] at member
  rcases List.mem_append.mp member with old | new
  · have bounds := past event old
    exact ⟨bounds.1.trans later, by omega⟩
  · rw [List.mem_singleton.mp new]
    exact ⟨appended.time.trans_le later, by rw [appended.id, length]⟩

/-- The row of a successful insert opens a cycle. -/
theorem CycleLog.open (past : world.RowsPast clock) (monotone : Monotone clock)
    (appended : Appended clock world after row) (opens : isSuccessfulInsert enclosureId slotId row = true) :
    CycleLog clock enclosureId slotId world.db.events row [] after where
  past := past.append monotone appended
  events := appended.events
  opens := opens
  before event member := by
    have bounds := past event member
    rw [appended.time, appended.id]
    exact ⟨bounds.1, by omega⟩
  after _ member := by cases member

/-- Any other row lies within the cycle. -/
theorem CycleLog.append (log : CycleLog clock enclosureId slotId earlier opening since world)
    (monotone : Monotone clock) (appended : Appended clock world after row)
    (other : isSuccessfulInsert enclosureId slotId row = false) :
    CycleLog clock enclosureId slotId earlier opening (since ++ [row]) after where
  past := log.past.append monotone appended
  events := by rw [appended.events, log.events, List.append_assoc, List.cons_append]
  opens := log.opens
  before := log.before
  after event member := by
    rcases List.mem_append.mp member with old | new
    · exact log.after event old
    · have bounds := log.past opening (log.events ▸ List.mem_append_right _ List.mem_cons_self)
      rw [List.mem_singleton.mp new, appended.time, appended.id]
      exact ⟨bounds.1, by omega, other⟩

/-- The cycle marker is the row of the insert. -/
theorem CycleLog.replacementCycleMarker_eq (log : CycleLog clock enclosureId slotId earlier opening since world) :
    replacementCycleMarker world.db enclosureId slotId = some opening := by
  have rest : since.filter (isSuccessfulInsert enclosureId slotId) = [] :=
    List.filter_eq_nil_iff.mpr fun event member => by rw [(log.after event member).2.2]; exact Bool.false_ne_true
  rw [replacementCycleMarker, log.events, List.filter_append, List.filter_cons, if_pos log.opens, rest]
  exact List.latest?_concat fun event member => (log.before event (List.mem_of_mem_filter member)).1

/-- A marker is recorded in the cycle if and only if a row since its opening is one. -/
theorem CycleLog.markerRecorded_eq (log : CycleLog clock enclosureId slotId earlier opening since world)
    (category : Category) (summary : String) :
    markerRecorded world.db enclosureId slotId category summary = !(markerRows category summary since).isEmpty := by
  have old : ∀ event ∈ earlier ++ [opening], afterMarker (some opening) event = false := by
    intro event member
    apply Bool.eq_false_iff.mpr
    intro behind
    simp only [afterMarker, Option.all_some, Bool.or_eq_true, Bool.and_eq_true, decide_eq_true_eq,
      beq_iff_eq] at behind
    rcases List.mem_append.mp member with before | same
    · have bounds := log.before event before
      omega
    · rw [List.mem_singleton.mp same] at behind
      omega
  have new : ∀ event ∈ since, afterMarker (some opening) event = true := by
    intro event member
    have bounds := log.after event member
    simp only [afterMarker, Option.all_some, Bool.or_eq_true, Bool.and_eq_true, decide_eq_true_eq, beq_iff_eq]
    omega
  rw [Bool.eq_iff_iff, Bool.not_eq_true', List.isEmpty_eq_false_iff_exists_mem]
  simp only [markerRecorded, log.replacementCycleMarker_eq, log.events, List.any_eq_true, Bool.and_eq_true, markerRows,
    List.mem_filter]
  constructor
  · rintro ⟨event, member, marked, behind⟩
    rw [List.append_cons] at member
    rcases List.mem_append.mp member with before | inside
    · rw [old event before] at behind
      cases behind
    · exact ⟨event, inside, marked⟩
  · rintro ⟨event, inside, marked⟩
    exact ⟨event, List.mem_append_right _ (List.mem_cons_of_mem _ inside), marked, new event inside⟩

end Log

/-! ## The markers -/

inductive MarkerKind where
  | progress
  | complete
deriving DecidableEq, Repr

namespace MarkerKind

def category : MarkerKind → Category
  | progress => .system
  | complete => .operatorAction

def summary (kind : MarkerKind) (enclosureId slotId : ℕ) : String :=
  match kind with
  | progress => rebuildProgressSummary enclosureId slotId
  | complete => rebuildCompleteSummary enclosureId slotId

/-- The state for which a request records the marker. -/
def observed (kind : MarkerKind) (status : RebuildStatus) : Bool :=
  match kind with
  | progress => status.inProgress
  | complete => status.complete

/-- The rows of the slot's marker. -/
def rows (kind : MarkerKind) (enclosureId slotId : ℕ) (events : List Event) : List Event :=
  markerRows kind.category (kind.summary enclosureId slotId) events

end MarkerKind

/-- The request observes the state of the slot's marker. -/
def CycleStep.observes (kind : MarkerKind) (enclosureId slotId : ℕ) : CycleStep → Bool
  | .insert _ => false
  | .status enclosure slot answer _ =>
    kind.observed answer && decide (enclosure = enclosureId ∧ slot = slotId)

/-- The step is a successful insert of the slot. -/
def CycleStep.opens (enclosureId slotId : ℕ) : CycleStep → Bool
  | .insert action => decide (action.enclosureId = enclosureId ∧ action.slotId = slotId)
  | .status .. => false

/-- Between a successful insert and the next one of the same slot each marker of the slot is recorded once if a
request has observed its state, and not at all before that. -/
def MarkersOncePerCycle (clock : ℕ → ℤ) (start : World) (steps : List CycleStep) : Prop :=
  ∀ earlier insert cycle later, steps = earlier ++ .insert insert :: (cycle ++ later) →
    cycle.any (·.opens insert.enclosureId insert.slotId) = false →
    ∀ kind : MarkerKind,
      let opened := (earlier ++ [.insert insert]).foldl (cycleStep clock) start
      let now := cycle.foldl (cycleStep clock) opened
      (kind.rows insert.enclosureId insert.slotId (now.db.events.drop opened.db.events.length)).length =
        if cycle.any (·.observes kind insert.enclosureId insert.slotId) then 1 else 0

section Markers

variable {clock : ℕ → ℤ} {world after : World} {enclosureId slotId : ℕ} {earlier since : List Event} {opening : Event}

/-- One call of a marker's recorder. -/
inductive Recorded (clock : ℕ → ℤ) (kind : MarkerKind) (enclosureId slotId : ℕ) (world : World) : World → Prop where
  | known (found : markerRecorded world.db enclosureId slotId kind.category (kind.summary enclosureId slotId) = true) :
      Recorded clock kind enclosureId slotId world world
  | added {after : World} {row : Event}
      (fresh : markerRecorded world.db enclosureId slotId kind.category (kind.summary enclosureId slotId) = false)
      (appended : Appended clock world after row) (category : row.category = kind.category)
      (summary : row.summary = kind.summary enclosureId slotId) : Recorded clock kind enclosureId slotId world after

theorem recorded_progress (enclosureId slotId : ℕ) (status : RebuildStatus) :
    Recorded clock .progress enclosureId slotId world
      (world.recordRebuildProgressObservedOnce clock enclosureId slotId status) := by
  unfold World.recordRebuildProgressObservedOnce
  split
  · next found => exact .known found
  · next fresh =>
    obtain ⟨row, appended, category, summary⟩ := appended_record clock world
      (rebuildProgressEvent enclosureId slotId status)
    exact .added (Bool.eq_false_iff.mpr fresh) appended category summary

theorem recorded_complete (enclosureId slotId : ℕ) (username : String) :
    Recorded clock .complete enclosureId slotId world
      (world.recordRebuildCompleteOnce clock enclosureId slotId username) := by
  unfold World.recordRebuildCompleteOnce
  split
  · next found => exact .known found
  · next fresh =>
    obtain ⟨row, appended, category, summary⟩ := appended_operatorAction clock world username
      (rebuildCompleteSummary enclosureId slotId)
    exact .added (Bool.eq_false_iff.mpr fresh) appended category summary

/-- A row is a marker of one kind and one slot. -/
theorem marker_eq_iff {kind other : MarkerKind} {enclosure slot : ℕ} :
    (kind.category = other.category ∧ kind.summary enclosure slot = other.summary enclosureId slotId) ↔
      kind = other ∧ enclosure = enclosureId ∧ slot = slotId := by
  constructor
  · rintro ⟨category, summary⟩
    cases kind with
    | progress =>
      cases other with
      | progress => exact ⟨rfl, rebuildProgressSummary_injective summary⟩
      | complete => cases category
    | complete =>
      cases other with
      | progress => cases category
      | complete => exact ⟨rfl, rebuildCompleteSummary_injective summary⟩
  · rintro ⟨rfl, rfl, rfl⟩
    exact ⟨rfl, rfl⟩

theorem isSuccessfulInsert_marker {kind : MarkerKind} {enclosure slot : ℕ} {row : Event}
    (category : row.category = kind.category) (summary : row.summary = kind.summary enclosure slot) :
    isSuccessfulInsert enclosureId slotId row = false := by
  cases kind with
  | progress => exact isSuccessfulInsert_of_category (by rw [category]; decide)
  | complete => exact isSuccessfulInsert_rebuildCompleteSummary _ _ _ _ summary

theorem rows_append (kind : MarkerKind) (row : Event) : kind.rows enclosureId slotId (since ++ [row]) =
    kind.rows enclosureId slotId since ++
      if row.category = kind.category ∧ row.summary = kind.summary enclosureId slotId then [row] else [] := by
  simp only [MarkerKind.rows, markerRows, List.filter_append, List.filter_cons, List.filter_nil, Bool.and_eq_true,
    beq_iff_eq]

/-- The markers of the cycle that have been seen are recorded once, the others not at all. -/
def Once (enclosureId slotId : ℕ) (since : List Event) (seen : MarkerKind → Bool) : Prop :=
  ∀ kind : MarkerKind, (kind.rows enclosureId slotId since).length = if seen kind then 1 else 0

theorem CycleLog.recorded (log : CycleLog clock enclosureId slotId earlier opening since world)
    (monotone : Monotone clock) {seen : MarkerKind → Bool} (once : Once enclosureId slotId since seen)
    {kind : MarkerKind} {enclosure slot : ℕ} (recorded : Recorded clock kind enclosure slot world after) :
    ∃ since', CycleLog clock enclosureId slotId earlier opening since' after ∧
      Once enclosureId slotId since' fun other =>
        seen other || decide (kind = other ∧ enclosure = enclosureId ∧ slot = slotId) := by
  cases recorded with
  | known found =>
    refine ⟨since, log, fun other => ?_⟩
    rw [once other]
    by_cases same : kind = other ∧ enclosure = enclosureId ∧ slot = slotId
    · obtain ⟨rfl, rfl, rfl⟩ := same
      have some_ : kind.rows enclosure slot since ≠ [] := by
        rw [log.markerRecorded_eq, Bool.not_eq_true', List.isEmpty_eq_false_iff] at found
        exact found
      have length := once kind
      cases known : seen kind with
      | true => simp only [known, Bool.true_or]
      | false =>
        rw [known, if_neg Bool.false_ne_true] at length
        exact (some_ (List.length_eq_zero_iff.mp length)).elim
    · simp only [same, decide_false, Bool.or_false]
  | @added _ row fresh appended category summary =>
    refine ⟨since ++ [row], log.append monotone appended (isSuccessfulInsert_marker category summary), fun other => ?_⟩
    rw [rows_append, category, summary, List.length_append, once other]
    by_cases same : kind = other ∧ enclosure = enclosureId ∧ slot = slotId
    · rw [if_pos (marker_eq_iff.mpr same)]
      obtain ⟨rfl, rfl, rfl⟩ := same
      have none_ : kind.rows enclosure slot since = [] := by
        rw [log.markerRecorded_eq, Bool.not_eq_false', List.isEmpty_iff] at fresh
        exact fresh
      have length := once kind
      rw [none_, List.length_nil] at length
      rw [← length]
      simp only [and_self, decide_true, Bool.or_true, ↓reduceIte, List.length_singleton, zero_add]
    · rw [if_neg (fun equal => same (marker_eq_iff.mp equal))]
      simp only [same, decide_false, Bool.or_false, List.length_nil, add_zero]

/-- Any step but a successful insert of the slot stays in the cycle. -/
theorem CycleLog.step (log : CycleLog clock enclosureId slotId earlier opening since world)
    (monotone : Monotone clock) {seen : MarkerKind → Bool} (once : Once enclosureId slotId since seen)
    {step : CycleStep} (inside : step.opens enclosureId slotId = false) :
    ∃ since', CycleLog clock enclosureId slotId earlier opening since' (cycleStep clock world step) ∧
      Once enclosureId slotId since' fun kind => seen kind || step.observes kind enclosureId slotId := by
  cases step with
  | insert action =>
    obtain ⟨row, appended, category, summary⟩ :=
      appended_operatorAction clock world action.username action.message
    have other : isSuccessfulInsert enclosureId slotId row = false := by
      apply Bool.eq_false_iff.mpr
      exact fun opens => of_decide_eq_false inside (slot_of_isSuccessfulInsert opens summary)
    refine ⟨since ++ [row], log.append monotone appended other, fun kind => ?_⟩
    have unmarked : ¬(row.category = kind.category ∧ row.summary = kind.summary enclosureId slotId) := by
      rintro ⟨sameCategory, sameSummary⟩
      cases kind with
      | progress => exact absurd (category.symm.trans sameCategory) (by decide)
      | complete => exact message_ne_rebuildCompleteSummary _ _ _ (summary.symm.trans sameSummary)
    rw [rows_append, if_neg unmarked, List.append_nil, once kind]
    simp only [CycleStep.observes, Bool.or_false]
  | status enclosure slot answer username =>
    have first : ∃ since', CycleLog clock enclosureId slotId earlier opening since'
          (if answer.inProgress then world.recordRebuildProgressObservedOnce clock enclosure slot answer else world) ∧
        Once enclosureId slotId since' fun kind => seen kind ||
          (answer.inProgress && decide (MarkerKind.progress = kind ∧ enclosure = enclosureId ∧ slot = slotId)) := by
      cases observed : answer.inProgress with
      | true => exact log.recorded monotone once (recorded_progress enclosure slot answer)
      | false => exact ⟨since, log, fun kind => by simp only [once kind, Bool.false_and, Bool.or_false]⟩
    obtain ⟨middle, log, once⟩ := first
    have second : ∃ since', CycleLog clock enclosureId slotId earlier opening since'
          (cycleStep clock world (.status enclosure slot answer username)) ∧
        Once enclosureId slotId since' fun kind => seen kind ||
          (answer.inProgress && decide (MarkerKind.progress = kind ∧ enclosure = enclosureId ∧ slot = slotId)) ||
          (answer.complete && decide (MarkerKind.complete = kind ∧ enclosure = enclosureId ∧ slot = slotId)) := by
      simp only [cycleStep, World.rebuildStatus]
      cases observed : answer.complete with
      | true => exact log.recorded monotone once (recorded_complete enclosure slot username)
      | false => exact ⟨middle, log, fun kind => by simp only [once kind, Bool.false_and, Bool.or_false]⟩
    obtain ⟨since', log, once⟩ := second
    refine ⟨since', log, fun kind => ?_⟩
    rw [once kind]
    apply if_congr _ rfl rfl
    cases kind with
    | progress => simp [CycleStep.observes, MarkerKind.observed]
    | complete => simp [CycleStep.observes, MarkerKind.observed]

/-- A whole cycle, from any state within it. -/
theorem CycleLog.run (log : CycleLog clock enclosureId slotId earlier opening since world) (monotone : Monotone clock)
    {seen : MarkerKind → Bool} (once : Once enclosureId slotId since seen) {cycle : List CycleStep}
    (inside : cycle.any (·.opens enclosureId slotId) = false) :
    ∃ since', CycleLog clock enclosureId slotId earlier opening since' (cycle.foldl (cycleStep clock) world) ∧
      Once enclosureId slotId since' fun kind => seen kind || cycle.any (·.observes kind enclosureId slotId) := by
  induction cycle generalizing world since seen with
  | nil => exact ⟨since, log, fun kind => by simp only [once kind, List.any_nil, Bool.or_false]⟩
  | cons step rest ih =>
    rw [List.any_cons, Bool.or_eq_false_iff] at inside
    obtain ⟨middle, log, once⟩ := log.step monotone once inside.1
    obtain ⟨since', log, once⟩ := ih log once inside.2
    refine ⟨since', log, fun kind => ?_⟩
    rw [once kind]
    apply if_congr _ rfl rfl
    simp only [List.any_cons, Bool.or_assoc]

theorem rowsPast_step (past : world.RowsPast clock) (monotone : Monotone clock) (step : CycleStep) :
    (cycleStep clock world step).RowsPast clock := by
  have kept {kind : MarkerKind} {enclosure slot : ℕ} {world after : World} (past : world.RowsPast clock)
      (recorded : Recorded clock kind enclosure slot world after) : after.RowsPast clock := by
    cases recorded with
    | known found => exact past
    | added fresh appended category summary => exact past.append monotone appended
  cases step with
  | insert action =>
    obtain ⟨row, appended, -⟩ :=
      appended_operatorAction clock world action.username action.message
    exact past.append monotone appended
  | status enclosure slot answer username =>
    have first : (if answer.inProgress then world.recordRebuildProgressObservedOnce clock enclosure slot answer
        else world).RowsPast clock := by
      split
      · exact kept past (recorded_progress enclosure slot answer)
      · exact past
    simp only [cycleStep, World.rebuildStatus]
    split
    · exact kept first (recorded_complete enclosure slot username)
    · exact first

theorem rowsPast_run (past : world.RowsPast clock) (monotone : Monotone clock) (steps : List CycleStep) :
    (steps.foldl (cycleStep clock) world).RowsPast clock := by
  induction steps generalizing world with
  | nil => exact past
  | cons step rest ih => exact ih (rowsPast_step past monotone step)

/-- In every run whose successful inserts carry readable serial numbers, from any state of the database, each marker
is recorded once per cycle. -/
theorem rebuild_markers_once_per_cycle (monotone : Monotone clock) {start : World} (past : start.RowsPast clock)
    {steps : List CycleStep} (readable : ∀ action, .insert action ∈ steps → action.readable = true) :
    MarkersOncePerCycle clock start steps := by
  rintro earlier insert cycle later rfl inside kind
  obtain ⟨row, appended, category, summary⟩ := appended_operatorAction clock
    (earlier.foldl (cycleStep clock) start) insert.username insert.message
  have opens := isSuccessfulInsert_message (readable insert (List.mem_append_right _ List.mem_cons_self)) category summary
  have log := CycleLog.open (rowsPast_run past monotone earlier) monotone appended opens
  obtain ⟨since, log, once⟩ := log.run monotone (fun kind => rfl : Once _ _ _ fun _ => false) inside
  have opened : (earlier ++ [CycleStep.insert insert]).foldl (cycleStep clock) start =
      (earlier.foldl (cycleStep clock) start).recordOperatorAction clock insert.username insert.message :=
    List.foldl_concat _ _ _ _
  have rows : (cycle.foldl (cycleStep clock) ((earlier.foldl (cycleStep clock) start).recordOperatorAction clock
      insert.username insert.message)).db.events.drop ((earlier.foldl (cycleStep clock) start).db.events ++ [row]).length =
        since := by
    rw [log.events, List.append_cons _ row since]
    exact List.drop_left
  dsimp only
  rw [opened, appended.events, rows, once kind]
  simp only [Bool.false_or]

/-- A cycle that sees the rebuild twice, in between another slot's request. -/
theorem rebuild_markers_once_per_cycle_twice :
    MarkersOncePerCycle (fun tick => tick) .initial
      [.insert ⟨252, 1, "WD-1", 0, 0, 1, "admin"⟩, .status 252 1 ⟨some 10, "In progress"⟩ "admin",
        .status 252 11 ⟨some 10, "In progress"⟩ "admin", .status 252 1 ⟨some 20, "In progress"⟩ "admin",
        .insert ⟨252, 1, "WD-2", 0, 0, 1, "admin"⟩, .status 252 1 ⟨some 10, "In progress"⟩ "admin"] :=
  rebuild_markers_once_per_cycle (fun _ _ le => Int.ofNat_le.mpr le) (fun _ member => by cases member) (by
    intro action member
    simp only [List.mem_cons, CycleStep.insert.injEq, reduceCtorEq, false_or, List.not_mem_nil, or_false] at member
    rcases member with rfl | rfl
    · decide
    · decide)

/-- A serial number that begins with `FAILED` makes a successful insert look like a failed one, so that the
marker of the earlier cycle suppresses the next one. -/
theorem not_rebuild_markers_once_per_cycle :
    ¬MarkersOncePerCycle (fun tick => tick) .initial
      [.insert ⟨252, 1, "WD-1", 0, 0, 1, "admin"⟩, .status 252 1 ⟨some 10, "In progress"⟩ "admin",
        .insert ⟨252, 1, "FAILED01", 0, 0, 1, "admin"⟩, .status 252 1 ⟨some 10, "In progress"⟩ "admin"] := by
  intro once
  have count := once [.insert ⟨252, 1, "WD-1", 0, 0, 1, "admin"⟩, .status 252 1 ⟨some 10, "In progress"⟩ "admin"]
    ⟨252, 1, "FAILED01", 0, 0, 1, "admin"⟩ [.status 252 1 ⟨some 10, "In progress"⟩ "admin"] [] rfl (by decide) .progress
  revert count
  decide +kernel

end Markers

end MegaraidDashboard.Services
