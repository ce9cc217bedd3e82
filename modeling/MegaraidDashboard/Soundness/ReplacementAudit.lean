import Mathlib
import MegaraidDashboard.Model.Web.Maintenance
import MegaraidDashboard.Model.Web.ReplacementAudit
import MegaraidDashboard.ToMathlib.Decimals
import MegaraidDashboard.ToMathlib.Words

/-! # What the audit log says of a replacement

The insert gate opens only behind a successful Missing of the slot itself. An appended event leaves the gate
and the wizard alone, whatever the log, if and only if neither query selects it; the queries select by
text, so that a reason, an error text or another slot's number can be selected as well.
-/

namespace MegaraidDashboard.Web

open Db

/-! ## The words of a message -/

section Words

theorem slotReference_toList (enclosureId slotId : ℕ) : (slotReference enclosureId slotId).toList =
    (toString enclosureId).toList ++ ':' :: (toString slotId).toList := by
  rw [slotReference, String.toList_append, String.toList_append, List.append_assoc]
  rfl

theorem slotToken_toList (enclosureId slotId : ℕ) : (slotToken enclosureId slotId).toList =
    "drive".toList ++ ' ' :: (slotReference enclosureId slotId).toList := by
  rw [slotToken, String.toList_append]
  rfl

theorem mem_slotReference {enclosureId slotId : ℕ} {char : Char}
    (member : char ∈ (slotReference enclosureId slotId).toList) : char.isDigit = true ∨ char = ':' := by
  rw [slotReference_toList] at member
  rcases List.mem_append.mp member with enclosure | rest
  · exact .inl (Nat.isDigit_of_mem_toString enclosure)
  · rcases List.mem_cons.mp rest with rfl | slot
    · exact .inr rfl
    · exact .inl (Nat.isDigit_of_mem_toString slot)

theorem notMem_slotReference {char : Char} (other : ¬char.isDigit = true ∧ char ≠ ':') (enclosureId slotId : ℕ) :
    char ∉ (slotReference enclosureId slotId).toList := by
  intro member
  rcases mem_slotReference member with digit | colon
  · exact other.1 digit
  · exact other.2 colon

theorem colon_mem_slotReference (enclosureId slotId : ℕ) : ':' ∈ (slotReference enclosureId slotId).toList := by
  rw [slotReference_toList]
  exact List.mem_append_right _ List.mem_cons_self

theorem mem_of_isSlotReference {reference : List Char} (slot : isSlotReference reference = true) :
    ∀ char ∈ reference, char.isDigit = true ∨ char = ':' := by
  intro char member
  simp only [isSlotReference] at slot
  split at slot
  · next enclosure number split =>
    simp only [Bool.and_eq_true, List.all_eq_true] at slot
    have whole : [':'].intercalate (reference.splitOn ':') = reference := List.intercalate_splitOn ':'
    rw [split] at whole
    rw [← whole] at member
    simp only [List.intercalate_cons_cons, List.intercalate_singleton, List.mem_append, List.mem_singleton] at member
    rcases member with (inside | colon) | inside
    · exact .inl (slot.1.1.2 char inside)
    · exact .inr colon
    · exact .inl (slot.2 char inside)
  · cases slot

theorem isSlotReference_slotReference (enclosureId slotId : ℕ) :
    isSlotReference (slotReference enclosureId slotId).toList = true := by
  have free (number : ℕ) : ':' ∉ (toString number).toList := fun member =>
    absurd (Nat.isDigit_of_mem_toString member) (by decide)
  have split : (slotReference enclosureId slotId).toList.splitOn ':' =
      [(toString enclosureId).toList, (toString slotId).toList] := by
    rw [slotReference_toList, List.splitOn_append_cons_self, List.splitOn_eq_singleton (free _),
      List.splitOn_eq_singleton (free _)]
    rfl
  simp only [isSlotReference, split, Bool.and_eq_true, Bool.not_eq_true', List.isEmpty_eq_false_iff,
    List.all_eq_true]
  exact ⟨⟨⟨Nat.toString_toList_ne_nil _, fun _ => Nat.isDigit_of_mem_toString⟩, Nat.toString_toList_ne_nil _⟩,
    fun _ => Nat.isDigit_of_mem_toString⟩

/-- Lower-casing makes no blank. -/
theorem toLower_eq_blank (char : Char) : char.toLower = ' ' ↔ char = ' ' := by
  by_cases upper : char.isUpper = true
  · have alpha : char.toLower.isAlpha = true := by
      rw [Char.isAlpha_toLower_eq_isAlpha, Char.isAlpha, upper, Bool.true_or]
    constructor
    · intro blank
      rw [blank] at alpha
      exact absurd alpha (by decide)
    · rintro rfl
      exact absurd upper (by decide)
  · rw [Char.toLower_eq_of_not_isUpper upper]

theorem map_toLower_of_reference {reference : List Char}
    (plain : ∀ char ∈ reference, char.isDigit = true ∨ char = ':') : reference.map Char.toLower = reference := by
  conv_rhs => rw [← List.map_id reference]
  apply List.map_congr_left
  intro char member
  apply Char.toLower_eq_of_not_isUpper
  rcases plain char member with digit | rfl
  · simp only [Char.isDigit, Char.isUpper, Bool.and_eq_true, decide_eq_true_eq, UInt32.le_iff_toNat_le] at digit ⊢
    intro upper
    exact absurd (upper.1.trans digit.2) (by decide)
  · decide

/-- The words of a successful Missing, with the reference of some slot and some serial number. -/
def missingWords (reference number : List Char) : List (List Char) :=
  ["replace".toList, "step".toList, "missing".toList, "drive".toList, reference, "serial".toList, number,
    "succeeded".toList]

theorem replaceStepMissingSucceeded_iff {message : String} : replaceStepMissingSucceeded message = true ↔
    ∃ reference number, message.toList.splitOn ' ' = missingWords reference number ∧
      isSlotReference reference = true ∧ number ≠ [] ∧ ∀ char ∈ number, Py.isSpace char = false := by
  constructor
  · intro matched
    simp only [replaceStepMissingSucceeded] at matched
    split at matched
    · next split =>
      simp only [Bool.and_eq_true, beq_iff_eq, Bool.not_eq_true', List.isEmpty_eq_false_iff,
        List.all_eq_true] at matched
      obtain ⟨⟨⟨⟨⟨⟨⟨⟨rfl, rfl⟩, rfl⟩, rfl⟩, reference⟩, rfl⟩, some⟩, solid⟩, rfl⟩ := matched
      exact ⟨_, _, split, reference, some, solid⟩
    · cases matched
  · rintro ⟨reference, number, split, slot, some, solid⟩
    simp only [replaceStepMissingSucceeded, split, missingWords, slot, Bool.and_eq_true, beq_self_eq_true,
      Bool.not_eq_true', List.isEmpty_eq_false_iff, List.all_eq_true, true_and, and_true]
    exact ⟨some, solid⟩

/-- Where a word that ends with `drive` can stand in a successful Missing. -/
theorem drive_word_position {words more : List (List Char)} {front next reference number : List Char}
    (split : missingWords reference number = words ++ (front ++ "drive".toList) :: next :: more)
    (plain : ∀ char ∈ reference, char.isDigit = true ∨ char = ':') (colon : ':' ∈ next) :
    next = reference ∧ more ≠ [] := by
  have last (word : List Char) (same : word = front ++ "drive".toList) :
      word.reverse.take 5 = "drive".toList.reverse := by
    rw [same, List.reverse_append]
    exact List.take_left' rfl
  rcases words with _ | ⟨_, _ | ⟨_, _ | ⟨_, _ | ⟨_, _ | ⟨_, _ | ⟨_, words⟩⟩⟩⟩⟩⟩
  · exact absurd (last _ (List.cons.inj split).1) (by decide)
  · simp only [missingWords, List.cons_append, List.nil_append, List.cons.injEq] at split
    exact absurd (last _ split.2.1) (by decide)
  · simp only [missingWords, List.cons_append, List.nil_append, List.cons.injEq] at split
    exact absurd (last _ split.2.2.1) (by decide)
  · simp only [missingWords, List.cons_append, List.nil_append, List.cons.injEq] at split
    obtain ⟨-, -, -, -, rfl, rfl⟩ := split
    exact ⟨rfl, List.cons_ne_nil _ _⟩
  · simp only [missingWords, List.cons_append, List.nil_append, List.cons.injEq] at split
    have letter : 'd' ∈ reference := by
      rw [split.2.2.2.2.1]
      exact List.mem_append_right _ (by decide)
    rcases plain 'd' letter with digit | same
    · exact absurd digit (by decide)
    · exact absurd same (by decide)
  · simp only [missingWords, List.cons_append, List.nil_append, List.cons.injEq] at split
    exact absurd (last _ split.2.2.2.2.2.1) (by decide)
  · rw [missingWords] at split
    rcases words with _ | ⟨_, words⟩
    · simp only [List.cons_append, List.nil_append, List.cons.injEq] at split
      obtain ⟨-, -, -, -, -, -, -, rfl, -⟩ := split
      exact absurd colon (by decide)
    · have lengths := congrArg List.length split
      simp only [List.length_cons, List.length_nil, List.cons_append, List.length_append] at lengths
      omega

/-- What follows the word `step` in a successful Missing. -/
theorem step_word_position {words more : List (List Char)} {front next reference number : List Char}
    (split : missingWords reference number = words ++ front :: "step".toList :: next :: more)
    (colon : ':' ∈ reference) (other : number ≠ "step".toList) : next = "missing".toList := by
  rcases words with _ | ⟨_, _ | ⟨_, _ | ⟨_, _ | ⟨_, _ | ⟨_, words⟩⟩⟩⟩⟩
  · exact (List.cons.inj (List.cons.inj (List.cons.inj split).2).2).1.symm
  · simp only [missingWords, List.cons_append, List.nil_append, List.cons.injEq] at split
    exact absurd split.2.2.1 (by decide)
  · simp only [missingWords, List.cons_append, List.nil_append, List.cons.injEq] at split
    exact absurd split.2.2.2.1 (by decide)
  · simp only [missingWords, List.cons_append, List.nil_append, List.cons.injEq] at split
    rw [split.2.2.2.2.1] at colon
    exact absurd colon (by decide)
  · simp only [missingWords, List.cons_append, List.nil_append, List.cons.injEq] at split
    exact absurd split.2.2.2.2.2.1 (by decide)
  · rw [missingWords] at split
    rcases words with _ | ⟨_, words⟩
    · simp only [List.cons_append, List.nil_append, List.cons.injEq] at split
      exact absurd split.2.2.2.2.2.2.1 other
    · have lengths := congrArg List.length split
      simp only [List.length_cons, List.length_nil, List.cons_append, List.length_append] at lengths
      omega

theorem missingWords_toLower {reference : List Char} (number : List Char)
    (plain : ∀ char ∈ reference, char.isDigit = true ∨ char = ':') :
    (missingWords reference number).map (List.map Char.toLower) = missingWords reference (number.map Char.toLower) := by
  simp only [missingWords, List.map_cons, List.map_nil, map_toLower_of_reference plain]
  rfl

theorem replaceMessage_missing_toList (enclosureId slotId : ℕ) (serial : String) :
    (replaceMessage .missing enclosureId slotId serial "succeeded").toList =
      [' '].intercalate (missingWords (slotReference enclosureId slotId).toList serial.toList) := by
  have opening : "replace step ".toList = "replace".toList ++ ' ' :: ("step".toList ++ [' ']) := by decide
  have serialWord : " serial ".toList = ' ' :: ("serial".toList ++ [' ']) := by decide
  have blank : " ".toList = [' '] := by decide
  unfold replaceMessage missingWords
  simp only [String.toList_append, slotToken_toList, List.intercalate_cons_cons, List.intercalate_singleton,
    ReplaceStep.name, List.append_assoc, opening, serialWord, blank, List.cons_append, List.nil_append]

theorem splitOn_replaceMessage_missing (enclosureId slotId : ℕ) {serial : String} (blank : ' ' ∉ serial.toList) :
    (replaceMessage .missing enclosureId slotId serial "succeeded").toList.splitOn ' ' =
      missingWords (slotReference enclosureId slotId).toList serial.toList := by
  rw [replaceMessage_missing_toList]
  apply List.splitOn_intercalate
  · intro word member
    simp only [missingWords, List.mem_cons, List.not_mem_nil, or_false] at member
    rcases member with rfl | rfl | rfl | rfl | rfl | rfl | rfl | rfl
    · decide
    · decide
    · decide
    · decide
    · exact notMem_slotReference (by decide) _ _
    · decide
    · exact blank
    · decide
  · exact List.cons_ne_nil _ _

theorem replaceStepMissingSucceeded_replaceMessage (enclosureId slotId : ℕ) {serial : String}
    (some : serial.toList ≠ []) (solid : ∀ char ∈ serial.toList, Py.isSpace char = false) :
    replaceStepMissingSucceeded (replaceMessage .missing enclosureId slotId serial "succeeded") = true := by
  have blank : ' ' ∉ serial.toList := fun inside => absurd (solid _ inside) (by decide)
  rw [replaceStepMissingSucceeded_iff]
  exact ⟨_, _, splitOn_replaceMessage_missing enclosureId slotId blank, isSlotReference_slotReference _ _, some, solid⟩

end Words

/-! ## What LIKE sees -/

section Like

/-- LIKE compares the front of the text in lower case; it stops at a NUL. -/
theorem likeText_split (text : String) : ∃ rest, text.toList.map Char.toLower = (likeText text).toList ++ rest ∧
    (rest = [] ∨ ∃ more, rest = Char.ofNat 0 :: more) := by
  refine ⟨(text.toList.dropWhile fun char => char != Char.ofNat 0).map Char.toLower, ?_, ?_⟩
  · rw [likeText, asciiLower, String.toList_ofList, String.toList_ofList, ← List.map_append,
      List.takeWhile_append_dropWhile]
  · have stopped := List.head?_dropWhile_not (fun char => char != Char.ofNat 0) text.toList
    cases dropped : text.toList.dropWhile fun char => char != Char.ofNat 0 with
    | nil => exact .inl rfl
    | cons char more =>
      rw [dropped] at stopped
      simp only [List.head?_cons, bne_eq_false_iff_eq] at stopped
      exact .inr ⟨_, by rw [stopped]; rfl⟩

theorem likeText_append {first : String} (clean : ∀ char ∈ first.toList, char ≠ Char.ofNat 0) (second : String) :
    likeText (first ++ second) = asciiLower first ++ likeText second := by
  rw [likeText, String.toList_append, List.takeWhile_append_of_pos, String.ofList_append, asciiLower_append,
    String.ofList_toList]
  · rfl
  · intro char member
    exact bne_iff_ne.mpr (clean char member)

theorem slotToken_clean (enclosureId slotId : ℕ) :
    ∀ char ∈ (slotToken enclosureId slotId).toList, char ≠ Char.ofNat 0 := by
  rintro _ member rfl
  rw [slotToken_toList] at member
  rcases List.mem_append.mp member with word | rest
  · exact absurd word (by decide)
  · rcases List.mem_cons.mp rest with blank | reference
    · exact absurd blank (by decide)
    · exact notMem_slotReference (by decide) _ _ reference

theorem asciiLower_slotToken (enclosureId slotId : ℕ) :
    asciiLower (slotToken enclosureId slotId) = slotToken enclosureId slotId := by
  rw [← String.toList_inj, asciiLower, String.toList_ofList, slotToken_toList, List.map_append, List.map_cons,
    map_toLower_of_reference fun char member => mem_slotReference member]
  rfl

theorem likeText_slotToken (enclosureId slotId : ℕ) :
    likeText (slotToken enclosureId slotId) = slotToken enclosureId slotId := by
  have whole := likeText_append (slotToken_clean enclosureId slotId) ""
  rw [String.append_empty, asciiLower_slotToken] at whole
  exact whole.trans String.append_empty

/-- The words around the slot in a summary that the gate's query selects. -/
theorem words_of_gateSelects {fullSupportedActions : Bool} {enclosureId slotId : ℕ} {event : Event}
    (selected : gateSelects fullSupportedActions enclosureId slotId event = true) :
    ∃ words front next more, (event.summary.toList.map Char.toLower).splitOn ' ' =
        words ++ (front ++ "drive".toList) :: next :: more ∧ ':' ∈ next ∧
      (next = (slotReference enclosureId slotId).toList ∨ more = [] ∨ Char.ofNat 0 ∈ next) := by
  obtain ⟨rest, whole, stop⟩ := likeText_split event.summary
  have blankDrive : ' ' ∉ "drive".toList := by decide
  have blankReference : ' ' ∉ (slotReference enclosureId slotId).toList := notMem_slotReference (by decide) _ _
  have colon := colon_mem_slotReference enclosureId slotId
  simp only [gateSelects, likeText_slotToken, Bool.and_eq_true, Bool.or_eq_true] at selected
  rcases selected.1.2 with inside | last
  · obtain ⟨before, after, inside⟩ := Py.contains_iff.mp inside
    rw [inside, String.toList_append, slotToken_toList] at whole
    have cut : event.summary.toList.map Char.toLower = before ++ "drive".toList ++ ' ' ::
        ((slotReference enclosureId slotId).toList ++ ' ' :: (after ++ rest)) := by
      rw [whole]
      simp only [List.append_assoc, List.cons_append]
      rfl
    obtain ⟨words, front, split⟩ := List.splitOn_infix before blankDrive blankReference
    exact ⟨words, front, _, _, cut ▸ split, colon, .inl rfl⟩
  · obtain ⟨before, last⟩ := Py.endsWith_iff.mp last
    rw [last, slotToken_toList] at whole
    rcases stop with rfl | ⟨more, rfl⟩
    · have cut : event.summary.toList.map Char.toLower =
          before ++ "drive".toList ++ ' ' :: (slotReference enclosureId slotId).toList := by
        rw [whole, List.append_nil, List.append_assoc]
      obtain ⟨words, front, split⟩ := List.splitOn_suffix before blankDrive blankReference
      exact ⟨words, front, _, _, cut ▸ split, colon, .inl rfl⟩
    · have cut : event.summary.toList.map Char.toLower = before ++ "drive".toList ++ ' ' ::
          ((slotReference enclosureId slotId).toList ++ [Char.ofNat 0] ++ more) := by
        rw [whole]
        simp only [List.append_assoc, List.cons_append]
        rfl
      obtain ⟨words, front, split⟩ := List.splitOn_append_word before blankDrive
      have blankWord : ' ' ∉ (slotReference enclosureId slotId).toList ++ [Char.ofNat 0] := by
        intro member
        rcases List.mem_append.mp member with reference | stopped
        · exact blankReference reference
        · exact absurd (List.mem_singleton.mp stopped) (by decide)
      obtain ⟨back, others, later⟩ := List.splitOn_word_append more blankWord
      have stopped : Char.ofNat 0 ∈ (slotReference enclosureId slotId).toList ++ [Char.ofNat 0] ++ back :=
        List.mem_append_left _ (List.mem_append_right _ (List.mem_singleton_self _))
      have named : ':' ∈ (slotReference enclosureId slotId).toList ++ [Char.ofNat 0] ++ back :=
        List.mem_append_left _ (List.mem_append_left _ colon)
      refine ⟨words, front, _, others, ?_, named, .inr (.inr stopped)⟩
      rw [cut, List.splitOn_append_cons_self, split, later, List.append_assoc]
      rfl

end Like

/-! ## The gate -/

section Gate

/-- A selected summary that reads as a successful Missing names the slot itself. -/
theorem missing_of_gateSelects {fullSupportedActions : Bool} {enclosureId slotId : ℕ} {event : Event}
    (selected : gateSelects fullSupportedActions enclosureId slotId event = true)
    (succeeded : replaceStepMissingSucceeded event.summary = true) :
    ∃ serial, event.summary = replaceMessage .missing enclosureId slotId serial "succeeded" := by
  obtain ⟨reference, number, read, slot, -, -⟩ := replaceStepMissingSucceeded_iff.mp succeeded
  obtain ⟨words, front, next, more, split, colon, ends⟩ := words_of_gateSelects selected
  have plain := mem_of_isSlotReference slot
  rw [List.splitOn_map toLower_eq_blank, read, missingWords_toLower number plain] at split
  obtain ⟨rfl, others⟩ := drive_word_position split plain colon
  rcases ends with same | none | stopped
  · refine ⟨String.ofList number, ?_⟩
    rw [← String.toList_inj, replaceMessage_missing_toList, String.toList_ofList, ← same, ← read]
    exact (List.intercalate_splitOn ' ').symm
  · exact absurd none others
  · rcases plain _ stopped with digit | same
    · exact absurd digit (by decide)
    · exact absurd same (by decide)

/-- A row of a replacement step of the slot, but for a failed read before an insert. -/
def IsReplacementAction (enclosureId slotId : ℕ) (event : Event) : Prop :=
  event.category = .operatorAction ∧ isReadOnlyPrecheck event = false ∧
    ((∃ step serial outcome, event.summary = replaceMessage step enclosureId slotId serial outcome) ∨
      ∃ serial dg array row outcome, event.summary = insertMessage enclosureId slotId serial dg array row outcome)

theorem likeText_of_step {opening rest : String} (enclosureId slotId : ℕ)
    (clean : ∀ char ∈ opening.toList, char ≠ Char.ofNat 0) :
    likeText (opening ++ slotToken enclosureId slotId ++ (" " ++ rest)) =
      asciiLower opening ++ slotToken enclosureId slotId ++ (" " ++ likeText rest) := by
  have blank : ∀ char ∈ " ".toList, char ≠ Char.ofNat 0 := by decide
  have cleanToken := slotToken_clean enclosureId slotId
  rw [String.append_assoc, likeText_append clean, likeText_append cleanToken, likeText_append blank,
    asciiLower_slotToken, String.append_assoc]
  rfl

/-- The query of the gate selects the rows of every replacement step of the slot. -/
theorem gateSelects_of_opening {enclosureId slotId : ℕ} {event : Event} {opening rest : String}
    (category : event.category = .operatorAction) (marker : isReadOnlyPrecheck event = false)
    (summary : event.summary = opening ++ slotToken enclosureId slotId ++ (" " ++ rest))
    (clean : ∀ char ∈ opening.toList, char ≠ Char.ofNat 0)
    (long : "locate ".toList.length ≤ (asciiLower opening).toList.length)
    (other : Py.startsWith (asciiLower opening) "locate " = false) :
    gateSelects true enclosureId slotId event = true := by
  have token : Py.contains (likeText event.summary) (slotToken enclosureId slotId ++ " ") = true := by
    rw [summary, likeText_of_step enclosureId slotId clean, Py.contains_iff]
    refine ⟨(asciiLower opening).toList, (likeText rest).toList, ?_⟩
    simp only [String.toList_append, List.append_assoc]
  have started : Py.startsWith (likeText event.summary) "locate " = false := by
    rw [summary, likeText_of_step enclosureId slotId clean, String.append_assoc,
      Py.startsWith_append_of_length_le long, other]
  simp only [gateSelects, likeText_slotToken, category, marker, token, started, BEq.rfl, Bool.not_false,
    Bool.and_true, Bool.true_or, Bool.and_false]

theorem gateSelects_of_replacementAction {enclosureId slotId : ℕ} {event : Event}
    (action : IsReplacementAction enclosureId slotId event) :
    gateSelects true enclosureId slotId event = true := by
  obtain ⟨category, marker, ⟨step, serial, outcome, summary⟩ | ⟨serial, dg, array, row, outcome, summary⟩⟩ := action
  · have serialWord : " serial " = " " ++ "serial " := by decide
    have whole : event.summary = "replace step " ++ step.name ++ " " ++ slotToken enclosureId slotId ++
        (" " ++ ("serial " ++ serial ++ " " ++ outcome)) := by
      rw [summary]
      unfold replaceMessage
      simp only [serialWord, String.append_assoc]
    apply gateSelects_of_opening category marker whole
    · cases step <;> decide
    · cases step <;> decide
    · cases step <;> decide
  · have serialWord : " serial " = " " ++ "serial " := by decide
    have whole : event.summary = "replace step insert " ++ slotToken enclosureId slotId ++ (" " ++ ("serial " ++
        serial ++ " dg=" ++ toString dg ++ " array=" ++ toString array ++ " row=" ++ toString row ++ " " ++ outcome)) := by
      rw [summary]
      unfold insertMessage
      simp only [serialWord, String.append_assoc]
    exact gateSelects_of_opening category marker whole (by decide) (by decide) (by decide)

/-- The gate is open only behind a successful Missing of the slot with no later replacement action. -/
theorem missing_of_insertGateOpen {log : List Event} {enclosureId slotId : ℕ}
    (opened : insertGateOpen true log enclosureId slotId = true) :
    ∃ before event after, log = before ++ event :: after ∧ IsReplacementAction enclosureId slotId event ∧
      (∃ serial, event.summary = replaceMessage .missing enclosureId slotId serial "succeeded") ∧
      (∀ other ∈ before, IsReplacementAction enclosureId slotId other → other.occurredAt ≤ event.occurredAt) ∧
      ∀ other ∈ after, IsReplacementAction enclosureId slotId other → other.occurredAt < event.occurredAt := by
  rw [insertGateOpen, canTransitionStep3, loadLastOperatorActionForSlot] at opened
  cases last : (log.filter (gateSelects true enclosureId slotId)).latest? (·.occurredAt) with
  | none =>
    rw [last] at opened
    cases opened
  | some event =>
    rw [last] at opened
    have selected := (List.mem_filter.mp (List.latest?_mem last)).2
    obtain ⟨serial, summary⟩ := missing_of_gateSelects selected opened
    obtain ⟨before, after, split, earlier, later⟩ := List.latest?_split last
    obtain ⟨front, _, rfl, rfl, rest⟩ := List.filter_eq_append_iff.mp split
    obtain ⟨skipped, tail, rfl, none, -, rfl⟩ := List.filter_eq_cons_iff.mp rest
    have category : event.category = .operatorAction ∧ isReadOnlyPrecheck event = false := by
      simp only [gateSelects, Bool.and_eq_true, beq_iff_eq, Bool.not_eq_true'] at selected
      exact selected.1.1
    refine ⟨front ++ skipped, event, tail, (List.append_assoc _ _ _).symm, ?_, ⟨serial, summary⟩, ?_, ?_⟩
    · exact ⟨category.1, category.2, .inl ⟨_, _, _, summary⟩⟩
    · intro other member action
      have chosen := gateSelects_of_replacementAction action
      rcases List.mem_append.mp member with inside | inside
      · exact earlier other (List.mem_filter.mpr ⟨inside, chosen⟩)
      · exact absurd chosen (none other inside)
    · intro other member action
      exact later other (List.mem_filter.mpr ⟨member, gateSelects_of_replacementAction action⟩)

/-- Locate leaves the gate alone, whatever its outcome text says. -/
theorem gateSelects_locate {event : Event} {action outcome : String} {locateEnclosure locateSlot : ℕ}
    (summary : event.summary = locateMessage action locateEnclosure locateSlot outcome) (enclosureId slotId : ℕ) :
    gateSelects true enclosureId slotId event = false := by
  have started : Py.startsWith (likeText event.summary) "locate " = true := by
    have opening : ∀ char ∈ "locate ".toList, char ≠ Char.ofNat 0 := by decide
    have lower : asciiLower "locate " = "locate " := by decide
    have whole : event.summary = "locate " ++ (action ++ " " ++ slotToken locateEnclosure locateSlot ++ " " ++ outcome) := by
      rw [summary]
      unfold locateMessage
      simp only [String.append_assoc]
    rw [whole, likeText_append opening, lower]
    exact Py.startsWith_append "locate " _
  simp only [gateSelects, started, Bool.and_true, Bool.not_true, Bool.and_false]

/-- A failed read before an insert leaves the gate alone. -/
theorem gateSelects_readOnlyPrecheck {event : Event} (marker : isReadOnlyPrecheck event = true)
    (fullSupportedActions : Bool) (enclosureId slotId : ℕ) :
    gateSelects fullSupportedActions enclosureId slotId event = false := by
  simp only [gateSelects, marker, Bool.not_true, Bool.and_false, Bool.false_and]

end Gate

/-! ## The wizard -/

section Wizard

theorem containsInOrder_iff {text first second : String} : containsInOrder text first second = true ↔
    ∃ before middle after, text.toList = before ++ first.toList ++ middle ++ second.toList ++ after := by
  simp only [containsInOrder, List.any_eq_true, List.mem_tails, Bool.and_eq_true, List.isPrefixOf_iff_prefix]
  constructor
  · rintro ⟨tail, ⟨before, whole⟩, ⟨rest, rfl⟩, last, ⟨middle, inner⟩, ⟨after, rfl⟩⟩
    rw [List.drop_left] at inner
    exact ⟨before, middle, after, by rw [← whole, ← inner]; simp only [List.append_assoc]⟩
  · rintro ⟨before, middle, after, whole⟩
    refine ⟨first.toList ++ (middle ++ second.toList ++ after), ⟨before, ?_⟩, ⟨_, rfl⟩,
      second.toList ++ after, ⟨middle, ?_⟩, ⟨_, rfl⟩⟩
    · rw [whole]
      simp only [List.append_assoc]
    · rw [List.drop_left, List.append_assoc]

/-- The words of a successful Missing hold no insert. -/
theorem not_insert_of_missing {enclosureId slotId : ℕ} {serial : String} (blank : ' ' ∉ serial.toList)
    (other : serial.toList ≠ "step".toList) :
    Py.contains (replaceMessage .missing enclosureId slotId serial "succeeded") "replace step insert" = false := by
  rw [Bool.eq_false_iff]
  intro inside
  obtain ⟨before, after, whole⟩ := Py.contains_iff.mp inside
  have cut : (replaceMessage .missing enclosureId slotId serial "succeeded").toList =
      before ++ "replace".toList ++ ' ' :: ("step".toList ++ ' ' :: ("insert".toList ++ after)) := by
    have words : "replace step insert".toList = "replace".toList ++ ' ' :: ("step".toList ++ ' ' :: "insert".toList) := by
      decide
    rw [whole, words]
    simp only [List.append_assoc, List.cons_append]
  obtain ⟨back, more, later⟩ := List.splitOn_word_append after (show ' ' ∉ "insert".toList by decide)
  obtain ⟨words, front, split⟩ := List.splitOn_infix before
    (show ' ' ∉ "replace".toList by decide) (show ' ' ∉ "step".toList by decide)
  rw [← cut, splitOn_replaceMessage_missing enclosureId slotId blank, later] at split
  have next := step_word_position split (colon_mem_slotReference enclosureId slotId) other
  have first : some 'i' = some 'm' := congrArg List.head? next
  exact absurd first (by decide)

/-- The wizard selects the successful Missing of a slot and stands at the second step behind it. -/
theorem wizardSelects_missing {enclosureId slotId : ℕ} {serial : String} {event : Event}
    (category : event.category = .operatorAction)
    (summary : event.summary = replaceMessage .missing enclosureId slotId serial "succeeded") :
    wizardSelects enclosureId slotId event = true := by
  have whole : event.summary =
      "replace step missing " ++ slotToken enclosureId slotId ++ (" " ++ ("serial " ++ serial ++ " succeeded")) := by
    have serialWord : " serial " = " " ++ "serial " := by decide
    have opening : "replace step missing " = "replace step " ++ "missing" ++ " " := by decide
    have ending : " succeeded" = " " ++ "succeeded" := by decide
    rw [summary, opening, ending]
    unfold replaceMessage ReplaceStep.name
    simp only [serialWord, String.append_assoc]
  have inOrder : containsInOrder (likeText event.summary) "replace step"
      (likeText (slotToken enclosureId slotId)) = true := by
    have opening : (asciiLower "replace step missing ").toList = "replace step".toList ++ " missing ".toList := by decide
    rw [likeText_slotToken, whole, likeText_of_step enclosureId slotId (by decide), containsInOrder_iff]
    refine ⟨[], " missing ".toList, (" " ++ likeText ("serial " ++ serial ++ " succeeded")).toList, ?_⟩
    rw [String.toList_append, String.toList_append, opening, List.nil_append]
  simp only [wizardSelects, category, inOrder, BEq.rfl, Bool.and_self, Bool.or_true]

theorem replaceStepOf_missing {enclosureId slotId : ℕ} {serial : String} {event : Event}
    (category : event.category = .operatorAction) (blank : ' ' ∉ serial.toList)
    (other : serial.toList ≠ "step".toList)
    (summary : event.summary = replaceMessage .missing enclosureId slotId serial "succeeded") :
    replaceStepOf event = some 2 := by
  have missing : Py.contains event.summary "replace step missing" = true := by
    have opening : "replace step ".toList ++ "missing".toList = "replace step missing".toList := by decide
    rw [summary, Py.contains_iff]
    unfold replaceMessage ReplaceStep.name
    refine ⟨[], (" " ++ (slotToken enclosureId slotId ++ (" serial " ++ (serial ++ (" " ++ "succeeded"))))).toList, ?_⟩
    rw [← opening]
    simp only [String.toList_append, List.append_assoc, List.nil_append]
  rw [replaceStepOf, category, summary, not_insert_of_missing blank other, ← summary, missing]
  rfl

/-- A row that opens the gate of a slot and holds its wizard at the second step. -/
def missingRow (enclosureId slotId : ℕ) (occurredAt : ℤ) : Event where
  id := 1
  occurredAt := occurredAt
  severity := .info
  category := .operatorAction
  subject := .operatorAction
  summary := replaceMessage .missing enclosureId slotId "0" "succeeded"
  beforeJson := none
  afterJson := none
  operatorUsername := some "admin"
  notifiedAt := none

theorem missingRow_action (enclosureId slotId : ℕ) (occurredAt : ℤ) :
    IsReplacementAction enclosureId slotId (missingRow enclosureId slotId occurredAt) :=
  ⟨rfl, rfl, .inl ⟨_, _, _, rfl⟩⟩

theorem missingRow_succeeded (enclosureId slotId : ℕ) (occurredAt : ℤ) :
    replaceStepMissingSucceeded (missingRow enclosureId slotId occurredAt).summary = true :=
  replaceStepMissingSucceeded_replaceMessage enclosureId slotId (by decide) (by decide)

theorem missingRow_step (enclosureId slotId : ℕ) (occurredAt : ℤ) :
    replaceStepOf (missingRow enclosureId slotId occurredAt) = some 2 :=
  replaceStepOf_missing rfl (show ' ' ∉ "0".toList by decide) (by decide) rfl

end Wizard

/-! ## The frame -/

section Frame

variable {enclosureId slotId : ℕ} {event : Event}

theorem insertGateOpen_concat_of_pos {log : List Event} (selected : gateSelects true enclosureId slotId event = true)
    (newest : ∀ other ∈ log, other.occurredAt ≤ event.occurredAt) :
    insertGateOpen true (log ++ [event]) enclosureId slotId = replaceStepMissingSucceeded event.summary := by
  rw [insertGateOpen, loadLastOperatorActionForSlot, List.latest?_filter_concat_of_pos selected newest]
  rfl

theorem latestReplaceStep_concat_of_pos {log : List Event} (selected : wizardSelects enclosureId slotId event = true)
    (newest : ∀ other ∈ log, other.occurredAt ≤ event.occurredAt) :
    latestReplaceStep (log ++ [event]) enclosureId slotId = replaceStepOf event := by
  rw [latestReplaceStep, List.latest?_filter_concat_of_pos selected newest]
  rfl

theorem insertGateOpen_missingRow (enclosureId slotId : ℕ) (occurredAt : ℤ) :
    insertGateOpen true [missingRow enclosureId slotId occurredAt] enclosureId slotId = true := by
  have row : insertGateOpen true ([] ++ [missingRow enclosureId slotId occurredAt]) enclosureId slotId = _ :=
    insertGateOpen_concat_of_pos (gateSelects_of_replacementAction (missingRow_action enclosureId slotId occurredAt))
      (List.forall_mem_nil _)
  rwa [missingRow_succeeded, List.nil_append] at row

theorem latestReplaceStep_missingRow (enclosureId slotId : ℕ) (occurredAt : ℤ) :
    latestReplaceStep [missingRow enclosureId slotId occurredAt] enclosureId slotId = some 2 := by
  have row : latestReplaceStep ([] ++ [missingRow enclosureId slotId occurredAt]) enclosureId slotId = _ :=
    latestReplaceStep_concat_of_pos (wizardSelects_missing rfl rfl) (List.forall_mem_nil _)
  rwa [missingRow_step, List.nil_append] at row

/-- An event that the gate's query selects opens the gate of an empty log or closes it behind a Missing. -/
theorem gateSelects_eq_false_of_frame
    (frame : ∀ log, insertGateOpen true (log ++ [event]) enclosureId slotId = insertGateOpen true log enclosureId slotId) :
    gateSelects true enclosureId slotId event = false := by
  rw [Bool.eq_false_iff]
  intro selected
  have empty := frame []
  have behind := frame [missingRow enclosureId slotId event.occurredAt]
  rw [insertGateOpen_concat_of_pos selected (List.forall_mem_nil _)] at empty
  have newest : ∀ other ∈ [missingRow enclosureId slotId event.occurredAt], other.occurredAt ≤ event.occurredAt :=
    List.forall_mem_singleton.mpr le_rfl
  rw [insertGateOpen_concat_of_pos selected newest, insertGateOpen_missingRow, empty] at behind
  cases behind

theorem wizardSelects_eq_false_of_frame
    (frame : ∀ log, latestReplaceStep (log ++ [event]) enclosureId slotId = latestReplaceStep log enclosureId slotId) :
    wizardSelects enclosureId slotId event = false := by
  rw [Bool.eq_false_iff]
  intro selected
  have empty := frame []
  have behind := frame [missingRow enclosureId slotId event.occurredAt]
  rw [latestReplaceStep_concat_of_pos selected (List.forall_mem_nil _)] at empty
  have newest : ∀ other ∈ [missingRow enclosureId slotId event.occurredAt], other.occurredAt ≤ event.occurredAt :=
    List.forall_mem_singleton.mpr le_rfl
  rw [latestReplaceStep_concat_of_pos selected newest, latestReplaceStep_missingRow, empty] at behind
  cases behind

end Frame

/-- An appended event leaves the gate and the wizard of a slot alone, whatever the log, if and only if neither
query selects its text; and the gate is open only behind a successful Missing of the slot that no later
replacement action of the slot follows. -/
theorem replacement_state_frame (enclosureId slotId : ℕ) :
    (∀ event, (∀ log,
        insertGateOpen true (log ++ [event]) enclosureId slotId = insertGateOpen true log enclosureId slotId ∧
        latestReplaceStep (log ++ [event]) enclosureId slotId = latestReplaceStep log enclosureId slotId) ↔
      gateSelects true enclosureId slotId event = false ∧ wizardSelects enclosureId slotId event = false) ∧
    ∀ log, insertGateOpen true log enclosureId slotId = true →
      ∃ before event after, log = before ++ event :: after ∧ IsReplacementAction enclosureId slotId event ∧
        (∃ serial, event.summary = replaceMessage .missing enclosureId slotId serial "succeeded") ∧
        (∀ other ∈ before, IsReplacementAction enclosureId slotId other → other.occurredAt ≤ event.occurredAt) ∧
        ∀ other ∈ after, IsReplacementAction enclosureId slotId other → other.occurredAt < event.occurredAt := by
  refine ⟨fun event => ⟨fun frame => ⟨?_, ?_⟩, ?_⟩, fun log opened => missing_of_insertGateOpen opened⟩
  · exact gateSelects_eq_false_of_frame fun log => (frame log).1
  · exact wizardSelects_eq_false_of_frame fun log => (frame log).2
  · rintro ⟨gate, wizard⟩ log
    constructor
    · rw [insertGateOpen, insertGateOpen, loadLastOperatorActionForSlot, loadLastOperatorActionForSlot,
        List.latest?_filter_concat_of_neg gate]
    · rw [latestReplaceStep, latestReplaceStep, List.latest?_filter_concat_of_neg wizard]

/-- A start of maintenance whose reason names the slot closes its gate, a step of the slot 252:40 moves the
wizard of the slot 252:4, and a failed read before an insert ends the cycle that the wizard shows. -/
theorem replacement_state_disturbed :
    (∃ request : MaintenanceStartRequest, ∃ event, event.category = .operatorAction ∧ event.summary = request.message ∧
      insertGateOpen true [missingRow 252 4 0] 252 4 = true ∧
      insertGateOpen true ([missingRow 252 4 0] ++ [event]) 252 4 = false) ∧
    latestReplaceStep ([] ++ [missingRow 252 40 0]) 252 4 = some 2 ∧ latestReplaceStep [] 252 4 = none ∧
    ∃ event, isReadOnlyPrecheck event = true ∧ event.summary = insertMessage 252 4 "B" 0 0 0 "failed: timeout" ∧
      latestReplaceStep [missingRow 252 4 0] 252 4 = some 2 ∧
      latestReplaceStep ([missingRow 252 4 0] ++ [event]) 252 4 = none := by
  refine ⟨⟨⟨60, "swap drive 252:4", by decide, by decide, by decide, by decide⟩,
    { missingRow 252 4 0 with summary := "maintenance start duration 60 min reason: swap drive 252:4" },
    rfl, by decide +kernel, insertGateOpen_missingRow 252 4 0, by decide +kernel⟩, by decide +kernel, rfl,
    { missingRow 252 4 0 with
      summary := insertMessage 252 4 "B" 0 0 0 "failed: timeout"
      afterJson := some readOnlyPrecheckMarker }, by decide +kernel, rfl, latestReplaceStep_missingRow 252 4 0,
    by decide +kernel⟩

end MegaraidDashboard.Web
