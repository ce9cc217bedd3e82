import Mathlib.Data.List.Basic

/-! # Texts as words

A text is cut at a separator. A piece of text that crosses a separator shows up in the words: what stands
before the separator ends one word, what stands behind it starts the next.
-/

namespace List

variable {α : Type*} [DecidableEq α] {sep : α}

/-- A map that leaves the separator alone acts on each word. -/
theorem splitOn_map {f : α → α} (keeps : ∀ a, f a = sep ↔ a = sep) (text : List α) :
    (text.map f).splitOn sep = (text.splitOn sep).map (map f) := by
  induction text with
  | nil => rfl
  | cons first rest ih =>
    rw [map_cons, splitOn_cons_eq_if_modifyHead, splitOn_cons_eq_if_modifyHead, ih]
    by_cases same : first = sep
    · rw [if_pos (beq_iff_eq.mpr ((keeps first).mpr same)), if_pos (beq_iff_eq.mpr same)]
      rfl
    · rw [if_neg (fun equal => same ((keeps first).mp (beq_iff_eq.mp equal))),
        if_neg (fun equal => same (beq_iff_eq.mp equal))]
      cases rest.splitOn sep <;> rfl

/-- The last word of a text that ends with a word. -/
theorem splitOn_append_word (text : List α) {word : List α} (whole : sep ∉ word) :
    ∃ words front, (text ++ word).splitOn sep = words ++ [front ++ word] := by
  induction text with
  | nil => exact ⟨[], [], splitOn_eq_singleton whole⟩
  | cons first rest ih =>
    obtain ⟨words, front, split⟩ := ih
    rw [cons_append, splitOn_cons_eq_if_modifyHead, split]
    split_ifs
    · exact ⟨[] :: words, front, rfl⟩
    · cases words with
      | nil => exact ⟨[], first :: front, rfl⟩
      | cons head tail => exact ⟨(first :: head) :: tail, front, rfl⟩

/-- The first word of a text that starts with a word. -/
theorem splitOn_word_append {word : List α} (text : List α) (whole : sep ∉ word) :
    ∃ back words, (word ++ text).splitOn sep = (word ++ back) :: words := by
  induction word with
  | nil =>
    obtain ⟨head, tail, split⟩ := exists_cons_of_ne_nil (splitOn_ne_nil sep text)
    exact ⟨head, tail, split⟩
  | cons first rest ih =>
    obtain ⟨back, words, split⟩ := ih fun inside => whole (mem_cons_of_mem _ inside)
    have other : ¬(first == sep) = true := fun same => whole (beq_iff_eq.mp same ▸ mem_cons_self)
    rw [cons_append, splitOn_cons_eq_if_modifyHead, split, if_neg other]
    exact ⟨back, words, rfl⟩

/-- A word between two separators, in a text that goes on with other words. -/
theorem splitOn_infix {before word after : List α} (text : List α) (beforeWhole : sep ∉ before)
    (wordWhole : sep ∉ word) : ∃ words front,
      (text ++ before ++ sep :: (word ++ sep :: after)).splitOn sep =
        words ++ (front ++ before) :: word :: after.splitOn sep := by
  obtain ⟨words, front, split⟩ := splitOn_append_word text beforeWhole
  refine ⟨words, front, ?_⟩
  rw [splitOn_append_cons_self, splitOn_append_cons_self, split, splitOn_eq_singleton wordWhole]
  simp only [append_assoc, singleton_append]

/-- A word behind a separator at the end. -/
theorem splitOn_suffix {before word : List α} (text : List α) (beforeWhole : sep ∉ before)
    (wordWhole : sep ∉ word) : ∃ words front,
      (text ++ before ++ sep :: word).splitOn sep = words ++ [front ++ before, word] := by
  obtain ⟨words, front, split⟩ := splitOn_append_word text beforeWhole
  refine ⟨words, front, ?_⟩
  rw [splitOn_append_cons_self, split, splitOn_eq_singleton wordWhole, append_assoc]
  rfl

omit [DecidableEq α] in
/-- The text before the first separator, and the text behind it, are determined. -/
theorem first_word_inj {word word' back back' : List α} (whole : sep ∉ word) (whole' : sep ∉ word')
    (same : word ++ sep :: back = word' ++ sep :: back') : word = word' ∧ back = back' := by
  induction word generalizing word' with
  | nil =>
    cases word' with
    | nil => exact ⟨rfl, (cons_eq_cons.mp same).2⟩
    | cons first rest => exact (whole' ((cons_eq_cons.mp same).1 ▸ mem_cons_self)).elim
  | cons first rest ih =>
    cases word' with
    | nil => exact (whole ((cons_eq_cons.mp same).1 ▸ mem_cons_self)).elim
    | cons first' rest' =>
      obtain ⟨rfl, tail⟩ := cons_eq_cons.mp same
      obtain ⟨rfl, rfl⟩ := ih (fun inside => whole (mem_cons_of_mem _ inside))
        (fun inside => whole' (mem_cons_of_mem _ inside)) tail
      exact ⟨rfl, rfl⟩

/-- Every separator starts a word. -/
theorem length_splitOn (text : List α) : (text.splitOn sep).length = text.count sep + 1 := by
  induction text with
  | nil => rfl
  | cons first rest ih =>
    rw [splitOn_cons_eq_if_modifyHead, count_cons]
    split_ifs
    · rw [length_cons, ih]
    · rw [length_modifyHead, ih]

omit [DecidableEq α] in
/-- Words without separators, put together with one separator of a class, are the words between its members. -/
theorem splitOnP_intercalate {p : α → Bool} (separates : p sep = true) {words : List (List α)}
    (solid : ∀ word ∈ words, ∀ a ∈ word, p a = false) (some_ : words ≠ []) :
    ([sep].intercalate words).splitOnP p = words := by
  induction words with
  | nil => exact absurd rfl some_
  | cons first rest ih =>
    have own := solid first mem_cons_self
    cases rest with
    | nil => rw [intercalate_singleton, splitOnP_eq_singleton own]
    | cons second rest =>
      have later := ih (fun word member => solid word (mem_cons_of_mem _ member)) (cons_ne_nil _ _)
      rw [intercalate_cons_cons, append_assoc, singleton_append,
        splitOnP_append_cons_of_forall_mem own sep separates, later]

end List
