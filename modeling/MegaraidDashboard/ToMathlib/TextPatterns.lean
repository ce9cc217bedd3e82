import Mathlib.Data.List.Basic
import Mathlib.Data.List.Forall2

/-! # Text patterns

Regular patterns with words, classes of characters, choices and sequences, and a matcher that backtracks. A class may
have any number of members, so a pattern is no regular expression over its alphabet. A sentence of patterns without a
separator matches the texts whose words match them one by one.
-/

inductive TextPattern (α : Type*) where
  | word (word : List α)
  /-- One or more members of a class. -/
  | run (member : α → Bool)
  | choice (first second : TextPattern α)
  | seq (first second : TextPattern α)

namespace TextPattern

variable {α : Type*}

/-- The texts of a pattern. -/
inductive Matches : TextPattern α → List α → Prop
  | word (text : List α) : Matches (.word text) text
  | run {member : α → Bool} {text : List α} (some_ : text ≠ []) (all : ∀ a ∈ text, member a = true) :
      Matches (.run member) text
  | choiceLeft {first second : TextPattern α} {text : List α} (left : Matches first text) :
      Matches (.choice first second) text
  | choiceRight {first second : TextPattern α} {text : List α} (right : Matches second text) :
      Matches (.choice first second) text
  | seq {first second : TextPattern α} {front back : List α} (left : Matches first front) (right : Matches second back) :
      Matches (.seq first second) (front ++ back)

section Inversion

variable {first second : TextPattern α} {text : List α}

@[simp] theorem matches_word_iff {word : List α} : Matches (.word word) text ↔ text = word := by
  constructor
  · rintro ⟨⟩
    rfl
  · rintro rfl
    exact .word text

@[simp] theorem matches_run_iff {member : α → Bool} :
    Matches (.run member) text ↔ text ≠ [] ∧ ∀ a ∈ text, member a = true := by
  constructor
  · rintro ⟨⟩
    exact ⟨‹_›, ‹_›⟩
  · rintro ⟨some_, all⟩
    exact .run some_ all

@[simp] theorem matches_choice_iff : Matches (.choice first second) text ↔ Matches first text ∨ Matches second text := by
  constructor
  · rintro ⟨⟩
    · exact .inl ‹_›
    · exact .inr ‹_›
  · rintro (left | right)
    · exact .choiceLeft left
    · exact .choiceRight right

@[simp] theorem matches_seq_iff : Matches (.seq first second) text ↔
    ∃ front back, Matches first front ∧ Matches second back ∧ text = front ++ back := by
  constructor
  · rintro ⟨⟩
    exact ⟨_, _, ‹_›, ‹_›, rfl⟩
  · rintro ⟨front, back, left, right, rfl⟩
    exact .seq left right

end Inversion

/-! ## The matcher -/

/-- What can stand behind a run. -/
def runRests (member : α → Bool) : List α → List (List α)
  | [] => []
  | a :: rest => if member a then rest :: runRests member rest else []

theorem mem_runRests {member : α → Bool} {text rest : List α} : rest ∈ runRests member text ↔
    ∃ front, (front ≠ [] ∧ ∀ a ∈ front, member a = true) ∧ text = front ++ rest := by
  induction text with
  | nil =>
    simp only [runRests, List.not_mem_nil, false_iff, not_exists, not_and]
    rintro front ⟨some_, -⟩ whole
    exact some_ (List.append_eq_nil_iff.mp whole.symm).1
  | cons a text ih =>
    by_cases inside : member a = true
    · rw [runRests, if_pos inside, List.mem_cons, ih]
      constructor
      · rintro (rfl | ⟨front, ⟨-, all⟩, rfl⟩)
        · exact ⟨[a], ⟨List.cons_ne_nil _ _, by simpa using inside⟩, rfl⟩
        · exact ⟨a :: front, ⟨List.cons_ne_nil _ _, by simpa using ⟨inside, all⟩⟩, rfl⟩
      · rintro ⟨front, ⟨some_, all⟩, whole⟩
        cases front with
        | nil => exact absurd rfl some_
        | cons b front =>
          obtain ⟨rfl, rfl⟩ := List.cons_eq_cons.mp whole
          cases front with
          | nil => exact .inl rfl
          | cons c front =>
            exact .inr ⟨c :: front, ⟨List.cons_ne_nil _ _, fun d later => all d (List.mem_cons_of_mem _ later)⟩, rfl⟩
    · rw [runRests, if_neg inside]
      simp only [List.not_mem_nil, false_iff, not_exists, not_and]
      rintro front ⟨some_, all⟩ whole
      cases front with
      | nil => exact some_ rfl
      | cons b front =>
        obtain ⟨rfl, rfl⟩ := List.cons_eq_cons.mp whole
        exact inside (all a List.mem_cons_self)

variable [DecidableEq α]

/-- What can stand behind a text of the pattern. -/
def rests : TextPattern α → List α → List (List α)
  | word front, text => if front <+: text then [text.drop front.length] else []
  | run member, text => runRests member text
  | choice first second, text => first.rests text ++ second.rests text
  | seq first second, text => (first.rests text).flatMap second.rests

theorem mem_rests {pattern : TextPattern α} {text rest : List α} :
    rest ∈ pattern.rests text ↔ ∃ front, pattern.Matches front ∧ text = front ++ rest := by
  induction pattern generalizing text rest with
  | word front =>
    rw [rests]
    split
    · next starts =>
      obtain ⟨back, rfl⟩ := starts
      simp [eq_comm]
    · next other =>
      simp only [List.not_mem_nil, matches_word_iff, exists_eq_left, false_iff]
      rintro rfl
      exact other (List.prefix_append _ _)
  | run member => simp only [rests, mem_runRests, matches_run_iff]
  | choice first second left right => simp only [rests, List.mem_append, left, right, matches_choice_iff, or_and_right, exists_or]
  | seq first second left right =>
    simp only [rests, List.mem_flatMap, left, right, matches_seq_iff]
    constructor
    · rintro ⟨_, ⟨front, one, rfl⟩, middle, two, rfl⟩
      exact ⟨front ++ middle, ⟨front, middle, one, two, rfl⟩, (List.append_assoc _ _ _).symm⟩
    · rintro ⟨_, ⟨front, middle, one, two, rfl⟩, rfl⟩
      exact ⟨middle ++ rest, ⟨front, one, List.append_assoc _ _ _⟩, middle, two, rfl⟩

def fullMatch (pattern : TextPattern α) (text : List α) : Bool := decide ([] ∈ pattern.rests text)

theorem fullMatch_iff {pattern : TextPattern α} {text : List α} :
    pattern.fullMatch text = true ↔ pattern.Matches text := by
  simp only [fullMatch, decide_eq_true_eq, mem_rests, List.append_nil, exists_eq_right']

/-! ## Sentences -/

omit [DecidableEq α] in
/-- The patterns one after the other, with a separator between them. -/
def sentence (sep : α) : List (TextPattern α) → TextPattern α
  | [] => word []
  | [pattern] => pattern
  | pattern :: rest => seq pattern (seq (word [sep]) (sentence sep rest))

/-- No text of the pattern has the separator. -/
def avoids (sep : α) : TextPattern α → Bool
  | word text => decide (sep ∉ text)
  | run member => !member sep
  | choice first second => first.avoids sep && second.avoids sep
  | seq first second => first.avoids sep && second.avoids sep

theorem not_mem_of_avoids {sep : α} {pattern : TextPattern α} {text : List α} (avoided : pattern.avoids sep = true)
    (matched : pattern.Matches text) : sep ∉ text := by
  induction matched with
  | word text => simpa [avoids] using avoided
  | run some_ all =>
    intro inside
    rw [avoids, all sep inside] at avoided
    cases avoided
  | choiceLeft left ih =>
    rw [avoids, Bool.and_eq_true] at avoided
    exact ih avoided.1
  | choiceRight right ih =>
    rw [avoids, Bool.and_eq_true] at avoided
    exact ih avoided.2
  | seq left right ihLeft ihRight =>
    rw [avoids, Bool.and_eq_true] at avoided
    rw [List.mem_append]
    exact not_or.mpr ⟨ihLeft avoided.1, ihRight avoided.2⟩

/-- The words of a sentence match its patterns one by one. -/
theorem forall₂_splitOn_of_sentence {sep : α} {patterns : List (TextPattern α)} {text : List α}
    (avoided : patterns.all (avoids sep) = true) (some_ : patterns ≠ []) (matched : (sentence sep patterns).Matches text) :
    List.Forall₂ Matches patterns (text.splitOn sep) := by
  induction patterns generalizing text with
  | nil => exact absurd rfl some_
  | cons pattern rest ih =>
    rw [List.all_cons, Bool.and_eq_true] at avoided
    cases rest with
    | nil =>
      rw [List.splitOn_eq_singleton (not_mem_of_avoids avoided.1 matched)]
      exact .cons matched .nil
    | cons second rest =>
      rw [sentence, matches_seq_iff] at matched
      · obtain ⟨front, back, left, right, rfl⟩ := matched
        rw [matches_seq_iff] at right
        obtain ⟨separator, back, single, later, rfl⟩ := right
        rw [matches_word_iff] at single
        subst single
        rw [List.singleton_append, List.splitOn_append_cons_self,
          List.splitOn_eq_singleton (not_mem_of_avoids avoided.1 left), List.singleton_append]
        exact .cons left (ih avoided.2 (List.cons_ne_nil _ _) later)
      · simp

end TextPattern
