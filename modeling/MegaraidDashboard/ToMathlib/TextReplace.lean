import Mathlib.Data.List.Infix
import Mathlib.Data.List.Basic

/-! # Replacement in texts

Every occurrence of a text is replaced, from the left and without overlaps. When no replacement can become a part of
the text, the result does not have it any more.
-/

namespace List

variable {α : Type*}

/-- A text without the separator lies on one side of it. -/
theorem infix_of_infix_cut {sep : α} {part front back : List α} (whole : sep ∉ part)
    (inside : part <:+: front ++ sep :: back) : part <:+: front ∨ part <:+: back := by
  obtain ⟨before, after, same⟩ := inside
  rcases append_eq_append_iff.mp same with ⟨rest, left, -⟩ | ⟨rest, left, right⟩
  · exact .inl ⟨before, rest, left.symm⟩
  · cases rest with
    | nil => exact .inl ⟨before, [], by rw [append_nil, left, append_nil]⟩
    | cons first rest =>
      obtain ⟨rfl, rfl⟩ := cons_eq_cons.mp right
      rcases append_eq_append_iff.mp left with ⟨overlap, -, cut⟩ | ⟨gap, -, cut⟩
      · exact absurd (cut ▸ mem_append_right overlap mem_cons_self) whole
      · cases gap with
        | nil => exact absurd ((nil_append part ▸ cut) ▸ mem_cons_self) whole
        | cons second gap =>
          obtain ⟨-, rfl⟩ := cons_eq_cons.mp cut
          exact .inr ⟨gap, after, rfl⟩

variable [DecidableEq α]

/-- Replace the occurrences of `old`; the first `skip` entries belong to one that was replaced. -/
def replaceAll (old new : List α) : ℕ → List α → List α
  | _, [] => []
  | skip + 1, _ :: rest => replaceAll old new skip rest
  | 0, first :: rest =>
    if old <+: first :: rest then new ++ replaceAll old new (old.length - 1) rest
    else first :: replaceAll old new 0 rest

variable {old new : List α}

theorem replaceAll_skip (skip : ℕ) (text : List α) : replaceAll old new skip text = replaceAll old new 0 (text.drop skip) := by
  induction text generalizing skip with
  | nil => rw [drop_nil, replaceAll, replaceAll]
  | cons first rest ih =>
    cases skip with
    | zero => rfl
    | succ skip => rw [replaceAll, drop_succ_cons, ih]

/-- What the result starts with, up to the first replacement, the text starts with. -/
theorem prefix_of_prefix_replaceAll {mark : α} {tail part text : List α} (fresh : mark ∉ part)
    (starts : part <+: replaceAll old (mark :: tail) 0 text) : part <+: text := by
  induction text generalizing part with
  | nil => exact starts
  | cons first rest ih =>
    cases part with
    | nil => exact nil_prefix
    | cons head part =>
      rw [replaceAll] at starts
      split_ifs at starts with occurs
      · rw [cons_append] at starts
        exact absurd (cons_prefix_cons.mp starts).1.symm (ne_of_not_mem_cons fresh)
      · obtain ⟨rfl, later⟩ := cons_prefix_cons.mp starts
        exact cons_prefix_cons.mpr ⟨rfl, ih (fun inside => fresh (mem_cons_of_mem _ inside)) later⟩

/-- A replacement that begins and ends with entries foreign to the text, and does not have it inside, removes it. -/
theorem not_infix_replaceAll {first last : α} {middle : List α} (some_ : old ≠ []) (begins : first ∉ old)
    (ends : last ∉ old) (other : ¬old <:+: first :: middle) (text : List α) :
    ¬old <:+: replaceAll old (first :: middle ++ [last]) 0 text := by
  induction length : text.length using Nat.strong_induction_on generalizing text with
  | _ n ih =>
    cases text with
    | nil =>
      rw [replaceAll, infix_nil]
      exact some_
    | cons head rest =>
      rw [replaceAll]
      split_ifs with occurs
      · intro inside
        rw [append_assoc, singleton_append] at inside
        rcases infix_of_infix_cut ends inside with new | later
        · exact other new
        · rw [replaceAll_skip] at later
          refine ih (rest.drop (old.length - 1)).length ?_ _ rfl later
          rw [← length, length_cons, length_drop]
          omega
      · intro inside
        rcases infix_cons_iff.mp inside with starts | later
        · cases old with
          | nil => exact some_ rfl
          | cons head' old =>
            obtain ⟨rfl, later⟩ := cons_prefix_cons.mp starts
            have fresh : first ∉ old := fun inside => begins (mem_cons_of_mem _ inside)
            exact occurs (cons_prefix_cons.mpr ⟨rfl, prefix_of_prefix_replaceAll fresh later⟩)
        · exact ih rest.length (by rw [← length, length_cons]; omega) rest rfl later

end List
