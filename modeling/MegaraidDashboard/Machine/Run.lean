import Mathlib.Data.List.Basic

/-! # Runs of a deterministic machine

A machine is a step function on states; a run folds it over a list of labels. `Guarded` says that
every step of a run meets a condition in the state it starts from. The invariant rule packages the
induction over a run; the simulation rule compares two machines that read the same labels, and
lets the second one stand still.
-/

namespace Machine

variable {σ τ α : Type*}

/-- Every step of the run meets the condition in the state it starts from. -/
def Guarded (step : σ → α → σ) (ok : σ → α → Prop) : σ → List α → Prop
  | _, [] => True
  | state, label :: rest => ok state label ∧ Guarded step ok (step state label) rest

instance decidableGuarded (step : σ → α → σ) (ok : σ → α → Prop) [∀ s a, Decidable (ok s a)] :
    ∀ state labels, Decidable (Guarded step ok state labels)
  | _, [] => .isTrue trivial
  | state, label :: rest =>
    have := decidableGuarded step ok (step state label) rest
    inferInstanceAs (Decidable (_ ∧ _))

namespace Guarded

variable {step : σ → α → σ} {ok : σ → α → Prop}

theorem append_iff {state : σ} {first second : List α} :
    Guarded step ok state (first ++ second) ↔
      Guarded step ok state first ∧ Guarded step ok (first.foldl step state) second := by
  induction first generalizing state with
  | nil => simp [Guarded]
  | cons label rest ih => simp only [List.cons_append, Guarded, List.foldl_cons, ih, and_assoc]

theorem mono {weaker : σ → α → Prop} (implies : ∀ s a, ok s a → weaker s a) {state : σ}
    {labels : List α} (guarded : Guarded step ok state labels) : Guarded step weaker state labels := by
  induction labels generalizing state with
  | nil => trivial
  | cons label rest ih => exact ⟨implies _ _ guarded.1, ih guarded.2⟩

theorem and {also : σ → α → Prop} {state : σ} {labels : List α} (guarded : Guarded step ok state labels)
    (second : Guarded step also state labels) : Guarded step (fun s a => ok s a ∧ also s a) state labels := by
  induction labels generalizing state with
  | nil => trivial
  | cons label rest ih => exact ⟨⟨guarded.1, second.1⟩, ih guarded.2 second.2⟩

/-- What holds at the start and is kept by every admitted step holds at the end of the run. -/
theorem invariant {Inv : σ → Prop} {state : σ} {labels : List α}
    (guarded : Guarded step ok state labels) (start : Inv state)
    (kept : ∀ s a, Inv s → ok s a → Inv (step s a)) : Inv (labels.foldl step state) := by
  induction labels generalizing state with
  | nil => exact start
  | cons label rest ih => exact ih guarded.2 (kept _ _ start guarded.1)

/-- A relation kept by every admitted step of one machine, while the other may skip the label,
relates the endpoints of both runs. -/
theorem simulation {other : τ → α → τ} {skip : α → Bool} {Rel : σ → τ → Prop} {state : σ} {mate : τ}
    {labels : List α} (guarded : Guarded step ok state labels) (start : Rel state mate)
    (stepped : ∀ s t a, skip a = false → Rel s t → ok s a → Rel (step s a) (other t a))
    (skipped : ∀ s t a, skip a = true → Rel s t → ok s a → Rel (step s a) t) :
    Rel (labels.foldl step state) ((labels.filter fun a => !skip a).foldl other mate) := by
  induction labels generalizing state mate with
  | nil => exact start
  | cons label rest ih =>
    cases skips : skip label with
    | true =>
      simp only [List.filter_cons, skips, Bool.not_true, Bool.false_eq_true, ↓reduceIte, List.foldl_cons]
      exact ih guarded.2 (skipped _ _ _ skips start guarded.1)
    | false =>
      simp only [List.filter_cons, skips, Bool.not_false, ↓reduceIte, List.foldl_cons]
      exact ih guarded.2 (stepped _ _ _ skips start guarded.1)

end Guarded

end Machine
