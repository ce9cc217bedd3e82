import Mathlib.Logic.Basic

/-! # What a computation can raise

`Raises P answer` says that every exception of the answer satisfies `P`. The rules follow the ways a
computation is built.
-/

namespace Except

variable {ε α β : Type} {P Q : ε → Prop}

/-- Every exception of the answer satisfies the predicate. -/
def Raises (P : ε → Prop) (answer : Except ε α) : Prop := ∀ error, answer = .error error → P error

theorem raises_ok (value : α) : Raises P (.ok value : Except ε α) := fun _ same => nomatch same

theorem raises_error {error : ε} (holds : P error) : Raises P (.error error : Except ε α) := by
  rintro _ ⟨⟩
  exact holds

theorem Raises.mono {answer : Except ε α} (raises : Raises P answer) (implies : ∀ error, P error → Q error) :
    Raises Q answer := fun error same => implies error (raises error same)

theorem Raises.bind {answer : Except ε α} {next : α → Except ε β} (raises : Raises P answer)
    (rest : ∀ value, answer = .ok value → Raises P (next value)) : Raises P (answer >>= next) := by
  cases answer with
  | error error => exact raises_error (raises error rfl)
  | ok value => exact rest value rfl

/-- A computation in sequence returns if both of its parts do. -/
theorem bind_eq_ok {answer : Except ε α} {next : α → Except ε β} {result : β} (returned : answer >>= next = .ok result) :
    ∃ value, answer = .ok value ∧ next value = .ok result := by
  cases answer with
  | error error => cases returned
  | ok value => exact ⟨value, rfl, returned⟩

theorem bind_eq_ok_iff {answer : Except ε α} {next : α → Except ε β} {result : β} :
    answer >>= next = .ok result ↔ ∃ value, answer = .ok value ∧ next value = .ok result := by
  refine ⟨bind_eq_ok, ?_⟩
  rintro ⟨value, rfl, returned⟩
  exact returned

theorem raises_ite {condition : Prop} [Decidable condition] {first second : Except ε α} (yes : Raises P first)
    (no : Raises P second) : Raises P (if condition then first else second) := by
  split
  · exact yes
  · exact no

/-- What holds of the rows done so far and the state that they lead to holds at the end of a loop that returns. -/
theorem foldlM_invariant {σ : Type} {step : σ → α → Except ε σ} {I : List α → σ → Prop}
    (next : ∀ done row state later, I done state → step state row = .ok later → I (done ++ [row]) later)
    {rows done : List α} {start final : σ} (first : I done start) (returned : rows.foldlM step start = .ok final) :
    I (done ++ rows) final := by
  induction rows generalizing done start with
  | nil =>
    obtain rfl := Except.ok.inj returned
    rwa [List.append_nil]
  | cons row rest ih =>
    rw [List.foldlM_cons] at returned
    obtain ⟨later, stepped, returned⟩ := bind_eq_ok returned
    have reached := ih (next done row start later first stepped) returned
    rwa [List.append_assoc, List.singleton_append] at reached

end Except
