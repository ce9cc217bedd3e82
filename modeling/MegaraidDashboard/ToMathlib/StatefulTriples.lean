import Mathlib.Logic.Basic

/-! # Triples of programs that can stop

A program over a state returns or stops with an error, in the state that it has reached. A triple says what holds in
either case; the rules follow the ways a program is built.
-/

namespace EStateM

universe u

variable {ε σ α β : Type u} {P P' : σ → Prop} {Q Q' : α → σ → Prop} {R : β → σ → Prop} {E E' : ε → σ → Prop}

/-- From a state with `P` the program returns with `Q` or stops with `E`. -/
def Triple (P : σ → Prop) (program : EStateM ε σ α) (Q : α → σ → Prop) (E : ε → σ → Prop) : Prop :=
  ∀ state, P state → match program state with
    | .ok value reached => Q value reached
    | .error error reached => E error reached

theorem Triple.of_ok {program : EStateM ε σ α} (triple : Triple P program Q E) {state reached : σ} {value : α}
    (before : P state) (same : program state = .ok value reached) : Q value reached := by
  have holds := triple state before
  rwa [same] at holds

theorem Triple.of_error {program : EStateM ε σ α} (triple : Triple P program Q E) {state reached : σ} {error : ε}
    (before : P state) (same : program state = .error error reached) : E error reached := by
  have holds := triple state before
  rwa [same] at holds

theorem Triple.mono {program : EStateM ε σ α} (triple : Triple P program Q E) (before : ∀ state, P' state → P state)
    (value : ∀ value state, Q value state → Q' value state) (error : ∀ error state, E error state → E' error state) :
    Triple P' program Q' E' := by
  intro state holds
  cases same : program state with
  | ok result reached => exact value _ _ (triple.of_ok (before _ holds) same)
  | error stopped reached => exact error _ _ (triple.of_error (before _ holds) same)

/-- A triple is about one state at a time. -/
theorem triple_of_forall {program : EStateM ε σ α} (triple : ∀ state, P state → Triple (· = state) program Q E) :
    Triple P program Q E := fun state holds => triple state holds state rfl

theorem triple_pure {value : α} (holds : ∀ state, P state → Q value state) :
    Triple P (pure value : EStateM ε σ α) Q E := holds

theorem triple_throw {error : ε} (holds : ∀ state, P state → E error state) :
    Triple P (throw error : EStateM ε σ α) Q E := holds

theorem triple_modify {update : σ → σ} {Q : PUnit → σ → Prop} (holds : ∀ state, P state → Q ⟨⟩ (update state)) :
    Triple P (modify update : EStateM ε σ PUnit) Q E := holds

theorem Triple.bind {program : EStateM ε σ α} {next : α → EStateM ε σ β} (first : Triple P program Q E)
    (rest : ∀ value, Triple (Q value) (next value) R E) : Triple P (program >>= next) R E := by
  intro state holds
  change match EStateM.bind program next state with
    | .ok value reached => R value reached
    | .error error reached => E error reached
  rw [EStateM.bind]
  cases same : program state with
  | ok value reached => exact rest value reached (first.of_ok holds same)
  | error error reached => exact first.of_error holds same

/-- The state that a program reads is the one it is in. -/
theorem triple_get {next : σ → EStateM ε σ β} (rest : ∀ state, P state → Triple (· = state) (next state) R E) :
    Triple P (get >>= next) R E := fun state holds => rest state holds state rfl

theorem triple_ite {condition : Prop} [Decidable condition] {first second : EStateM ε σ α}
    (yes : condition → Triple P first Q E) (no : ¬ condition → Triple P second Q E) :
    Triple P (if condition then first else second) Q E := by
  split
  · exact yes ‹_›
  · exact no ‹_›

theorem Triple.tryCatch {body : EStateM ε σ α} {handler : ε → EStateM ε σ α} (first : Triple P body Q E')
    (rest : ∀ error, Triple (E' error) (handler error) Q E) :
    Triple P (MonadExcept.tryCatch body handler) Q E := by
  intro state holds
  change match EStateM.tryCatch body handler state with
    | .ok value reached => Q value reached
    | .error error reached => E error reached
  delta EStateM.tryCatch
  cases same : body state with
  | ok value reached => exact first.of_ok holds same
  | error error reached => exact rest error reached (first.of_error holds same)

end EStateM
