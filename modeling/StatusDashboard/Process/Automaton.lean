import Mathlib

namespace StatusDashboard.Process

/-!
# Labelled automata

A system whose moves are chosen from outside: a partial function takes a state
and a label to the next state.  A run is a list of labels, each enabled where
it is taken.
-/

variable {σ ℓ : Type}

/-- Take the labels in order. -/
def execute (step : σ → ℓ → Option σ) : List ℓ → σ → Option σ
  | [], state => some state
  | label :: labels, state => (step state label).bind (execute step labels)

/-- Every label of the run meets a condition on the state it is taken in. -/
def Meets (step : σ → ℓ → Option σ) (condition : σ → ℓ → Prop) : List ℓ → σ → Prop
  | [], _ => True
  | label :: labels, state =>
    condition state label ∧ ∀ next ∈ step state label, Meets step condition labels next

variable {step : σ → ℓ → Option σ}

instance decidableMeets {condition : σ → ℓ → Prop} [∀ state label, Decidable (condition state label)] :
    (labels : List ℓ) → (state : σ) → Decidable (Meets step condition labels state)
  | [], _ => isTrue trivial
  | label :: labels, state =>
    match stepped : step state label with
    | none =>
      decidable_of_iff (condition state label) (by simp [Meets, stepped])
    | some next =>
      have rest : Decidable (Meets step condition labels next) := decidableMeets labels next
      decidable_of_iff (condition state label ∧ Meets step condition labels next)
        (by simp [Meets, stepped])

theorem meets_of_forall {condition : σ → ℓ → Prop}
    (always : ∀ state label, condition state label) (labels : List ℓ) (state : σ) :
    Meets step condition labels state := by
  induction labels generalizing state with
  | nil => trivial
  | cons label labels ih => exact ⟨always state label, fun next _ => ih next⟩

/-- What every allowed step keeps, every allowed run keeps. -/
theorem execute_invariant {invariant : σ → Prop} {condition : σ → ℓ → Prop}
    (kept : ∀ state label next, invariant state → condition state label →
      step state label = some next → invariant next)
    {labels : List ℓ} {state final : σ} (initial : invariant state)
    (meets : Meets step condition labels state)
    (executed : execute step labels state = some final) : invariant final := by
  induction labels generalizing state with
  | nil =>
    obtain rfl : state = final := Option.some.inj executed
    exact initial
  | cons label labels ih =>
    obtain ⟨next, stepped, rest⟩ := Option.bind_eq_some_iff.mp executed
    exact ih (kept state label next initial meets.1 stepped) (meets.2 next stepped) rest

end StatusDashboard.Process
