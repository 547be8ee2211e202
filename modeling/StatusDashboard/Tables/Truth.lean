import Mathlib

namespace StatusDashboard.Tables

/-!
# Three-valued conditions

A condition on a nullable column is true, false or unknown.  `none` stands for
unknown, the connectives are those of strong Kleene logic, and a row is
selected only when its condition is true.
-/

abbrev Truth := Option Bool

namespace Truth

def not : Truth → Truth
  | some value => some (!value)
  | none => none

def and : Truth → Truth → Truth
  | some false, _ => some false
  | _, some false => some false
  | some true, some true => some true
  | _, _ => none

def or : Truth → Truth → Truth
  | some true, _ => some true
  | _, some true => some true
  | some false, some false => some false
  | _, _ => none

/-- Whether a row with this condition is returned by a query. -/
def selects (condition : Truth) : Bool :=
  condition == some true

/-- Compare a nullable column with a value: unknown on null. -/
def compare {β : Type} (column : Option β) (test : β → Bool) : Truth :=
  column.map test

@[simp] theorem selects_some (value : Bool) : selects (some value) = value := by
  cases value <;> rfl

@[simp] theorem selects_none : selects none = false := rfl

@[simp] theorem not_some (value : Bool) : not (some value) = some (!value) := rfl

@[simp] theorem not_none : not none = none := rfl

@[simp] theorem and_some (first second : Bool) :
    and (some first) (some second) = some (first && second) := by
  cases first <;> cases second <;> rfl

@[simp] theorem false_and (condition : Truth) : and (some false) condition = some false := rfl

@[simp] theorem true_and (condition : Truth) : and (some true) condition = condition := by
  rcases condition with _ | _ | _ <;> rfl

@[simp] theorem and_false (condition : Truth) : and condition (some false) = some false := by
  rcases condition with _ | _ | _ <;> rfl

@[simp] theorem and_true (condition : Truth) : and condition (some true) = condition := by
  rcases condition with _ | _ | _ <;> rfl

@[simp] theorem selects_and (first second : Truth) :
    selects (and first second) = (selects first && selects second) := by
  rcases first with _ | _ | _ <;> rcases second with _ | _ | _ <;> rfl

@[simp] theorem selects_or (first second : Truth) :
    selects (or first second) = (selects first || selects second) := by
  rcases first with _ | _ | _ <;> rcases second with _ | _ | _ <;> rfl

end Truth

end StatusDashboard.Tables
