/-
This file provides systems in which the steps have one order.
-/

import LinuxSystemProgramming.Library.Transition

namespace Transition

universe u v
variable {State : Type u} {Label : Type v}

/-- The labels are the only order of the steps up to the end, and each state has a property with the labels that remain. -/
inductive System.Serial (system : System State Label) (property : State → List Label → Prop) :
    State → List Label → Prop where
  | done {state : State} (here : property state [])
      (ends : ∀ label, system.next state label = none) : Serial system property state []
  | turn {state later : State} {label : Label} {rest : List Label}
      (here : property state (label :: rest))
      (only : ∀ other, other ≠ label → system.next state other = none)
      (taken : system.next state label = some later) (onward : Serial system property later rest) :
      Serial system property state (label :: rest)

variable {system : System State Label} {property : State → List Label → Prop} {state later : State}
  {labels : List Label}

/-- Each state of the order has the property. -/
theorem System.Serial.holds (serial : system.Serial property state labels) : property state labels := by
  cases serial with
  | done here => exact here
  | turn here => exact here

/-- The first label has a step. -/
theorem System.Serial.exists_next {label : Label} {rest : List Label}
    (serial : system.Serial property state (label :: rest)) :
    ∃ later, system.next state label = some later := by
  cases serial with
  | turn _ _ taken => exact ⟨_, taken⟩

/-- A step is the first one of the order, and the others remain. -/
theorem System.Serial.step (serial : system.Serial property state labels) {label : Label}
    (moved : system.next state label = some later) :
    ∃ rest, labels = label :: rest ∧ system.Serial property later rest := by
  cases serial with
  | done _ ends => cases (ends label).symm.trans moved
  | @turn _ middle first rest _ only taken onward =>
      by_cases same : label = first
      · subst same
        cases taken.symm.trans moved
        exact ⟨rest, rfl, onward⟩
      · cases (only label same).symm.trans moved

end Transition
