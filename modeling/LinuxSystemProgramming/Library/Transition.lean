import Mathlib.Data.List.Basic
import Mathlib.Data.Option.Basic

namespace Transition

universe u v

/-- A system takes at most one step for each state and label. -/
structure System (State : Type u) (Label : Type v) where
  initial : State → Prop
  next : State → Label → Option State

variable {State : Type u} {Label : Type v}

/-- A run performs its labels in order. -/
def System.run (system : System State Label) : State → List Label → Option State
  | state, [] => some state
  | state, label :: rest => (system.next state label).bind fun later => system.run later rest

@[simp] theorem System.run_nil (system : System State Label) (state : State) :
    system.run state [] = some state := rfl

/-- A run of one label is one step. -/
theorem System.run_single (system : System State Label) (state : State) (label : Label) :
    system.run state [label] = system.next state label := by
  simp [System.run]

/-- A run takes its first step and continues from the later state. -/
theorem System.run_cons (system : System State Label) (state final : State) (label : Label)
    (rest : List Label) :
    system.run state (label :: rest) = some final ↔
      ∃ later, system.next state label = some later ∧ system.run later rest = some final := by
  simp [System.run, Option.bind_eq_some_iff]

/-- A run of two parts passes through the state between them. -/
theorem System.run_append (system : System State Label) (state : State)
    (first second : List Label) :
    system.run state (first ++ second) =
      (system.run state first).bind fun middle => system.run middle second := by
  induction first generalizing state with
  | nil => rfl
  | cons label rest ih =>
      simp only [List.cons_append, System.run, Option.bind_assoc, ih]

/-- The reachable states are the ends of the finite runs. -/
inductive System.Reachable (system : System State Label) : State → Prop
  | initial {state : State} (start : system.initial state) : Reachable system state
  | step {state later : State} (label : Label) (reached : Reachable system state)
      (taken : system.next state label = some later) : Reachable system later

/-- A run from a reachable state ends in a reachable state. -/
theorem System.Reachable.run {system : System State Label} {state final : State}
    (reached : system.Reachable state) (labels : List Label)
    (taken : system.run state labels = some final) : system.Reachable final := by
  induction labels generalizing state with
  | nil =>
      simp only [System.run_nil, Option.some.injEq] at taken
      exact taken ▸ reached
  | cons label rest ih =>
      obtain ⟨later, first, continued⟩ := (system.run_cons state final label rest).mp taken
      exact ih (.step label reached first) continued

/-- A run from an initial state ends in a reachable state. -/
theorem System.reachable_of_run (system : System State Label) {state final : State}
    (start : system.initial state) (labels : List Label)
    (taken : system.run state labels = some final) : system.Reachable final :=
  System.Reachable.run (.initial start) labels taken

/-- An evaluated run gives a reachable state with the tested property. -/
theorem System.exists_reachable (system : System State Label) (state : State)
    (start : system.initial state) (labels : List Label) (test : State → Bool)
    (passes : (system.run state labels).any test = true) :
    ∃ final, system.Reachable final ∧ test final = true := by
  obtain ⟨final, taken, holds⟩ := (Option.any_eq_true _ _).mp passes
  exact ⟨final, system.reachable_of_run start labels taken, holds⟩

/-- An invariant that each step from a reachable state preserves holds in every reachable state. -/
theorem System.Reachable.invariant {system : System State Label} {state : State}
    (reached : system.Reachable state) (holds : State → Prop)
    (start : ∀ state, system.initial state → holds state)
    (preserved : ∀ state label later, system.Reachable state → holds state →
      system.next state label = some later → holds later) : holds state := by
  induction reached with
  | initial begins => exact start _ begins
  | step label before taken ih => exact preserved _ label _ before ih taken

/-- A property that each step preserves holds at the end of each run from a state with the property. -/
theorem System.run_invariant {system : System State Label} {state final : State}
    (holds : State → Prop) (start : holds state)
    (preserved : ∀ state label later, holds state → system.next state label = some later →
      holds later)
    (labels : List Label) (taken : system.run state labels = some final) : holds final := by
  induction labels generalizing state with
  | nil =>
      simp only [System.run_nil, Option.some.injEq] at taken
      exact taken ▸ start
  | cons label rest ih =>
      obtain ⟨later, first, continued⟩ := (system.run_cons state final label rest).mp taken
      exact ih (preserved state label later start first) continued

/-- A run is not longer than a measure that each step lowers. -/
theorem System.length_run_le (system : System State Label) (measure : State → Nat)
    (lowers : ∀ state label later, system.next state label = some later →
      measure later < measure state)
    {state final : State} (labels : List Label) (run : system.run state labels = some final) :
    labels.length + measure final ≤ measure state := by
  induction labels generalizing state with
  | nil =>
      cases run
      exact Nat.le_of_eq (Nat.zero_add _)
  | cons label rest inductionHypothesis =>
      obtain ⟨later, taken, continued⟩ := (system.run_cons state final label rest).mp run
      have lower := lowers state label later taken
      have bound := inductionHypothesis continued
      rw [List.length_cons]
      omega

/-- The restricted system takes only the steps that a guard permits. -/
def System.restrict (system : System State Label) (permits : State → Label → Bool) :
    System State Label where
  initial := system.initial
  next state label := if permits state label then system.next state label else none

/-- A restricted step is a permitted step of the system. -/
theorem System.restrict_next (system : System State Label) (permits : State → Label → Bool)
    (state later : State) (label : Label) :
    (system.restrict permits).next state label = some later ↔
      permits state label = true ∧ system.next state label = some later := by
  simp [System.restrict]

/-- A state that the restricted system reaches is reachable. -/
theorem System.Reachable.of_restrict {system : System State Label}
    {permits : State → Label → Bool} {state : State}
    (reached : (system.restrict permits).Reachable state) : system.Reachable state := by
  induction reached with
  | initial start => exact .initial start
  | step label _ taken ih =>
      exact .step label ih ((system.restrict_next permits _ _ label).mp taken).2

/-- A weaker guard permits the runs of a stronger one. -/
theorem System.Reachable.weaken {system : System State Label}
    {stronger weaker : State → Label → Bool}
    (implied : ∀ state label, stronger state label = true → weaker state label = true)
    {state : State} (reached : (system.restrict stronger).Reachable state) :
    (system.restrict weaker).Reachable state := by
  induction reached with
  | initial start => exact .initial start
  | step label _ taken ih =>
      obtain ⟨permitted, taken⟩ := (system.restrict_next stronger _ _ label).mp taken
      exact .step label ih ((system.restrict_next weaker _ _ label).mpr
        ⟨implied _ label permitted, taken⟩)

/-- A state is stuck when none of the counted labels has a step. -/
def System.Stuck (system : System State Label) (counted : Label → Prop) (state : State) : Prop :=
  ∀ label, counted label → system.next state label = none

section Simulation

universe u' v' w
variable {Upper : Type u'} {UpperLabel : Type v'} {Event : Type w}

/-- A simulation answers each lower step by an upper run with the same visible events. -/
structure Simulation (lower : System State Label) (upper : System Upper UpperLabel)
    (visible : Label → List Event) (shown : UpperLabel → List Event) where
  relates : State → Upper → Prop
  start : ∀ state, lower.initial state → ∃ above, upper.initial above ∧ relates state above
  answer : ∀ state above label later, relates state above →
    lower.next state label = some later →
    ∃ labels final, upper.run above labels = some final ∧ relates later final ∧
      labels.flatMap shown = visible label

/-- A simulation answers each lower run by an upper run with the same visible events. -/
theorem Simulation.run {lower : System State Label} {upper : System Upper UpperLabel}
    {visible : Label → List Event} {shown : UpperLabel → List Event}
    (simulation : Simulation lower upper visible shown) {state final : State} {above : Upper}
    (related : simulation.relates state above) (labels : List Label)
    (taken : lower.run state labels = some final) :
    ∃ upperLabels end', upper.run above upperLabels = some end' ∧ simulation.relates final end' ∧
      upperLabels.flatMap shown = labels.flatMap visible := by
  induction labels generalizing state above with
  | nil =>
      simp only [System.run_nil, Option.some.injEq] at taken
      exact ⟨[], above, rfl, taken ▸ related, rfl⟩
  | cons label rest ih =>
      obtain ⟨later, first, continued⟩ := (lower.run_cons state final label rest).mp taken
      obtain ⟨answer, middle, answered, kept, same⟩ :=
        simulation.answer state above label later related first
      obtain ⟨tail, end', finished, matched, equal⟩ := ih kept continued
      refine ⟨answer ++ tail, end', ?_, matched, ?_⟩
      · rw [System.run_append, answered]
        exact finished
      · rw [List.flatMap_append, same, equal, List.flatMap_cons]

end Simulation

end Transition
