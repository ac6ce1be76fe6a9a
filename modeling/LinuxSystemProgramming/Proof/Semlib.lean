import LinuxSystemProgramming.Construction.Semlib

namespace Semlib

variable {Process : Type} [DecidableEq Process] {sem : Table Process} {value : Key → Int}
  {adjust : Key → Process → Int}

omit [DecidableEq Process] in
/-- A table holds values and adjustments, where a semaphore that does not exist counts as created. -/
def Table.Holds (sem : Table Process) (value : Key → Int) (adjust : Key → Process → Int) : Prop :=
  ∀ key, ((semInit (sem key)).value : Int) = value key ∧ (semInit (sem key)).semadj = adjust key

omit [DecidableEq Process] in
/-- No value is negative. -/
theorem Table.Holds.nonneg (holds : sem.Holds value adjust) (key : Key) : 0 ≤ value key := by
  have same := (holds key).1
  omega

omit [DecidableEq Process] in
/-- The creation of a semaphore keeps the values. -/
theorem Table.Holds.create (holds : sem.Holds value adjust) (key : Key) :
    (sem.create key).Holds value adjust := by
  intro other
  by_cases same : other = key
  · subst same
    rw [Table.create, Function.update_self]
    exact holds other
  · rw [Table.create, Function.update_of_ne same]
    exact holds other

omit [DecidableEq Process] in
/-- A created semaphore exists, and the others stay. -/
theorem isSome_create (sem : Table Process) (key other : Key)
    (made : other = key ∨ (sem other).isSome) : ((sem.create key) other).isSome := by
  by_cases same : other = key
  · subst same
    rw [Table.create, Function.update_self]
    rfl
  · rw [Table.create, Function.update_of_ne same]
    exact made.resolve_left same

omit [DecidableEq Process] in
/-- An operation on a semaphore that exists changes this semaphore only. -/
theorem Table.Holds.operate (holds : sem.Holds value adjust) {key : Key}
    (made : (sem key).isSome)
    {operation : Semaphore Process → Option (Semaphore Process)} {result : Option (Table Process)}
    (operated : sem.operate key operation = some result) :
    ∃ before after, operation before = some after ∧ (before.value : Int) = value key ∧
      before.semadj = adjust key ∧ ∃ later, result = some later ∧
      later.Holds (Function.update value key after.value)
        (Function.update adjust key after.semadj) ∧ ∀ other, (later other).isSome = (sem other).isSome := by
  obtain ⟨before, present⟩ := Option.isSome_iff_exists.mp made
  have first := holds key
  rw [present] at first
  simp only [Table.operate, present] at operated
  obtain ⟨after, moved, rfl⟩ := Option.map_eq_some_iff.mp operated
  refine ⟨before, after, moved, first.1, first.2, _, rfl, ?_, ?_⟩
  · intro other
    by_cases same : other = key
    · subst same
      simp [semInit]
    · simp only [Function.update_of_ne same]
      exact holds other
  · intro other
    by_cases same : other = key
    · subst same
      rw [Function.update_self, present]
      rfl
    · rw [Function.update_of_ne same]

/-- A wait that does not block takes one and adds one to the adjustment of its caller. -/
theorem Table.Holds.wait (holds : sem.Holds value adjust) {key : Key} {process : Process}
    (made : (sem key).isSome) {result : Option (Table Process)}
    (operated : sem.operate key (semWait process) = some result) :
    0 < value key ∧ ∃ later, result = some later ∧
      later.Holds (Function.update value key (value key - 1)) (Function.update adjust key
        (Function.update (adjust key) process (adjust key process + 1))) ∧
      ∀ other, (later other).isSome = (sem other).isSome := by
  obtain ⟨before, after, moved, level, adjusted, later, rfl, kept, same⟩ :=
    holds.operate made operated
  simp only [semWait, Option.ite_none_left_eq_some, Option.some.injEq] at moved
  obtain ⟨positive, rfl⟩ := moved
  have less : ((before.value - 1 : Nat) : Int) = value key - 1 := by omega
  simp only [less, adjusted] at kept
  exact ⟨by omega, later, rfl, kept, same⟩

/-- A post adds one and takes one from the adjustment of its caller. -/
theorem Table.Holds.post (holds : sem.Holds value adjust) {key : Key} {process : Process}
    (made : (sem key).isSome) {result : Option (Table Process)}
    (operated : sem.operate key (fun semaphore => some (semPost process semaphore)) = some result) :
    ∃ later, result = some later ∧
      later.Holds (Function.update value key (value key + 1)) (Function.update adjust key
        (Function.update (adjust key) process (adjust key process - 1))) ∧
      ∀ other, (later other).isSome = (sem other).isSome := by
  obtain ⟨before, after, moved, level, adjusted, later, rfl, kept, same⟩ :=
    holds.operate made operated
  cases Option.some.inj moved
  have more : ((before.value + 1 : Nat) : Int) = value key + 1 := by omega
  simp only [semPost, more, adjusted] at kept
  exact ⟨later, rfl, kept, same⟩

omit [DecidableEq Process] in
/-- A stored value replaces the value and clears the adjustments. -/
theorem Table.Holds.set (holds : sem.Holds value adjust) {key : Key} {number : Nat}
    (made : (sem key).isSome) {result : Option (Table Process)}
    (operated : sem.operate key (fun semaphore => some (semInitValue number semaphore)) =
      some result) :
    ∃ later, result = some later ∧
      later.Holds (Function.update value key number)
        (Function.update adjust key fun _ => 0) ∧
      ∀ other, (later other).isSome = (sem other).isSome := by
  obtain ⟨before, after, moved, level, adjusted, later, rfl, kept, same⟩ :=
    holds.operate made operated
  cases Option.some.inj moved
  exact ⟨later, rfl, kept, same⟩

/-- An exit adds the adjustments of the process and clamps the values at zero. -/
theorem Table.Holds.exit (holds : sem.Holds value adjust) (process : Process) :
    (sem.exit process).Holds (fun key => max 0 (value key + adjust key process))
      (fun key => Function.update (adjust key) process 0) := by
  intro key
  have before := holds key
  cases present : sem key with
  | none =>
      rw [present] at before
      simp only [Table.exit, present, Option.map_none]
      refine ⟨?_, ?_⟩
      · rw [← before.1, ← before.2]
        simp [semInit]
      · rw [← before.2]
        exact (Function.update_eq_self process _).symm
  | some semaphore =>
      rw [present] at before
      simp only [semInit, Option.getD_some] at before
      simp only [Table.exit, present, Option.map_some, semInit, Option.getD_some, undo, before.2]
      refine ⟨?_, trivial⟩
      rw [before.1]
      omega

omit [DecidableEq Process] in
/-- An operation fails only on a semaphore that was removed. -/
theorem removed_of_operate {key : Key}
    {operation : Semaphore Process → Option (Semaphore Process)}
    (failed : sem.operate key operation = some none) : sem key = none := by
  cases present : sem key with
  | none => rfl
  | some semaphore => simp [Table.operate, present] at failed

omit [DecidableEq Process] in
/-- An operation that never waits has a result. -/
theorem operate_ready (sem : Table Process) (key : Key)
    (operation : Semaphore Process → Semaphore Process) :
    sem.operate key (fun semaphore => some (operation semaphore)) ≠ none := by
  unfold Table.operate
  split <;> simp

/-- A wait blocks only at zero. -/
theorem count_of_blocked {key : Key} {process : Process}
    (blocked : sem.operate key (semWait process) = none) : count (sem key) = 0 := by
  cases present : sem key with
  | none => rfl
  | some semaphore =>
      simpa [Table.operate, present, semWait, count] using blocked

/-- A wait has a result while the value is positive. -/
theorem Table.Holds.ready (holds : sem.Holds value adjust) {key : Key} (process : Process)
    (positive : 0 < value key) : sem.operate key (semWait process) ≠ none := by
  have level := (holds key).1
  cases present : sem key with
  | none => simp [Table.operate, present]
  | some semaphore =>
      rw [present] at level
      simp only [semInit, Option.getD_some] at level
      have nonzero : semaphore.value ≠ 0 := by omega
      simp [Table.operate, present, semWait, nonzero]

/-- A wait blocks while the value of a semaphore that exists is zero. -/
theorem Table.Holds.blocks (holds : sem.Holds value adjust) {key : Key} (process : Process)
    (made : (sem key).isSome) (zero : value key = 0) : sem.operate key (semWait process) = none := by
  cases operated : sem.operate key (semWait process) with
  | none => rfl
  | some result =>
      have positive := (holds.wait made operated).1
      omega

section Levels

/-- The position of a key in the order of creation. -/
def Key.order : Key → Nat
  | .emptySem => 0
  | .fullSem => 1
  | .mutexSem => 2

/-- The values of the three semaphores. -/
def levels (empty full mutex : Int) : Key → Int
  | .emptySem => empty
  | .fullSem => full
  | .mutexSem => mutex

@[simp] theorem update_levels_empty (empty full mutex value : Int) :
    Function.update (levels empty full mutex) .emptySem value = levels value full mutex := by
  funext key
  cases key <;> rfl

@[simp] theorem update_levels_full (empty full mutex value : Int) :
    Function.update (levels empty full mutex) .fullSem value = levels empty value mutex := by
  funext key
  cases key <;> rfl

@[simp] theorem update_levels_mutex (empty full mutex value : Int) :
    Function.update (levels empty full mutex) .mutexSem value = levels empty full value := by
  funext key
  cases key <;> rfl

end Levels

end Semlib
