import Mathlib.Logic.Function.Basic
import Mathlib.Data.Int.Notation

namespace Semlib

/-- A System V semaphore has its value and the adjustment that the kernel keeps for each process. -/
structure Semaphore (Process : Type) where
  value : Nat
  semadj : Process → Int

variable {Process : Type} [DecidableEq Process]

omit [DecidableEq Process] in
/-- `semget` with `IPC_CREAT` creates a semaphore of value zero unless it exists. -/
def semInit (semaphore : Option (Semaphore Process)) : Semaphore Process :=
  semaphore.getD ⟨0, fun _ => 0⟩

omit [DecidableEq Process] in
/-- `semctl` with `SETVAL` stores the value and clears the adjustments of all processes. -/
def semInitValue (value : Nat) (_ : Semaphore Process) : Semaphore Process := ⟨value, fun _ => 0⟩

/-- `semWait` blocks at zero, takes one from the value, and adds one to the adjustment of its caller. -/
def semWait (process : Process) (semaphore : Semaphore Process) : Option (Semaphore Process) :=
  if semaphore.value = 0 then none
  else some {
    value := semaphore.value - 1
    semadj := Function.update semaphore.semadj process (semaphore.semadj process + 1) }

/-- `semPost` adds one to the value and takes one from the adjustment of its caller. -/
def semPost (process : Process) (semaphore : Semaphore Process) : Semaphore Process where
  value := semaphore.value + 1
  semadj := Function.update semaphore.semadj process (semaphore.semadj process - 1)

/-- The exit of a process adds its adjustment to the value and clamps the result at zero. -/
def undo (process : Process) (semaphore : Semaphore Process) : Semaphore Process where
  value := (semaphore.value + semaphore.semadj process).toNat
  semadj := Function.update semaphore.semadj process 0

/-- A `semop` may block, it may fail, or it changes its semaphore. -/
inductive Attempt (Process : Type) where
  | blocks
  | fails
  | succeeds (semaphore : Semaphore Process)

omit [DecidableEq Process] in
/-- `semop` with `SEM_UNDO` fails with `ERANGE` if the adjustment of its caller would leave its range. -/
def attempt (process : Process) : Option (Semaphore Process) → Attempt Process
  | none => .blocks
  | some later =>
      if -32768 ≤ later.semadj process ∧ later.semadj process ≤ 32767 then .succeeds later
      else .fails

omit [DecidableEq Process] in
/-- A semaphore that does not exist counts as a semaphore of value zero. -/
def count (semaphore : Option (Semaphore Process)) : Nat := (semaphore.map Semaphore.value).getD 0

omit [DecidableEq Process] in
/-- The creation keeps the count. -/
@[simp] theorem count_semInit (semaphore : Option (Semaphore Process)) :
    count (some (semInit semaphore)) = count semaphore := by
  cases semaphore <;> rfl

/-- A wait that does not block takes one from the count. -/
theorem count_semWait {process : Process} {semaphore : Option (Semaphore Process)}
    {later : Semaphore Process} (taken : semaphore.bind (semWait process) = some later) :
    count (some later) + 1 = count semaphore := by
  cases semaphore with
  | none => cases taken
  | some present =>
      simp only [Option.bind_some, semWait, Option.ite_none_left_eq_some, Option.some.injEq] at taken
      rw [← taken.2]
      exact Nat.sub_add_cancel (Nat.pos_of_ne_zero taken.1)

/-- A post adds one to the count. -/
theorem count_semPost {process : Process} {semaphore : Option (Semaphore Process)}
    {later : Semaphore Process} (taken : semaphore.map (semPost process) = some later) :
    count (some later) = count semaphore + 1 := by
  cases semaphore with
  | none => cases taken
  | some present =>
      simp only [Option.map_some, Option.some.injEq] at taken
      rw [← taken]
      rfl

omit [DecidableEq Process] in
/-- A stored value is the count. -/
theorem count_semInitValue {value : Nat} {semaphore : Option (Semaphore Process)}
    {later : Semaphore Process} (taken : semaphore.map (semInitValue value) = some later) :
    count (some later) = value := by
  cases semaphore with
  | none => cases taken
  | some present =>
      simp only [Option.map_some, Option.some.injEq] at taken
      rw [← taken]
      rfl

/-- `prodcons.h` has one key for each of three semaphores. -/
inductive Key where
  | emptySem
  | fullSem
  | mutexSem
  deriving DecidableEq, Repr

/-- The programs call `semInit` for the keys in this order. -/
def Key.after : Key → Option Key
  | .emptySem => some .fullSem
  | .fullSem => some .mutexSem
  | .mutexSem => none

/-- The kernel has the semaphores that were created and not removed. -/
abbrev Table (Process : Type) := Key → Option (Semaphore Process)

omit [DecidableEq Process] in
/-- `semget` keeps or creates the semaphore of a key. -/
def Table.create (sem : Table Process) (key : Key) : Table Process :=
  Function.update sem key (some (semInit (sem key)))

omit [DecidableEq Process] in
/-- An operation fails on a semaphore that was removed, and otherwise it may block. -/
def Table.operate (sem : Table Process) (key : Key)
    (operation : Semaphore Process → Option (Semaphore Process)) : Option (Option (Table Process)) :=
  match sem key with
  | none => some none
  | some semaphore =>
      (operation semaphore).map fun later => some (Function.update sem key (some later))

/-- The exit of a process is undone on each semaphore. -/
def Table.exit (sem : Table Process) (process : Process) : Table Process :=
  fun key => (sem key).map (undo process)

omit [DecidableEq Process] in
/-- `semDestroy` removes the semaphore of a key. -/
def Table.destroy (sem : Table Process) (key : Key) : Table Process := Function.update sem key none

end Semlib
