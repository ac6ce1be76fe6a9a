/-
This file models the descriptors of `mymore`, which connects `ls -l` to `more` by a pipe.
-/

import LinuxSystemProgramming.Library.Descriptors

namespace Mymore
open Descriptors

variable {File : Type}

/-- A descriptor refers to a file from before the start or to an end of the pipe. -/
inductive Object (File : Type) where
  | file (file : File)
  | reading
  | writing
  deriving DecidableEq

/-- A process reaches `execlp` with its descriptors, or it calls `exit(1)`. -/
inductive Process (File : Type) where
  | execlp (table : Table (Object File))
  | exited

/-- The child replaces its standard output, with `dup` for the lowest closed descriptor. -/
def child (limit : Nat) (fd : Nat × Nat) (table : Table (Object File)) : Process File :=
  let table := close (close table 1) fd.1
  match dup limit table fd.2 with
  | none => .exited
  | some (_, table) => .execlp table

/-- The parent replaces its standard input. -/
def parent (limit : Nat) (fd : Nat × Nat) (table : Table (Object File)) : Process File :=
  let table := close (close table 0) fd.2
  match dup2 limit table fd.1 0 with
  | none => .exited
  | some table => .execlp table

/-- The program starts with some files at its descriptors. -/
def files (table : Table File) : Table (Object File) := fun fd => (table fd).map .file

/-- `main` makes the pipe and forks, and it has no child if one of these calls fails. -/
def main (limit : Nat) (forks : Bool) (table : Table File) :
    Option (Process File × Process File) :=
  (pipe limit (files table) .reading .writing).bind fun made =>
    if forks then some (child limit made.1 made.2, parent limit made.1 made.2) else none

end Mymore
