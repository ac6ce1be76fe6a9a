import LinuxSystemProgramming.Library.Transition
import LinuxSystemProgramming.Library.Directory
import Mathlib.Logic.Function.Basic

namespace Size
open Transition
open Directory (Name)

/-- `main` is in front of a call, or it has returned, or `exit(1)` was called. -/
inductive Point where
  | opendir
  | readdir
  | create
  | returned
  | exited
  deriving DecidableEq

/-- A thread in `fc` is in front of `lstat` or of `printf`, or it has printed its line. -/
inductive Phase where
  | absent
  | lstat
  | printf (size : Int)
  | finished
  deriving DecidableEq

/-- The threads have the numbers of their entries, and `na` is what their pointers `dep->d_name` point to. A line of the output records its thread. -/
structure State where
  point : Point
  position : Nat
  na : Nat → Name
  thread : Nat → Phase
  output : List (Nat × Name × Int)

/-- `main` takes its calls, after which the memory of earlier names may be overwritten, and the threads take theirs. -/
inductive Label where
  | opendir (opens : Bool)
  | readdir (memory : Nat → Name)
  | create (creates : Bool)
  | lstat (thread : Nat)
  | printf (thread : Nat)

/-- The process ends with all its threads when `main` returns. -/
def State.running (state : State) : Bool := state.point ≠ .returned && state.point ≠ .exited

variable (entries : List Name) (stSize : Name → Option Int)

def State.opendir (state : State) (opens : Bool) : Option State :=
  if state.point = .opendir then
    some { state with point := if opens then .readdir else .exited }
  else none

/-- `readdir` gives the next entry, and without one `main` returns. -/
def State.readdir (state : State) (memory : Nat → Name) : Option State :=
  if state.point = .readdir then
    match entries[state.position]? with
    | some name =>
        some { state with
          point := .create
          position := state.position + 1
          na := Function.update memory state.position name }
    | none => some { state with point := .returned }
  else none

/-- `pthread_create` starts a thread for the last entry. -/
def State.create (state : State) (creates : Bool) : Option State :=
  if state.point = .create then
    if creates then
      some { state with
        point := .readdir
        thread := Function.update state.thread (state.position - 1) .lstat }
    else some { state with point := .exited }
  else none

/-- `lstat` reads the name at the pointer of its thread. -/
def State.lstat (state : State) (thread : Nat) : Option State :=
  if state.running ∧ state.thread thread = .lstat then
    match stSize (state.na thread) with
    | some size =>
        some { state with thread := Function.update state.thread thread (.printf size) }
    | none => some { state with point := .exited }
  else none

/-- `printf` reads the name at the pointer again. -/
def State.printf (state : State) (thread : Nat) : Option State :=
  if state.running then
    match state.thread thread with
    | .printf size =>
        some { state with
          thread := Function.update state.thread thread .finished
          output := state.output ++ [(thread, state.na thread, size)] }
    | _ => none
  else none

/-- `size` in a directory with these entries. -/
def system : System State Label where
  initial state := ∃ na, state = ⟨.opendir, 0, na, fun _ => .absent, []⟩
  next state label :=
    match label with
    | .opendir opens => state.opendir opens
    | .readdir memory => state.readdir entries memory
    | .create creates => state.create creates
    | .lstat thread => state.lstat stSize thread
    | .printf thread => state.printf thread

/-- The output has one line for each entry, with its name and its size. -/
def Complete (state : State) : Prop :=
  (state.output.map fun line => some line.2).Perm
    (entries.map fun name => (stSize name).map fun size => (name, size))

/-- In these runs the name of a thread stays in memory until the thread has printed it. -/
def keeps (state : State) : Label → Bool
  | .readdir memory =>
      ∀ thread < state.position,
        state.thread thread = .finished ∨ memory thread = state.na thread
  | _ => true

/-- In these runs `main` returns after all threads have printed their lines. -/
def waits (state : State) : Label → Bool
  | .readdir _ =>
      entries[state.position]? = none →
        ∀ thread < state.position, state.thread thread = .finished
  | _ => true

end Size
