import LinuxSystemProgramming.Library.Transition
import Mathlib.Data.List.Range

namespace Mipc
open Transition

/-- `fork` makes two processes. -/
inductive Process where
  | parent
  | child
  deriving DecidableEq

/-- A process stands before one of its statements, and `update` first loads and then stores. -/
inductive Point where
  | loop
  | load
  | store (value : Nat)
  | check (counter : Nat)
  | tell
  | wait
  | finished
  | mismatch
  | incorrect
  deriving DecidableEq

/-- Each process has its own loop variable. -/
structure Local where
  point : Point
  i : Nat
  deriving DecidableEq

/-- The processes share the counter in `area` and the pipes, and the trace records what `update` returned. -/
structure State where
  parent : Local
  child : Local
  area : Nat
  pfd1 : List UInt8
  pfd2 : List UInt8
  trace : List (Process × Nat)
  deriving DecidableEq

def State.local (state : State) : Process → Local
  | .parent => state.parent
  | .child => state.child

/-- A process goes on to another point. -/
def State.goto (state : State) (point : Point) : Process → State
  | .parent => { state with parent := { state.parent with point := point } }
  | .child => { state with child := { state.child with point := point } }

/-- The end of the loop body adds two to the loop variable. -/
def State.again (state : State) : Process → State
  | .parent => { state with parent := ⟨.loop, state.parent.i + 2⟩ }
  | .child => { state with child := ⟨.loop, state.child.i + 2⟩ }

/-- `TELL_PARENT` writes the byte `c`. -/
def State.tellParent (state : State) : State := { state with pfd2 := state.pfd2 ++ [99] }

/-- `TELL_CHILD` writes the byte `p`. -/
def State.tellChild (state : State) : State := { state with pfd1 := state.pfd1 ++ [112] }

/-- `WAIT_CHILD` reads one byte, and it blocks while the pipe is empty. -/
def State.waitChild (state : State) : Option (UInt8 × State) :=
  match state.pfd2 with
  | [] => none
  | c :: rest => some (c, { state with pfd2 := rest })

/-- `WAIT_PARENT` reads one byte, and it blocks while the pipe is empty. -/
def State.waitParent (state : State) : Option (UInt8 × State) :=
  match state.pfd1 with
  | [] => none
  | c :: rest => some (c, { state with pfd1 := rest })

/-- The parent updates, tells the child, and waits for it, and the child waits first and tells last. -/
def State.next (nloops : Nat) (state : State) (process : Process) : Option State :=
  match (state.local process).point with
  | .loop =>
      if (state.local process).i < nloops then
        match process with
        | .parent => some (state.goto .load .parent)
        | .child => some (state.goto .wait .child)
      else some (state.goto .finished process)
  | .load => some (state.goto (.store state.area) process)
  | .store value =>
      some ({ state with
        area := value + 1
        trace := state.trace ++ [(process, value)] }.goto (.check value) process)
  | .check counter =>
      if counter = (state.local process).i then some (state.goto .tell process)
      else some (state.goto .mismatch process)
  | .tell =>
      match process with
      | .parent => some (state.tellChild.goto .wait .parent)
      | .child => some (state.tellParent.again .child)
  | .wait =>
      match process with
      | .parent =>
          state.waitChild.map fun read =>
            if read.1 = 99 then read.2.again .parent else read.2.goto .incorrect .parent
      | .child =>
          state.waitParent.map fun read =>
            if read.1 = 112 then read.2.goto .load .child else read.2.goto .incorrect .child
  | .finished | .mismatch | .incorrect => none

/-- The area is zero after `mmap`, and the pipes are empty after `TELL_WAIT`. -/
def start : State where
  parent := ⟨.loop, 0⟩
  child := ⟨.loop, 1⟩
  area := 0
  pfd1 := []
  pfd2 := []
  trace := []

/-- The system runs both processes after `fork`. -/
def system (nloops : Nat) : System State Process where
  initial state := state = start
  next := State.next nloops

end Mipc
