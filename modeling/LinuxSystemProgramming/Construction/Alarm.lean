/-
This file models the program `alarm`, which prints a dot in the handler of each `SIGALRM`.
-/

import LinuxSystemProgramming.Library.Transition

namespace Alarm
open Transition

/-- `main` is in `setalarm`, or it calls `pause` for ever. -/
inductive Point where
  | signal
  | store
  | alarm
  | pause
  deriving DecidableEq

/-- A call of `alhandler` is in front of its next statement. -/
inductive Frame where
  | signal
  | alarm
  | print
  | ret
  deriving DecidableEq

/-- The process runs, or a signal has killed it, or it has called `exit(0)`. -/
inductive Status where
  | running
  | killed
  | exited
  deriving DecidableEq

/-- The handlers that are active have their frames on the stack. The state also records the dots, the seconds since the first `alarm`, and whether `signal` has failed. -/
structure State where
  status : Status
  point : Point
  frames : List Frame
  handler : Bool
  alsecs : Nat
  timer : Nat
  pending : Bool
  dots : Nat
  elapsed : Nat
  failed : Bool
  deriving DecidableEq

/-- The process executes a statement or its `signal` fails, a second passes, another process sends `SIGALRM`, or `SIGALRM` is delivered. -/
inductive Label where
  | call
  | fail
  | tick
  | kill
  | deliver
  deriving DecidableEq

/-- Nothing is installed, and `alsecs` is static. -/
def start : State := ⟨.running, .signal, [], false, 0, 0, false, 0, 0, false⟩

/-- `main` calls `setalarm(nsecs)` and then stays in the loop around `pause`. -/
def State.setalarm (nsecs : Nat) (state : State) : Option State :=
  match state.point with
  | .signal => some { state with handler := true, point := .store }
  | .store => some { state with alsecs := nsecs, point := .alarm }
  | .alarm => some { state with timer := nsecs, point := .pause }
  | .pause => none

/-- `alhandler` installs itself again, sets the next alarm and prints a dot. -/
def State.alhandler (state : State) (frame : Frame) (rest : List Frame) : State :=
  match frame with
  | .signal => { state with handler := true, frames := .alarm :: rest }
  | .alarm => { state with timer := state.alsecs, frames := .print :: rest }
  | .print => { state with dots := state.dots + 1, frames := .ret :: rest }
  | .ret => { state with frames := rest }

/-- The last handler on the stack goes first, and then `main`. -/
def State.call (nsecs : Nat) (state : State) : Option State :=
  if state.status = .running then
    match state.frames with
    | [] => state.setalarm nsecs
    | frame :: rest => some (state.alhandler frame rest)
  else none

/-- `setalarm` returns -1 to `main`, which goes on, and `alhandler` calls `exit(0)`. -/
def State.fail (state : State) : Option State :=
  if state.status = .running then
    match state.frames with
    | [] =>
        if state.point = .signal then some { state with point := .pause, failed := true } else none
    | .signal :: _ => some { state with status := .exited, failed := true }
    | _ => none
  else none

/-- A second passes, and the last one of an alarm generates `SIGALRM`. -/
def State.tick (state : State) : State :=
  { state with
    timer := state.timer - 1
    pending := state.pending || decide (state.timer = 1)
    elapsed := if state.point = .pause then state.elapsed + 1 else state.elapsed }

/-- A one-shot handler is removed at its call and may be interrupted by the next one, and otherwise the signal waits until the handler returns. -/
def State.deliver (oneShot : Bool) (state : State) : Option State :=
  if state.status = .running ∧ state.pending = true ∧ (oneShot = true ∨ state.frames = []) then
    if state.handler then
      some { state with
        frames := .signal :: state.frames, handler := !oneShot, pending := false }
    else some { state with status := .killed, pending := false }
  else none

/-- The handlers are one-shot or not, and other processes may send `SIGALRM` or not. -/
def system (oneShot outside : Bool) (nsecs : Nat) : System State Label where
  initial state := state = start
  next state label :=
    match label with
    | .call => state.call nsecs
    | .fail => state.fail
    | .tick => some state.tick
    | .kill => if outside then some { state with pending := true } else none
    | .deliver => state.deliver oneShot

end Alarm
