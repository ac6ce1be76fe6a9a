import LinuxSystemProgramming.Library.Transition

namespace Mysleep
open Transition

/-- The process is in front of a call of `mysleep`, or it is blocked in `pause`, or it has returned. -/
inductive Point where
  | signal
  | alarm
  | pause
  | paused
  | cancel
  | returned (value : Nat)
  deriving DecidableEq

/-- A signal with a handler is `SIGALRM` or another one. -/
inductive Signal where
  | sigalrm
  | other
  deriving DecidableEq

/-- The process has its point, the seconds until its alarm, and whether `SIGALRM` is pending. It also records the seconds since `alarm(nsecs)`, the signal that ended `pause`, and whether `SIGALRM` was delivered in front of `pause`. -/
structure State where
  point : Point
  timer : Nat
  pending : Bool
  elapsed : Nat
  ended : Option Signal
  early : Bool
  deriving DecidableEq

/-- The process calls or it cannot install its handler, a second passes, or a signal is delivered. -/
inductive Label where
  | call
  | fail
  | tick
  | deliver (signal : Signal)
  deriving DecidableEq

/-- No alarm is set when `mysleep` is called. -/
def start : State := ⟨.signal, 0, false, 0, none, false⟩

/-- The process takes its next call, and it stays blocked in `pause`. -/
def State.call (nsecs : Nat) (state : State) : Option State :=
  match state.point with
  | .signal => some { state with point := .alarm }
  | .alarm => some { state with point := .pause, timer := nsecs }
  | .pause => some { state with point := .paused }
  | .paused => none
  -- `alarm(0)` returns the seconds that are left.
  | .cancel => some { state with point := .returned state.timer, timer := 0 }
  | .returned _ => none

/-- If `signal` fails, then `mysleep` returns `nsecs`. -/
def State.fail (nsecs : Nat) (state : State) : Option State :=
  if state.point = .signal then some { state with point := .returned nsecs } else none

/-- The seconds count from `alarm(nsecs)` to `alarm(0)`. -/
def Point.counts : Point → Bool
  | .pause | .paused | .cancel => true
  | _ => false

/-- A second passes, and the last one of an alarm generates `SIGALRM`. -/
def State.tick (state : State) : State :=
  { state with
    timer := state.timer - 1
    pending := state.pending || state.timer = 1
    elapsed := if state.point.counts then state.elapsed + 1 else state.elapsed }

/-- A handler returns, and only a process that is blocked in `pause` leaves it. -/
def State.handle (state : State) (signal : Signal) : State :=
  if state.point = .paused then { state with point := .cancel, ended := some signal } else state

/-- `SIGALRM` is delivered if it is pending, and other signals may come at any time. -/
def State.deliver (state : State) (signal : Signal) : Option State :=
  match signal with
  | .sigalrm =>
      if state.pending then
        some { state.handle .sigalrm with
          pending := false
          early := state.early || state.point = .pause }
      else none
  | .other => some (state.handle .other)

/-- `mysleep(nsecs)` with its alarm. -/
def system (nsecs : Nat) : System State Label where
  initial state := state = start
  next state label :=
    match label with
    | .call => state.call nsecs
    | .fail => state.fail nsecs
    | .tick => some state.tick
    | .deliver signal => state.deliver signal

/-- The process is blocked in `pause`, and no alarm is set or pending. -/
def State.Blocked (state : State) : Prop :=
  state.point = .paused ∧ state.timer = 0 ∧ state.pending = false

/-- These runs have an alarm, and they do not deliver it in front of `pause`. -/
def permits (nsecs : Nat) (state : State) (label : Label) : Bool :=
  nsecs ≠ 0 && !(state.point = .pause && label = .deliver .sigalrm)

end Mysleep
