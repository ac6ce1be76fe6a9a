import LinuxSystemProgramming.Library.Transition
import LinuxSystemProgramming.Library.Monitor

namespace Sipc3
open Transition

/-- `Sipc1` receives the request and replies, and `Sipc2` sends the request. -/
inductive Thread where
  | sipc1
  | sipc2
  deriving DecidableEq

def Thread.other : Thread → Thread
  | .sipc1 => .sipc2
  | .sipc2 => .sipc1

/-- A point names the statement of `Sipc1` or of `Sipc2` that is executed next. -/
inductive Point where
  | lock
  | request
  | fill
  | test
  | blocked
  | woken
  | receive
  | clear
  | reply
  | signal
  | print
  | unlock
  | done
  deriving DecidableEq

/-- The threads share `pData` and `Nbuf`, and they record what they print. -/
structure State (Text : Type) where
  pData : Text
  nbuf : Nat
  mutex : Option Thread
  point : Thread → Point
  received : Option Text
  printed : Option Text

/-- A thread executes its next statement, or `pthread_cond_wait` returns without a signal. -/
inductive Label where
  | advance (thread : Thread)
  | spurious (thread : Thread)
  deriving DecidableEq

variable {Text : Type}

/-- A thread moves to a point without another effect. -/
def State.move (state : State Text) (thread : Thread) (point : Point) : State Text :=
  { state with point := Function.update state.point thread point }

/-- `Sipc1` waits while the buffer is empty, and `Sipc2` waits while it is full. -/
def Thread.mustWait (nbuf : Nat) : Thread → Bool
  | .sipc1 => nbuf = 0
  | .sipc2 => nbuf = 1

/-- The statement after the mutex is locked. -/
def Thread.locks : Thread → Point
  | .sipc1 => .test
  | .sipc2 => .request

/-- The statement after the `if` with `pthread_cond_wait`. -/
def Thread.continues : Thread → Point
  | .sipc1 => .receive
  | .sipc2 => .print

/-- The statement after `pthread_cond_signal`. -/
def Thread.signals : Thread → Point
  | .sipc1 => .unlock
  | .sipc2 => .test

/-- `pthread_cond_signal` wakes the other thread if it is blocked. -/
def State.signal (state : State Text) (thread : Thread) : State Text :=
  if state.point thread.other = .blocked then
    (state.move thread.other .woken).move thread thread.signals
  else state.move thread thread.signals

/-- A thread that returns from `pthread_cond_wait` does not test `Nbuf` again. -/
def State.advance (request reply : Text) (state : State Text) (thread : Thread) :
    Option (State Text) :=
  match state.point thread with
  | .lock =>
      if state.mutex = none then
        some { state.move thread thread.locks with mutex := some thread }
      else none
  | .request => some { state.move thread .fill with pData := request }
  | .fill => some { state.move thread .signal with nbuf := 1 }
  | .test =>
      if thread.mustWait state.nbuf then some { state.move thread .blocked with mutex := none }
      else some (state.move thread thread.continues)
  | .woken =>
      if state.mutex = none then
        some { state.move thread thread.continues with mutex := some thread }
      else none
  | .receive => some { state.move thread .clear with received := some state.pData }
  | .clear => some { state.move thread .reply with nbuf := 0 }
  | .reply => some { state.move thread .signal with pData := reply }
  | .signal => some (state.signal thread)
  | .print => some { state.move thread .unlock with printed := some state.pData }
  | .unlock => some { state.move thread .done with mutex := none }
  | .blocked | .done => none

/-- The threads run in any order, and a blocked thread may wake up by itself. -/
def State.next (request reply : Text) (state : State Text) : Label → Option (State Text)
  | .advance thread => state.advance request reply thread
  | .spurious thread =>
      if state.point thread = .blocked then some (state.move thread .woken) else none

/-- The buffer is empty, and `pData` has any text. -/
def start (old : Text) : State Text := ⟨old, 0, none, fun _ => .lock, none, none⟩

/-- The system runs both threads. -/
def system (request reply old : Text) : System (State Text) Label where
  initial state := state = start old
  next := State.next request reply

/-- `Sipc1` processes `pData` from here on. -/
def Point.processes : Point → Bool
  | .receive | .clear | .reply | .signal | .unlock | .done => true
  | _ => false

/-- `Sipc2` has stored its request and set `Nbuf`. -/
def Point.sent : Point → Bool
  | .signal | .test | .blocked | .woken | .print | .unlock | .done => true
  | _ => false

/-- `Sipc1` has written its reply. -/
def Point.replied : Point → Bool
  | .signal | .unlock | .done => true
  | _ => false

/-- `Sipc2` prints the reply from here on. -/
def Point.prints : Point → Bool
  | .print | .unlock | .done => true
  | _ => false

/-- Some steps of the other thread wake a blocked thread. -/
def Wakeable (request reply old : Text) (state : State Text) (thread : Thread) : Prop :=
  ∃ steps later, (system request reply old).run state
    (List.replicate steps (.advance thread.other)) = some later ∧ later.point thread = .woken

/-- The request is processed after it is stored, the reply is printed after it is written, and no thread sleeps for ever. -/
structure State.Served (request reply old : Text) (state : State Text) : Prop where
  stored : (state.point .sipc1).processes = true → (state.point .sipc2).sent = true
  received : ∀ text, state.received = some text → text = request
  replied : (state.point .sipc2).prints = true → (state.point .sipc1).replied = true
  printed : ∀ text, state.printed = some text → text = reply
  wakes : ∀ thread, state.point thread = .blocked → Wakeable request reply old state thread

/-- A thread returns from `pthread_cond_wait` only when it does not have to wait any more. -/
def returnsReady (state : State Text) : Label → Bool
  | .advance thread => state.point thread ≠ .woken ∨ thread.mustWait state.nbuf = false
  | .spurious _ => true

end Sipc3
