import LinuxSystemProgramming.Library.Transition
import LinuxSystemProgramming.Construction.Semlib

namespace Sipc
open Transition Semlib

/-- `sipc1` receives the request and replies, and `sipc2` sends the request. -/
inductive Process where
  | sipc1
  | sipc2
  deriving DecidableEq

/-- A point names the statement of `main` of `sipc1.c` that is executed next. -/
inductive Sipc1Point where
  | semInit (key : Key)
  | semInitValue (key : Key)
  | waitFull
  | waitMutex
  | receive
  | reply
  | replying
  | postMutex
  | postEmpty
  | exit
  | exited
  | failed
  deriving DecidableEq

/-- A point names the statement of `main` of `sipc2.c` that is executed next. -/
inductive Sipc2Point where
  | semInit (key : Key)
  | waitEmpty
  | waitMutex
  | send
  | sending
  | postMutex
  | postFull
  | waitReply
  | print
  | semDestroy (key : Key)
  | exit
  | exited
  | failed
  deriving DecidableEq

/-- The shared memory has no defined text while `sprintf` writes it, and both programs record what they print. -/
structure State (Text : Type) where
  shm : Option Text
  sem : Table Process
  sipc1 : Sipc1Point
  sipc2 : Sipc2Point
  received : Option (Option Text)
  printed : Option (Option Text)

variable {Text : Type}

/-- `sipc1.c` stores one in `empty`, zero in `full`, and one in `mutex`. -/
def initialValue : Key → Nat
  | .emptySem => 1
  | .fullSem => 0
  | .mutexSem => 1

/-- `sipc1` executes an operation, and an error message ends it by `exit(1)`. -/
def State.operate1 (state : State Text) (key : Key)
    (operation : Semaphore Process → Option (Semaphore Process)) (point : Sipc1Point) :
    Option (State Text) :=
  (state.sem.operate key operation).map fun
    | some sem => { state with sem := sem, sipc1 := point }
    | none => { state with sem := state.sem.exit .sipc1, sipc1 := .failed }

/-- `sipc2` executes an operation, and an error message ends it by `exit(1)`. -/
def State.operate2 (state : State Text) (key : Key)
    (operation : Semaphore Process → Option (Semaphore Process)) (point : Sipc2Point) :
    Option (State Text) :=
  (state.sem.operate key operation).map fun
    | some sem => { state with sem := sem, sipc2 := point }
    | none => { state with sem := state.sem.exit .sipc2, sipc2 := .failed }

/-- `sipc1` initializes the semaphores, waits for the request, replies, and exits. -/
def State.sipc1Step (reply : Text) (state : State Text) : Option (State Text) :=
  match state.sipc1 with
  | .semInit key =>
      some { state with
        sem := state.sem.create key
        sipc1 := match key.after with
          | some next => .semInit next
          | none => .semInitValue .emptySem }
  | .semInitValue key =>
      state.operate1 key (fun semaphore => some (semInitValue (initialValue key) semaphore))
        (match key.after with
          | some next => .semInitValue next
          | none => .waitFull)
  | .waitFull => state.operate1 .fullSem (semWait .sipc1) .waitMutex
  | .waitMutex => state.operate1 .mutexSem (semWait .sipc1) .receive
  | .receive => some { state with received := some state.shm, sipc1 := .reply }
  | .reply => some { state with shm := none, sipc1 := .replying }
  | .replying => some { state with shm := some reply, sipc1 := .postMutex }
  | .postMutex => state.operate1 .mutexSem (fun semaphore => some (semPost .sipc1 semaphore)) .postEmpty
  | .postEmpty => state.operate1 .emptySem (fun semaphore => some (semPost .sipc1 semaphore)) .exit
  | .exit => some { state with sem := state.sem.exit .sipc1, sipc1 := .exited }
  | .exited | .failed => none

/-- `sipc2` sends the request, waits for the reply, prints it, and removes the semaphores. -/
def State.sipc2Step (request : Text) (state : State Text) : Option (State Text) :=
  match state.sipc2 with
  | .semInit key =>
      some { state with
        sem := state.sem.create key
        sipc2 := match key.after with
          | some next => .semInit next
          | none => .waitEmpty }
  | .waitEmpty => state.operate2 .emptySem (semWait .sipc2) .waitMutex
  | .waitMutex => state.operate2 .mutexSem (semWait .sipc2) .send
  | .send => some { state with shm := none, sipc2 := .sending }
  | .sending => some { state with shm := some request, sipc2 := .postMutex }
  | .postMutex => state.operate2 .mutexSem (fun semaphore => some (semPost .sipc2 semaphore)) .postFull
  | .postFull => state.operate2 .fullSem (fun semaphore => some (semPost .sipc2 semaphore)) .waitReply
  | .waitReply => state.operate2 .emptySem (semWait .sipc2) .print
  | .print => some { state with printed := some state.shm, sipc2 := .semDestroy .emptySem }
  | .semDestroy key =>
      some { state with
        sem := state.sem.destroy key
        sipc2 := match key.after with
          | some next => .semDestroy next
          | none => .exit }
  | .exit => some { state with sem := state.sem.exit .sipc2, sipc2 := .exited }
  | .exited | .failed => none

/-- The two programs run in any order. -/
def State.next (request reply : Text) (state : State Text) : Process → Option (State Text)
  | .sipc1 => state.sipc1Step reply
  | .sipc2 => state.sipc2Step request

/-- No semaphore exists, and the shared memory has any text. -/
def start (old : Text) : State Text where
  shm := some old
  sem := fun _ => none
  sipc1 := .semInit .emptySem
  sipc2 := .semInit .emptySem
  received := none
  printed := none

/-- The system runs both programs from their first statement. -/
def system (request reply old : Text) : System (State Text) Process where
  initial state := state = start old
  next := State.next request reply

end Sipc
