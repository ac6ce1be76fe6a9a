import LinuxSystemProgramming.Library.Transition
import LinuxSystemProgramming.Construction.Semlib

namespace Rpc
open Transition Semlib

/-- The value fits into an object of type int. -/
def fits (value : Int) : Bool := decide (-2147483648 ≤ value ∧ value ≤ 2147483647)

/-- The loop of `rpc.c` adds `i` to `sum` up to `num`, and an overflow of int has no defined result. -/
def sumLoop (num : Int) : Nat → Int → Int → Option Int
  | 0, _, _ => none
  | fuel + 1, i, sum =>
      if i ≤ num then
        if fits (sum + i) && fits (i + 1) then sumLoop num fuel (i + 1) (sum + i) else none
      else some sum

/-- The fuel is more than the number of iterations from `i = 0` and `sum = 0`. -/
def rpcSum (num : Int) : Option Int := sumLoop num (num.toNat + 2) 0 0

/-- The processes are the server `rpc` and the clients `app`. -/
inductive Process (App : Type) where
  | rpc
  | app (client : App)
  deriving DecidableEq

/-- A point names the statement of `main` of `rpc.c` that the server executes next. -/
inductive RpcPoint where
  | semInit1
  | semInit2
  | semInitValue1
  | semInitValue2
  | wait
  | read
  | sum (num : Int)
  | post
  deriving DecidableEq, Repr

/-- A point names the statement of `Calc` of `app.c` that a client executes next. -/
inductive AppPoint where
  | unstarted
  | write
  | semInit1
  | post
  | semInit2
  | wait
  | read
  | returned (result : Int)
  | exited
  deriving DecidableEq, Repr

/-- The state has the shared word, the semaphores, the processes, and the fate of the last request. -/
structure State (App : Type) where
  shm : Int
  sema1 : Option (Semaphore (Process App))
  sema2 : Option (Semaphore (Process App))
  rpc : RpcPoint
  app : App → AppPoint
  unread : Option App
  overwritten : Bool

/-- A label names the process that moves, or the exit of a client. -/
inductive Label (App : Type) where
  | rpc
  | app (client : App)
  | exit (client : App)
  deriving DecidableEq

variable {App : Type} [DecidableEq App]

/-- A client executes a statement that does not touch the shared objects. -/
def State.goto (state : State App) (client : App) (point : AppPoint) : State App :=
  { state with app := Function.update state.app client point }

/-- A client executes `*pInt = number`. -/
def State.write (state : State App) (client : App) (number : Int) : State App :=
  { state.goto client .semInit1 with
    shm := number
    unread := some client
    overwritten := state.overwritten || state.unread.isSome }

/-- The server executes `num = *pInt`. -/
def State.read (state : State App) : State App :=
  { state with rpc := .sum state.shm, unread := none }

/-- The server executes `*pInt = sum`. -/
def State.store (state : State App) (sum : Int) : State App :=
  { state with
    shm := sum
    rpc := .post
    overwritten := state.overwritten || state.unread.isSome }

/-- The server initializes the semaphores and then answers one request in each iteration. -/
def State.rpcStep (state : State App) : Option (State App) :=
  match state.rpc with
  | .semInit1 => some { state with sema1 := some (semInit state.sema1), rpc := .semInit2 }
  | .semInit2 => some { state with sema2 := some (semInit state.sema2), rpc := .semInitValue1 }
  | .semInitValue1 =>
      (state.sema1.map (semInitValue 0)).map fun semaphore =>
        { state with sema1 := some semaphore, rpc := .semInitValue2 }
  | .semInitValue2 =>
      (state.sema2.map (semInitValue 0)).map fun semaphore =>
        { state with sema2 := some semaphore, rpc := .wait }
  | .wait =>
      (state.sema1.bind (semWait .rpc)).map fun semaphore =>
        { state with sema1 := some semaphore, rpc := .read }
  | .read => some state.read
  | .sum num => (rpcSum num).map state.store
  | .post =>
      (state.sema2.map (semPost .rpc)).map fun semaphore =>
        { state with sema2 := some semaphore, rpc := .wait }

/-- A client writes its number, posts the request, waits for the reply, and reads the result. -/
def State.appStep (number : App → Int) (state : State App) (client : App) : Option (State App) :=
  match state.app client with
  | .unstarted => some (state.goto client .write)
  | .write => some (state.write client (number client))
  | .semInit1 => some { state.goto client .post with sema1 := some (semInit state.sema1) }
  | .post =>
      (state.sema1.map (semPost (.app client))).map fun semaphore =>
        { state.goto client .semInit2 with sema1 := some semaphore }
  | .semInit2 => some { state.goto client .wait with sema2 := some (semInit state.sema2) }
  | .wait =>
      (state.sema2.bind (semWait (.app client))).map fun semaphore =>
        { state.goto client .read with sema2 := some semaphore }
  | .read => some (state.goto client (.returned state.shm))
  | .returned _ | .exited => none

/-- The kernel undoes the operations of a client that exits. -/
def State.exit (state : State App) (client : App) : State App :=
  { state.goto client .exited with
    sema1 := state.sema1.map (undo (.app client))
    sema2 := state.sema2.map (undo (.app client)) }

/-- The step function covers the server, the clients, and the exits after `Calc` has returned. -/
def State.next (number : App → Int) (state : State App) : Label App → Option (State App)
  | .rpc => state.rpcStep
  | .app client => state.appStep number client
  | .exit client =>
      match state.app client with
      | .returned _ => some (state.exit client)
      | _ => none

omit [DecidableEq App] in
/-- The server is initialized and waits in its loop, and no client has started. -/
def ready (shm : Int) : State App where
  shm := shm
  sema1 := some ⟨0, fun _ => 0⟩
  sema2 := some ⟨0, fun _ => 0⟩
  rpc := .wait
  app := fun _ => .unstarted
  unread := none
  overwritten := false

omit [DecidableEq App] in
/-- No semaphore exists, and neither the server nor a client has started. -/
def fresh (shm : Int) : State App where
  shm := shm
  sema1 := none
  sema2 := none
  rpc := .semInit1
  app := fun _ => .unstarted
  unread := none
  overwritten := false

/-- The clients run against an initialized server. -/
def readySystem (number : App → Int) : System (State App) (Label App) where
  initial state := ∃ shm, state = ready shm
  next := State.next number

/-- The clients and the server start in any order. -/
def freshSystem (number : App → Int) : System (State App) (Label App) where
  initial state := ∃ shm, state = fresh shm
  next := State.next number

/-- This relation lists the steps of the processes with their guards and effects. -/
inductive Step (number : App → Int) (state : State App) : Label App → State App → Prop where
  | rpcInit1 (here : state.rpc = .semInit1) :
      Step number state .rpc { state with sema1 := some (semInit state.sema1), rpc := .semInit2 }
  | rpcInit2 (here : state.rpc = .semInit2) :
      Step number state .rpc
        { state with sema2 := some (semInit state.sema2), rpc := .semInitValue1 }
  | rpcValue1 (here : state.rpc = .semInitValue1) (semaphore : Semaphore (Process App))
      (set : state.sema1.map (semInitValue 0) = some semaphore) :
      Step number state .rpc { state with sema1 := some semaphore, rpc := .semInitValue2 }
  | rpcValue2 (here : state.rpc = .semInitValue2) (semaphore : Semaphore (Process App))
      (set : state.sema2.map (semInitValue 0) = some semaphore) :
      Step number state .rpc { state with sema2 := some semaphore, rpc := .wait }
  | rpcWait (here : state.rpc = .wait) (semaphore : Semaphore (Process App))
      (passed : state.sema1.bind (semWait .rpc) = some semaphore) :
      Step number state .rpc { state with sema1 := some semaphore, rpc := .read }
  | rpcRead (here : state.rpc = .read) : Step number state .rpc state.read
  | rpcSum (num sum : Int) (here : state.rpc = .sum num) (summed : rpcSum num = some sum) :
      Step number state .rpc (state.store sum)
  | rpcPost (here : state.rpc = .post) (semaphore : Semaphore (Process App))
      (posted : state.sema2.map (semPost .rpc) = some semaphore) :
      Step number state .rpc { state with sema2 := some semaphore, rpc := .wait }
  | start (client : App) (here : state.app client = .unstarted) :
      Step number state (.app client) (state.goto client .write)
  | write (client : App) (here : state.app client = .write) :
      Step number state (.app client) (state.write client (number client))
  | semInit1 (client : App) (here : state.app client = .semInit1) :
      Step number state (.app client)
        { state.goto client .post with sema1 := some (semInit state.sema1) }
  | post (client : App) (here : state.app client = .post) (semaphore : Semaphore (Process App))
      (posted : state.sema1.map (semPost (.app client)) = some semaphore) :
      Step number state (.app client) { state.goto client .semInit2 with sema1 := some semaphore }
  | semInit2 (client : App) (here : state.app client = .semInit2) :
      Step number state (.app client)
        { state.goto client .wait with sema2 := some (semInit state.sema2) }
  | wait (client : App) (here : state.app client = .wait) (semaphore : Semaphore (Process App))
      (passed : state.sema2.bind (semWait (.app client)) = some semaphore) :
      Step number state (.app client) { state.goto client .read with sema2 := some semaphore }
  | read (client : App) (here : state.app client = .read) :
      Step number state (.app client) (state.goto client (.returned state.shm))
  | exit (client : App) (result : Int) (here : state.app client = .returned result) :
      Step number state (.exit client) (state.exit client)

/-- Each statement of the server is one of the listed steps. -/
theorem step_of_rpcStep (number : App → Int) {state later : State App}
    (taken : state.rpcStep = some later) : Step number state .rpc later := by
  unfold State.rpcStep at taken
  split at taken
  case h_1 here => cases taken; exact .rpcInit1 here
  case h_2 here => cases taken; exact .rpcInit2 here
  case h_3 here =>
      obtain ⟨semaphore, set, rfl⟩ := Option.map_eq_some_iff.mp taken
      exact .rpcValue1 here semaphore set
  case h_4 here =>
      obtain ⟨semaphore, set, rfl⟩ := Option.map_eq_some_iff.mp taken
      exact .rpcValue2 here semaphore set
  case h_5 here =>
      obtain ⟨semaphore, passed, rfl⟩ := Option.map_eq_some_iff.mp taken
      exact .rpcWait here semaphore passed
  case h_6 here => cases taken; exact .rpcRead here
  case h_7 num here =>
      obtain ⟨sum, summed, rfl⟩ := Option.map_eq_some_iff.mp taken
      exact .rpcSum num sum here summed
  case h_8 here =>
      obtain ⟨semaphore, posted, rfl⟩ := Option.map_eq_some_iff.mp taken
      exact .rpcPost here semaphore posted

/-- Each statement of a client is one of the listed steps. -/
theorem step_of_appStep (number : App → Int) {state later : State App} (client : App)
    (taken : state.appStep number client = some later) :
    Step number state (.app client) later := by
  unfold State.appStep at taken
  split at taken
  case h_1 here => cases taken; exact .start client here
  case h_2 here => cases taken; exact .write client here
  case h_3 here => cases taken; exact .semInit1 client here
  case h_4 here =>
      obtain ⟨semaphore, posted, rfl⟩ := Option.map_eq_some_iff.mp taken
      exact .post client here semaphore posted
  case h_5 here => cases taken; exact .semInit2 client here
  case h_6 here =>
      obtain ⟨semaphore, passed, rfl⟩ := Option.map_eq_some_iff.mp taken
      exact .wait client here semaphore passed
  case h_7 here => cases taken; exact .read client here
  all_goals cases taken

/-- Each step of the processes is one of the listed steps. -/
theorem step_of_next {number : App → Int} {state later : State App} {label : Label App}
    (taken : state.next number label = some later) : Step number state label later := by
  cases label with
  | rpc => exact step_of_rpcStep number taken
  | app client => exact step_of_appStep number client taken
  | exit client =>
      simp only [State.next] at taken
      split at taken
      case h_1 result here => cases taken; exact .exit client result here
      case h_2 => cases taken

end Rpc
