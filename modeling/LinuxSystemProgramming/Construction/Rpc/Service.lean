/-
This file models the server `rpc` with the limits that the kernel has for its undo adjustments.
-/

import LinuxSystemProgramming.Construction.Rpc

namespace Rpc
open Transition Semlib

variable {App : Type} [DecidableEq App]

/-- The server has answered some requests, and it may have called `exit(1)`. -/
structure Service (App : Type) where
  state : State App
  answered : Nat
  exited : Bool

/-- A `semop` on a semaphore that does not exist fails. -/
def operate (semaphore : Option (Semaphore (Process App)))
    (operation : Semaphore (Process App) → Option (Semaphore (Process App))) :
    Attempt (Process App) :=
  match semaphore with
  | none => .fails
  | some semaphore => attempt .rpc (operation semaphore)

/-- The loop of the server has one `semWait` and one `semPost`. -/
def State.attempt (state : State App) : Option (Attempt (Process App)) :=
  match state.rpc with
  | .wait => some (operate state.sema1 (semWait .rpc))
  | .post => some (operate state.sema2 fun semaphore => some (semPost .rpc semaphore))
  | _ => none

/-- The kernel undoes the operations of a server that exits. -/
def Service.exit (service : Service App) : Service App :=
  { service with
    state := { service.state with
      sema1 := service.state.sema1.map (undo .rpc)
      sema2 := service.state.sema2.map (undo .rpc) }
    exited := true }

/-- A statement of the server answers a request if it posts the reply. -/
def Service.advance (service : Service App) : Option (Service App) :=
  service.state.rpcStep.map fun later =>
    { service with
      state := later
      answered := if service.state.rpc = .post then service.answered + 1 else service.answered }

/-- The server calls `exit(1)` after a `semop` that fails. -/
def Service.rpcStep (service : Service App) : Option (Service App) :=
  if service.exited then none
  else
    match service.state.attempt with
    | some .blocks => none
    | some .fails => some service.exit
    | some (.succeeds _) => service.advance
    | none => service.advance

/-- The clients are not limited, since each of them makes one request. -/
def serviceSystem (number : App → Int) : System (Service App) (Label App) where
  initial service := ∃ shm, service = ⟨fresh shm, 0, false⟩
  next service label :=
    match label with
    | .rpc => service.rpcStep
    | .app client =>
        (service.state.appStep number client).map fun later => { service with state := later }
    | .exit client =>
        (service.state.next number (.exit client)).map fun later => { service with state := later }

/-- In these runs the server takes a step only while it has answered fewer than 32767 requests. -/
def serves (service : Service App) (label : Label App) : Bool :=
  label = .rpc → service.answered < 32767

end Rpc
