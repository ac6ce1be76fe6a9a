import LinuxSystemProgramming.Construction.Select
import Mathlib.Data.List.Nodup

namespace Hw3
open Transition
open Select (Socket choose number)

/-- The main thread is before `select` or in the loop that creates threads. -/
inductive Point where
  | select
  | test
  deriving DecidableEq

/-- A socket numbers its requests and its handlers, and it knows which handler served which request. -/
structure Port where
  arrived : Nat
  pending : List Nat
  created : Nat
  waiting : List Nat
  served : List (Nat × Nat)

/-- The server has its sockets and the last report of `select`. -/
structure State where
  port : Socket → Port
  point : Point
  count : Nat
  fdvar : Socket → Bool

/-- A request arrives, the main thread takes a step, or a handler takes a request. -/
inductive Label where
  | arrive (socket : Socket)
  | select
  | test
  | take (socket : Socket) (thread : Nat)
  deriving DecidableEq

/-- Before the first `select` nothing has arrived. -/
def start : State := ⟨fun _ => ⟨0, [], 0, [], []⟩, .select, 0, fun _ => false⟩

/-- A request arrives behind the pending ones. -/
def Port.arrive (port : Port) : Port :=
  { port with arrived := port.arrived + 1, pending := port.pending ++ [port.arrived] }

/-- `pthread_create` starts a handler, which goes to `accept` or to `recvfrom`. -/
def Port.create (port : Port) : Port :=
  { port with created := port.created + 1, waiting := port.waiting ++ [port.created] }

/-- A handler that waits takes the first request, and it blocks if there is none. -/
def Port.take (port : Port) (thread : Nat) : Option Port :=
  match port.pending with
  | [] => none
  | request :: rest =>
      if thread ∈ port.waiting then
        some { port with
          pending := rest
          waiting := port.waiting.erase thread
          served := port.served ++ [(thread, request)] }
      else none

/-- The sockets with pending requests. -/
def State.ready (state : State) : Socket → Bool := fun socket => (state.port socket).pending ≠ []

/-- A change of one socket. -/
def State.set (state : State) (socket : Socket) (port : Port) : State :=
  { state with port := Function.update state.port socket port }

/-- The socket for which the next test creates a handler. -/
def State.creates (state : State) : Option Socket :=
  if state.count = 0 then none else choose state.fdvar

/-- `while(count--)` creates a handler, or it goes back to `select`. -/
def State.test (state : State) : State :=
  if state.count = 0 then { state with point := .select }
  else
    match choose state.fdvar with
    | some socket =>
        { state.set socket (state.port socket).create with count := state.count - 1 }
    | none => { state with count := state.count - 1 }

/-- The main thread does not wait for its handlers. -/
def State.next (state : State) : Label → Option State
  | .arrive socket => some (state.set socket (state.port socket).arrive)
  | .select =>
      if state.point = .select ∧ 0 < number state.ready then
        some { state with point := .test, count := number state.ready, fdvar := state.ready }
      else none
  | .test => if state.point = .test then some state.test else none
  | .take socket thread => ((state.port socket).take thread).map (state.set socket)

/-- `main` of `hw3.c` and its handlers. -/
def system : System State Label where
  initial state := state = start
  next := State.next

/-- A socket has no more handlers than requests, none of them waits in vain, and each request has one handler. -/
structure Port.Matched (port : Port) : Prop where
  bounded : port.created ≤ port.arrived
  awaited : port.waiting.length ≤ port.pending.length
  once : (port.served.map Prod.fst).Nodup
  all : port.served.map Prod.snd ++ port.pending = List.range port.arrived

/-- A handler is created only if there is a request that no waiting handler will take. -/
def needed (state : State) (label : Label) : Bool :=
  label ≠ .test ∨ state.creates.all fun socket =>
    (state.port socket).waiting.length < (state.port socket).pending.length

end Hw3
