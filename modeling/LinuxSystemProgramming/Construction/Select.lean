import LinuxSystemProgramming.Library.Transition
import Mathlib.Logic.Function.Basic

namespace Select
open Transition

/-- The server waits at a TCP socket and at a UDP socket. -/
inductive Socket where
  | tcp
  | udp
  deriving DecidableEq

/-- `FD_ISSET` is tested for the TCP socket first, and the set does not change between the tests. -/
def choose (fdvar : Socket → Bool) : Option Socket :=
  if fdvar .tcp then some .tcp else if fdvar .udp then some .udp else none

/-- `select` returns the number of the ready sockets. -/
def number (fdvar : Socket → Bool) : Nat := (fdvar .tcp).toNat + (fdvar .udp).toNat

/-- A socket is ready while a connection or a datagram is pending at it. -/
def isReady (pending : Socket → Nat) : Socket → Bool := fun socket => 0 < pending socket

/-- The main thread is in its loops, or in the handler that it called. -/
inductive Point where
  | select
  | test
  | receive (socket : Socket)
  | reply (socket : Socket)
  deriving DecidableEq

/-- A round has what `select` reported and how often each handler was called since. -/
structure Round where
  fdvar : Socket → Bool
  calls : Socket → Nat

/-- The server has its pending requests, the current round, and the finished rounds. -/
structure State where
  pending : Socket → Nat
  point : Point
  count : Nat
  round : Round
  rounds : List Round

/-- A request arrives, or the main thread takes a step. -/
inductive Label where
  | arrive (socket : Socket)
  | select
  | test
  | receive
  | reply
  deriving DecidableEq

/-- Before the first `select` nothing is pending. -/
def start : State := ⟨fun _ => 0, .select, 0, ⟨fun _ => false, fun _ => 0⟩, []⟩

/-- A request arrives at any time. -/
def State.arrive (state : State) (socket : Socket) : State :=
  { state with pending := Function.update state.pending socket (state.pending socket + 1) }

/-- `select` reports every socket that is ready when it returns. -/
def State.select (state : State) : State :=
  { state with
    point := .test
    count := number (isReady state.pending)
    round := ⟨isReady state.pending, fun _ => 0⟩ }

/-- `while(count--)` ends the round, or it calls a handler. -/
def State.test (state : State) : State :=
  if state.count = 0 then
    { state with point := .select, rounds := state.rounds ++ [state.round] }
  else
    match choose state.round.fdvar with
    | some socket =>
        { state with
          point := .receive socket
          count := state.count - 1
          round := { state.round with
            calls := Function.update state.round.calls socket (state.round.calls socket + 1) } }
    | none => { state with count := state.count - 1 }

/-- `accept` takes a connection, and `recvfrom` takes a datagram. -/
def State.receive (state : State) (socket : Socket) : State :=
  { state with
    point := .reply socket
    pending := Function.update state.pending socket (state.pending socket - 1) }

/-- `accept` and `recvfrom` block while nothing is pending. -/
def State.next (state : State) : Label → Option State
  | .arrive socket => some (state.arrive socket)
  | .select =>
      if state.point = .select ∧ 0 < number (isReady state.pending) then some state.select
      else none
  | .test => if state.point = .test then some state.test else none
  | .receive =>
      match state.point with
      | .receive socket => if 0 < state.pending socket then some (state.receive socket) else none
      | _ => none
  | .reply =>
      match state.point with
      | .reply _ => some { state with point := .test }
      | _ => none

/-- `main` of `select.c`. -/
def system : System State Label where
  initial state := state = start
  next := State.next

/-- The handlers were called once for each ready socket, and for no other. -/
def Round.Exact (round : Round) : Prop := ∀ socket, round.calls socket = (round.fdvar socket).toNat

/-- `select` reported both sockets. -/
def Round.both (round : Round) : Bool := round.fdvar .tcp && round.fdvar .udp

/-- The finished rounds were exact, and no handler waits for an arrival. -/
def State.Dispatches (state : State) : Prop :=
  (∀ round ∈ state.rounds, round.Exact) ∧
    ∀ socket, state.point = .receive socket → 0 < state.pending socket

/-- `select` returns only when a single socket is ready. -/
def singly (state : State) (label : Label) : Bool :=
  label ≠ .select ∨ number (isReady state.pending) ≤ 1

end Select
