/-
This file models the server `chats` together with its clients `chatc`.
-/

import LinuxSystemProgramming.Construction.Chats
import LinuxSystemProgramming.Construction.Chatc

namespace Chat
open Transition CString

/-- A user types these bytes, and the three arrays of the client hold arbitrary bytes at first. -/
structure User where
  stdin : List UInt8
  idBuf : Buffer Chatc.maxBuf
  sendBuf : Buffer Chatc.maxBuf
  receiveBuf : Buffer Chatc.maxBuf

/-- After so many calls of `send` this is the next one, where the first one is the call of `SendID`. -/
def User.frame (user : User) (count : Nat) : Option (List UInt8) :=
  (Chatc.sends count user.idBuf user.sendBuf user.stdin).bind fun frames => frames[count]?

/-- The connections are numbered in the order of their arrival. For each client the state has what it handed to `send`, the bytes on the way to the server, and what its calls of `recv` returned. -/
structure State where
  server : Chats.State
  connected : Nat
  handed : Nat → List (List UInt8)
  toServer : Nat → List UInt8
  ended : Nat → Bool
  heard : Nat → List (List UInt8)

/-- These bytes were sent on a connection, and its client has not received them. -/
def State.toClient (state : State) (client : Nat) : List UInt8 :=
  (state.server.sent client).flatten.drop (state.heard client).flatten.length

/-- `ReceiveMsg` prints these strings. -/
def State.printed (user : Nat → User) (state : State) (client : Nat) :
    Option (List (List UInt8)) :=
  Chatc.receiveMsg (user client).receiveBuf (state.heard client)

/-- A descriptor can be read when a client waits for `accept`, or when there are bytes or their end. -/
def State.readable (listener : Nat) (state : State) (fd : Nat) : Bool :=
  if fd = listener then decide (state.server.opened < state.connected)
  else (state.server.connection fd).any fun client =>
    decide (state.toServer client ≠ []) || state.ended client

/-- The inner loop of the server stands at the descriptor of this client. -/
def State.served (state : State) : Option Nat := state.server.pass.bind state.server.connection

/-- The kernel returns the beginning of the bytes on the way, or no bytes at their end. -/
def State.delivers (state : State) (client : Nat) (received : List UInt8) : Bool :=
  decide (received <+: state.toServer client ∧
    (received = [] → state.toServer client = [] ∧ state.ended client = true))

/-- The message that goes to the others must fit in `msg`. -/
def State.fits (state : State) (stale : Buffer Chats.maxBuf) (received : List UInt8) : Bool :=
  (state.server.slot.bind fun id => (state.server.client id).formats stale received).all
    fun msg => decide (msg.length ≤ Chats.msgSize)

/-- The calls of the server return only what the clients have done. -/
def State.supplies (listener : Nat) (state : State) : Chats.Label → Bool
  | .select ready => decide (∀ fd ∈ ready, state.readable listener fd = true)
  | .accept _ => state.readable listener listener
  | .serve stale received =>
      state.served.any (state.delivers · received) && state.fits stale received
  | _ => true

/-- The received bytes of a client leave its stream. -/
def State.rest (state : State) : Chats.Label → Nat → List UInt8
  | .serve _ received =>
      state.served.elim state.toServer fun client =>
        Function.update state.toServer client ((state.toServer client).drop received.length)
  | _ => state.toServer

/-- A step is a step of the server, or one client connects, calls `send`, ends, or calls `recv`. -/
inductive Label where
  | server (label : Chats.Label)
  | connect
  | send (client : Nat)
  | close (client : Nat)
  | receive (client : Nat) (bytes : List UInt8)
  deriving DecidableEq

/-- `SendMsg` and `ReceiveMsg` are threads, so a client receives while it sends, but only after `SendID`. -/
def State.next (listener : Nat) (user : Nat → User) (state : State) : Label → Option State
  | .server label =>
      if state.supplies listener label then
        (state.server.next listener label).map fun server =>
          { state with server := server, toServer := state.rest label }
      else none
  | .connect => some { state with connected := state.connected + 1 }
  | .send client =>
      if client < state.connected ∧ state.ended client = false then
        ((user client).frame (state.handed client).length).map fun frame =>
          { state with
            handed := Function.update state.handed client (state.handed client ++ [frame])
            toServer := Function.update state.toServer client (state.toServer client ++ frame) }
      else none
  | .close client =>
      if client < state.connected then
        some { state with ended := Function.update state.ended client true }
      else none
  | .receive client bytes =>
      if state.ended client = false ∧ state.handed client ≠ [] ∧ bytes ≠ [] ∧
          bytes.length ≤ Chatc.maxBuf ∧ bytes <+: state.toClient client then
        some { state with
          heard := Function.update state.heard client (state.heard client ++ [bytes]) }
      else none

/-- Before the first connection nothing was sent. -/
def start (server : Chats.State) : State where
  server := server
  connected := 0
  handed := fun _ => []
  toServer := fun _ => []
  ended := fun _ => false
  heard := fun _ => []

/-- The system is the server with all its clients. -/
def system (listener : Nat) (user : Nat → User) : System State Label where
  initial state := ∃ server, (Chats.system listener).initial server ∧ state = start server
  next := State.next listener user

/-- This relation lists the steps of the server and of the clients with their guards and effects. -/
inductive Step (listener : Nat) (user : Nat → User) (state : State) : Label → State → Prop where
  | server (label : Chats.Label) (supplied : state.supplies listener label = true)
      (server : Chats.State) (moved : state.server.next listener label = some server) :
      Step listener user state (.server label)
        { state with server := server, toServer := state.rest label }
  | connect : Step listener user state .connect { state with connected := state.connected + 1 }
  | send (client : Nat) (inside : client < state.connected) (runs : state.ended client = false)
      (frame : List UInt8) (handed : (user client).frame (state.handed client).length = some frame) :
      Step listener user state (.send client) { state with
        handed := Function.update state.handed client (state.handed client ++ [frame])
        toServer := Function.update state.toServer client (state.toServer client ++ frame) }
  | close (client : Nat) (inside : client < state.connected) :
      Step listener user state (.close client)
        { state with ended := Function.update state.ended client true }
  | receive (client : Nat) (bytes : List UInt8) (nonempty : bytes ≠ [])
      (short : bytes.length ≤ Chatc.maxBuf) (arrived : bytes <+: state.toClient client) :
      Step listener user state (.receive client bytes) { state with
        heard := Function.update state.heard client (state.heard client ++ [bytes]) }

/-- Each step is one of the listed steps. -/
theorem step_of_next {listener : Nat} {user : Nat → User} {state later : State} {label : Label}
    (taken : state.next listener user label = some later) :
    Step listener user state label later := by
  cases label with
  | server label =>
      simp only [State.next, Option.ite_none_right_eq_some, Option.map_eq_some_iff] at taken
      obtain ⟨supplied, server, moved, rfl⟩ := taken
      exact .server label supplied server moved
  | connect =>
      cases taken
      exact .connect
  | send client =>
      simp only [State.next, Option.ite_none_right_eq_some, Option.map_eq_some_iff] at taken
      obtain ⟨⟨inside, runs⟩, frame, handed, rfl⟩ := taken
      exact .send client inside runs frame handed
  | close client =>
      simp only [State.next, Option.ite_none_right_eq_some, Option.some.injEq] at taken
      obtain ⟨inside, rfl⟩ := taken
      exact .close client inside
  | receive client bytes =>
      simp only [State.next, Option.ite_none_right_eq_some, Option.some.injEq] at taken
      obtain ⟨⟨_, _, nonempty, short, arrived⟩, rfl⟩ := taken
      exact .receive client bytes nonempty short arrived

end Chat
