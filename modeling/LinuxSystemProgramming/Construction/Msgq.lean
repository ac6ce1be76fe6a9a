/-
This file models the server `msgq1` and any number of clients `msgq2` at one message queue.
-/

import LinuxSystemProgramming.Library.Transition
import LinuxSystemProgramming.Library.MessageQueue
import Mathlib.Logic.Function.Basic

namespace Msgq
open Transition MessageQueue

/-- `MSG_REQUEST`. -/
def msgRequest : Nat := 1

/-- `MSG_REPLY`. -/
def msgReply : Nat := 2

/-- The server is in front of a call, or it has returned, or it has called `exit(1)`. -/
inductive ServerPoint where
  | msgget
  | msgrcv
  | msgsnd
  | msgctl
  | returned
  | exited
  deriving DecidableEq, Repr

/-- A client is in front of a call, or it has printed the text of a reply, or it has called `exit(1)`. -/
inductive ClientPoint (Text : Type) where
  | msgget
  | msgsnd
  | msgrcv
  | printed (text : Text)
  | exited
  deriving DecidableEq, Repr

/-- The queue exists or not. The server prints the request that it receives, and the clients are recorded in the order of their requests. -/
structure State (Client Text : Type) where
  queue : Option (List (Message Text))
  server : ServerPoint
  received : Option Text
  client : Client → ClientPoint Text
  sent : List Client

/-- The server or a client takes its call. -/
inductive Label (Client : Type) where
  | server
  | client (client : Client)
  deriving DecidableEq

variable {Client Text : Type} [DecidableEq Client] (limit : Nat) (request : Client → Text)
  (reply : Text)

/-- `msgsnd` waits while the queue is full. -/
def send (queue : List (Message Text)) (message : Message Text) : Option (List (Message Text)) :=
  if queue.length < limit then some (queue ++ [message]) else none

/-- The server ends after a call that fails. -/
def State.exit (state : State Client Text) : State Client Text := { state with server := .exited }

/-- The calls of `main` in `msgq1.c`, where `sleep` delays the removal of the queue. -/
def State.serverStep (state : State Client Text) : Option (State Client Text) :=
  match state.server with
  | .msgget => some { state with queue := some (state.queue.getD []), server := .msgrcv }
  | .msgrcv =>
      match state.queue with
      | none => some state.exit
      | some queue =>
          (receive msgRequest queue).map fun taken =>
            { state with queue := some taken.2, received := some taken.1, server := .msgsnd }
  | .msgsnd =>
      match state.queue with
      | none => some state.exit
      | some queue =>
          (send limit queue ⟨msgReply, reply⟩).map fun queue =>
            { state with queue := some queue, server := .msgctl }
  | .msgctl =>
      match state.queue with
      | none => some state.exit
      | some _ => some { state with queue := none, server := .returned }
  | .returned | .exited => none

/-- A client goes to a point. -/
def State.goto (state : State Client Text) (client : Client) (point : ClientPoint Text) :
    State Client Text :=
  { state with client := Function.update state.client client point }

/-- The calls of `main` in `msgq2.c`, which fail if the queue does not exist. -/
def State.clientStep (state : State Client Text) (client : Client) : Option (State Client Text) :=
  match state.client client with
  | .msgget =>
      match state.queue with
      | none => some (state.goto client .exited)
      | some _ => some (state.goto client .msgsnd)
  | .msgsnd =>
      match state.queue with
      | none => some (state.goto client .exited)
      | some queue =>
          (send limit queue ⟨msgRequest, request client⟩).map fun queue =>
            { state.goto client .msgrcv with
              queue := some queue
              sent := state.sent ++ [client] }
  | .msgrcv =>
      match state.queue with
      | none => some (state.goto client .exited)
      | some queue =>
          (receive msgReply queue).map fun taken =>
            { state.goto client (.printed taken.1) with queue := some taken.2 }
  | .printed _ | .exited => none

/-- At the start there is no queue. -/
def start : State Client Text := ⟨none, .msgget, none, fun _ => .msgget, []⟩

/-- The queue has room for a number of messages of the size of `MsgType`. -/
def system : System (State Client Text) (Label Client) where
  initial state := state = start
  next state label :=
    match label with
    | .server => state.serverStep limit reply
    | .client client => state.clientStep limit request client

/-- The client has sent its request and has not got a reply. -/
def ClientPoint.waiting : ClientPoint Text → Bool
  | .msgrcv => true
  | _ => false

/-- The client has ended. -/
def ClientPoint.ended : ClientPoint Text → Bool
  | .printed _ | .exited => true
  | _ => false

/-- This relation lists the steps of the server with their guards and effects. -/
inductive ServerStep (state : State Client Text) : State Client Text → Prop where
  | msgget (here : state.server = .msgget) :
      ServerStep state { state with queue := some (state.queue.getD []), server := .msgrcv }
  | msgrcv (here : state.server = .msgrcv) (queue rest : List (Message Text)) (text : Text)
      (present : state.queue = some queue) (taken : receive msgRequest queue = some (text, rest)) :
      ServerStep state { state with queue := some rest, received := some text, server := .msgsnd }
  | msgsnd (here : state.server = .msgsnd) (queue : List (Message Text))
      (present : state.queue = some queue) (room : queue.length < limit) :
      ServerStep state { state with
        queue := some (queue ++ [⟨msgReply, reply⟩]), server := .msgctl }
  | msgctl (here : state.server = .msgctl) (queue : List (Message Text))
      (present : state.queue = some queue) :
      ServerStep state { state with queue := none, server := .returned }
  | fail (here : state.server = .msgrcv ∨ state.server = .msgsnd ∨ state.server = .msgctl)
      (absent : state.queue = none) : ServerStep state state.exit

/-- This relation lists the steps of a client with their guards and effects. -/
inductive ClientStep (state : State Client Text) (client : Client) : State Client Text → Prop where
  | msgget (here : state.client client = .msgget) (queue : List (Message Text))
      (present : state.queue = some queue) : ClientStep state client (state.goto client .msgsnd)
  | msgsnd (here : state.client client = .msgsnd) (queue : List (Message Text))
      (present : state.queue = some queue) (room : queue.length < limit) :
      ClientStep state client { state.goto client .msgrcv with
        queue := some (queue ++ [⟨msgRequest, request client⟩])
        sent := state.sent ++ [client] }
  | msgrcv (here : state.client client = .msgrcv) (queue rest : List (Message Text)) (text : Text)
      (present : state.queue = some queue) (taken : receive msgReply queue = some (text, rest)) :
      ClientStep state client { state.goto client (.printed text) with queue := some rest }
  | fail (here : (state.client client).ended = false) (absent : state.queue = none) :
      ClientStep state client (state.goto client .exited)

omit [DecidableEq Client] in
theorem send_eq_some (queue later : List (Message Text)) (message : Message Text) :
    send limit queue message = some later ↔ queue.length < limit ∧ later = queue ++ [message] := by
  rw [send, Option.ite_none_right_eq_some, Option.some_inj]
  exact and_congr_right fun _ => eq_comm

omit [DecidableEq Client] in
/-- Each step of the server is one of the listed steps. -/
theorem step_of_serverStep {state later : State Client Text}
    (taken : state.serverStep limit reply = some later) : ServerStep limit reply state later := by
  rw [State.serverStep] at taken
  cases here : state.server with
  | msgget =>
      rw [here, Option.some_inj] at taken
      exact taken ▸ .msgget here
  | msgrcv =>
      rw [here] at taken
      cases present : state.queue with
      | none =>
          rw [present, Option.some_inj] at taken
          exact taken ▸ .fail (.inl here) present
      | some queue =>
          simp only [present, Option.map_eq_some_iff] at taken
          obtain ⟨⟨text, rest⟩, found, rfl⟩ := taken
          exact .msgrcv here queue rest text present found
  | msgsnd =>
      rw [here] at taken
      cases present : state.queue with
      | none =>
          rw [present, Option.some_inj] at taken
          exact taken ▸ .fail (.inr (.inl here)) present
      | some queue =>
          simp only [present, Option.map_eq_some_iff, send_eq_some] at taken
          obtain ⟨_, ⟨room, rfl⟩, rfl⟩ := taken
          exact .msgsnd here queue present room
  | msgctl =>
      rw [here] at taken
      cases present : state.queue with
      | none =>
          rw [present, Option.some_inj] at taken
          exact taken ▸ .fail (.inr (.inr here)) present
      | some queue =>
          rw [present, Option.some_inj] at taken
          exact taken ▸ .msgctl here queue present
  | returned | exited =>
      rw [here] at taken
      cases taken

/-- Each step of a client is one of the listed steps. -/
theorem step_of_clientStep {state later : State Client Text} {client : Client}
    (taken : state.clientStep limit request client = some later) :
    ClientStep limit request state client later := by
  rw [State.clientStep] at taken
  cases here : state.client client with
  | msgget =>
      rw [here] at taken
      cases present : state.queue with
      | none =>
          rw [present, Option.some_inj] at taken
          exact taken ▸ .fail (by rw [here]; rfl) present
      | some queue =>
          rw [present, Option.some_inj] at taken
          exact taken ▸ .msgget here queue present
  | msgsnd =>
      rw [here] at taken
      cases present : state.queue with
      | none =>
          rw [present, Option.some_inj] at taken
          exact taken ▸ .fail (by rw [here]; rfl) present
      | some queue =>
          simp only [present, Option.map_eq_some_iff, send_eq_some] at taken
          obtain ⟨_, ⟨room, rfl⟩, rfl⟩ := taken
          exact .msgsnd here queue present room
  | msgrcv =>
      rw [here] at taken
      cases present : state.queue with
      | none =>
          rw [present, Option.some_inj] at taken
          exact taken ▸ .fail (by rw [here]; rfl) present
      | some queue =>
          simp only [present, Option.map_eq_some_iff] at taken
          obtain ⟨⟨text, rest⟩, found, rfl⟩ := taken
          exact .msgrcv here queue rest text present found
  | printed _ | exited =>
      rw [here] at taken
      cases taken

end Msgq
