/-
This file models the two threads of `sipc4.c` with semaphores.
-/

import LinuxSystemProgramming.Library.Transition
import Mathlib.Logic.Function.Basic

namespace Sipc4
open Transition

/-- `Sipc1` receives the request and replies, and `Sipc2` sends the request. -/
inductive Thread where
  | sipc1
  | sipc2
  deriving DecidableEq

def Thread.other : Thread → Thread
  | .sipc1 => .sipc2
  | .sipc2 => .sipc1

inductive Sem where
  | mutex
  | empty
  | full
  deriving DecidableEq

/-- The statements of both threads. A call of `sprintf` begins to write `Data`, and it ends with the whole text. -/
inductive Statement where
  | wait (sem : Sem)
  | post (sem : Sem)
  | print
  | write
  | written
  deriving DecidableEq

/-- `Sipc1` and `Sipc2` in the order of their statements. -/
def Thread.body : Thread → List Statement
  | .sipc1 => [.wait .full, .wait .mutex, .print, .write, .written, .post .mutex, .post .empty]
  | .sipc2 => [.wait .empty, .wait .mutex, .write, .written, .post .mutex, .post .full,
      .wait .empty, .print]

/-- `sem_init` stores these values. -/
def Sem.initial : Sem → Nat
  | .mutex => 1
  | .empty => 1
  | .full => 0

/-- The threads share `Data` and the semaphores. Each one has the statements that remain and what it has printed of `Data`. -/
structure Exchange (Text : Type) where
  data : Option Text
  value : Sem → Nat
  rest : Thread → List Statement
  printed : Thread → Option (Option Text)

variable {Text : Type}

/-- `Sipc1` writes the reply, and `Sipc2` writes the request. -/
def Thread.text (request reply : Text) : Thread → Text
  | .sipc1 => reply
  | .sipc2 => request

/-- A thread executes a statement, and `sem_wait` blocks it at zero. -/
def Exchange.execute (request reply : Text) (exchange : Exchange Text) (thread : Thread) :
    Statement → Option (Exchange Text)
  | .wait sem =>
      if exchange.value sem = 0 then none
      else some { exchange with
        value := Function.update exchange.value sem (exchange.value sem - 1) }
  | .post sem =>
      some { exchange with
        value := Function.update exchange.value sem (exchange.value sem + 1) }
  | .print =>
      some { exchange with
        printed := Function.update exchange.printed thread (some exchange.data) }
  | .write => some { exchange with data := none }
  | .written => some { exchange with data := some (thread.text request reply) }

/-- A thread executes its next statement. -/
def Exchange.step (request reply : Text) (exchange : Exchange Text) (thread : Thread) :
    Option (Exchange Text) :=
  match exchange.rest thread with
  | [] => none
  | statement :: rest =>
      (exchange.execute request reply thread statement).map fun later =>
        { later with rest := Function.update later.rest thread rest }

/-- A point names the statement of `main` that is executed next, after its calls of `sem_init`. -/
inductive Main where
  | create (thread : Thread)
  | join (thread : Thread)
  | destroy (sem : Sem)
  | returned
  deriving DecidableEq

/-- A thread that has called `pthread_exit` does not execute its other statements. -/
structure State (Text : Type) where
  exchange : Exchange Text
  exited : Thread → Bool
  main : Main

/-- `main` creates `Sipc1` first. -/
def Main.created : Main → Thread → Bool
  | .create .sipc1, _ => false
  | .create .sipc2, thread => thread = .sipc1
  | _, _ => true

/-- A thread has returned or called `pthread_exit`. -/
def State.ended (state : State Text) (thread : Thread) : Prop :=
  state.exchange.rest thread = [] ∨ state.exited thread = true

instance (state : State Text) (thread : Thread) : Decidable (state.ended thread) :=
  inferInstanceAs (Decidable (_ ∨ _))

/-- `main` waits for both threads, and it destroys the semaphores after that. -/
def State.mainStep (state : State Text) : Option (State Text) :=
  match state.main with
  | .create .sipc1 => some { state with main := .create .sipc2 }
  | .create .sipc2 => some { state with main := .join .sipc1 }
  | .join .sipc1 =>
      if state.ended .sipc1 then some { state with main := .join .sipc2 } else none
  | .join .sipc2 =>
      if state.ended .sipc2 then some { state with main := .destroy .mutex } else none
  | .destroy .mutex => some { state with main := .destroy .full }
  | .destroy .full => some { state with main := .destroy .empty }
  | .destroy .empty => some { state with main := .returned }
  | .returned => none

/-- A statement is a call whose error ends the thread. -/
def Statement.calls : Statement → Bool
  | .wait _ | .post _ => true
  | .print | .write | .written => false

/-- A thread executes its next statement, a call of a thread fails, or `main` goes on. -/
inductive Label where
  | advance (thread : Thread)
  | fail (thread : Thread)
  | main
  deriving DecidableEq

/-- A thread runs after its creation and up to its exit. -/
def State.running (state : State Text) (thread : Thread) : Bool :=
  state.main.created thread && !state.exited thread

def State.next (request reply : Text) (state : State Text) : Label → Option (State Text)
  | .advance thread =>
      if state.running thread then
        (state.exchange.step request reply thread).map fun later =>
          { state with exchange := later }
      else none
  | .fail thread =>
      if state.running thread ∧ (state.exchange.rest thread).head?.any Statement.calls then
        some { state with exited := Function.update state.exited thread true }
      else none
  | .main => state.mainStep

/-- No thread has executed a statement, and `Data` has any text. -/
def Exchange.start (blank : Text) : Exchange Text where
  data := some blank
  value := Sem.initial
  rest := Thread.body
  printed _ := none

/-- `main` has initialized the semaphores. -/
def start (blank : Text) : State Text := ⟨.start blank, fun _ => false, .create .sipc1⟩

/-- The threads and `main` run in any order, and each call may fail. -/
def system (request reply blank : Text) : System (State Text) Label where
  initial state := state = start blank
  next := State.next request reply

/-- The threads alone, while no call fails. -/
def threads (request reply blank : Text) : System (Exchange Text) Thread where
  initial exchange := exchange = .start blank
  next := Exchange.step request reply

end Sipc4
