/-
This file models the server `hw2`, which forks a child for each connection.
-/

import LinuxSystemProgramming.Library.Transition
import LinuxSystemProgramming.Construction.Tcps
import Mathlib.Logic.Function.Basic

namespace Hw2
open Transition CString Tcps
open Fifos (Pid chars)

/-- The parent is in front of a call, which may be about a connection, or it has exited. -/
inductive ParentPoint where
  | accept
  | fork (connection : Nat)
  | close (connection : Nat)
  | exited
  deriving DecidableEq, Repr

/-- A connection has no child, or its child is in front of a call, or the child has exited. -/
inductive ChildPoint where
  | absent
  | read (msg : MsgType)
  | write (answer : Answer)
  | close
  | exited

/-- The connections are numbered in the order of their arrival, and the bytes of their clients are recorded. The log records the answers in their order. -/
structure State where
  parent : ParentPoint
  msg : MsgType
  listening : Bool
  arrived : Nat
  accepted : Nat
  children : Nat
  holds : Nat → Bool
  child : Nat → ChildPoint
  stream : Nat → List UInt8
  finished : Nat → Bool
  log : List (Nat × Answer)

/-- A client connects, sends or closes its side, or `SIGINT` arrives, or a process takes its call, or a call of a child fails. -/
inductive Label where
  | connect
  | send (connection : Nat) (bytes : List UInt8)
  | finish (connection : Nat)
  | interrupt
  | parent
  | child (connection : Nat)
  | fail (connection : Nat)
  deriving DecidableEq

variable (limit : Nat) (pid : Nat → Pid) (beyond : List UInt8)

/-- A `read` from a connection waits for a byte or for the end of the stream. -/
def State.received (state : State) (connection : Nat) : Option Received :=
  if state.stream connection = [] ∧ state.finished connection = false then none
  else some ⟨(state.stream connection).take msgSize, by
    rw [List.length_take]
    exact Nat.min_le_left _ _⟩

/-- The child of a connection goes to a point. -/
def State.goto (state : State) (connection : Nat) (point : ChildPoint) : State :=
  { state with child := Function.update state.child connection point }

/-- The kernel closes the connections of a parent that exits. -/
def State.exit (state : State) : State :=
  { state with parent := .exited, holds := fun _ => false }

/-- The parent accepts, forks and closes. It never waits for a child, so each child counts against the limit for ever. -/
def State.parentStep (state : State) : Option State :=
  match state.parent with
  | .accept =>
      if state.listening = false then some state.exit
      else if state.accepted < state.arrived then
        some { state with
          parent := .fork state.accepted
          accepted := state.accepted + 1
          holds := Function.update state.holds state.accepted true }
      else none
  | .fork connection =>
      if state.children < limit then
        some { state.goto connection (.read state.msg) with
          parent := .close connection
          children := state.children + 1 }
      else some state.exit
  | .close connection =>
      some { state with
        parent := .accept
        holds := Function.update state.holds connection false }
  | .exited => none

/-- The child prints the request with five dots and writes the reply of its process. -/
def answerOf (msg : MsgType) (connection : Nat) (received : Received) : Answer :=
  (serve (chars ['.', '.', '.', '.', '.']) (pid connection) beyond msg received).2

/-- The child reads once into its copy of the message, answers, closes its connection and exits. -/
def State.childStep (state : State) (connection : Nat) : Option State :=
  match state.child connection with
  | .read msg =>
      (state.received connection).map fun received =>
        state.goto connection (.write (answerOf pid beyond msg connection received))
  | .write answer =>
      some { state.goto connection .close with log := state.log ++ [(connection, answer)] }
  | .close => some (state.goto connection .exited)
  | .absent | .exited => none

/-- A child whose `read` or `write` fails exits. -/
def State.failStep (state : State) (connection : Nat) : Option State :=
  match state.child connection with
  | .read _ | .write _ => some (state.goto connection .exited)
  | .absent | .close | .exited => none

/-- The clients act at any time, and the handler of `SIGINT` closes the socket of the server. -/
def State.next (state : State) : Label → Option State
  | .connect => some { state with arrived := state.arrived + 1 }
  | .send connection bytes =>
      if connection < state.arrived ∧ state.finished connection = false then
        some { state with
          stream := Function.update state.stream connection (state.stream connection ++ bytes) }
      else none
  | .finish connection =>
      if connection < state.arrived then
        some { state with finished := Function.update state.finished connection true }
      else none
  | .interrupt => some { state with listening := false }
  | .parent => state.parentStep limit
  | .child connection => state.childStep pid beyond connection
  | .fail connection => state.failStep connection

/-- At the start the parent listens, and its message is not initialized. -/
def start (msg : MsgType) : State where
  parent := .accept
  msg := msg
  listening := true
  arrived := 0
  accepted := 0
  children := 0
  holds _ := false
  child _ := .absent
  stream _ := []
  finished _ := false
  log := []

/-- The limit is the number of children that the system permits. -/
def system (msg : MsgType) : System State Label where
  initial state := state = start msg
  next := State.next limit pid beyond

/-- This relation lists the steps of the clients and of the signal with their guards and effects. -/
inductive ClientStep (state : State) : State → Prop where
  | connect : ClientStep state { state with arrived := state.arrived + 1 }
  | send (connection : Nat) (bytes : List UInt8) (here : connection < state.arrived)
      (opened : state.finished connection = false) :
      ClientStep state { state with
        stream := Function.update state.stream connection (state.stream connection ++ bytes) }
  | finish (connection : Nat) (here : connection < state.arrived) :
      ClientStep state { state with finished := Function.update state.finished connection true }
  | interrupt : ClientStep state { state with listening := false }

/-- This relation lists the steps of the parent with their guards and effects. -/
inductive ParentStep (state : State) : State → Prop where
  | refuse (here : state.parent = .accept) (closed : state.listening = false) :
      ParentStep state state.exit
  | accept (here : state.parent = .accept) (listens : state.listening = true)
      (waits : state.accepted < state.arrived) :
      ParentStep state { state with
        parent := .fork state.accepted
        accepted := state.accepted + 1
        holds := Function.update state.holds state.accepted true }
  | fork (connection : Nat) (here : state.parent = .fork connection)
      (room : state.children < limit) :
      ParentStep state { state.goto connection (.read state.msg) with
        parent := .close connection
        children := state.children + 1 }
  | fail (connection : Nat) (here : state.parent = .fork connection)
      (full : limit ≤ state.children) : ParentStep state state.exit
  | close (connection : Nat) (here : state.parent = .close connection) :
      ParentStep state { state with
        parent := .accept
        holds := Function.update state.holds connection false }

/-- This relation lists the steps of a child with their guards and effects. -/
inductive ChildStep (state : State) (connection : Nat) : State → Prop where
  | read (msg : MsgType) (here : state.child connection = .read msg) (received : Received)
      (prefixed : received.bytes <+: state.stream connection)
      (empty : received.bytes = [] → state.finished connection = true) :
      ChildStep state connection
        (state.goto connection (.write (answerOf pid beyond msg connection received)))
  | write (answer : Answer) (here : state.child connection = .write answer) :
      ChildStep state connection
        { state.goto connection .close with log := state.log ++ [(connection, answer)] }
  | close (here : state.child connection = .close) :
      ChildStep state connection (state.goto connection .exited)
  | fail (here : (∃ msg, state.child connection = .read msg) ∨
      ∃ answer, state.child connection = .write answer) :
      ChildStep state connection (state.goto connection .exited)

/-- A child reads the first bytes of its stream, and it reads nothing only at the end of the stream. -/
theorem received_eq_some {state : State} {connection : Nat} {received : Received}
    (found : state.received connection = some received) :
    received.bytes = (state.stream connection).take msgSize ∧
      (received.bytes = [] → state.finished connection = true) := by
  rw [State.received] at found
  split at found
  case isTrue => cases found
  case isFalse some' =>
    cases found
    refine ⟨rfl, fun empty => ?_⟩
    have none : state.stream connection = [] := by
      rcases List.take_eq_nil_iff.mp empty with zero | none
      · cases zero
      · exact none
    by_contra opened
    exact some' ⟨none, Bool.eq_false_iff.mpr opened⟩

/-- Each step of the parent is one of the listed steps. -/
theorem step_of_parentStep {state later : State} (taken : state.parentStep limit = some later) :
    ParentStep limit state later := by
  rw [State.parentStep] at taken
  cases here : state.parent with
  | accept =>
      simp only [here] at taken
      split at taken
      case isTrue closed =>
        cases taken
        exact .refuse here closed
      case isFalse opened =>
        split at taken
        case isTrue waits =>
          cases taken
          exact .accept here (eq_true_of_ne_false opened) waits
        case isFalse => cases taken
  | fork connection =>
      simp only [here] at taken
      split at taken
      case isTrue room =>
        cases taken
        exact .fork connection here room
      case isFalse full =>
        cases taken
        exact .fail connection here (Nat.not_lt.mp full)
  | close connection =>
      simp only [here] at taken
      cases taken
      exact .close connection here
  | exited =>
      simp only [here] at taken
      cases taken

/-- Each listed step is a step of the parent. -/
theorem parentStep_of_step {state later : State} (step : ParentStep limit state later) :
    state.parentStep limit = some later := by
  rw [State.parentStep]
  cases step with
  | refuse here closed => simp only [here, closed, if_true]
  | accept here listens waits => simp [here, listens, waits]
  | fork connection here room => simp only [here, room, if_true]
  | fail connection here full => simp only [here, Nat.not_lt.mpr full, if_false]
  | close connection here => simp only [here]

/-- A child that finds something reads it. -/
theorem childStep_read {state : State} {connection : Nat} {msg : MsgType} {received : Received}
    (here : state.child connection = .read msg)
    (found : state.received connection = some received) :
    state.childStep pid beyond connection =
      some (state.goto connection (.write (answerOf pid beyond msg connection received))) := by
  simp only [State.childStep, here, found, Option.map_some]

/-- A child always writes its answer. -/
theorem childStep_write {state : State} {connection : Nat} {answer : Answer}
    (here : state.child connection = .write answer) :
    state.childStep pid beyond connection =
      some { state.goto connection .close with log := state.log ++ [(connection, answer)] } := by
  simp only [State.childStep, here]

/-- Each step of a child is one of the listed steps. -/
theorem step_of_childStep {state later : State} {connection : Nat}
    (taken : state.childStep pid beyond connection = some later) :
    ChildStep pid beyond state connection later := by
  rw [State.childStep] at taken
  cases here : state.child connection with
  | read msg =>
      simp only [here, Option.map_eq_some_iff] at taken
      obtain ⟨received, found, rfl⟩ := taken
      obtain ⟨same, empty⟩ := received_eq_some found
      exact .read msg here received (same ▸ List.take_prefix _ _) empty
  | write answer =>
      simp only [here] at taken
      cases taken
      exact .write answer here
  | close =>
      simp only [here] at taken
      cases taken
      exact .close here
  | absent | exited =>
      simp only [here] at taken
      cases taken

/-- A call that fails is one of the listed steps. -/
theorem step_of_failStep {state later : State} {connection : Nat}
    (taken : state.failStep connection = some later) :
    ChildStep pid beyond state connection later := by
  rw [State.failStep] at taken
  cases here : state.child connection with
  | read msg =>
      simp only [here] at taken
      cases taken
      exact .fail (.inl ⟨msg, here⟩)
  | write answer =>
      simp only [here] at taken
      cases taken
      exact .fail (.inr ⟨answer, here⟩)
  | absent | close | exited =>
      simp only [here] at taken
      cases taken

/-- Each step is one of the listed steps. -/
theorem step_of_next {state later : State} {label : Label}
    (taken : state.next limit pid beyond label = some later) :
    ClientStep state later ∨ ParentStep limit state later ∨
      ∃ connection, ChildStep pid beyond state connection later := by
  cases label with
  | connect =>
      cases taken
      exact .inl .connect
  | send connection bytes =>
      rw [State.next, Option.ite_none_right_eq_some, Option.some_inj] at taken
      obtain ⟨⟨here, opened⟩, rfl⟩ := taken
      exact .inl (.send connection bytes here opened)
  | finish connection =>
      rw [State.next, Option.ite_none_right_eq_some, Option.some_inj] at taken
      obtain ⟨here, rfl⟩ := taken
      exact .inl (.finish connection here)
  | interrupt =>
      cases taken
      exact .inl .interrupt
  | parent => exact .inr (.inl (step_of_parentStep limit taken))
  | child connection => exact .inr (.inr ⟨connection, step_of_childStep pid beyond taken⟩)
  | fail connection => exact .inr (.inr ⟨connection, step_of_failStep pid beyond taken⟩)

end Hw2
