/-
This file models the producer and the consumer that wait busily for each other.
-/

import LinuxSystemProgramming.Construction.ProdconsM

namespace ProdconsT
open Transition BoundedBuffer
open ProdconsM (mustWait)

/-- A point names the next statement of the loop. The statements `Buf.counter++` and `Buf.counter--` read the counter into a register, and they write it afterwards. -/
inductive Point where
  | loop
  | check
  | spin
  | access
  | advance
  | read
  | write (register : Int)
  | finished
  deriving DecidableEq, Repr

/-- Each thread has its point and its loop variable `i`. -/
structure Local where
  point : Point
  i : Nat
  deriving DecidableEq, Repr

def Local.goto (view : Local) (point : Point) : Local := { view with point := point }

/-- A thread is inside its change of the counter. -/
def Point.writing : Point → Bool
  | .write _ => true
  | _ => false

/-- The state has the buffer, one thread of each role, and the sequences of produced and consumed items. -/
structure State where
  buffer : BoundedBufferType
  thread : Role → Local
  produced : List ItemType
  consumed : List ItemType

/-- A thread executes its next statement, where the producer also chooses its data. -/
inductive Label where
  | advance (role : Role)
  | produce (data : Int)
  deriving DecidableEq

def State.move (state : State) (role : Role) (point : Point) : State :=
  { state with thread := Function.update state.thread role ((state.thread role).goto point) }

/-- The producer stores its data in the buffer. -/
def State.store (state : State) (data : Int) : State :=
  { state.move .producer .advance with
    buffer := state.buffer.store data
    produced := state.produced ++ [⟨data⟩] }

/-- The consumer reads its data from the buffer. -/
def State.load (state : State) : State :=
  { state.move .consumer .advance with consumed := state.consumed ++ [state.buffer.load] }

/-- A thread executes its statement on `Buf.in` or `Buf.out`. -/
def State.advanceIndex (maxBuf : Nat) (state : State) (role : Role) : State :=
  { state.move role .read with buffer := role.advance maxBuf state.buffer }

/-- A thread writes the counter that follows its register, and the loop variable grows. -/
def State.write (state : State) (role : Role) (register : Int) : State :=
  { state with
    buffer := role.count { state.buffer with counter := register }
    thread := Function.update state.thread role ⟨.loop, (state.thread role).i + 1⟩ }

/-- The `if` and the `while` of a role have the same condition, and the `while` tests it again. -/
def State.advance (maxBuf nloops : Nat) (state : State) (role : Role) : Option State :=
  let view := state.thread role
  match view.point with
  | .loop =>
      if view.i < nloops then some (state.move role .check) else some (state.move role .finished)
  | .check | .spin =>
      if mustWait maxBuf role state.buffer then some (state.move role .spin)
      else some (state.move role .access)
  | .access => if role = .consumer then some state.load else none
  | .advance => some (state.advanceIndex maxBuf role)
  | .read => some (state.move role (.write state.buffer.counter))
  | .write register => some (state.write role register)
  | .finished => none

def State.next (maxBuf nloops : Nat) (state : State) : Label → Option State
  | .advance role => state.advance maxBuf nloops role
  | .produce data =>
      if (state.thread .producer).point = .access then some (state.store data) else none

/-- The two threads of `prodcons_t.c`, or the two processes of `producer.c` and `consumer.c`, share a buffer of zeros. -/
def system (maxBuf nloops : Nat) : System State Label where
  initial state := state = ⟨.zero, fun _ => ⟨.loop, 0⟩, [], []⟩
  next := State.next maxBuf nloops

/-- In these runs no thread reads the counter while the other one is inside its change. -/
def apart (state : State) : Label → Bool
  | .advance role =>
      (state.thread role).point = .read → (state.thread role.other).point.writing = false
  | .produce _ => true

/-- This relation lists the steps with their guards and effects. -/
inductive Step (maxBuf nloops : Nat) (state : State) : Label → State → Prop where
  | enter (role : Role) (here : (state.thread role).point = .loop)
      (more : (state.thread role).i < nloops) :
      Step maxBuf nloops state (.advance role) (state.move role .check)
  | finish (role : Role) (here : (state.thread role).point = .loop)
      (done : nloops ≤ (state.thread role).i) :
      Step maxBuf nloops state (.advance role) (state.move role .finished)
  | wait (role : Role) (here : (state.thread role).point = .check ∨ (state.thread role).point = .spin)
      (wait : mustWait maxBuf role state.buffer = true) :
      Step maxBuf nloops state (.advance role) (state.move role .spin)
  | pass (role : Role) (here : (state.thread role).point = .check ∨ (state.thread role).point = .spin)
      (ready : mustWait maxBuf role state.buffer = false) :
      Step maxBuf nloops state (.advance role) (state.move role .access)
  | store (data : Int) (here : (state.thread .producer).point = .access) :
      Step maxBuf nloops state (.produce data) (state.store data)
  | load (here : (state.thread .consumer).point = .access) :
      Step maxBuf nloops state (.advance .consumer) state.load
  | advance (role : Role) (here : (state.thread role).point = .advance) :
      Step maxBuf nloops state (.advance role) (state.advanceIndex maxBuf role)
  | read (role : Role) (here : (state.thread role).point = .read) :
      Step maxBuf nloops state (.advance role) (state.move role (.write state.buffer.counter))
  | write (role : Role) (register : Int) (here : (state.thread role).point = .write register) :
      Step maxBuf nloops state (.advance role) (state.write role register)

/-- Each step of the system is one of the listed steps. -/
theorem step_of_next {maxBuf nloops : Nat} {state later : State} {label : Label}
    (taken : (system maxBuf nloops).next state label = some later) :
    Step maxBuf nloops state label later := by
  cases label with
  | produce data =>
      simp only [system, State.next, Option.ite_none_right_eq_some, Option.some.injEq] at taken
      exact taken.2 ▸ .store data taken.1
  | advance role =>
      simp only [system, State.next] at taken
      unfold State.advance at taken
      dsimp only at taken
      cases here : (state.thread role).point with
      | loop =>
          rw [here] at taken
          by_cases more : (state.thread role).i < nloops
          · rw [if_pos more, Option.some_inj] at taken
            exact taken ▸ .enter role here more
          · rw [if_neg more, Option.some_inj] at taken
            exact taken ▸ .finish role here (Nat.le_of_not_lt more)
      | check | spin =>
          rw [here] at taken
          cases wait : mustWait maxBuf role state.buffer with
          | true =>
              rw [wait, if_pos rfl, Option.some_inj] at taken
              exact taken ▸ .wait role (by simp [here]) wait
          | false =>
              rw [wait, if_neg Bool.false_ne_true, Option.some_inj] at taken
              exact taken ▸ .pass role (by simp [here]) wait
      | access =>
          rw [here, Option.ite_none_right_eq_some, Option.some_inj] at taken
          obtain ⟨rfl, rfl⟩ := taken
          exact .load here
      | advance =>
          rw [here, Option.some_inj] at taken
          exact taken ▸ .advance role here
      | read =>
          rw [here, Option.some_inj] at taken
          exact taken ▸ .read role here
      | write register =>
          rw [here, Option.some_inj] at taken
          exact taken ▸ .write role register here
      | finished =>
          rw [here] at taken
          cases taken

end ProdconsT
