/-
This file models `sipc1` and `sipc2` with a flag in the shared memory.
-/

import LinuxSystemProgramming.Library.Transition
import Mathlib.Logic.Function.Basic

namespace Shm
open Transition

/-- `sipc1` receives the request and replies, and `sipc2` sends the request. -/
inductive Process where
  | sipc1
  | sipc2
  deriving DecidableEq

/-- A segment begins with the flag, and its data is not defined while `sprintf` writes it. -/
structure Segment (Text : Type) where
  flag : Int
  data : Option Text

/-- The key names a segment or none, and the next segment gets a fresh number. -/
structure Memory (Text : Type) where
  key : Option Nat
  fresh : Nat
  segment : Nat → Segment Text

/-- A point names the statement of `sipc1` that is executed next, with the segment of its pointers. -/
inductive Sipc1Point where
  | shmget
  | shmat (shmid : Nat)
  | test (p : Nat)
  | receive (p : Nat)
  | reply (p : Nat)
  | replying (p : Nat)
  | clear (p : Nat)
  | shmctl (p : Nat)
  | returned
  | failed
  deriving DecidableEq

/-- A point names the statement of `sipc2` that is executed next, with the segment of its pointers. -/
inductive Sipc2Point where
  | shmget
  | shmat (shmid : Nat)
  | send (p : Nat)
  | sending (p : Nat)
  | set (p : Nat)
  | test (p : Nat)
  | print (p : Nat)
  | returned
  | failed
  deriving DecidableEq

/-- Both programs record what they print. -/
structure State (Text : Type) where
  memory : Memory Text
  sipc1 : Sipc1Point
  sipc2 : Sipc2Point
  received : Option (Option Text)
  printed : Option (Option Text)

variable {Text : Type}

/-- `shmget` with `IPC_CREAT` makes a segment of zeros unless the key names one. -/
def Memory.shmget (memory : Memory Text) (blank : Text) : Nat × Memory Text :=
  match memory.key with
  | some shmid => (shmid, memory)
  | none =>
      (memory.fresh,
        { key := some memory.fresh
          fresh := memory.fresh + 1
          segment := Function.update memory.segment memory.fresh ⟨0, some blank⟩ })

/-- A store into the data or the flag of a segment. -/
def Memory.store (memory : Memory Text) (p : Nat) (segment : Segment Text) : Memory Text :=
  { memory with segment := Function.update memory.segment p segment }

/-- A removed segment has no key, and it remains for those that have attached it. -/
def Memory.remove (memory : Memory Text) (p : Nat) : Memory Text :=
  { memory with key := if memory.key = some p then none else memory.key }

/-- `sipc1` has attached the segment. -/
def Sipc1Point.attached : Sipc1Point → Option Nat
  | .test p | .receive p | .reply p | .replying p | .clear p | .shmctl p => some p
  | .shmget | .shmat _ | .returned | .failed => none

/-- `sipc2` has attached the segment. -/
def Sipc2Point.attached : Sipc2Point → Option Nat
  | .send p | .sending p | .set p | .test p | .print p => some p
  | .shmget | .shmat _ | .returned | .failed => none

/-- `sipc1` spins while the flag is zero, then it prints the request, replies, clears the flag and removes the segment. -/
def State.sipc1Step (reply blank : Text) (state : State Text) : Option (State Text) :=
  match state.sipc1 with
  | .shmget =>
      some { state with
        memory := (state.memory.shmget blank).2
        sipc1 := .shmat (state.memory.shmget blank).1 }
  | .shmat shmid =>
      if state.memory.key = some shmid ∨ state.sipc2.attached = some shmid then
        some { state with sipc1 := .test shmid }
      else some { state with sipc1 := .failed }
  | .test p =>
      if (state.memory.segment p).flag = 0 then none
      else some { state with sipc1 := .receive p }
  | .receive p =>
      some { state with received := some (state.memory.segment p).data, sipc1 := .reply p }
  | .reply p =>
      some { state with
        memory := state.memory.store p ⟨(state.memory.segment p).flag, none⟩
        sipc1 := .replying p }
  | .replying p =>
      some { state with
        memory := state.memory.store p ⟨(state.memory.segment p).flag, some reply⟩
        sipc1 := .clear p }
  | .clear p =>
      some { state with
        memory := state.memory.store p ⟨0, (state.memory.segment p).data⟩
        sipc1 := .shmctl p }
  | .shmctl p => some { state with memory := state.memory.remove p, sipc1 := .returned }
  | .returned | .failed => none

/-- `sipc2` sends the request, sets the flag, spins while it is one, and prints the reply. -/
def State.sipc2Step (request blank : Text) (state : State Text) : Option (State Text) :=
  match state.sipc2 with
  | .shmget =>
      some { state with
        memory := (state.memory.shmget blank).2
        sipc2 := .shmat (state.memory.shmget blank).1 }
  | .shmat shmid =>
      if state.memory.key = some shmid ∨ state.sipc1.attached = some shmid then
        some { state with sipc2 := .send shmid }
      else some { state with sipc2 := .failed }
  | .send p =>
      some { state with
        memory := state.memory.store p ⟨(state.memory.segment p).flag, none⟩
        sipc2 := .sending p }
  | .sending p =>
      some { state with
        memory := state.memory.store p ⟨(state.memory.segment p).flag, some request⟩
        sipc2 := .set p }
  | .set p =>
      some { state with
        memory := state.memory.store p ⟨1, (state.memory.segment p).data⟩
        sipc2 := .test p }
  | .test p =>
      if (state.memory.segment p).flag = 1 then none
      else some { state with sipc2 := .print p }
  | .print p =>
      some { state with printed := some (state.memory.segment p).data, sipc2 := .returned }
  | .returned | .failed => none

/-- An earlier run may have left a segment with a flag and some text. -/
def start (left : Option (Int × Text)) (blank : Text) : State Text where
  memory :=
    match left with
    | none => ⟨none, 0, fun _ => ⟨0, some blank⟩⟩
    | some (flag, old) => ⟨some 0, 1, fun _ => ⟨flag, some old⟩⟩
  sipc1 := .shmget
  sipc2 := .shmget
  received := none
  printed := none

/-- The two programs run in any order, and a step of a loop that spins is left out. -/
def system (request reply blank : Text) (left : Option (Int × Text)) :
    System (State Text) Process where
  initial state := state = start left blank
  next state process :=
    match process with
    | .sipc1 => state.sipc1Step reply blank
    | .sipc2 => state.sipc2Step request blank

end Shm
