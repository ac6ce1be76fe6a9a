/-
This file proves from which flags `sipc1` and `sipc2` exchange their request and reply.
-/

import LinuxSystemProgramming.Construction.Shm

namespace Shm
open Transition

variable {Text : Type} {request reply blank : Text} {left : Option (Int × Text)}
  {state later : State Text} {memory : Memory Text}

/-- `sipc1` gets to the loop that waits for the flag. -/
inductive Awaiting : Sipc1Point → Prop where
  | shmget : Awaiting .shmget
  | shmat : Awaiting (.shmat 0)
  | test : Awaiting (.test 0)

/-- `sipc2` writes its request before it sets the flag. -/
inductive Requesting (request : Text) : Sipc2Point → Option Text → Prop where
  | shmget (data : Option Text) : Requesting request .shmget data
  | shmat (data : Option Text) : Requesting request (.shmat 0) data
  | send (data : Option Text) : Requesting request (.send 0) data
  | sending (data : Option Text) : Requesting request (.sending 0) data
  | set : Requesting request (.set 0) (some request)

/-- `sipc1` takes the request and writes its reply while the flag is one. -/
inductive Replying (request reply : Text) :
    Sipc1Point → Option Text → Option (Option Text) → Prop where
  | awaiting (first : Sipc1Point) (awaits : Awaiting first) :
      Replying request reply first (some request) none
  | receive : Replying request reply (.receive 0) (some request) none
  | reply : Replying request reply (.reply 0) (some request) (some (some request))
  | replying : Replying request reply (.replying 0) none (some (some request))
  | clear : Replying request reply (.clear 0) (some reply) (some (some request))

/-- `sipc2` prints the reply after the flag is cleared. -/
inductive Finishing (reply : Text) : Sipc2Point → Option (Option Text) → Prop where
  | test : Finishing reply (.test 0) none
  | print : Finishing reply (.print 0) none
  | returned : Finishing reply .returned (some (some reply))

/-- The first segment has a flag and its data. -/
def Memory.Has (memory : Memory Text) (flag : Int) (data : Option Text) : Prop :=
  memory.segment 0 = ⟨flag, data⟩

/-- The programs request, reply and finish at one segment. -/
inductive Phase (request reply : Text) : State Text → Prop where
  | absent (memory : Memory Text) (key : memory.key = none) (fresh : memory.fresh = 0) :
      Phase request reply ⟨memory, .shmget, .shmget, none, none⟩
  | request (memory : Memory Text) (first : Sipc1Point) (second : Sipc2Point)
      (data : Option Text) (key : memory.key = some 0) (has : memory.Has 0 data)
      (awaits : Awaiting first) (sends : Requesting request second data) :
      Phase request reply ⟨memory, first, second, none, none⟩
  | reply (memory : Memory Text) (first : Sipc1Point) (data : Option Text)
      (received : Option (Option Text)) (key : memory.key = some 0) (has : memory.Has 1 data)
      (answers : Replying request reply first data received) :
      Phase request reply ⟨memory, first, .test 0, received, none⟩
  | finish (memory : Memory Text) (first : Sipc1Point) (second : Sipc2Point)
      (printed : Option (Option Text)) (has : memory.Has 0 (some reply))
      (leaves : first = .shmctl 0 ∨ first = .returned) (finishes : Finishing reply second printed) :
      Phase request reply ⟨memory, first, second, some (some request), printed⟩

/-- A key that names the first segment is found. -/
theorem shmget_present (key : memory.key = some 0) : memory.shmget blank = (0, memory) := by
  rw [Memory.shmget, key]

/-- The first segment is made if there is none. -/
theorem shmget_absent (blank : Text) (key : memory.key = none) (fresh : memory.fresh = 0) :
    (memory.shmget blank).1 = 0 ∧ (memory.shmget blank).2.key = some 0 ∧
      (memory.shmget blank).2.Has 0 (some blank) := by
  simp [Memory.shmget, Memory.Has, key, fresh]

/-- A store is found in the segment. -/
theorem has_store (memory : Memory Text) (flag : Int) (data : Option Text) :
    (memory.store 0 ⟨flag, data⟩).Has flag data := by
  simp [Memory.store, Memory.Has]

/-- A step of `sipc1` that waits attaches the segment. -/
theorem phase_request1 {first : Sipc1Point} {second : Sipc2Point} {data : Option Text}
    (key : memory.key = some 0) (has : memory.Has 0 data) (awaits : Awaiting first)
    (sends : Requesting request second data)
    (moved : (⟨memory, first, second, none, none⟩ : State Text).sipc1Step reply blank =
      some later) : Phase request reply later := by
  cases awaits with
  | shmget =>
      simp only [State.sipc1Step, shmget_present key] at moved
      cases moved
      exact .request memory _ second data key has .shmat sends
  | shmat =>
      simp only [State.sipc1Step, key, true_or, if_true] at moved
      cases moved
      exact .request memory _ second data key has .test sends
  | test =>
      have zero : (memory.segment 0).flag = 0 := congrArg Segment.flag has
      simp only [State.sipc1Step, zero, if_true] at moved
      cases moved

/-- A step of `sipc2` goes on to the set flag. -/
theorem phase_request2 {first : Sipc1Point} {second : Sipc2Point} {data : Option Text}
    (key : memory.key = some 0) (has : memory.Has 0 data) (awaits : Awaiting first)
    (sends : Requesting request second data)
    (moved : (⟨memory, first, second, none, none⟩ : State Text).sipc2Step request blank =
      some later) : Phase request reply later := by
  have zero : (memory.segment 0).flag = 0 := congrArg Segment.flag has
  cases sends with
  | shmget =>
      simp only [State.sipc2Step, shmget_present key] at moved
      cases moved
      exact .request memory first _ data key has awaits (.shmat data)
  | shmat =>
      simp only [State.sipc2Step, key, true_or, if_true] at moved
      cases moved
      exact .request memory first _ data key has awaits (.send data)
  | send =>
      simp only [State.sipc2Step, zero] at moved
      cases moved
      exact .request _ first _ none key (has_store memory 0 none) awaits (.sending none)
  | sending =>
      simp only [State.sipc2Step, zero] at moved
      cases moved
      exact .request _ first _ _ key (has_store memory 0 (some request)) awaits .set
  | set =>
      have data : (memory.segment 0).data = some request := congrArg Segment.data has
      simp only [State.sipc2Step, data] at moved
      cases moved
      exact .reply _ first _ none key (has_store memory 1 (some request)) (.awaiting first awaits)

/-- A step of `sipc1` goes on to the cleared flag. -/
theorem phase_reply1 {first : Sipc1Point} {data : Option Text} {received : Option (Option Text)}
    (key : memory.key = some 0) (has : memory.Has 1 data)
    (answers : Replying request reply first data received)
    (moved : (⟨memory, first, .test 0, received, none⟩ : State Text).sipc1Step reply blank =
      some later) : Phase request reply later := by
  have one : (memory.segment 0).flag = 1 := congrArg Segment.flag has
  have stored : (memory.segment 0).data = data := congrArg Segment.data has
  cases answers with
  | awaiting first awaits =>
      cases awaits with
      | shmget =>
          simp only [State.sipc1Step, shmget_present key] at moved
          cases moved
          exact .reply memory _ _ none key has (.awaiting _ .shmat)
      | shmat =>
          simp only [State.sipc1Step, key, true_or, if_true] at moved
          cases moved
          exact .reply memory _ _ none key has (.awaiting _ .test)
      | test =>
          simp only [State.sipc1Step, one, Int.one_ne_zero, if_false] at moved
          cases moved
          exact .reply memory _ _ none key has .receive
  | receive =>
      simp only [State.sipc1Step, stored] at moved
      cases moved
      exact .reply memory _ _ _ key has .reply
  | reply =>
      simp only [State.sipc1Step, one] at moved
      cases moved
      exact .reply _ _ none _ key (has_store memory 1 none) .replying
  | replying =>
      simp only [State.sipc1Step, one] at moved
      cases moved
      exact .reply _ _ _ _ key (has_store memory 1 (some reply)) .clear
  | clear =>
      simp only [State.sipc1Step, stored] at moved
      cases moved
      exact .finish _ _ _ none (has_store memory 0 (some reply)) (.inl rfl) .test

/-- A step of `sipc2` behind the cleared flag prints the reply. -/
theorem phase_finish2 {first : Sipc1Point} {second : Sipc2Point}
    {printed : Option (Option Text)} (has : memory.Has 0 (some reply))
    (leaves : first = .shmctl 0 ∨ first = .returned) (finishes : Finishing reply second printed)
    (moved : (⟨memory, first, second, some (some request), printed⟩ :
      State Text).sipc2Step request blank = some later) : Phase request reply later := by
  have zero : (memory.segment 0).flag = 0 := congrArg Segment.flag has
  have stored : (memory.segment 0).data = some reply := congrArg Segment.data has
  cases finishes with
  | test =>
      simp only [State.sipc2Step, zero, Int.zero_ne_one, if_false] at moved
      cases moved
      exact .finish memory first _ none has leaves .print
  | print =>
      simp only [State.sipc2Step, stored] at moved
      cases moved
      exact .finish memory first _ _ has leaves .returned
  | returned => cases moved

/-- Each step keeps the phases. -/
theorem phase_step (phase : Phase request reply state) {process : Process}
    (taken : (system request reply blank left).next state process = some later) :
    Phase request reply later := by
  cases phase with
  | absent memory key fresh =>
      obtain ⟨first, named, made⟩ := shmget_absent blank key fresh
      cases process with
      | sipc1 =>
          simp only [system, State.sipc1Step, first] at taken
          cases taken
          exact .request _ _ _ _ named made .shmat (.shmget _)
      | sipc2 =>
          simp only [system, State.sipc2Step, first] at taken
          cases taken
          exact .request _ _ _ _ named made .shmget (.shmat _)
  | request memory first second data key has awaits sends =>
      cases process with
      | sipc1 => exact phase_request1 key has awaits sends taken
      | sipc2 => exact phase_request2 key has awaits sends taken
  | reply memory first data received key has answers =>
      cases process with
      | sipc1 => exact phase_reply1 key has answers taken
      | sipc2 =>
          have one : (memory.segment 0).flag = 1 := congrArg Segment.flag has
          simp only [system, State.sipc2Step, one, if_true] at taken
          cases taken
  | finish memory first second printed has leaves finishes =>
      cases process with
      | sipc1 =>
          rcases leaves with rfl | rfl
          · cases Option.some.inj taken
            exact .finish _ _ second printed has (.inr rfl) finishes
          · cases taken
      | sipc2 => exact phase_finish2 has leaves finishes taken

/-- What the programs print is the request and the reply, and they stop only after that. -/
structure Exchanged (request reply : Text) (stuck : Prop) (state : State Text) : Prop where
  received : ∀ text, state.received = some text → text = some request
  printed : ∀ text, state.printed = some text → text = some reply
  ends : stuck → state.received = some (some request) ∧ state.printed = some (some reply) ∧
    state.sipc1 = .returned ∧ state.sipc2 = .returned

/-- In each phase the programs print the request and the reply or go on. -/
theorem Phase.exchanged (phase : Phase request reply state) :
    Exchanged request reply ((system request reply blank left).Stuck (fun _ => True) state)
      state := by
  cases phase with
  | absent memory key fresh =>
      refine ⟨nofun, nofun, fun stuck => ?_⟩
      cases stuck .sipc1 trivial
  | request memory first second data key has awaits sends =>
      refine ⟨nofun, nofun, fun stuck => ?_⟩
      have blocked := stuck .sipc2 trivial
      cases sends with
      | shmat =>
          simp only [system, State.sipc2Step, key, true_or, if_true] at blocked
          cases blocked
      | shmget | send | sending | set => cases blocked
  | reply memory first data received key has answers =>
      have one : (memory.segment 0).flag = 1 := congrArg Segment.flag has
      refine ⟨?_, nofun, fun stuck => ?_⟩
      · rintro _ ⟨⟩
        cases answers <;> rfl
      · have blocked := stuck .sipc1 trivial
        cases answers with
        | awaiting _ awaits =>
            cases awaits with
            | shmget => cases blocked
            | shmat =>
                simp only [system, State.sipc1Step, key, true_or, if_true] at blocked
                cases blocked
            | test =>
                simp only [system, State.sipc1Step, one, Int.one_ne_zero, if_false] at blocked
                cases blocked
        | receive | reply | replying | clear => cases blocked
  | finish memory first second printed has leaves finishes =>
      have zero : (memory.segment 0).flag = 0 := congrArg Segment.flag has
      refine ⟨?_, ?_, fun stuck => ?_⟩
      · rintro _ ⟨⟩
        rfl
      · rintro _ ⟨⟩
        cases finishes
        rfl
      · have blocked := stuck .sipc2 trivial
        have waits := stuck .sipc1 trivial
        rcases leaves with rfl | rfl
        · cases waits
        · cases finishes with
          | returned => exact ⟨rfl, rfl, rfl, rfl⟩
          | print => cases blocked
          | test =>
              simp only [system, State.sipc2Step, zero, Int.zero_ne_one, if_false] at blocked
              cases blocked

/-- After a flag that is set `sipc1` replies to nobody, and `sipc2` spins for ever. -/
theorem exists_stuck (request reply blank : Text) {flag : Int} (old : Text) (set : flag ≠ 0) :
    ∃ state, (system request reply blank (some (flag, old))).Reachable state ∧
      (system request reply blank (some (flag, old))).Stuck (fun _ => True) state ∧
      state.sipc2 = .test 0 := by
  let labels : List Process :=
    List.replicate 7 .sipc1 ++ List.replicate 5 .sipc2 ++ [.sipc1]
  let stops (state : State Text) : Bool :=
    decide (state.sipc1 = .returned) && decide (state.sipc2 = .test 0) &&
      decide ((state.memory.segment 0).flag = 1)
  have run : ((system request reply blank (some (flag, old))).run
      (start (some (flag, old)) blank) labels).any stops = true := by
    -- the first test of `sipc1` evaluates for each flag but zero
    cases flag with
    | negSucc size => rfl
    | ofNat size =>
        cases size with
        | zero => exact absurd rfl set
        | succ size => rfl
  obtain ⟨state, reached, holds⟩ := System.exists_reachable _ _ rfl labels stops run
  simp only [stops, Bool.and_eq_true, decide_eq_true_eq] at holds
  obtain ⟨⟨returned, spins⟩, one⟩ := holds
  refine ⟨state, reached, ?_, spins⟩
  rintro (_ | _) _
  · simp only [system, State.sipc1Step, returned]
  · simp only [system, State.sipc2Step, spins, one, if_true]

/-- The programs exchange the request and the reply in every order of their steps if and only if no segment with another flag than zero is left from before. -/
theorem exchanges_iff (request reply blank : Text) (left : Option (Int × Text)) :
    (∀ state, (system request reply blank left).Reachable state →
      Exchanged request reply ((system request reply blank left).Stuck (fun _ => True) state)
        state) ↔ ∀ flag old, left = some (flag, old) → flag = 0 := by
  constructor
  · rintro exchanged flag old rfl
    by_contra set
    obtain ⟨state, reached, stuck, spins⟩ := exists_stuck request reply blank old set
    have ends := ((exchanged state reached).ends stuck).2.2.2
    cases spins.symm.trans ends
  · intro clear state reached
    refine Phase.exchanged (reached.invariant (Phase request reply) ?_ ?_)
    · rintro _ rfl
      cases left with
      | none => exact .absent _ rfl rfl
      | some pair =>
          obtain ⟨flag, old⟩ := pair
          obtain rfl := clear flag old rfl
          exact .request _ _ _ (some old) rfl rfl .shmget (.shmget _)
    · intro state process later _ phase taken
      exact phase_step phase taken

end Shm
