import LinuxSystemProgramming.Construction.Sipc3

namespace Sipc3
open Transition Monitor

variable {Text : Type}

/-- The points between the lock and the unlock of the mutex. -/
def Point.locked : Point → Bool
  | .lock | .blocked | .woken | .done => false
  | _ => true

/-- Only the owner of `Mutex` is between its lock and its unlock. -/
def Owned (state : State Text) : Prop := Exclusive state.mutex Point.locked state.point

/-- The statements of both threads, each with what it does to the state. -/
inductive Step (request reply : Text) (state : State Text) (thread : Thread) : State Text → Prop
  | lock (here : state.point thread = .lock) (free : state.mutex = none) :
      Step request reply state thread
        { state.move thread thread.locks with mutex := some thread }
  | request (here : state.point thread = .request) :
      Step request reply state thread { state.move thread .fill with pData := request }
  | fill (here : state.point thread = .fill) :
      Step request reply state thread { state.move thread .signal with nbuf := 1 }
  | block (here : state.point thread = .test) (waits : thread.mustWait state.nbuf = true) :
      Step request reply state thread { state.move thread .blocked with mutex := none }
  | pass (here : state.point thread = .test) (ready : thread.mustWait state.nbuf = false) :
      Step request reply state thread (state.move thread thread.continues)
  | relock (here : state.point thread = .woken) (free : state.mutex = none) :
      Step request reply state thread
        { state.move thread thread.continues with mutex := some thread }
  | receive (here : state.point thread = .receive) :
      Step request reply state thread
        { state.move thread .clear with received := some state.pData }
  | clear (here : state.point thread = .clear) :
      Step request reply state thread { state.move thread .reply with nbuf := 0 }
  | reply (here : state.point thread = .reply) :
      Step request reply state thread { state.move thread .signal with pData := reply }
  | wake (here : state.point thread = .signal) (sleeps : state.point thread.other = .blocked) :
      Step request reply state thread
        ((state.move thread.other .woken).move thread thread.signals)
  | signal (here : state.point thread = .signal) (awake : state.point thread.other ≠ .blocked) :
      Step request reply state thread (state.move thread thread.signals)
  | print (here : state.point thread = .print) :
      Step request reply state thread
        { state.move thread .unlock with printed := some state.pData }
  | unlock (here : state.point thread = .unlock) :
      Step request reply state thread { state.move thread .done with mutex := none }

/-- Each statement that a thread executes is one of the listed steps. -/
theorem step_of_advance {request reply : Text} {state later : State Text} {thread : Thread}
    (taken : state.advance request reply thread = some later) :
    Step request reply state thread later := by
  unfold State.advance at taken
  split at taken
  case h_1 here =>
      rw [Option.ite_none_right_eq_some] at taken
      cases taken.2
      exact .lock here taken.1
  case h_2 here => cases taken; exact .request here
  case h_3 here => cases taken; exact .fill here
  case h_4 here =>
      split at taken
      case isTrue waits => cases taken; exact .block here waits
      case isFalse ready => cases taken; exact .pass here (Bool.eq_false_iff.mpr ready)
  case h_5 here =>
      rw [Option.ite_none_right_eq_some] at taken
      cases taken.2
      exact .relock here taken.1
  case h_6 here => cases taken; exact .receive here
  case h_7 here => cases taken; exact .clear here
  case h_8 here => cases taken; exact .reply here
  case h_9 here =>
      rw [State.signal] at taken
      split at taken
      case isTrue sleeps => cases taken; exact .wake here sleeps
      case isFalse awake => cases taken; exact .signal here awake
  case h_10 here => cases taken; exact .print here
  case h_11 here => cases taken; exact .unlock here
  all_goals cases taken

@[simp] theorem locked_locks (thread : Thread) : thread.locks.locked = true := by
  cases thread <;> rfl

@[simp] theorem locked_continues (thread : Thread) : thread.continues.locked = true := by
  cases thread <;> rfl

@[simp] theorem locked_signals (thread : Thread) : thread.signals.locked = true := by
  cases thread <;> rfl

/-- Each statement keeps the owner of `Mutex` between its lock and its unlock. -/
theorem Step.owned {request reply : Text} {state later : State Text} {thread : Thread}
    (step : Step request reply state thread later) (owned : Owned state) : Owned later := by
  have keep (point : Point) (inside : point.locked = true)
      (before : (state.point thread).locked = true) : Owned (state.move thread point) :=
    Exclusive.keep owned thread point (by rw [inside, before])
  cases step with
  | lock _ free =>
      rw [Owned, free] at owned
      exact Exclusive.acquire owned thread _ (locked_locks thread)
  | request here => exact keep _ rfl (congrArg Point.locked here)
  | fill here => exact keep _ rfl (congrArg Point.locked here)
  | block here => exact Exclusive.release owned thread _ (congrArg Point.locked here) rfl
  | pass here => exact keep _ (locked_continues thread) (congrArg Point.locked here)
  | relock _ free =>
      rw [Owned, free] at owned
      exact Exclusive.acquire owned thread _ (locked_continues thread)
  | receive here => exact keep _ rfl (congrArg Point.locked here)
  | clear here => exact keep _ rfl (congrArg Point.locked here)
  | reply here => exact keep _ rfl (congrArg Point.locked here)
  | wake here sleeps =>
      have woken := Exclusive.keep owned thread.other .woken (by rw [sleeps]; rfl)
      refine Exclusive.keep woken thread thread.signals ?_
      have different : thread ≠ thread.other := by cases thread <;> decide
      rw [Function.update_of_ne different, locked_signals]
      exact (congrArg Point.locked here).symm
  | signal here => exact keep _ (locked_signals thread) (congrArg Point.locked here)
  | print here => exact keep _ rfl (congrArg Point.locked here)
  | unlock here => exact Exclusive.release owned thread _ (congrArg Point.locked here) rfl

/-- The stages of the exchange, while every thread returns from its wait in time. -/
inductive Stage (request reply : Text) (state : State Text) : Prop
  | idle (one : state.point .sipc1 ∈ [Point.lock, .test, .blocked, .woken])
      (two : state.point .sipc2 ∈ [Point.lock, .request, .fill]) (empty : state.nbuf = 0)
      (text : state.point .sipc2 = .fill → state.pData = request)
  | asked (one : state.point .sipc1 ∈ [Point.lock, .test, .blocked, .woken, .receive, .clear])
      (two : state.point .sipc2 ∈ [Point.signal, .test, .blocked, .woken]) (full : state.nbuf = 1)
      (text : state.pData = request)
      (awake : state.point .sipc1 = .blocked → state.point .sipc2 = .signal)
  | answering (one : state.point .sipc1 = .reply)
      (two : state.point .sipc2 ∈ [Point.blocked, .woken]) (empty : state.nbuf = 0)
  | answered (one : state.point .sipc1 ∈ [Point.signal, .unlock, .done])
      (two : state.point .sipc2 ∈ [Point.blocked, .woken, .print, .unlock, .done])
      (empty : state.nbuf = 0) (text : state.pData = reply)
      (awake : state.point .sipc2 = .blocked → state.point .sipc1 = .signal)

/-- One thread owns `Mutex`, the exchange is in a stage, and the right texts were printed. -/
structure Invariant (request reply : Text) (state : State Text) : Prop where
  owned : Owned state
  stage : Stage request reply state
  received : ∀ text, state.received = some text → text = request
  printed : ∀ text, state.printed = some text → text = reply

/-- The threads are not both between the lock and the unlock. -/
theorem Owned.apart {state : State Text} (owned : Owned state)
    (one : (state.point .sipc1).locked = true) : (state.point .sipc2).locked = false := by
  by_contra both
  rw [Bool.not_eq_false] at both
  cases Exclusive.unique owned one both

/-- A point of one list is in no list apart from it. -/
theorem not_mem_of_mem {point : Point} {mine others : List Point} (member : point ∈ mine)
    (apart : ∀ each ∈ mine, each ∉ others) : point ∉ others := apart point member

/-- The two threads execute their own statements. -/
theorem Stage.own {request reply : Text} {state : State Text} (stage : Stage request reply state) :
    state.point .sipc1 ∉ [Point.request, .fill, .print] ∧
      state.point .sipc2 ∉ [Point.receive, .clear, .reply] := by
  cases stage with
  | idle one two => exact ⟨not_mem_of_mem one (by decide), not_mem_of_mem two (by decide)⟩
  | asked one two => exact ⟨not_mem_of_mem one (by decide), not_mem_of_mem two (by decide)⟩
  | answering one two =>
      rw [one]
      exact ⟨by decide, not_mem_of_mem two (by decide)⟩
  | answered one two => exact ⟨not_mem_of_mem one (by decide), not_mem_of_mem two (by decide)⟩

section Inversion
variable {request reply : Text} {state : State Text}

/-- `Sipc1` reads `pData` only after it was asked. -/
theorem Stage.asked_of_sipc1 (stage : Stage request reply state)
    (here : state.point .sipc1 ∈ [Point.receive, .clear]) :
    state.point .sipc2 ∈ [Point.signal, .test, .blocked, .woken] ∧ state.nbuf = 1 ∧
      state.pData = request := by
  cases stage with
  | idle one => exact absurd here (not_mem_of_mem one (by decide))
  | asked _ two full text => exact ⟨two, full, text⟩
  | answering one => rw [one] at here; simp at here
  | answered one => exact absurd here (not_mem_of_mem one (by decide))

/-- `Sipc1` signals and unlocks only after its answer. -/
theorem Stage.answered_of_sipc1 (stage : Stage request reply state)
    (here : state.point .sipc1 ∈ [Point.signal, .unlock]) :
    state.point .sipc2 ∈ [Point.blocked, .woken, .print, .unlock, .done] ∧ state.nbuf = 0 ∧
      state.pData = reply ∧ (state.point .sipc2 = .blocked → state.point .sipc1 = .signal) := by
  cases stage with
  | idle one => exact absurd here (not_mem_of_mem one (by decide))
  | asked one => exact absurd here (not_mem_of_mem one (by decide))
  | answering one => rw [one] at here; simp at here
  | answered _ two empty text awake => exact ⟨two, empty, text, awake⟩

/-- Before `Sipc2` has asked, the buffer is empty. -/
theorem Stage.idle_of_sipc2 (stage : Stage request reply state)
    (here : state.point .sipc2 ∈ [Point.lock, .request, .fill]) :
    state.point .sipc1 ∈ [Point.lock, .test, .blocked, .woken] ∧ state.nbuf = 0 ∧
      (state.point .sipc2 = .fill → state.pData = request) := by
  cases stage with
  | idle one _ empty text => exact ⟨one, empty, text⟩
  | asked _ two => exact absurd here (not_mem_of_mem two (by decide))
  | answering _ two => exact absurd here (not_mem_of_mem two (by decide))
  | answered _ two => exact absurd here (not_mem_of_mem two (by decide))

/-- `Sipc2` signals and tests `Nbuf` while `Sipc1` has not taken its request. -/
theorem Stage.asked_of_sipc2 (stage : Stage request reply state)
    (here : state.point .sipc2 ∈ [Point.signal, .test]) :
    state.point .sipc1 ∈ [Point.lock, .test, .blocked, .woken, .receive, .clear] ∧
      state.nbuf = 1 ∧ state.pData = request ∧
      (state.point .sipc1 = .blocked → state.point .sipc2 = .signal) := by
  cases stage with
  | idle _ two => exact absurd here (not_mem_of_mem two (by decide))
  | asked one _ full text awake => exact ⟨one, full, text, awake⟩
  | answering _ two => exact absurd here (not_mem_of_mem two (by decide))
  | answered _ two => exact absurd here (not_mem_of_mem two (by decide))

/-- `Sipc2` prints and unlocks only after the answer. -/
theorem Stage.answered_of_sipc2 (stage : Stage request reply state)
    (here : state.point .sipc2 ∈ [Point.print, .unlock]) :
    state.point .sipc1 ∈ [Point.signal, .unlock, .done] ∧ state.nbuf = 0 ∧
      state.pData = reply := by
  cases stage with
  | idle _ two => exact absurd here (not_mem_of_mem two (by decide))
  | asked _ two => exact absurd here (not_mem_of_mem two (by decide))
  | answering _ two => exact absurd here (not_mem_of_mem two (by decide))
  | answered one _ empty text => exact ⟨one, empty, text⟩

end Inversion

/-- A step of `Sipc1` that is permitted stays in the stages. -/
theorem Step.sipc1_stage {request reply : Text} {state later : State Text}
    (step : Step request reply state .sipc1 later) (owned : Owned state)
    (stage : Stage request reply state)
    (permitted : returnsReady state (.advance .sipc1) = true) : Stage request reply later := by
  have own := stage.own.1
  cases step with
  | lock here =>
      cases stage with
      | idle _ two empty text => exact .idle (by simp [State.move, Thread.locks]) two empty text
      | asked _ two full text => exact .asked (by simp [State.move, Thread.locks]) two full text nofun
      | answering one => simp [here] at one
      | answered one => simp [here] at one
  | block here waits =>
      cases stage with
      | idle _ two empty text => exact .idle (by simp [State.move]) two empty text
      | asked _ _ full => simp [Thread.mustWait, full] at waits
      | answering one => simp [here] at one
      | answered one => simp [here] at one
  | pass here ready =>
      cases stage with
      | idle _ _ empty => simp [Thread.mustWait, empty] at ready
      | asked _ two full text =>
          exact .asked (by simp [State.move, Thread.continues]) two full text nofun
      | answering one => simp [here] at one
      | answered one => simp [here] at one
  | relock here =>
      cases stage with
      | idle _ _ empty => simp [returnsReady, here, Thread.mustWait, empty] at permitted
      | asked _ two full text =>
          exact .asked (by simp [State.move, Thread.continues]) two full text nofun
      | answering one => simp [here] at one
      | answered one => simp [here] at one
  | receive here =>
      obtain ⟨two, full, text⟩ := stage.asked_of_sipc1 (by simp [here])
      exact .asked (by simp [State.move]) two full text nofun
  | clear here =>
      obtain ⟨two, _, _⟩ := stage.asked_of_sipc1 (by simp [here])
      -- the other thread does not own the mutex, so it waits in `pthread_cond_wait`
      have outside := owned.apart (congrArg Point.locked here)
      have waits : ∀ point ∈ [Point.signal, .test, .blocked, .woken],
          point.locked = false → point ∈ [Point.blocked, .woken] := by decide
      exact .answering rfl (waits _ two outside) rfl
  | reply here =>
      cases stage with
      | idle one => simp [here] at one
      | asked one => simp [here] at one
      | answering _ two empty =>
          refine .answered (by simp [State.move]) ?_ empty rfl fun _ => rfl
          exact List.mem_append_left [Point.print, .unlock, .done] two
      | answered one => simp [here] at one
  | wake here sleeps =>
      obtain ⟨_, empty, text, _⟩ := stage.answered_of_sipc1 (by simp [here])
      exact .answered (by simp [State.move, Thread.signals]) (by simp [State.move, Thread.other])
        empty text nofun
  | signal here awake =>
      obtain ⟨two, empty, text, _⟩ := stage.answered_of_sipc1 (by simp [here])
      exact .answered (by simp [State.move, Thread.signals]) two empty text
        fun sleeps => absurd sleeps awake
  | unlock here =>
      obtain ⟨two, empty, text, awake⟩ := stage.answered_of_sipc1 (by simp [here])
      refine .answered (by simp [State.move]) two empty text fun sleeps => ?_
      have signals := awake sleeps
      rw [here] at signals
      cases signals
  | request here => simp [here] at own
  | fill here => simp [here] at own
  | print here => simp [here] at own

/-- A step of `Sipc2` that is permitted stays in the stages. -/
theorem Step.sipc2_stage {request reply : Text} {state later : State Text}
    (step : Step request reply state .sipc2 later) (owned : Owned state)
    (stage : Stage request reply state)
    (permitted : returnsReady state (.advance .sipc2) = true) : Stage request reply later := by
  have own := stage.own.2
  cases step with
  | lock here =>
      obtain ⟨one, empty, _⟩ := stage.idle_of_sipc2 (by simp [here])
      exact .idle one (by simp [State.move, Thread.locks]) empty nofun
  | request here =>
      obtain ⟨one, empty, _⟩ := stage.idle_of_sipc2 (by simp [here])
      exact .idle one (by simp [State.move]) empty fun _ => rfl
  | fill here =>
      obtain ⟨one, _, text⟩ := stage.idle_of_sipc2 (by simp [here])
      exact .asked (List.mem_append_left [Point.receive, .clear] one) (by simp [State.move]) rfl
        (text here) fun _ => rfl
  | wake here sleeps =>
      obtain ⟨_, full, text, _⟩ := stage.asked_of_sipc2 (by simp [here])
      exact .asked (by simp [State.move, Thread.other]) (by simp [State.move, Thread.signals]) full
        text nofun
  | signal here awake =>
      obtain ⟨one, full, text, _⟩ := stage.asked_of_sipc2 (by simp [here])
      exact .asked one (by simp [State.move, Thread.signals]) full text
        fun sleeps => absurd sleeps awake
  | block here waits =>
      obtain ⟨one, full, text, awake⟩ := stage.asked_of_sipc2 (by simp [here])
      refine .asked one (by simp [State.move]) full text fun sleeps => ?_
      have signals := awake sleeps
      rw [here] at signals
      cases signals
  | pass here ready =>
      obtain ⟨_, full, _, _⟩ := stage.asked_of_sipc2 (by simp [here])
      simp [Thread.mustWait, full] at ready
  | relock here free =>
      cases stage with
      | idle _ two => simp [here] at two
      | asked _ _ full => simp [returnsReady, here, Thread.mustWait, full] at permitted
      | answering one =>
          have inside := (owned .sipc1).mp (congrArg Point.locked one)
          rw [free] at inside
          cases inside
      | answered one _ empty text =>
          exact .answered one (by simp [State.move, Thread.continues]) empty text nofun
  | print here =>
      obtain ⟨one, empty, text⟩ := stage.answered_of_sipc2 (by simp [here])
      exact .answered one (by simp [State.move]) empty text nofun
  | unlock here =>
      obtain ⟨one, empty, text⟩ := stage.answered_of_sipc2 (by simp [here])
      exact .answered one (by simp [State.move]) empty text nofun
  | receive here => simp [here] at own
  | clear here => simp [here] at own
  | reply here => simp [here] at own

/-- A wake-up without a signal stays in the stage. -/
theorem spurious_stage {request reply : Text} {state : State Text} {thread : Thread}
    (stage : Stage request reply state) (sleeps : state.point thread = .blocked) :
    Stage request reply (state.move thread .woken) := by
  cases thread with
  | sipc1 =>
      cases stage with
      | idle _ two empty text => exact .idle (by simp [State.move]) two empty text
      | asked _ two full text => exact .asked (by simp [State.move]) two full text nofun
      | answering one => simp [sleeps] at one
      | answered one => simp [sleeps] at one
  | sipc2 =>
      cases stage with
      | idle _ two => simp [sleeps] at two
      | asked one _ full text awake =>
          refine .asked one (by simp [State.move]) full text fun asleep => ?_
          have signals := awake asleep
          rw [sleeps] at signals
          cases signals
      | answering one _ empty => exact .answering one (by simp [State.move]) empty
      | answered one _ empty text => exact .answered one (by simp [State.move]) empty text nofun

/-- A permitted step of a thread keeps the invariant. -/
theorem Step.invariant {request reply : Text} {state later : State Text} {thread : Thread}
    (step : Step request reply state thread later) (holds : Invariant request reply state)
    (permitted : returnsReady state (.advance thread) = true) :
    Invariant request reply later := by
  have stage : Stage request reply later := by
    cases thread with
    | sipc1 => exact step.sipc1_stage holds.owned holds.stage permitted
    | sipc2 => exact step.sipc2_stage holds.owned holds.stage permitted
  have owned := step.owned holds.owned
  have own := holds.stage.own
  cases step with
  | receive here =>
      refine ⟨owned, stage, ?_, holds.printed⟩
      intro text stored
      cases stored
      cases thread with
      | sipc1 => exact (holds.stage.asked_of_sipc1 (by simp [here])).2.2
      | sipc2 => simp [here] at own
  | print here =>
      refine ⟨owned, stage, holds.received, ?_⟩
      intro text stored
      cases stored
      cases thread with
      | sipc1 => simp [here] at own
      | sipc2 => exact (holds.stage.answered_of_sipc2 (by simp [here])).2.2
  | _ => exact ⟨owned, stage, holds.received, holds.printed⟩

section Wake
variable {request reply old : Text} {state : State Text} {thread : Thread}

/-- A step of the other thread brings a wake-up nearer. -/
theorem Wakeable.step {later : State Text}
    (taken : state.advance request reply thread.other = some later)
    (wakes : Wakeable request reply old later thread) :
    Wakeable request reply old state thread := by
  obtain ⟨steps, final, run, woken⟩ := wakes
  refine ⟨steps + 1, final, ?_, woken⟩
  rw [List.replicate_succ, System.run_cons]
  exact ⟨later, taken, run⟩

/-- A thread has another one, and each is the other one's other. -/
theorem Thread.other_ne (thread : Thread) : thread ≠ thread.other := by
  cases thread <;> decide

/-- A signal wakes the blocked thread. -/
theorem wakeable_signal (here : state.point thread.other = .signal)
    (sleeps : state.point thread = .blocked) : Wakeable request reply old state thread := by
  have back : thread.other.other = thread := by cases thread <;> rfl
  refine ⟨1, state.signal thread.other, ?_, ?_⟩
  · rw [List.replicate_one, System.run_single]
    change state.advance request reply thread.other = _
    rw [State.advance, here]
  · rw [State.signal, back, if_pos sleeps]
    change Function.update (Function.update state.point thread .woken) _ _ thread = _
    rw [Function.update_of_ne thread.other_ne, Function.update_self]

/-- The other thread moves to a point from which it wakes the blocked one. -/
theorem wakeable_move {later : State Text} (point : Point)
    (taken : state.advance request reply thread.other = some later)
    (moved : later.point = Function.update state.point thread.other point)
    (sleeps : state.point thread = .blocked)
    (wakes : later.point thread.other = point → later.point thread = .blocked →
      Wakeable request reply old later thread) :
    Wakeable request reply old state thread := by
  refine .step taken (wakes ?_ ?_)
  · rw [moved, Function.update_self]
  · rw [moved, Function.update_of_ne thread.other_ne, sleeps]

section Sipc1
variable (sleeps : state.point .sipc2 = .blocked)
include sleeps

/-- From each of its statements on, `Sipc1` wakes `Sipc2`. -/
theorem wakeable_reply (here : state.point .sipc1 = .reply) :
    Wakeable request reply old state .sipc2 :=
  wakeable_move .signal (by simp only [State.advance, Thread.other, here]; rfl) rfl sleeps
    wakeable_signal

theorem wakeable_clear (here : state.point .sipc1 = .clear) :
    Wakeable request reply old state .sipc2 :=
  wakeable_move .reply (by simp only [State.advance, Thread.other, here]; rfl) rfl sleeps
    fun next asleep => wakeable_reply asleep next

theorem wakeable_receive (here : state.point .sipc1 = .receive) :
    Wakeable request reply old state .sipc2 :=
  wakeable_move .clear (by simp only [State.advance, Thread.other, here]; rfl) rfl sleeps
    fun next asleep => wakeable_clear asleep next

theorem wakeable_woken (here : state.point .sipc1 = .woken) (free : state.mutex = none) :
    Wakeable request reply old state .sipc2 :=
  wakeable_move .receive (by simp only [State.advance, Thread.other, here, free, if_true]; rfl) rfl
    sleeps fun next asleep => wakeable_receive asleep next

theorem wakeable_test (here : state.point .sipc1 = .test) (full : state.nbuf = 1) :
    Wakeable request reply old state .sipc2 := by
  have ready : Thread.mustWait state.nbuf .sipc1 = false := by simp [Thread.mustWait, full]
  exact wakeable_move .receive
    (by simp only [State.advance, Thread.other, here, ready, Bool.false_eq_true, if_false]; rfl)
    rfl sleeps fun next asleep => wakeable_receive asleep next

theorem wakeable_lock (here : state.point .sipc1 = .lock) (free : state.mutex = none)
    (full : state.nbuf = 1) : Wakeable request reply old state .sipc2 := by
  have taken : state.advance request reply .sipc1 =
      some { state.move .sipc1 .test with mutex := some .sipc1 } := by
    simp only [State.advance, here, free, if_true]
    rfl
  exact wakeable_move .test taken rfl sleeps fun next asleep => wakeable_test asleep next full

end Sipc1

section Sipc2
variable (sleeps : state.point .sipc1 = .blocked)
include sleeps

/-- From its request on, `Sipc2` wakes `Sipc1`. -/
theorem wakeable_fill (here : state.point .sipc2 = .fill) :
    Wakeable request reply old state .sipc1 :=
  wakeable_move .signal (by simp only [State.advance, Thread.other, here]; rfl) rfl sleeps
    wakeable_signal

theorem wakeable_request (here : state.point .sipc2 = .request) :
    Wakeable request reply old state .sipc1 :=
  wakeable_move .fill (by simp only [State.advance, Thread.other, here]; rfl) rfl sleeps
    fun next asleep => wakeable_fill asleep next

theorem wakeable_enter (here : state.point .sipc2 = .lock) (free : state.mutex = none) :
    Wakeable request reply old state .sipc1 :=
  wakeable_move .request (by simp only [State.advance, Thread.other, here, free, if_true]; rfl) rfl
    sleeps fun next asleep => wakeable_request asleep next

end Sipc2

/-- `Mutex` is free if neither thread is between its lock and its unlock. -/
theorem Owned.free (owned : Owned state) (one : (state.point .sipc1).locked = false)
    (two : (state.point .sipc2).locked = false) : state.mutex = none := by
  cases owner : state.mutex with
  | none => rfl
  | some thread =>
      have inside := (owned thread).mpr owner
      cases thread with
      | sipc1 => rw [one] at inside; cases inside
      | sipc2 => rw [two] at inside; cases inside

/-- In each stage the other thread will wake a blocked one. -/
theorem Invariant.wakes (holds : Invariant request reply state)
    (sleeps : state.point thread = .blocked) : Wakeable request reply old state thread := by
  have outside := congrArg Point.locked sleeps
  cases thread with
  | sipc1 =>
      cases holds.stage with
      | idle one two =>
          simp only [List.mem_cons, List.not_mem_nil, or_false] at two
          rcases two with lock | request | fill
          · exact wakeable_enter sleeps lock
              (holds.owned.free outside (congrArg Point.locked lock))
          · exact wakeable_request sleeps request
          · exact wakeable_fill sleeps fill
      | asked _ _ _ _ awake => exact wakeable_signal (awake sleeps) sleeps
      | answering one => rw [sleeps] at one; cases one
      | answered one => simp [sleeps] at one
  | sipc2 =>
      cases holds.stage with
      | idle _ two => simp [sleeps] at two
      | asked one _ full _ awake =>
          simp only [List.mem_cons, List.not_mem_nil, or_false] at one
          rcases one with lock | test | blocked | woken | receive | clear
          · exact wakeable_lock sleeps lock
              (holds.owned.free (congrArg Point.locked lock) outside) full
          · exact wakeable_test sleeps test full
          · have signals := awake blocked
            rw [sleeps] at signals
            cases signals
          · exact wakeable_woken sleeps woken
              (holds.owned.free (congrArg Point.locked woken) outside)
          · exact wakeable_receive sleeps receive
          · exact wakeable_clear sleeps clear
      | answering one => exact wakeable_reply sleeps one
      | answered _ _ _ _ awake => exact wakeable_signal (awake sleeps) sleeps

end Wake

/-- In each stage the request and the reply are served. -/
theorem Invariant.served {request reply old : Text} {state : State Text}
    (holds : Invariant request reply state) : state.Served request reply old where
  received := holds.received
  printed := holds.printed
  wakes _ sleeps := holds.wakes sleeps
  stored processes := by
    have before : ∀ point ∈ [Point.lock, .test, .blocked, .woken], point.processes = false := by
      decide
    have after : ∀ point ∈ [Point.signal, .test, .blocked, .woken, .print, .unlock, .done],
        point.sent = true := by decide
    cases holds.stage with
    | idle one =>
        rw [before _ one] at processes
        cases processes
    | asked _ two => exact after _ (List.mem_append_left [Point.print, .unlock, .done] two)
    | answering _ two => exact after _ (List.mem_cons_of_mem _ (List.mem_cons_of_mem _
        (List.mem_append_left [Point.print, .unlock, .done] two)))
    | answered _ two =>
        exact after _ (List.mem_cons_of_mem _ (List.mem_cons_of_mem _ two))
  replied prints := by
    have before : ∀ point ∈ [Point.lock, .request, .fill, .signal, .test, .blocked, .woken],
        point.prints = false := by decide
    have after : ∀ point ∈ [Point.signal, .unlock, .done], point.replied = true := by decide
    cases holds.stage with
    | idle _ two =>
        rw [before _ (List.mem_append_left [Point.signal, .test, .blocked, .woken] two)] at prints
        cases prints
    | asked _ two =>
        rw [before _ (List.mem_append_right [Point.lock, .request, .fill] two)] at prints
        cases prints
    | answering _ two =>
        rw [before _ (List.mem_append_right [Point.lock, .request, .fill, .signal, .test] two)]
          at prints
        cases prints
    | answered one => exact after _ one

/-- A thread that returns from its wait too early breaks the exchange at once. -/
theorem Step.breaks {request reply old : Text} {state later : State Text} {thread : Thread}
    (step : Step request reply state thread later) (holds : Invariant request reply state)
    (early : returnsReady state (.advance thread) = false) :
    ¬ later.Served request reply old := by
  intro served
  simp only [returnsReady, ne_eq, decide_eq_false_iff_not, not_or, not_not,
    Bool.not_eq_false] at early
  obtain ⟨here, waits⟩ := early
  cases step
  case relock =>
      cases thread with
      | sipc1 =>
          have sent := served.stored rfl
          have before : ∀ point ∈ [Point.lock, .request, .fill], point.sent = false := by decide
          simp only [Thread.mustWait, decide_eq_true_eq] at waits
          cases holds.stage with
          | idle _ two =>
              change (state.point .sipc2).sent = true at sent
              rw [before _ two] at sent
              cases sent
          | asked _ _ full => omega
          | answering one => simp [here] at one
          | answered one => simp [here] at one
      | sipc2 =>
          have replied := served.replied rfl
          have before : ∀ point ∈ [Point.lock, .test, .blocked, .woken, .receive, .clear],
              point.replied = false := by decide
          simp only [Thread.mustWait, decide_eq_true_eq] at waits
          cases holds.stage with
          | asked one =>
              change (state.point .sipc1).replied = true at replied
              rw [before _ one] at replied
              cases replied
          | idle _ _ empty => omega
          | answering _ _ empty => omega
          | answered _ _ empty => omega
  -- only a woken thread can return too early
  all_goals simp_all

/-- The invariant holds while every thread returns from its wait in time. -/
theorem reachable_invariant {request reply old : Text} {state : State Text}
    (reached : ((system request reply old).restrict returnsReady).Reachable state) :
    Invariant request reply state := by
  refine reached.invariant (Invariant request reply) ?_ ?_
  · rintro state rfl
    refine ⟨?_, .idle (by simp [start]) (by simp [start]) rfl nofun, nofun, nofun⟩
    intro thread
    simp [start, Point.locked]
  · intro state label later _ holds taken
    obtain ⟨permitted, moved⟩ := (System.restrict_next _ _ _ _ _).mp taken
    cases label with
    | advance thread => exact (step_of_advance moved).invariant holds permitted
    | spurious thread =>
        simp only [system, State.next, Option.ite_none_right_eq_some] at moved
        obtain ⟨sleeps, same⟩ := moved
        cases same
        exact ⟨Exclusive.keep holds.owned thread .woken (congrArg Point.locked sleeps).symm,
          spurious_stage holds.stage sleeps, holds.received, holds.printed⟩

/-- The exchange is served while every thread returns from its wait in time, and the first early return breaks it. -/
theorem served_iff_returnsReady (request reply old : Text) (state : State Text)
    (reached : ((system request reply old).restrict returnsReady).Reachable state) :
    state.Served request reply old ∧
      ∀ label later, (system request reply old).next state label = some later →
        (later.Served request reply old ↔ returnsReady state label = true) := by
  have holds := reachable_invariant reached
  refine ⟨holds.served, ?_⟩
  intro label later taken
  constructor
  · intro served
    by_contra early
    rw [Bool.not_eq_true] at early
    cases label with
    | advance thread => exact (step_of_advance taken).breaks holds early served
    | spurious thread => cases early
  · intro permitted
    refine (reachable_invariant (reached.step label ?_)).served
    exact (System.restrict_next _ _ _ _ _).mpr ⟨permitted, taken⟩

/-- After all steps of both threads the right texts were printed. -/
theorem served_iff_returnsReady_done :
    ∃ state, ((system 1 2 0).restrict returnsReady).Reachable state ∧
      state.received = some 1 ∧ state.printed = some 2 ∧ state.Served 1 2 0 := by
  obtain ⟨state, reached, facts⟩ := ((system 1 2 0).restrict returnsReady).exists_reachable
    (start 0) rfl
    [.advance .sipc1, .advance .sipc1, .advance .sipc2, .advance .sipc2, .advance .sipc2,
      .advance .sipc2, .advance .sipc2, .advance .sipc1, .advance .sipc1, .advance .sipc1,
      .advance .sipc1, .advance .sipc1, .advance .sipc1, .advance .sipc2, .advance .sipc2]
    (fun state => state.received = some 1 ∧ state.printed = some 2) (by decide)
  obtain ⟨received, printed⟩ := of_decide_eq_true facts
  exact ⟨state, reached, received, printed, (served_iff_returnsReady 1 2 0 state reached).1⟩

/-- `Sipc1` wakes up by itself, processes the empty `pData`, and ends, and `Sipc2` waits for ever. -/
theorem spurious_request :
    ∃ state, (system 1 2 0).Reachable state ∧ state.received = some 0 ∧
      state.point .sipc1 = .done ∧ state.point .sipc2 = .blocked ∧ ¬ state.Served 1 2 0 := by
  obtain ⟨state, reached, facts⟩ := (system 1 2 0).exists_reachable (start 0) rfl
    [.advance .sipc1, .advance .sipc1, .spurious .sipc1, .advance .sipc1, .advance .sipc1,
      .advance .sipc1, .advance .sipc1, .advance .sipc1, .advance .sipc1, .advance .sipc2,
      .advance .sipc2, .advance .sipc2, .advance .sipc2, .advance .sipc2]
    (fun state => state.received = some 0 ∧ state.point .sipc1 = .done ∧
      state.point .sipc2 = .blocked) (by decide)
  obtain ⟨received, ended, sleeps⟩ := of_decide_eq_true facts
  refine ⟨state, reached, received, ended, sleeps, ?_⟩
  intro served
  cases served.received 0 received

end Sipc3
