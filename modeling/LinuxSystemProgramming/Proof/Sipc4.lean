/-
This file proves when the threads of `sipc4.c` end and what they print.
-/

import LinuxSystemProgramming.Library.Serial
import LinuxSystemProgramming.Construction.Sipc4
import Mathlib.Data.List.Infix

namespace Sipc4
open Transition

variable {Text : Type} {request reply blank : Text} {state later : State Text}
  {exchange after : Exchange Text}

/-- The statements of a thread when it has this many turns left. -/
def Thread.left (thread : Thread) (turns : Nat) : List Statement :=
  thread.body.drop (thread.body.length - turns)

/-- With this statement a thread lets the other one go on. -/
def Thread.signal : Thread → Statement
  | .sipc1 => .post .empty
  | .sipc2 => .post .full

/-- `Sipc2` sends its request, `Sipc1` replies, and `Sipc2` takes the reply. -/
def turns : List Thread :=
  List.replicate 6 .sipc2 ++ List.replicate 7 .sipc1 ++ List.replicate 2 .sipc2

/-- The turns that remain say where the threads are and what they have printed. -/
structure Turn (request reply : Text) (exchange : Exchange Text) (remaining : List Thread) :
    Prop where
  rest : ∀ thread, exchange.rest thread = thread.left (remaining.count thread)
  received : exchange.printed .sipc1 =
    if 4 < remaining.count .sipc1 then none else some (some request)
  answered : exchange.printed .sipc2 =
    if 0 < remaining.count .sipc2 then none else some (some reply)

/-- A thread has a turn while the other one is blocked or has no statement left. -/
theorem serial_turn {thread : Thread} {remaining : List Thread}
    (first : exchange.rest .sipc1 = Thread.sipc1.left ((thread :: remaining).count .sipc1))
    (second : exchange.rest .sipc2 = Thread.sipc2.left ((thread :: remaining).count .sipc2))
    (received : exchange.printed .sipc1 =
      if 4 < (thread :: remaining).count .sipc1 then none else some (some request))
    (answered : exchange.printed .sipc2 =
      if 0 < (thread :: remaining).count .sipc2 then none else some (some reply))
    (blocked : exchange.step request reply thread.other = none)
    (taken : exchange.step request reply thread = some after)
    (onward : (threads request reply blank).Serial (Turn request reply) after remaining) :
    (threads request reply blank).Serial (Turn request reply) exchange (thread :: remaining) := by
  refine .turn ⟨?_, received, answered⟩ ?_ taken onward
  · intro other
    cases other with
    | sipc1 => exact first
    | sipc2 => exact second
  · intro other different
    have same : other = thread.other := by
      cases other <;> cases thread <;> first | rfl | exact absurd rfl different
    exact same ▸ blocked

/-- The semaphores leave one order of the statements. -/
theorem serial (request reply blank : Text) :
    (threads request reply blank).Serial (Turn request reply) (.start blank) turns := by
  -- each turn evaluates both threads, and the other one waits at zero or has ended
  iterate 15 refine serial_turn rfl rfl rfl rfl rfl rfl ?_
  refine .done ⟨?_, rfl, rfl⟩ ?_
  · intro thread
    cases thread <;> rfl
  · intro thread
    cases thread <;> rfl

/-- A thread that has the next turn has its signal before it if and only if the other one has statements left. -/
theorem signal_left : ∀ remaining ∈ turns.tails, ∀ thread ∈ remaining.head?,
    (thread.signal ∈ thread.left (remaining.count thread) ↔
      thread.other.left (remaining.count thread.other) ≠ []) := by
  decide

/-- A statement takes itself from what remains of its thread. -/
theorem rest_step {thread : Thread}
    (taken : exchange.step request reply thread = some after) :
    ∃ statement rest, exchange.rest thread = statement :: rest ∧
      after.rest = Function.update exchange.rest thread rest := by
  rw [Exchange.step] at taken
  cases here : exchange.rest thread with
  | nil =>
      rw [here] at taken
      cases taken
  | cons statement rest =>
      rw [here] at taken
      obtain ⟨executed, effect, rfl⟩ := Option.map_eq_some_iff.mp taken
      refine ⟨statement, rest, rfl, ?_⟩
      have same : executed.rest = exchange.rest := by
        cases statement with
        | wait sem =>
            rw [Exchange.execute, Option.ite_none_left_eq_some] at effect
            cases effect.2
            rfl
        | post | print | write | written =>
            cases effect
            rfl
      rw [← same]

/-- `main` has joined a thread before these points. -/
def Main.joined : Main → Thread → Bool
  | .join .sipc2, thread => thread = .sipc1
  | .destroy _, _ | .returned, _ => true
  | .create _, _ | .join .sipc1, _ => false

/-- The steps of `main` that remain. -/
def Main.left : Main → Nat
  | .create .sipc1 => 7
  | .create .sipc2 => 6
  | .join .sipc1 => 5
  | .join .sipc2 => 4
  | .destroy .mutex => 3
  | .destroy .full => 2
  | .destroy .empty => 1
  | .returned => 0

/-- The steps with their guards and effects. A step of `main` goes on to a later point, and it joins only a thread that has ended. -/
inductive Step (request reply : Text) (state : State Text) : Label → State Text → Prop where
  | advance (mover : Thread) (after : Exchange Text) (alive : state.exited mover = false)
      (stepped : state.exchange.step request reply mover = some after) :
      Step request reply state (.advance mover) { state with exchange := after }
  | fail (mover : Thread) (alive : state.exited mover = false)
      (calls : state.exchange.rest mover ≠ []) :
      Step request reply state (.fail mover)
        { state with exited := Function.update state.exited mover true }
  | main (point : Main) (lower : point.left < state.main.left)
      (joins : ∀ thread, point.joined thread = true →
        state.main.joined thread = true ∨ state.ended thread) :
      Step request reply state .main { state with main := point }

/-- A step of `main` is one of the listed steps. -/
theorem step_of_mainStep (taken : state.mainStep = some later) :
    Step request reply state .main later := by
  unfold State.mainStep at taken
  split at taken
  case h_3 here =>
    rw [Option.ite_none_right_eq_some] at taken
    obtain ⟨ended, same⟩ := taken
    cases same
    refine .main _ (by rw [here]; decide) fun thread joined => .inr ?_
    rw [of_decide_eq_true joined]
    exact ended
  case h_4 here =>
    rw [Option.ite_none_right_eq_some] at taken
    obtain ⟨ended, same⟩ := taken
    cases same
    refine .main _ (by rw [here]; decide) fun thread _ => ?_
    rw [here]
    cases thread with
    | sipc1 => exact .inl rfl
    | sipc2 => exact .inr ended
  case h_8 => cases taken
  all_goals
    rename_i here
    cases taken
    refine .main _ (by rw [here]; decide) fun thread joined => .inl ?_
    rw [here]
    exact joined

/-- A thread that runs has not exited. -/
theorem alive_of_running {thread : Thread} (runs : state.running thread = true) :
    state.exited thread = false := by
  rw [State.running, Bool.and_eq_true, Bool.not_eq_true'] at runs
  exact runs.2

/-- Each step is one of the listed steps. -/
theorem step_of_next {label : Label} (taken : state.next request reply label = some later) :
    Step request reply state label later := by
  cases label with
  | advance mover =>
      rw [State.next, Option.ite_none_right_eq_some] at taken
      obtain ⟨runs, moved⟩ := taken
      obtain ⟨after, stepped, rfl⟩ := Option.map_eq_some_iff.mp moved
      exact .advance mover after (alive_of_running runs) stepped
  | fail mover =>
      rw [State.next, Option.ite_none_right_eq_some] at taken
      obtain ⟨⟨runs, fails⟩, moved⟩ := taken
      cases moved
      refine .fail mover (alive_of_running runs) ?_
      intro none
      rw [none] at fails
      cases fails
  | main => exact step_of_mainStep taken

/-- The statements that a thread can still execute. -/
def State.left (state : State Text) (thread : Thread) : Nat :=
  if state.exited thread then 0 else (state.exchange.rest thread).length

/-- The steps that `main` and both threads can still take. -/
def State.work (state : State Text) : Nat :=
  state.main.left + state.left .sipc1 + state.left .sipc2

/-- A step that lowers what one thread has left and keeps the rest lowers the work. -/
theorem work_lt (mover : Thread) (main : later.main = state.main)
    (lower : later.left mover < state.left mover)
    (same : later.left mover.other = state.left mover.other) : later.work < state.work := by
  cases mover with
  | sipc1 =>
      rw [Thread.other] at same
      rw [State.work, State.work, main, same]
      omega
  | sipc2 =>
      rw [Thread.other] at same
      rw [State.work, State.work, main, same]
      omega

/-- A thread is not the other one. -/
theorem Thread.other_ne (thread : Thread) : thread.other ≠ thread := by
  cases thread <;> decide

section Step
variable {label : Label} (step : Step request reply state label later)

include step

/-- A thread that has ended stays so. -/
theorem Step.ended {thread : Thread} (ended : state.ended thread) : later.ended thread := by
  cases step with
  | advance mover after _ stepped =>
      refine ended.imp_left fun none => ?_
      obtain ⟨statement, rest, here, same⟩ := rest_step stepped
      have different : thread ≠ mover := by
        rintro rfl
        cases none.symm.trans here
      change after.rest thread = []
      rw [same, Function.update_of_ne different]
      exact none
  | fail mover =>
      refine ended.imp_right fun exited => ?_
      by_cases same : thread = mover
      · exact same ▸ Function.update_self ..
      · exact (Function.update_of_ne same ..).trans exited
  | main => exact ended

/-- Each step lowers the work, and a failed call gives up at least itself. -/
theorem Step.work : later.work < state.work := by
  cases step with
  | advance mover after alive stepped =>
      obtain ⟨statement, rest, here, same⟩ := rest_step stepped
      apply work_lt mover
      · rfl
      · simp [State.left, alive, here, same]
      · simp [State.left, same, mover.other_ne]
  | fail mover alive calls =>
      apply work_lt mover
      · rfl
      · simpa [State.left, alive] using List.length_pos_of_ne_nil calls
      · simp [State.left, mover.other_ne]
  | main point lower =>
      change point.left + state.left .sipc1 + state.left .sipc2 < state.work
      rw [State.work]
      omega

end Step

/-- The threads follow their order as far as they run, and `main` has joined only threads that have ended. -/
structure Invariant (request reply blank : Text) (state : State Text) : Prop where
  course : ∃ remaining, remaining ∈ turns.tails ∧
    (threads request reply blank).Serial (Turn request reply) state.exchange remaining
  joined : ∀ thread, state.main.joined thread = true → state.ended thread

/-- Each step keeps the invariant. -/
theorem Step.invariant {label : Label} (step : Step request reply state label later)
    (inv : Invariant request reply blank state) : Invariant request reply blank later := by
  obtain ⟨⟨remaining, tail, serial⟩, joined⟩ := inv
  have ended {thread : Thread} : state.ended thread → later.ended thread := step.ended
  cases step with
  | advance mover after _ stepped =>
      obtain ⟨rest, rfl, onward⟩ := serial.step stepped
      refine ⟨⟨rest, ?_, onward⟩, fun thread already => ended (joined thread already)⟩
      rw [List.mem_tails] at tail ⊢
      exact (List.suffix_cons mover rest).trans tail
  | fail => exact ⟨⟨remaining, tail, serial⟩, fun thread already => ended (joined thread already)⟩
  | main point _ joins =>
      refine ⟨⟨remaining, tail, serial⟩, fun thread already => ?_⟩
      rcases joins thread already with before | finished
      · exact joined thread before
      · exact finished

/-- The printed texts are right, and `main` destroys the semaphores after both threads have ended. -/
structure Sound (request reply : Text) (state : State Text) : Prop where
  received : ∀ text, state.exchange.printed .sipc1 = some text → text = some request
  answered : ∀ text, state.exchange.printed .sipc2 = some text → text = some reply
  destroys : ∀ sem, state.main = .destroy sem → ∀ thread, state.ended thread

/-- A thread waits for ever if and only if it has not exited and the other one has exited before its signal. `main` returns if and only if both have ended, and without an exit both texts were printed. -/
structure Settled (request reply : Text) (state : State Text) : Prop where
  waits : ∀ thread, ¬ state.ended thread ↔ state.exited thread = false ∧
    state.exited thread.other = true ∧ thread.other.signal ∈ state.exchange.rest thread.other
  returns : state.main = .returned ↔ ∀ thread, state.ended thread
  complete : (∀ thread, state.exited thread = false) →
    state.exchange.printed .sipc1 = some (some request) ∧
      state.exchange.printed .sipc2 = some (some reply)

/-- In each state the printed texts are right. -/
theorem Invariant.sound (inv : Invariant request reply blank state) :
    Sound request reply state := by
  obtain ⟨⟨remaining, _, serial⟩, joined⟩ := inv
  have turn := serial.holds
  refine ⟨fun text printed => ?_, fun text printed => ?_, fun sem here thread => ?_⟩
  · rw [turn.received, Option.ite_none_left_eq_some] at printed
    exact (Option.some.inj printed.2).symm
  · rw [turn.answered, Option.ite_none_left_eq_some] at printed
    exact (Option.some.inj printed.2).symm
  · apply joined
    rw [here]
    rfl

section Stuck
variable (inv : Invariant request reply blank state)
  (stuck : (system request reply blank).Stuck (fun label => ∀ thread, label ≠ .fail thread) state)

include stuck in
/-- `main` without a step waits for a thread that has not ended, or it has returned. -/
theorem main_stuck : state.main = .returned ∨
    ∃ thread, state.main = .join thread ∧ ¬ state.ended thread := by
  have blocked : state.mainStep = none := stuck .main nofun
  cases here : state.main with
  | returned => exact .inl rfl
  | create thread => cases thread <;> simp [State.mainStep, here] at blocked
  | destroy sem => cases sem <;> simp [State.mainStep, here] at blocked
  | join thread =>
      refine .inr ⟨thread, rfl, fun ended => ?_⟩
      cases thread <;> simp [State.mainStep, here, ended] at blocked

include stuck in
/-- The thread whose turn it is has exited if nothing can go on. -/
theorem exited_of_stuck {thread : Thread} {rest : List Thread}
    (serial : (threads request reply blank).Serial (Turn request reply) state.exchange
      (thread :: rest)) : state.exited thread = true := by
  by_contra alive
  rw [Bool.not_eq_true] at alive
  have created : state.main.created thread = true := by
    rcases main_stuck stuck with here | ⟨_, here, _⟩ <;> rw [here] <;> rfl
  obtain ⟨after, taken⟩ := serial.exists_next
  have blocked : state.next request reply (.advance thread) = none :=
    stuck (.advance thread) nofun
  have runs : state.running thread = true := by rw [State.running, created, alive]; rfl
  rw [State.next, if_pos runs, Option.map_eq_none_iff] at blocked
  cases blocked.symm.trans taken

include inv stuck in
/-- If nothing can go on, the threads and `main` have settled. -/
theorem Invariant.settled : Settled request reply state := by
  obtain ⟨⟨remaining, tail, serial⟩, joined⟩ := inv
  have turn := serial.holds
  refine ⟨fun thread => ?_, ⟨fun here thread => ?_, fun ended => ?_⟩, fun alive => ?_⟩
  · cases remaining with
    | nil =>
        have finished (thread : Thread) : state.exchange.rest thread = [] := by
          rw [turn.rest]
          exact List.drop_length
        have ended : state.ended thread := .inl (finished thread)
        simp [ended, finished]
    | cons first rest =>
        have exited := exited_of_stuck stuck serial
        have signals := signal_left _ tail first rfl
        rw [← turn.rest, ← turn.rest] at signals
        by_cases same : thread = first
        · subst same
          simp [State.ended, exited]
        · have other : thread.other = first := by
            cases thread <;> cases first <;> first | rfl | exact absurd rfl same
          have back : first.other = thread := by rw [← other]; cases thread <;> rfl
          rw [other, signals, back]
          simp [State.ended, exited, and_comm]
  · apply joined
    rw [here]
    rfl
  · rcases main_stuck stuck with here | ⟨thread, _, waits⟩
    · exact here
    · exact absurd (ended thread) waits
  · cases remaining with
    | nil => exact ⟨turn.received, turn.answered⟩
    | cons first rest =>
        cases (exited_of_stuck stuck serial).symm.trans (alive first)

end Stuck

/-- In each run the printed texts are right. A run has at most 22 steps, and when it can only go on with a failing call, a thread waits for ever exactly if the other one has failed before its signal, `main` has returned exactly if both have ended, and without a failure both texts were printed. -/
theorem settles (labels : List Label)
    (run : (system request reply blank).run (start blank) labels = some state) :
    labels.length ≤ 22 ∧ Sound request reply state ∧
      ((system request reply blank).Stuck (fun label => ∀ thread, label ≠ .fail thread) state →
        Settled request reply state) := by
  have inv : Invariant request reply blank state := by
    refine System.run_invariant (Invariant request reply blank) ⟨⟨turns, ?_, ?_⟩, ?_⟩
      (fun _ _ _ inv taken => (step_of_next taken).invariant inv) labels run
    · exact (List.mem_tails ..).mpr List.suffix_rfl
    · exact serial request reply blank
    · intro thread already
      cases already
  have bound := System.length_run_le _ State.work (fun _ _ _ taken => (step_of_next taken).work) labels run
  exact ⟨Nat.le_of_add_right_le bound, inv.sound, fun stuck => inv.settled stuck⟩

/-- The last post of `Sipc1` fails, and `Sipc2` and `main` wait for ever. -/
theorem settles_failed :
    let labels : List Label := [.main, .main] ++ List.replicate 6 (.advance .sipc2) ++
      List.replicate 6 (.advance .sipc1) ++ [.fail .sipc1, .main]
    ∃ state, (system 1 2 0).run (start 0) labels = some state ∧ Sound 1 2 state ∧
      Settled 1 2 state ∧ ¬ state.ended .sipc2 ∧ state.main ≠ .returned := by
  intro labels
  obtain ⟨state, run, test⟩ := (Option.any_eq_true _ _).mp (by decide +kernel :
    ((system 1 2 0).run (start 0) labels).any (fun state =>
      decide (state.main = .join .sipc2) && decide (state.exited .sipc1 = true) &&
      decide (state.exited .sipc2 = false) && decide (state.exchange.value .empty = 0) &&
      decide (state.exchange.rest .sipc2 = [.wait .empty, .print])) = true)
  simp only [Bool.and_eq_true, decide_eq_true_eq] at test
  obtain ⟨⟨⟨⟨joins, exited⟩, alive⟩, empty⟩, waits⟩ := test
  have running : ¬ state.ended .sipc2 := by simp [State.ended, waits, alive]
  obtain ⟨_, sound, settled⟩ := settles labels run
  refine ⟨state, run, sound, settled ?_, running, by simp [joins]⟩
  intro label goes
  cases label with
  | advance thread =>
      cases thread with
      | sipc1 => simp [system, State.next, State.running, exited]
      | sipc2 => simp [system, State.next, Exchange.step, Exchange.execute, waits, empty]
  | fail thread => exact absurd rfl (goes thread)
  | main => simp [system, State.next, State.mainStep, joins, running]

end Sipc4
