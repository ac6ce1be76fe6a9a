/-
This file proves what the busy waiting guarantees, and for which sizes no change of the counter is ever lost.
-/

import LinuxSystemProgramming.Proof.ProdconsT.Queue

namespace ProdconsT
open Transition BoundedBuffer
open ProdconsM (mustWait)

variable {maxBuf nloops : Nat} {state later : State} {label : Label}

/-- No thread is between its test and its loop variable. -/
def State.settled (state : State) : Prop :=
  ∀ role, (state.thread role).point.passed = false

theorem accessed_of_passed {point : Point} (outside : point.passed = false) :
    point.accessed = false := by
  cases point <;> first | rfl | cases outside

/-- In a settled state the counter is the number of items in the buffer. -/
theorem Counted.settled (counted : Counted maxBuf nloops state) (queued : Queued maxBuf state)
    (settled : state.settled) :
    state.buffer.counter = state.produced.length - state.consumed.length := by
  have outside (role : Role) := accessed_of_passed (settled role)
  have produced := queued.produced
  have consumed := queued.consumed
  rw [Local.accesses, outside, Bool.toNat_false, Nat.add_zero] at produced consumed
  rw [produced, consumed]
  exact counted.counter

/-- If the changes of the counter do not overlap, then the buffer is a queue that never holds more than it can, and in the end everything is consumed. -/
theorem apart_queue (maxBuf nloops : Nat) (state : State)
    (reached : ((system maxBuf nloops).restrict apart).Reachable state) :
    state.consumed <+: state.produced ∧
      state.produced.length ≤ state.consumed.length + maxBuf ∧
      0 ≤ state.buffer.counter ∧ state.buffer.counter ≤ maxBuf ∧
      (state.settled → state.buffer.counter = state.produced.length - state.consumed.length) ∧
      ((∀ role, (state.thread role).point = .finished) →
        state.consumed = state.produced ∧ state.produced.length = nloops) := by
  obtain ⟨counted, queued⟩ := reachable_invariant maxBuf nloops reached
  obtain ⟨queue, split, _⟩ := queued.queue
  have counter := counted.counter
  have low := counted.low
  have high := counted.high
  have produced := queued.produced
  have consumed := queued.consumed
  refine ⟨⟨queue, split.symm⟩, ?_, by omega, by omega, counted.settled queued, ?_⟩
  · rw [produced, consumed, Local.accesses, Local.accesses]
    cases passed : (state.thread .producer).point.passed with
    | false =>
        rw [accessed_of_passed passed]
        simp only [Bool.toNat_false]
        omega
    | true =>
        have room := counted.room passed
        have bit := Bool.toNat_le (state.thread .producer).point.accessed
        omega
  · intro finished
    have ended (role : Role) := (counted.bounded role).ended (finished role)
    rw [Local.accesses, finished, ended] at produced consumed
    have lengths := congrArg List.length split
    rw [List.length_append, produced, consumed] at lengths
    have empty : queue = [] := List.eq_nil_of_length_eq_zero (by omega)
    rw [empty, List.append_nil] at split
    exact ⟨split.symm, produced⟩

/-- Producer and consumer pass one item, where the consumer first waits for it. -/
theorem apart_queue_run :
    ∃ state : State, state.produced = [⟨70000⟩] ∧ state.consumed = state.produced := by
  obtain ⟨state, reached, facts⟩ := ((system 2 1).restrict apart).exists_reachable
    ⟨.zero, fun _ => ⟨.loop, 0⟩, [], []⟩ rfl
    [.advance .consumer, .advance .consumer, .advance .consumer, .advance .producer,
      .advance .producer, .produce 70000, .advance .producer, .advance .producer,
      .advance .producer, .advance .consumer, .advance .consumer, .advance .consumer,
      .advance .consumer, .advance .consumer, .advance .consumer, .advance .producer]
    (fun state => decide (state.produced = [⟨70000⟩] ∧
      ∀ role, (state.thread role).point = .finished)) (by decide)
  simp only [decide_eq_true_eq] at facts
  exact ⟨state, facts.1, ((apart_queue 2 1 state reached).2.2.2.2.2 facts.2).1⟩

/-- The statements that a thread still has to execute in its iteration, without repeated tests. -/
def Point.remaining : Point → Nat
  | .loop => 7
  | .check => 6
  | .spin => 5
  | .access => 4
  | .advance => 3
  | .read => 2
  | .write _ => 1
  | .finished => 0

/-- The statements that both threads still have to execute, without repeated tests. -/
def State.remaining (nloops : Nat) (state : State) : Nat :=
  ((nloops - (state.thread .producer).i) * 8 + (state.thread .producer).point.remaining) +
    ((nloops - (state.thread .consumer).i) * 8 + (state.thread .consumer).point.remaining)

/-- A move to a later point of the iteration leaves less to execute. -/
theorem remaining_goto (nloops : Nat) (role : Role) (point : Point)
    (moved : later.thread = Function.update state.thread role ((state.thread role).goto point))
    (less : point.remaining < (state.thread role).point.remaining) :
    later.remaining nloops < state.remaining nloops := by
  simp only [State.remaining, moved]
  cases role <;> simp [Local.goto, less]

/-- Each step but a repeated test executes a statement. -/
theorem remaining_step (bounded : ∀ role, (state.thread role).Bounded nloops)
    (step : Step maxBuf nloops state label later) :
    later.remaining nloops < state.remaining nloops ∨
      later = state ∧ ∃ role, label = .advance role ∧ (state.thread role).point = .spin ∧
        mustWait maxBuf role state.buffer = true := by
  cases step with
  | enter role here more => exact .inl (remaining_goto nloops role .check rfl (by rw [here]; decide))
  | finish role here done =>
      exact .inl (remaining_goto nloops role .finished rfl (by rw [here]; decide))
  | wait role here wait =>
      rcases here with here | here
      · exact .inl (remaining_goto nloops role .spin rfl (by rw [here]; decide))
      · refine .inr ⟨?_, role, rfl, here, wait⟩
        have same : (state.thread role).goto .spin = state.thread role := by
          rw [Local.goto, ← here]
        rw [State.move, same, Function.update_eq_self]
  | pass role here ready =>
      rcases here with here | here
      · exact .inl (remaining_goto nloops role .access rfl (by rw [here]; decide))
      · exact .inl (remaining_goto nloops role .access rfl (by rw [here]; decide))
  | store data here =>
      exact .inl (remaining_goto nloops .producer .advance rfl (by rw [here]; decide))
  | load here => exact .inl (remaining_goto nloops .consumer .advance rfl (by rw [here]; decide))
  | advance role here => exact .inl (remaining_goto nloops role .read rfl (by rw [here]; decide))
  | read role here =>
      exact .inl (remaining_goto nloops role _ rfl (by rw [here]; exact Nat.one_lt_two))
  | write role register here =>
      left
      have body := (bounded role).body (by rw [here]; simp) (by rw [here]; simp)
      cases role <;> simp [State.write, State.remaining, Point.remaining, here] <;> omega

/-- A thread has a permitted step unless it has finished, tests in vain, or meets the other one at the counter. -/
theorem exists_permitted (role : Role) (open' : (state.thread role).point ≠ .finished)
    (alone : (state.thread role).point = .read → (state.thread role.other).point.writing = false) :
    ∃ label later, ((system maxBuf nloops).restrict apart).next state label = some later ∧
      ∀ other, label = .advance other → other = role := by
  simp only [System.restrict_next]
  have permits : apart state (.advance role) = true := decide_eq_true alone
  cases here : (state.thread role).point with
  | finished => exact absurd here open'
  | access =>
      cases role with
      | producer =>
          refine ⟨.produce 0, state.store 0, ⟨rfl, ?_⟩, nofun⟩
          simp [system, State.next, here]
      | consumer =>
          refine ⟨.advance .consumer, state.load, ⟨permits, ?_⟩, by simp⟩
          simp [system, State.next, State.advance, here]
  | _ =>
      have goes : ∃ later, state.advance maxBuf nloops role = some later := by
        rw [← Option.isSome_iff_exists]
        simp only [State.advance, here]
        first
          | rfl
          | split <;> rfl
      obtain ⟨later, taken⟩ := goes
      exact ⟨.advance role, later, ⟨permits, taken⟩, by simp⟩

/-- The two threads never wait for each other at the same time. -/
theorem Counted.exists_ready (counted : Counted maxBuf nloops state) (positive : 1 ≤ maxBuf)
    (unfinished : ∃ role, (state.thread role).point ≠ .finished) :
    ∃ role, (state.thread role).point ≠ .finished ∧
      ((state.thread role).point = .spin → mustWait maxBuf role state.buffer = false) := by
  by_contra stuck
  push Not at stuck
  have counter := counted.counter
  have inside (role : Role) := (counted.bounded role).inside
  have waits (role : Role) (open' : (state.thread role).point ≠ .finished) :
      (state.thread role).i < nloops ∧ mustWait maxBuf role state.buffer = true := by
    obtain ⟨spins, wait⟩ := stuck role open'
    exact ⟨(counted.bounded role).body (by rw [spins]; nofun) open', by simpa using wait⟩
  have ends (role : Role) := (counted.bounded role).ended
  obtain ⟨role, open'⟩ := unfinished
  cases role with
  | producer =>
      obtain ⟨more, full⟩ := waits .producer open'
      have full : state.buffer.counter = maxBuf := of_decide_eq_true full
      by_cases other : (state.thread .consumer).point = .finished
      · have done := ends .consumer other
        omega
      · have empty : state.buffer.counter = 0 := of_decide_eq_true (waits .consumer other).2
        omega
  | consumer =>
      obtain ⟨more, empty⟩ := waits .consumer open'
      have empty : state.buffer.counter = 0 := of_decide_eq_true empty
      by_cases other : (state.thread .producer).point = .finished
      · have done := ends .producer other
        omega
      · have full : state.buffer.counter = maxBuf := of_decide_eq_true (waits .producer other).2
        omega

/-- If the changes of the counter do not overlap, then no step goes back, and until both threads have finished some step goes on. -/
theorem apart_progress (maxBuf nloops : Nat) (positive : 1 ≤ maxBuf) (state : State)
    (reached : ((system maxBuf nloops).restrict apart).Reachable state) :
    (∀ label later, ((system maxBuf nloops).restrict apart).next state label = some later →
      later.remaining nloops ≤ state.remaining nloops) ∧
    ((∃ role, (state.thread role).point ≠ .finished) →
      ∃ label later, ((system maxBuf nloops).restrict apart).next state label = some later ∧
        later.remaining nloops < state.remaining nloops) := by
  have counted := (reachable_invariant maxBuf nloops reached).1
  have effect : ∀ label later, ((system maxBuf nloops).restrict apart).next state label = some later →
      later.remaining nloops < state.remaining nloops ∨
        later = state ∧ ∃ role, label = .advance role ∧ (state.thread role).point = .spin ∧
          mustWait maxBuf role state.buffer = true := by
    intro label later taken
    obtain ⟨_, taken⟩ := ((system maxBuf nloops).restrict_next _ _ _ label).mp taken
    exact remaining_step counted.bounded (step_of_next taken)
  refine ⟨fun label later taken => ?_, fun unfinished => ?_⟩
  · rcases effect label later taken with less | ⟨rfl, _⟩
    · exact less.le
    · exact le_rfl
  · have chosen : ∃ role, (state.thread role).point ≠ .finished ∧
        ((state.thread role).point = .spin → mustWait maxBuf role state.buffer = false) ∧
        ((state.thread role).point = .read →
          (state.thread role.other).point.writing = false) := by
      by_cases busy : ∃ role, (state.thread role).point.writing = true
      · obtain ⟨role, writing⟩ := busy
        refine ⟨role, ?_, ?_, ?_⟩
        all_goals intro here; rw [here] at writing; cases writing
      · obtain ⟨role, open', ready⟩ := counted.exists_ready positive unfinished
        exact ⟨role, open', ready, fun _ => Bool.eq_false_iff.mpr fun writing => busy ⟨_, writing⟩⟩
    obtain ⟨role, open', ready, alone⟩ := chosen
    obtain ⟨label, later, taken, own⟩ := exists_permitted role open' alone
    refine ⟨label, later, taken, ?_⟩
    rcases effect label later taken with less | ⟨_, other, rfl, spins, wait⟩
    · exact less
    · rw [own other rfl] at spins wait
      rw [ready spins] at wait
      cases wait

/-- With the constants of `prodcons.h` some step goes on at the start. -/
theorem apart_progress_start : ∃ label later,
    ((system 2 20).restrict apart).next ⟨.zero, fun _ => ⟨.loop, 0⟩, [], []⟩ label = some later ∧
      later.remaining 20 < 334 :=
  (apart_progress 2 20 (by decide) _ (.initial rfl)).2 ⟨.producer, by decide⟩

/-- With one slot or one iteration the changes of the counter cannot overlap. -/
theorem reachable_apart (small : maxBuf ≤ 1 ∨ nloops ≤ 1)
    (reached : (system maxBuf nloops).Reachable state) :
    ((system maxBuf nloops).restrict apart).Reachable state := by
  induction reached with
  | initial start => exact .initial start
  | @step state later label _ taken inductionHypothesis =>
      refine .step label inductionHypothesis
        (((system maxBuf nloops).restrict_next _ _ _ label).mpr ⟨?_, taken⟩)
      have counted := (reachable_invariant maxBuf nloops inductionHypothesis).1
      cases label with
      | produce data => rfl
      | advance role =>
          refine decide_eq_true fun reads => Bool.eq_false_iff.mpr fun writing => ?_
          have passed : ∀ other, (state.thread other).point.passed = true := by
            intro other
            by_cases own : other = role
            · rw [own, reads]
              rfl
            · have opposite : role.other = other := by cases other <;> cases role <;> trivial
              rw [opposite] at writing
              cases point : (state.thread other).point <;> rw [point] at writing <;> cases writing
              rfl
          have room := counted.room (passed .producer)
          have stock := counted.stock (passed .consumer)
          have body : (state.thread .producer).i < nloops := by
            refine (counted.bounded .producer).body ?_ ?_
            all_goals
              intro here
              have outside := passed .producer
              rw [here] at outside
              cases outside
          omega

/-- With two slots and two iterations a change of the counter can be lost. -/
theorem exists_lost (slots loops : Nat) : ∃ state, (system (slots + 2) (loops + 2)).Reachable state ∧
    state.settled ∧ state.buffer.counter = 0 ∧ state.produced.length = 2 ∧
    state.consumed.length = 1 := by
  -- the consumer reads the counter before the producer writes its second change, and then it writes over it
  obtain ⟨state, reached, facts⟩ := (system (slots + 2) (loops + 2)).exists_reachable
    ⟨.zero, fun _ => ⟨.loop, 0⟩, [], []⟩ rfl
    [.advance .producer, .advance .producer, .produce 0, .advance .producer, .advance .producer,
      .advance .producer, .advance .producer, .advance .producer, .produce 0, .advance .producer,
      .advance .producer, .advance .consumer, .advance .consumer, .advance .consumer,
      .advance .consumer, .advance .consumer, .advance .producer, .advance .consumer]
    (fun state => decide ((state.thread .producer).point = .loop ∧
      (state.thread .consumer).point = .loop ∧ state.buffer.counter = 0 ∧
      state.produced.length = 2 ∧ state.consumed.length = 1)) rfl
  simp only [decide_eq_true_eq] at facts
  obtain ⟨producer, consumer, counts⟩ := facts
  refine ⟨state, reached, fun role => ?_, counts⟩
  cases role with
  | producer => rw [producer]; rfl
  | consumer => rw [consumer]; rfl

/-- The counter is exact in all runs if and only if the buffer has at most one slot or the loops have at most one iteration. -/
theorem counter_exact_iff (maxBuf nloops : Nat) :
    (∀ state, (system maxBuf nloops).Reachable state → state.settled →
      state.buffer.counter = state.produced.length - state.consumed.length) ↔
    maxBuf ≤ 1 ∨ nloops ≤ 1 := by
  constructor
  · intro exact
    by_contra large
    push Not at large
    obtain ⟨slots, rfl⟩ := Nat.exists_eq_add_of_le' (show 2 ≤ maxBuf by omega)
    obtain ⟨loops, rfl⟩ := Nat.exists_eq_add_of_le' (show 2 ≤ nloops by omega)
    obtain ⟨state, reached, settled, counter, produced, consumed⟩ := exists_lost slots loops
    have same := exact state reached settled
    rw [counter, produced, consumed] at same
    cases same
  · intro small state reached settled
    obtain ⟨counted, queued⟩ := reachable_invariant maxBuf nloops (reachable_apart small reached)
    exact counted.settled queued settled

end ProdconsT
