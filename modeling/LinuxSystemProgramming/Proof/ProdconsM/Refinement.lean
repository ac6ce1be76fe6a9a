import LinuxSystemProgramming.Proof.ProdconsM.Progress

namespace ProdconsM
open Transition Monitor Tally BoundedBuffer

/-- The program `main` runs one thread of each role. -/
def mainSystem (maxBuf nloops : Nat) : System (State Role) (Label Role) := system maxBuf nloops id

section Reachable
variable {Thread : Type} [DecidableEq Thread] [Fintype Thread] {maxBuf nloops : Nat}
  {role : Thread → Role}

/-- These facts hold in every reachable state. -/
structure Invariant (maxBuf nloops : Nat) (role : Thread → Role) (state : State Thread) : Prop where
  owned : Owned state
  ready : Ready maxBuf state
  queued : Queued maxBuf state
  counted : Counted nloops role state

/-- The initial state satisfies the invariant. -/
theorem initial_invariant (positive : 1 ≤ maxBuf) {state : State Thread}
    (start : (system maxBuf nloops role).initial state) : Invariant maxBuf nloops role state := by
  change state = _ at start
  subst start
  refine ⟨fun thread => by simp [Local.locked], fun thread access => by simp at access,
    ⟨[], rfl, represents_zero maxBuf positive⟩, fun _ => rfl,
    fun _ => ⟨Nat.zero_le _, by simp, by simp⟩, ?_, ?_⟩
  · exact (total_eq_zero _ _ fun thread => by simp [Local.accesses, Point.accessed]).symm
  · exact (total_eq_zero _ _ fun thread => by simp [Local.accesses, Point.accessed]).symm

/-- Every reachable state satisfies the invariant. -/
theorem reachable_invariant (positive : 1 ≤ maxBuf) {state : State Thread}
    (reached : (system maxBuf nloops role).Reachable state) :
    Invariant maxBuf nloops role state := by
  apply reached.invariant (Invariant maxBuf nloops role)
  · intro state start
    exact initial_invariant positive start
  · intro state label later _ holds taken
    have step := step_of_next taken
    exact ⟨owned_step holds.owned step, ready_step holds.owned holds.ready step,
      queued_step holds.owned holds.ready holds.queued step, counted_step holds.counted step⟩

end Reachable

/-- In `main` the accesses of a role are those of its one thread. -/
theorem Counted.main {nloops : Nat} {state : State Role} (counted : Counted nloops id state)
    (role : Role) : total (Local.accesses role) state.thread =
      (state.thread role).i + (state.thread role).point.accessed.toNat := by
  rw [total_eq_single _ _ role]
  · simp [Local.accesses, counted.roles]
  · intro other different
    simp [Local.accesses, counted.roles, different]

/-- With the mutex free the ring of the buffer holds the produced items that are not consumed. -/
def RingHolds {Thread : Type} (maxBuf : Nat) (state : State Thread) : Prop :=
  let buffer := state.buffer
  0 ≤ buffer.counter ∧ buffer.counter ≤ maxBuf ∧ buffer.inIndex < maxBuf ∧
    buffer.outIndex < maxBuf ∧ (buffer.inIndex : Int) = (buffer.outIndex + buffer.counter) % maxBuf ∧
    ∃ queue, buffer.counter = queue.length ∧ state.produced = state.consumed ++ queue ∧
      ∀ position (inside : position < queue.length),
        buffer.buf ((buffer.outIndex + position) % maxBuf) = queue[position]

/-- A represented buffer has the stated ring. -/
theorem ringHolds_of_represents {Thread : Type} {maxBuf : Nat} {state : State Thread}
    {queue : List ItemType} (split : state.produced = state.consumed ++ queue)
    (represents : Represents maxBuf state.buffer queue) : RingHolds maxBuf state := by
  have counter := represents.counter
  have room := represents.room
  have range := represents.outRange
  refine ⟨by omega, by omega, ?_, range, ?_, queue, counter, split, represents.slots⟩
  · rw [represents.inPlace]
    exact Nat.mod_lt _ (by omega)
  · rw [counter, represents.inPlace]
    push_cast
    rfl

/-- The buffer refines a queue for any threads, and the two threads of `main` consume everything. -/
theorem refinesQueue (maxBuf nloops : Nat) (positive : 1 ≤ maxBuf) :
    (∀ (Thread : Type) [DecidableEq Thread] [Fintype Thread] (role : Thread → Role)
      (state : State Thread), (system maxBuf nloops role).Reachable state →
      (state.mutex = none → RingHolds maxBuf state) ∧ state.consumed <+: state.produced) ∧
    (∀ state : State Role, (mainSystem maxBuf nloops).Reachable state →
      (∀ thread, (state.thread thread).point = .finished) →
      state.buffer.counter = 0 ∧ state.consumed = state.produced) := by
  constructor
  · intro Thread _ _ role state reached
    obtain ⟨queue, split, represents⟩ := (reachable_invariant positive reached).queued
    refine ⟨fun free => ?_, ⟨queue, split.symm⟩⟩
    simp only [State.settled, free] at represents
    exact ringHolds_of_represents split represents
  · intro state reached finished
    have holds := reachable_invariant positive reached
    obtain ⟨queue, split, represents⟩ := holds.queued
    have free : state.mutex = none := by
      cases owner : state.mutex with
      | none => rfl
      | some thread =>
          have inside := (holds.owned thread).mpr owner
          simp [Local.locked, finished thread] at inside
    simp only [State.settled, free] at represents
    have produced := holds.counted.produced
    have consumed := holds.counted.consumed
    have ended (thread : Role) := (holds.counted.bounded thread).ended (finished thread)
    rw [holds.counted.main] at produced consumed
    simp only [finished, ended, Point.accessed, Bool.toNat_false] at produced consumed
    have lengths := congrArg List.length split
    rw [List.length_append, produced, consumed] at lengths
    have empty : queue = [] := List.eq_nil_of_length_eq_zero (by omega)
    subst empty
    exact ⟨represents.counter, by rw [split, List.append_nil]⟩

/-- The producer fills the only slot, the consumer waits for the mutex, and both finish. -/
theorem refinesQueue_run : ∃ state : State Role, state.produced = [⟨70000⟩] ∧
    state.buffer.counter = 0 ∧ state.consumed = state.produced := by
  obtain ⟨state, reached, facts⟩ := (mainSystem 1 1).exists_reachable
    ⟨.zero, none, fun role => ⟨role, .loop, 0⟩, [], []⟩ rfl
    [.advance .consumer, .advance .consumer, .advance .consumer, .advance .producer,
      .advance .producer, .advance .producer, .produce .producer 70000, .advance .producer,
      .advance .producer, .signal .producer (some .consumer), .advance .producer,
      .advance .consumer, .advance .consumer, .advance .consumer, .advance .consumer,
      .advance .consumer, .signal .consumer none, .advance .consumer, .advance .consumer,
      .advance .producer]
    (fun state => decide (state.produced = [⟨70000⟩] ∧
      ∀ thread, (state.thread thread).point = .finished)) (by decide)
  simp only [decide_eq_true_eq] at facts
  exact ⟨state, facts.1, (refinesQueue 1 1 (by decide)).2 state reached facts.2⟩

end ProdconsM
