import LinuxSystemProgramming.Proof.ProdconsS.Buffer
import LinuxSystemProgramming.Proof.Semlib2.Wakeup

namespace ProdconsS
open Transition Monitor Tally BoundedBuffer

section Stuck
variable {Thread : Type} [DecidableEq Thread] [Fintype Thread] {maxBuf nloops : Nat}
  {role : Thread → Role}

/-- No label other than a spurious wake-up has a step. -/
def Still (maxBuf nloops : Nat) (state : State Thread) : Prop :=
  ∀ label : Label Thread, label.isSpurious = false → state.next maxBuf nloops label = none

/-- In a still state the operations on each semaphore have no step of their own. -/
theorem Still.quiet {state : State Thread} (still : Still maxBuf nloops state)
    (linked : Linked maxBuf nloops role state) (name : SemName) (thread : Thread) :
    (state.sem name).point thread = .outside ∨ (state.sem name).point thread = .waitBlocked ∨
      ∃ operation result, (state.sem name).point thread = .returned operation result := by
  have owned := (Semlib2.reachable_invariant (linked.serves name).reached).1
  apply Semlib2.quiet_of_stuck owned
  · intro mover
    have none := still (.inside name (.advance mover)) rfl
    simpa [State.next, Semlib2.Label.internal] using none
  · intro mover target
    have none := still (.inside name (.signal mover target)) rfl
    simpa [State.next, Semlib2.Label.internal] using none

/-- A thread is parked when its wait on a semaphore is blocked. -/
def Parked (state : State Thread) (thread : Thread) (name : SemName) : Prop :=
  (state.thread thread).calls = some (name, .semWait) ∧
    (state.sem name).point thread = .waitBlocked

/-- In a still state a thread at a call is parked. -/
theorem Still.parked {state : State Thread} (still : Still maxBuf nloops state)
    (linked : Linked maxBuf nloops role state) (thread : Thread) (name : SemName)
    (operation : Semlib2.Operation) (calls : (state.thread thread).calls = some (name, operation)) :
    Parked state thread name := by
  rcases still.quiet linked name thread with here | here | ⟨current, result, here⟩
  · have none := still (.call thread) rfl
    simp [State.next, calls, Semlib2.State.next, here] at none
  · have own := (linked.serves name).coherent thread .semWait (by rw [here]; rfl)
    exact ⟨own, here⟩
  · have own := (linked.serves name).coherent thread current (by rw [here]; rfl)
    rw [calls, Option.some.injEq, Prod.mk.injEq] at own
    have none := still (.ret thread result) rfl
    simp [State.next, calls, Semlib2.State.next, here, own.2] at none

/-- In a still state each thread has finished or is parked. -/
theorem Still.shape {state : State Thread} (still : Still maxBuf nloops state)
    (linked : Linked maxBuf nloops role state) (thread : Thread) :
    (state.thread thread).point = .finished ∨ ∃ name, Parked state thread name := by
  have none := still (.advance thread) rfl
  have running := (linked.bounded thread).running
  cases here : (state.thread thread).point with
  | finished => exact Or.inl rfl
  | failed => exact absurd here running
  | loop =>
      by_cases more : (state.thread thread).i < nloops <;>
        simp [State.next, State.advance, here, more] at none
  | access =>
      cases own : (state.thread thread).role with
      | producer =>
          have silent := still (.produce thread 0) rfl
          simp [State.next, here, own] at silent
      | consumer => simp [State.next, State.advance, here, own] at none
  | advance | count => simp [State.next, State.advance, here] at none
  | waitSlot | waitMutex | postMutex | postSlot =>
      right
      exact ⟨_, still.parked linked thread _ _ (by simp only [Local.calls, here]; rfl)⟩

/-- In a still state a parked thread waits on a semaphore of value zero. -/
theorem Still.empty {state : State Thread} (still : Still maxBuf nloops state)
    (linked : Linked maxBuf nloops role state) {thread : Thread} {name : SemName}
    (parked : Parked state thread name) : (state.sem name).sval ≤ 0 := by
  have attended := Semlib2.reachable_attended (linked.serves name).reached
    (tally_pos _ _ thread (by rw [parked.2]; rfl))
  have idle : tally Semlib2.Point.returning (state.sem name).point = 0 := by
    apply tally_eq_zero
    intro other
    rcases still.quiet linked name other with here | here | ⟨operation, result, here⟩ <;>
      rw [here] <;> rfl
  omega

omit [DecidableEq Thread] [Fintype Thread] in
/-- A thread whose call has no effect yet is past the earlier sites only. -/
theorem past_silent {state : State Thread} {thread : Thread}
    (silent : state.effected thread = false) (site : Point)
    (early : (state.thread thread).point.order ≤ site.order) : state.past site thread = false := by
  simp only [State.past, silent, Bool.and_false, Bool.or_false, decide_eq_false_iff_not]
  omega

omit [DecidableEq Thread] [Fintype Thread] in
/-- A finished or parked thread is before or at the wait on the mutex, without an effect. -/
theorem silent_of_shape {state : State Thread} {thread : Thread}
    (shape : (state.thread thread).point = .finished ∨ ∃ name, Parked state thread name) :
    state.effected thread = false ∧
      (state.thread thread).point.order ≤ Point.waitMutex.order := by
  rcases shape with here | ⟨name, calls, blocked⟩
  · simp [State.effected, Local.calls, here, Point.order]
  · constructor
    · simp [State.effected, calls, blocked, Semlib2.Point.effected]
    · cases here : (state.thread thread).point <;> simp [Local.calls, here] at calls <;> decide

/-- In a still state no thread holds the mutex. -/
theorem Still.mutex {state : State Thread} (still : Still maxBuf nloops state)
    (linked : Linked maxBuf nloops role state) : (state.sem .mutexSem).sval = 1 := by
  have mutex := linked.mutex
  have nobody : state.holders all .waitMutex .postMutex = 0 := by
    apply tally_eq_zero
    intro thread
    have silent := silent_of_shape (still.shape linked thread)
    simp [State.between, past_silent silent.1 .waitMutex silent.2]
  omega

/-- In a still state each unfinished thread is parked at its wait for a slot. -/
theorem Still.slot {state : State Thread} (still : Still maxBuf nloops state)
    (linked : Linked maxBuf nloops role state) (thread : Thread)
    (unfinished : (state.thread thread).point ≠ .finished) :
    (state.thread thread).point = .waitSlot ∧
      Parked state thread (taken (state.thread thread).role) := by
  obtain ⟨name, parked⟩ := (still.shape linked thread).resolve_left unfinished
  have mutex := still.mutex linked
  have empty := still.empty linked parked
  have calls := parked.1
  cases here : (state.thread thread).point <;> simp [Local.calls, here] at calls
  · rw [calls]
    exact ⟨rfl, parked⟩
  · rw [← calls, mutex] at empty
    exact absurd empty (by decide)

end Stuck

section Main
variable {maxBuf nloops : Nat}

/-- A role whose thread is past no site has executed each site once in each finished iteration. -/
theorem visited_main {state : State Role} (linked : Linked maxBuf nloops id state) (role : Role)
    (site : Point) (before : ∀ thread, state.past site thread = false) :
    state.visited (only role) site = (state.thread role).i := by
  have roles := linked.roles
  unfold State.visited
  rw [total_eq_single _ _ role]
  · simp [State.visits, only, roles, before]
  · intro other different
    simp [State.visits, only, roles, different]

/-- The two threads of `main` always have a step until both have finished. -/
theorem main_progress (positive : 1 ≤ maxBuf) {state : State Role}
    (reached : (mainSystem maxBuf nloops).Reachable state) (still : Still maxBuf nloops state)
    (thread : Role) : (state.thread thread).point = .finished := by
  have linked := (reachable_invariant positive reached).linked
  have silent (role : Role) := silent_of_shape (still.shape linked role)
  have early (role : Role) : (state.thread role).point.order ≤ 1 := by
    by_cases finished : (state.thread role).point = .finished
    · rw [finished]
      decide
    · rw [(still.slot linked role finished).1]
      decide
  have visited (role : Role) (site : Point) (later : 1 ≤ site.order) :
      state.visited (only role) site = (state.thread role).i :=
    visited_main linked role site fun other =>
      past_silent (silent other).1 site ((early other).trans later)
  have empty := linked.emptySem.1
  have full := linked.fullSem.1
  rw [visited _ .postSlot (by decide), visited _ .waitSlot (by decide)] at empty full
  have ended (role : Role) (finished : (state.thread role).point = .finished) :
      (state.thread role).i = nloops := (linked.bounded role).ended finished
  have waits (role : Role) (unfinished : (state.thread role).point ≠ .finished) :
      (state.thread role).i < nloops ∧ (state.sem (taken role)).sval ≤ 0 := by
    obtain ⟨here, parked⟩ := still.slot linked role unfinished
    rw [linked.roles role] at parked
    exact ⟨(linked.bounded role).body (by rw [here]; decide), still.empty linked parked⟩
  by_cases producer : (state.thread .producer).point = .finished <;>
    by_cases consumer : (state.thread .consumer).point = .finished
  · cases thread
    · exact producer
    · exact consumer
  · have last := ended .producer producer
    have first := waits .consumer consumer
    simp only [taken] at first
    omega
  · have last := ended .consumer consumer
    have first := waits .producer producer
    simp only [taken] at first
    omega
  · have one := waits .producer producer
    have other := waits .consumer consumer
    simp only [taken] at one other
    omega

/-- After both threads have finished, the semaphores and the counter have their first values. -/
theorem main_end (positive : 1 ≤ maxBuf) {state : State Role}
    (reached : (mainSystem maxBuf nloops).Reachable state)
    (finished : ∀ thread, (state.thread thread).point = .finished) :
    (state.sem .emptySem).sval = maxBuf ∧ (state.sem .fullSem).sval = 0 ∧
      (state.sem .mutexSem).sval = 1 ∧ state.buffer.counter = 0 := by
  have holds := reachable_invariant positive reached
  have linked := holds.linked
  obtain ⟨owner, queue, stored⟩ := holds.stored
  have before (site : Point) (thread : Role) : state.past site thread = false :=
    past_silent (silent_of_shape (Or.inl (finished thread))).1 site
      (by rw [finished thread]; exact Nat.zero_le _)
  have visited (role : Role) (site : Point) : state.visited (only role) site = nloops := by
    rw [visited_main linked role site (before site)]
    exact (linked.bounded role).ended (finished role)
  have empty := linked.emptySem.1
  have full := linked.fullSem.1
  have mutex := linked.mutex.1
  have produced := holds.counted.produced
  have consumed := holds.counted.consumed
  have length := stored.length
  rw [visited, visited] at empty full
  rw [← visited_access, visited] at produced consumed
  have nobody : state.holders all .waitMutex .postMutex = 0 := by
    apply tally_eq_zero
    intro thread
    simp [State.between, before]
  have settled : state.settled maxBuf owner = state.buffer := by
    cases owner with
    | none => rfl
    | some thread => simp [State.settled, Local.settle, finished]
  have counter := stored.represents.counter
  rw [settled] at counter
  refine ⟨?_, ?_, ?_, ?_⟩ <;> omega

end Main

/-- These are the properties of each reachable state of the program with any threads. -/
structure Safe {Thread : Type} [Fintype Thread] (maxBuf : Nat) (state : State Thread) : Prop where
  slots : (state.sem .emptySem).sval + (state.sem .fullSem).sval +
    (Finset.univ.filter fun thread => (state.thread thread).role = .producer ∧
      state.between .waitSlot .postSlot thread = true).card +
    (Finset.univ.filter fun thread => (state.thread thread).role = .consumer ∧
      state.between .waitSlot .postSlot thread = true).card = maxBuf
  mutexValue : (state.sem .mutexSem).sval = 0 ∨ (state.sem .mutexSem).sval = 1
  mutexHolder : ∀ one other, state.between .waitMutex .postMutex one = true →
    state.between .waitMutex .postMutex other = true → one = other
  writes : ∀ thread, (state.thread thread).point = .access →
    (state.thread thread).role = .producer → state.filled state.buffer.inIndex = false
  reads : ∀ thread, (state.thread thread).point = .access →
    (state.thread thread).role = .consumer → state.filled state.buffer.outIndex = true
  ordered : state.consumed <+: state.produced

/-- Each reachable state is safe. -/
theorem reachable_safe {Thread : Type} [DecidableEq Thread] [Fintype Thread] {maxBuf nloops : Nat}
    {role : Thread → Role} (positive : 1 ≤ maxBuf) {state : State Thread}
    (reached : (system maxBuf nloops role).Reachable state) : Safe maxBuf state := by
  have holds := reachable_invariant positive reached
  have linked := holds.linked
  obtain ⟨owner, queue, stored⟩ := holds.stored
  have length := stored.length
  have mutex := linked.mutex
  have cards (each : Role) : state.holders (only each) .waitSlot .postSlot =
      (Finset.univ.filter fun thread => (state.thread thread).role = each ∧
        state.between .waitSlot .postSlot thread = true).card := by
    rw [State.holders, tally_eq_card]
    simp only [only, Bool.and_eq_true, decide_eq_true_eq]
  refine ⟨?_, by omega, linked.alone, ?_, ?_, ⟨queue, stored.split.symm⟩⟩
  · rw [← cards, ← cards]
    exact linked.slots
  · intro thread here isProducer
    have room := linked.room holds.counted thread here isProducer
    have represents := stored.represents
    have filled := stored.filled state.buffer.inIndex
    rw [stored.plain here] at represents filled
    rw [represents.inPlace] at filled ⊢
    exact Bool.eq_false_iff.mpr fun full =>
      RingBuffer.not_occupied_last maxBuf _ queue.length (by omega) (filled.mp full)
  · intro thread here isConsumer
    have stock := linked.stock holds.counted thread here isConsumer
    have represents := stored.represents
    have filled := stored.filled state.buffer.outIndex
    rw [stored.plain here] at represents filled
    exact filled.mpr ⟨0, by omega, (Nat.mod_eq_of_lt represents.outRange).symm⟩

/-- Each reachable state is safe, and the two threads of `main` run to the end without a deadlock. -/
theorem keepsSlots (maxBuf nloops : Nat) (positive : 1 ≤ maxBuf) :
    (∀ (Thread : Type) [DecidableEq Thread] [Fintype Thread] (role : Thread → Role)
      (state : State Thread), (system maxBuf nloops role).Reachable state → Safe maxBuf state) ∧
    (∀ state : State Role, (mainSystem maxBuf nloops).Reachable state →
      ((∃ thread, (state.thread thread).point ≠ .finished) →
        ¬ (mainSystem maxBuf nloops).Stuck (fun label => label.isSpurious = false) state) ∧
      ((∀ thread, (state.thread thread).point = .finished) →
        (state.sem .emptySem).sval = maxBuf ∧ (state.sem .fullSem).sval = 0 ∧
          (state.sem .mutexSem).sval = 1 ∧ state.buffer.counter = 0)) := by
  refine ⟨fun Thread _ _ role state reached => reachable_safe positive reached, ?_⟩
  intro state reached
  refine ⟨?_, main_end positive reached⟩
  rintro ⟨thread, unfinished⟩ stuck
  exact unfinished (main_progress positive reached stuck thread)

/-- A thread makes a call that finds the semaphore free, where the body is the operation's own steps. -/
def callLabels (name : SemName) (thread : Role) (second : Semlib2.Label Role) : List (Label Role) :=
  [.call thread, .inside name (.advance thread), .inside name second,
    .inside name (.advance thread), .inside name (.advance thread), .ret thread 0]

/-- A thread runs through one iteration and leaves the loop. -/
def iterationLabels (thread : Role) (access : Label Role) : List (Label Role) :=
  [.advance thread] ++ callLabels (taken thread) thread (.advance thread) ++
    callLabels .mutexSem thread (.advance thread) ++
    [access, .advance thread, .advance thread] ++
    callLabels .mutexSem thread (.signal thread none) ++
    callLabels (given thread) thread (.signal thread none) ++ [.advance thread]

/-- The producer and then the consumer run through one iteration over one slot. -/
theorem keepsSlots_run : ∃ state : State Role, Safe 1 state ∧ state.consumed = [⟨70000⟩] ∧
    (state.sem .emptySem).sval = 1 ∧ (state.sem .fullSem).sval = 0 ∧
      (state.sem .mutexSem).sval = 1 ∧ state.buffer.counter = 0 := by
  let sem (name : SemName) : Semlib2.State Role :=
    ⟨initialValue 1 name, none, fun _ => .outside, 0, 0, fun _ => 0⟩
  obtain ⟨state, reached, facts⟩ := (mainSystem 1 1).exists_reachable
    ⟨.zero, sem, fun thread => ⟨thread, .loop, 0⟩, [], [], fun _ => false⟩ ⟨fun _ => rfl, rfl⟩
    (iterationLabels .producer (.produce .producer 70000) ++
      iterationLabels .consumer (.advance .consumer))
    (fun state => decide ((∀ thread, (state.thread thread).point = .finished) ∧
      state.consumed = [⟨70000⟩])) (by decide)
  simp only [decide_eq_true_eq] at facts
  have positive : 1 ≤ 1 := by decide
  exact ⟨state, (keepsSlots 1 1 positive).1 Role id state reached, facts.2,
    ((keepsSlots 1 1 positive).2 state reached).2 facts.1⟩

end ProdconsS
