import LinuxSystemProgramming.Proof.ProdconsS.Slots
import LinuxSystemProgramming.Proof.BoundedBuffer

namespace ProdconsS
open Transition Monitor Tally BoundedBuffer

variable {Thread : Type} [DecidableEq Thread]

/-- A thread at these points is inside the statements on the buffer. -/
def Local.inside (view : Local) : Bool :=
  match view.point with
  | .access | .advance | .count => true
  | _ => false

/-- The number of buffer accesses that a thread of a role has made. -/
def Local.accesses (role : Role) (view : Local) : Nat :=
  if view.role = role then view.passed .access else 0

/-- The sequences count the accesses of their roles. -/
structure Counted [Fintype Thread] (state : State Thread) : Prop where
  produced : state.produced.length = total (Local.accesses .producer) state.thread
  consumed : state.consumed.length = total (Local.accesses .consumer) state.thread

/-- This function completes the statements that a thread still has to execute on the buffer. -/
def Local.settle (maxBuf : Nat) (view : Local) (buffer : BoundedBufferType) : BoundedBufferType :=
  match view.point with
  | .advance => view.role.count (view.role.advance maxBuf buffer)
  | .count => view.role.count buffer
  | _ => buffer

/-- The settled buffer is the buffer after the thread inside completes its statements. -/
def State.settled (maxBuf : Nat) (state : State Thread) : Option Thread → BoundedBufferType
  | none => state.buffer
  | some owner => (state.thread owner).settle maxBuf state.buffer

/-- One thread at most is inside, and the settled buffer holds the items that no thread has consumed. -/
structure Stored (maxBuf : Nat) (state : State Thread) (owner : Option Thread)
    (queue : List ItemType) : Prop where
  owned : Exclusive owner Local.inside state.thread
  split : state.produced = state.consumed ++ queue
  represents : Represents maxBuf (state.settled maxBuf owner) queue
  filled : ∀ slot, state.filled slot = true ↔
    RingBuffer.Occupied maxBuf (state.settled maxBuf owner).outIndex queue.length slot

section Counts
variable [Fintype Thread] {maxBuf nloops : Nat} {role : Thread → Role}

/-- A thread's new view keeps the counts when the sequences grow by its new accesses. -/
theorem Counted.update {state later : State Thread} (counted : Counted state) (thread : Thread)
    (view : Local) (moved : later.thread = Function.update state.thread thread view)
    (produced : later.produced.length + (state.thread thread).accesses .producer =
      state.produced.length + view.accesses .producer)
    (consumed : later.consumed.length + (state.thread thread).accesses .consumer =
      state.consumed.length + view.accesses .consumer) : Counted later where
  produced := by
    rw [moved]
    exact total_follow counted.produced thread view produced
  consumed := by
    rw [moved]
    exact total_follow counted.consumed thread view consumed

/-- A successful call makes no access. -/
theorem accesses_succeed (view : Local) {name : SemName} {operation : Semlib2.Operation}
    (calls : view.calls = some (name, operation)) (role : Role) :
    view.succeed.accesses role = view.accesses role := by
  obtain ⟨own, point, i⟩ := view
  cases point <;> simp only [Local.calls, reduceCtorEq] at calls <;>
    simp [Local.succeed, Local.goto, Local.accesses, Local.passed, Point.order]

/-- Each step keeps the counts. -/
theorem counted_step {state later : State Thread} {label : Label Thread}
    (linked : Linked maxBuf nloops role state) (counted : Counted state)
    (step : Step maxBuf nloops state label later) : Counted later := by
  cases step with
  | enter thread here _ | finish thread here _ =>
      exact counted.update thread _ rfl
        (by simp [State.setView, Local.accesses, Local.passed, Local.goto, here, Point.order])
        (by simp [State.setView, Local.accesses, Local.passed, Local.goto, here, Point.order])
  | store thread data here isProducer =>
      refine counted.update thread ((state.thread thread).goto .advance) rfl ?_ ?_
      · simp [State.store, Local.accesses, Local.passed, Local.goto, here, isProducer, Point.order]
        omega
      · simp [State.store, State.setView, Local.accesses, Local.goto, isProducer]
  | load thread here isConsumer =>
      refine counted.update thread ((state.thread thread).goto .advance) rfl ?_ ?_
      · simp [State.load, State.setView, Local.accesses, Local.goto, isConsumer]
      · simp [State.load, Local.accesses, Local.passed, Local.goto, here, isConsumer, Point.order]
        omega
  | advance thread here =>
      exact counted.update thread ((state.thread thread).goto .count) rfl
        (by simp [State.advanceIndex, State.setView, Local.accesses, Local.passed, Local.goto, here,
          Point.order])
        (by simp [State.advanceIndex, State.setView, Local.accesses, Local.passed, Local.goto, here,
          Point.order])
  | count thread here =>
      exact counted.update thread ((state.thread thread).goto .postMutex) rfl
        (by simp [State.changeCounter, State.setView, Local.accesses, Local.passed, Local.goto, here,
          Point.order])
        (by simp [State.changeCounter, State.setView, Local.accesses, Local.passed, Local.goto, here,
          Point.order])
  | call | inside => exact ⟨counted.produced, counted.consumed⟩
  | ret thread result name operation sem calls taken =>
      have success := (linked.serves name).result calls (Semlib2.ret_next taken).1
      subst success
      refine counted.update thread (state.thread thread).succeed rfl ?_ ?_
      · rw [accesses_succeed _ calls]
        rfl
      · rw [accesses_succeed _ calls]
        rfl

omit [DecidableEq Thread] in
/-- The accesses of a role are the effects at its access. -/
theorem visited_access (state : State Thread) (role : Role) :
    state.visited (only role) .access = total (Local.accesses role) state.thread := by
  apply Finset.sum_congr rfl
  intro thread _
  have silent : (state.thread thread).point = .access → state.effected thread = false := by
    intro here
    simp [State.effected, Local.calls, here]
  simp only [State.visits, only, decide_eq_true_eq, Local.accesses, Local.passed, State.past]
  by_cases here : (state.thread thread).point = .access
  · simp [here, silent here]
  · simp [here]

omit [DecidableEq Thread] [Fintype Thread] in
/-- A thread at its access holds a slot of its role and has not used it yet. -/
theorem between_access (state : State Thread) (thread : Thread)
    (here : (state.thread thread).point = .access) :
    state.between .waitSlot .access thread = true := by
  simp [State.between, State.past, State.effected, Local.calls, here, Point.order]

/-- A producer at its access finds a free slot. -/
theorem Linked.room {state : State Thread} (linked : Linked maxBuf nloops role state)
    (counted : Counted state) (thread : Thread) (here : (state.thread thread).point = .access)
    (isProducer : (state.thread thread).role = .producer) :
    state.produced.length < maxBuf + state.consumed.length := by
  have produced := counted.produced
  have consumed := counted.consumed
  rw [← visited_access] at produced consumed
  have taken := visited_lt state (only .producer) .waitSlot .access (by decide)
    thread (by simp [only, isProducer]) (between_access state thread here)
  have given := visited_le state (only .consumer) .access .postSlot (by decide)
  have empty := linked.emptySem
  omega

/-- A consumer at its access finds a filled slot. -/
theorem Linked.stock {state : State Thread} (linked : Linked maxBuf nloops role state)
    (counted : Counted state) (thread : Thread) (here : (state.thread thread).point = .access)
    (isConsumer : (state.thread thread).role = .consumer) :
    state.consumed.length < state.produced.length := by
  have produced := counted.produced
  have consumed := counted.consumed
  rw [← visited_access] at produced consumed
  have taken := visited_lt state (only .consumer) .waitSlot .access (by decide)
    thread (by simp [only, isConsumer]) (between_access state thread here)
  have given := visited_le state (only .producer) .access .postSlot (by decide)
  have full := linked.fullSem
  omega

end Counts

section Slots
variable {maxBuf : Nat} {state later : State Thread} {owner : Option Thread} {queue : List ItemType}

/-- A move outside the statements on the buffer keeps the stored items. -/
theorem Stored.outside (stored : Stored maxBuf state owner queue) (thread : Thread) (view : Local)
    (moved : later.thread = Function.update state.thread thread view)
    (buffer : later.buffer = state.buffer) (produced : later.produced = state.produced)
    (consumed : later.consumed = state.consumed) (filled : later.filled = state.filled)
    (before : (state.thread thread).inside = false) (after : view.inside = false) :
    Stored maxBuf later owner queue := by
  have settled : later.settled maxBuf owner = state.settled maxBuf owner := by
    cases owner with
    | none => exact buffer
    | some holder =>
        have different : holder ≠ thread := fun same =>
          stored.owned.not_owner before (by rw [same])
        simp only [State.settled, moved, Function.update_of_ne different, buffer]
  refine ⟨?_, ?_, ?_, ?_⟩
  · rw [moved]
    exact stored.owned.keep thread view (by rw [before, after])
  · rw [produced, consumed]
    exact stored.split
  · rw [settled]
    exact stored.represents
  · rw [settled, filled]
    exact stored.filled

omit [DecidableEq Thread] in
/-- A thread inside is the owner. -/
theorem Stored.holds (stored : Stored maxBuf state owner queue) (thread : Thread)
    (inside : (state.thread thread).inside = true) : owner = some thread :=
  (stored.owned thread).mp inside

omit [DecidableEq Thread] in
/-- A thread at its access has not changed the buffer yet. -/
theorem Stored.plain (stored : Stored maxBuf state owner queue) {thread : Thread}
    (here : (state.thread thread).point = .access) :
    state.settled maxBuf owner = state.buffer := by
  rw [stored.holds thread (by simp [Local.inside, here])]
  simp [State.settled, Local.settle, here]

omit [DecidableEq Thread] in
/-- The queue is as long as the difference between the two sequences. -/
theorem Stored.length (stored : Stored maxBuf state owner queue) :
    state.produced.length = state.consumed.length + queue.length := by
  rw [stored.split, List.length_append]

/-- A producer with room appends its item and fills its slot. -/
theorem Stored.store (stored : Stored maxBuf state owner queue) (thread : Thread) (data : Int)
    (here : (state.thread thread).point = .access)
    (isProducer : (state.thread thread).role = .producer) (room : queue.length < maxBuf) :
    Stored maxBuf (state.store thread data) owner (queue ++ [⟨data⟩]) := by
  have holds := stored.holds thread (by simp [Local.inside, here])
  have plain := stored.plain here
  have represents := stored.represents
  have filled := stored.filled
  rw [plain] at represents filled
  have notFull : state.buffer.counter ≠ maxBuf := by
    have counter := represents.counter
    omega
  have settled : (state.store thread data).settled maxBuf owner =
      ((state.buffer.store data).advanceIn maxBuf).countUp := by
    simp [holds, State.settled, State.store, State.setView, Local.settle, Local.goto, isProducer,
      Role.advance, Role.count]
  refine ⟨?_, ?_, ?_, ?_⟩
  · exact stored.owned.keep thread _ (by simp [Local.inside, Local.goto, here])
  · simp only [State.store, State.setView, stored.split, List.append_assoc]
  · rw [settled]
    exact represents.put notFull data
  · intro slot
    rw [settled, List.length_append, List.length_singleton, RingBuffer.occupied_push]
    simp only [State.store, BoundedBufferType.countUp, BoundedBufferType.advanceIn,
      BoundedBufferType.store]
    rw [← filled slot, ← represents.inPlace]
    by_cases same : slot = state.buffer.inIndex
    · simp [same]
    · simp [same]

/-- A consumer with stock removes the first item and empties its slot. -/
theorem Stored.load (stored : Stored maxBuf state owner queue) (thread : Thread)
    (here : (state.thread thread).point = .access)
    (isConsumer : (state.thread thread).role = .consumer) (stock : 0 < queue.length) :
    ∃ rest, Stored maxBuf (state.load thread) owner rest := by
  have holds := stored.holds thread (by simp [Local.inside, here])
  have plain := stored.plain here
  have represents := stored.represents
  have filled := stored.filled
  rw [plain] at represents filled
  obtain ⟨item, rest, rfl⟩ := List.exists_cons_of_length_pos stock
  have settled : (state.load thread).settled maxBuf owner =
      (state.buffer.advanceOut maxBuf).countDown := by
    simp [holds, State.settled, State.load, State.setView, Local.settle, Local.goto, isConsumer,
      Role.advance, Role.count]
  refine ⟨rest, ?_, ?_, ?_, ?_⟩
  · exact stored.owned.keep thread _ (by simp [Local.inside, Local.goto, here])
  · simp only [State.load, State.setView, stored.split, represents.load, List.append_assoc,
      List.singleton_append]
  · rw [settled]
    exact represents.take
  · intro slot
    have space : rest.length < maxBuf := by
      have room := represents.room
      simp only [List.length_cons] at room
      omega
    rw [settled]
    simp only [State.load, BoundedBufferType.countDown, BoundedBufferType.advanceOut]
    rw [RingBuffer.occupied_pop maxBuf _ rest.length slot space, Nat.mod_eq_of_lt represents.outRange,
      ← List.length_cons (a := item), ← filled slot]
    by_cases same : slot = state.buffer.outIndex
    · simp [same]
    · simp [same]

/-- A statement on an index or the counter leaves the settled buffer as it is. -/
theorem Stored.continues (stored : Stored maxBuf state owner queue) (thread : Thread)
    (here : (state.thread thread).point = .advance) :
    Stored maxBuf (state.advanceIndex maxBuf thread) owner queue := by
  have holds := stored.holds thread (by simp [Local.inside, here])
  have settled : (state.advanceIndex maxBuf thread).settled maxBuf owner =
      state.settled maxBuf owner := by
    simp [holds, State.settled, State.advanceIndex, State.setView, Local.settle, Local.goto, here]
  refine ⟨?_, stored.split, ?_, ?_⟩
  · exact stored.owned.keep thread _ (by simp [Local.inside, Local.goto, here])
  · rw [settled]
    exact stored.represents
  · rw [settled]
    exact stored.filled

/-- The last statement on the buffer leaves no thread inside. -/
theorem Stored.ends (stored : Stored maxBuf state owner queue) (thread : Thread)
    (here : (state.thread thread).point = .count) :
    Stored maxBuf (state.changeCounter thread) none queue := by
  have holds := stored.holds thread (by simp [Local.inside, here])
  have settled : (state.changeCounter thread).settled maxBuf none = state.settled maxBuf owner := by
    simp [holds, State.settled, State.changeCounter, Local.settle, here]
  refine ⟨?_, stored.split, ?_, ?_⟩
  · exact stored.owned.release thread _ (by simp [Local.inside, here]) rfl
  · rw [settled]
    exact stored.represents
  · rw [settled]
    exact stored.filled

/-- A thread that passes the wait on the mutex is inside alone. -/
theorem Stored.enters (stored : Stored maxBuf state none queue) (thread : Thread) :
    Stored maxBuf (state.setView thread ((state.thread thread).goto .access)) (some thread) queue := by
  have settled : (state.setView thread ((state.thread thread).goto .access)).settled maxBuf
      (some thread) = state.settled maxBuf none := by
    simp [State.settled, State.setView, Local.settle, Local.goto]
  refine ⟨?_, stored.split, ?_, ?_⟩
  · exact stored.owned.acquire thread _ rfl
  · rw [settled]
    exact stored.represents
  · rw [settled]
    exact stored.filled

end Slots

section Steps
variable [Fintype Thread] {maxBuf nloops : Nat} {role : Thread → Role}

omit [DecidableEq Thread] [Fintype Thread] in
/-- A thread inside holds the mutex. -/
theorem between_inside (state : State Thread) (thread : Thread)
    (inside : (state.thread thread).inside = true) :
    state.between .waitMutex .postMutex thread = true := by
  cases here : (state.thread thread).point <;> simp [Local.inside, here] at inside <;>
    simp [State.between, State.past, here, Point.order]

omit [DecidableEq Thread] [Fintype Thread] in
/-- A step of one semaphore keeps the stored items. -/
theorem Stored.setSem {state : State Thread} {owner : Option Thread} {queue : List ItemType}
    (stored : Stored maxBuf state owner queue) (name : SemName) (sem : Semlib2.State Thread) :
    Stored maxBuf (state.setSem name sem) owner queue := by
  have settled : (state.setSem name sem).settled maxBuf owner = state.settled maxBuf owner := by
    cases owner <;> rfl
  exact ⟨stored.owned, stored.split, settled ▸ stored.represents, settled ▸ stored.filled⟩

/-- A return moves the thread outside the buffer, or into it with nobody else inside. -/
theorem stored_ret {state : State Thread} (linked : Linked maxBuf nloops role state)
    {owner : Option Thread} {queue : List ItemType} (stored : Stored maxBuf state owner queue)
    (thread : Thread) (name : SemName) (operation : Semlib2.Operation) (sem : Semlib2.State Thread)
    (calls : (state.thread thread).calls = some (name, operation))
    (here : (state.sem name).point thread = .returned operation 0) :
    ∃ owner queue, Stored maxBuf
      ((state.setSem name sem).setView thread (state.thread thread).succeed) owner queue := by
  have outside : (state.thread thread).inside = false := by
    cases point : (state.thread thread).point <;> simp [Local.calls, point] at calls <;>
      simp [Local.inside, point]
  by_cases waiting : (state.thread thread).point = .waitMutex
  · have effected : state.effected thread = true := by
      simp [State.effected, calls, here, Semlib2.Point.effected]
    have holding : state.between .waitMutex .postMutex thread = true := by
      simp [State.between, State.past, waiting, effected, Point.order]
    have vacant : owner = none := by
      cases holder : owner with
      | none => rfl
      | some other =>
          have inside := (stored.owned other).mpr holder
          have same := linked.alone other thread (between_inside state other inside) holding
          rw [same, outside] at inside
          cases inside
    subst vacant
    have entered : (state.thread thread).succeed = (state.thread thread).goto .access := by
      simp [Local.succeed, waiting]
    rw [entered]
    exact ⟨some thread, queue, (stored.setSem name sem).enters thread⟩
  · refine ⟨owner, queue, (stored.setSem name sem).outside thread _ rfl rfl rfl rfl rfl outside ?_⟩
    cases point : (state.thread thread).point <;>
      simp_all [Local.calls, Local.succeed, Local.inside, Local.goto]

/-- Each step keeps the stored items. -/
theorem stored_step {state later : State Thread} {label : Label Thread}
    (linked : Linked maxBuf nloops role state) (counted : Counted state) {owner : Option Thread}
    {queue : List ItemType} (stored : Stored maxBuf state owner queue)
    (step : Step maxBuf nloops state label later) :
    ∃ owner queue, Stored maxBuf later owner queue := by
  have length := stored.length
  cases step with
  | enter thread here _ | finish thread here _ =>
      exact ⟨owner, queue, stored.outside thread _ rfl rfl rfl rfl rfl
        (by simp [Local.inside, here]) rfl⟩
  | store thread data here isProducer =>
      have room := linked.room counted thread here isProducer
      exact ⟨owner, _, stored.store thread data here isProducer (by omega)⟩
  | load thread here isConsumer =>
      have stock := linked.stock counted thread here isConsumer
      exact ⟨owner, stored.load thread here isConsumer (by omega)⟩
  | advance thread here => exact ⟨owner, queue, stored.continues thread here⟩
  | count thread here => exact ⟨none, queue, stored.ends thread here⟩
  | call thread name operation sem calls taken => exact ⟨owner, queue, stored.setSem name sem⟩
  | inside name label sem internal taken => exact ⟨owner, queue, stored.setSem name sem⟩
  | ret thread result name operation sem calls taken =>
      have here := (Semlib2.ret_next taken).1
      have success := (linked.serves name).result calls here
      subst success
      exact stored_ret linked stored thread name operation sem calls here

/-- The invariant of the program joins the link, the counts, and the stored items. -/
structure Invariant (maxBuf nloops : Nat) (role : Thread → Role) (state : State Thread) : Prop where
  linked : Linked maxBuf nloops role state
  counted : Counted state
  stored : ∃ owner queue, Stored maxBuf state owner queue

/-- Every reachable state satisfies the invariant. -/
theorem reachable_invariant (positive : 1 ≤ maxBuf) {state : State Thread}
    (reached : (system maxBuf nloops role).Reachable state) :
    Invariant maxBuf nloops role state := by
  apply reached.invariant (Invariant maxBuf nloops role)
  · intro state start
    have linked := linked_initial start
    obtain ⟨_, shape⟩ := start
    refine ⟨linked, ?_, none, [], ?_⟩
    · rw [shape]
      constructor <;> symm <;> apply total_eq_zero <;> intro thread <;>
        simp [Local.accesses, Local.passed, Point.order]
    · rw [shape]
      refine ⟨fun thread => by simp [Local.inside], rfl, represents_zero maxBuf positive, ?_⟩
      intro slot
      simp [RingBuffer.not_occupied_zero]
  · intro state label later _ holds taken
    have step := step_of_next taken
    obtain ⟨owner, queue, stored⟩ := holds.stored
    exact ⟨linked_step holds.linked step, counted_step holds.linked holds.counted step,
      stored_step holds.linked holds.counted stored step⟩

end Steps

end ProdconsS
