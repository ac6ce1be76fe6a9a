import LinuxSystemProgramming.Proof.ProducerS.Accounts
import LinuxSystemProgramming.Library.RingBuffer

namespace ProducerS
open Transition Semlib BoundedBuffer

/-- The number of times that a process has accessed the buffer. -/
def Local.accesses (view : Local) : Nat :=
  match view.point with
  | .advance | .count | .postMutex | .postSlot => view.i + 1
  | _ => view.i

/-- The number of times that a process has advanced its index. -/
def Local.advances (view : Local) : Nat :=
  match view.point with
  | .count | .postMutex | .postSlot => view.i + 1
  | _ => view.i

/-- The slots between the accesses of the two processes hold the items that are not consumed yet. -/
structure Queued (maxBuf : Nat) (state : State) (queue : List ItemType) : Prop where
  produced : state.produced.length = (state.view .producer).accesses
  consumed : state.consumed.length = (state.view .consumer).accesses
  inIndex : state.buffer.inIndex = (state.view .producer).advances % maxBuf
  outIndex : state.buffer.outIndex = (state.view .consumer).advances % maxBuf
  split : state.produced = state.consumed ++ queue
  slots : RingBuffer.Holds maxBuf state.buffer.buf state.consumed.length queue

/-- A loop variable below the bound belongs to each iteration, and the loop ends with the bound. -/
def Local.Within (nloops : Nat) (view : Local) : Prop :=
  view.i ≤ nloops ∧
    match view.point with
    | .waitSlot | .waitMutex | .access | .advance | .count | .postMutex | .postSlot =>
        view.i < nloops
    | .finished | .semDestroy _ | .remove | .exit => view.i = nloops
    | _ => True

section Steps
variable {maxBuf nloops : Nat} {state later : State} {queue : List ItemType}

/-- A move without an access or an advance keeps the queue. -/
theorem Queued.move (queued : Queued maxBuf state queue) (role : Role) (view : Local)
    (accesses : view.accesses = (state.view role).accesses)
    (advances : view.advances = (state.view role).advances)
    (moved : later.view = Function.update state.view role view)
    (produced : later.produced = state.produced) (consumed : later.consumed = state.consumed)
    (buf : later.buffer.buf = state.buffer.buf)
    (inIndex : later.buffer.inIndex = state.buffer.inIndex)
    (outIndex : later.buffer.outIndex = state.buffer.outIndex) : Queued maxBuf later queue := by
  have accessed (other : Role) : (later.view other).accesses = (state.view other).accesses := by
    rw [moved]
    by_cases own : other = role
    · subst own
      rw [Function.update_self, accesses]
    · rw [Function.update_of_ne own]
  have advanced (other : Role) : (later.view other).advances = (state.view other).advances := by
    rw [moved]
    by_cases own : other = role
    · subst own
      rw [Function.update_self, advances]
    · rw [Function.update_of_ne own]
  refine ⟨?_, ?_, ?_, ?_, ?_, ?_⟩
  · rw [produced, accessed, queued.produced]
  · rw [consumed, accessed, queued.consumed]
  · rw [inIndex, advanced, queued.inIndex]
  · rw [outIndex, advanced, queued.outIndex]
  · rw [produced, consumed, queued.split]
  · rw [buf, consumed]
    exact queued.slots

/-- The queue is as long as the difference between the two sequences. -/
theorem Queued.length (queued : Queued maxBuf state queue) :
    (state.view .producer).accesses = (state.view .consumer).accesses + queue.length := by
  rw [← queued.produced, ← queued.consumed, queued.split, List.length_append]

/-- The producer appends its item to a queue with room. -/
theorem Queued.store (queued : Queued maxBuf state queue) (data : Int)
    (here : (state.view .producer).point = .access) (room : queue.length < maxBuf) :
    Queued maxBuf (state.store data) (queue ++ [⟨data⟩]) := by
  have length := queued.length
  have produced := queued.produced
  have consumed := queued.consumed
  have inIndex := queued.inIndex
  have stored : (state.view .producer).accesses = (state.view .producer).i := by
    simp [Local.accesses, here]
  have advanced : (state.view .producer).advances = (state.view .producer).i := by
    simp [Local.advances, here]
  refine ⟨?_, ?_, ?_, ?_, ?_, ?_⟩
  · simp [State.store, State.goto, State.setView, Local.goto, Local.accesses] at produced stored ⊢
    omega
  · simpa [State.store, State.goto, State.setView] using consumed
  · have start := inIndex
    rw [advanced] at start
    simpa [State.store, State.goto, State.setView, Local.goto, Local.advances,
      BoundedBufferType.store] using start
  · simpa [State.store, State.goto, State.setView, BoundedBufferType.store] using queued.outIndex
  · simp [State.store, State.goto, State.setView, queued.split]
  · have pushed := queued.slots.push room ⟨data⟩
    have position : state.consumed.length + queue.length = (state.view .producer).advances := by
      omega
    rw [position, ← inIndex] at pushed
    exact pushed

/-- The consumer removes the first item of a queue with stock. -/
theorem Queued.load (queued : Queued maxBuf state queue)
    (here : (state.view .consumer).point = .access) (stock : 0 < queue.length) :
    ∃ rest, Queued maxBuf state.load rest := by
  obtain ⟨item, rest, rfl⟩ := List.exists_cons_of_length_pos stock
  have loaded : (state.view .consumer).accesses = (state.view .consumer).i := by
    simp [Local.accesses, here]
  have advanced : (state.view .consumer).advances = (state.view .consumer).i := by
    simp [Local.advances, here]
  have consumed := queued.consumed
  have first := queued.slots.head
  have item' : state.buffer.load = item := by
    rw [BoundedBufferType.load, queued.outIndex, advanced, ← loaded, ← consumed]
    exact first
  refine ⟨rest, ?_, ?_, ?_, ?_, ?_, ?_⟩
  · simpa [State.load, State.goto, State.setView] using queued.produced
  · simp [State.load, State.goto, State.setView, Local.goto, Local.accesses] at consumed loaded ⊢
    omega
  · simpa [State.load, State.goto, State.setView] using queued.inIndex
  · have start := queued.outIndex
    rw [advanced] at start
    simpa [State.load, State.goto, State.setView, Local.goto, Local.advances] using start
  · simp [State.load, State.goto, State.setView, queued.split, item']
  · have tail := (RingBuffer.holds_mod _ _ _ _).mp queued.slots.tail
    simpa [State.load, State.goto, State.setView] using tail

/-- A process that advances its index keeps the queue. -/
theorem Queued.advance (queued : Queued maxBuf state queue) (role : Role)
    (here : (state.view role).point = .advance) :
    Queued maxBuf (state.advanceIndex maxBuf role) queue := by
  have inIndex := queued.inIndex
  have outIndex := queued.outIndex
  cases role with
  | producer =>
      refine ⟨?_, ?_, ?_, ?_, queued.split, queued.slots⟩
      · simpa [State.advanceIndex, State.goto, State.setView, Local.goto, Local.accesses, here] using
          queued.produced
      · simpa [State.advanceIndex, State.goto, State.setView] using queued.consumed
      · simp [Local.advances, here] at inIndex
        simp [State.advanceIndex, State.goto, State.setView, Local.goto, Local.advances,
          Role.advance, BoundedBufferType.advanceIn, inIndex]
      · simpa [State.advanceIndex, State.goto, State.setView, Role.advance,
          BoundedBufferType.advanceIn] using outIndex
  | consumer =>
      refine ⟨?_, ?_, ?_, ?_, queued.split, queued.slots⟩
      · simpa [State.advanceIndex, State.goto, State.setView] using queued.produced
      · simpa [State.advanceIndex, State.goto, State.setView, Local.goto, Local.accesses, here] using
          queued.consumed
      · simpa [State.advanceIndex, State.goto, State.setView, Role.advance,
          BoundedBufferType.advanceOut] using inIndex
      · simp [Local.advances, here] at outIndex
        simp [State.advanceIndex, State.goto, State.setView, Local.goto, Local.advances,
          Role.advance, BoundedBufferType.advanceOut, outIndex]

/-- A call keeps the accesses and the advances of its process. -/
theorem accesses_succeed {view : Local} {role : Role} {key : Key} {operation : Operation}
    (site : view.calls maxBuf role = some (key, operation)) :
    view.succeed.accesses = view.accesses ∧ view.succeed.advances = view.advances := by
  obtain ⟨point, i⟩ := view
  cases point with
  | semInitValue key => cases key <;> exact ⟨rfl, rfl⟩
  | waitSlot | waitMutex | postMutex | postSlot => exact ⟨rfl, rfl⟩
  | _ => cases site

/-- A statement keeps the order of the items when the accesses find room and stock. -/
theorem queued_step (queued : Queued maxBuf state queue) {label : Label}
    (runs : label.runs = true)
    (made : ∀ role key, (state.view role).created key → (state.sem key).isSome)
    (room : (state.view .producer).point = .access → queue.length < maxBuf)
    (stock : (state.view .consumer).point = .access → 0 < queue.length)
    (step : Step maxBuf nloops state label later) : ∃ queue, Queued maxBuf later queue := by
  cases step with
  | create role key here =>
      obtain ⟨point, moved, opens, _⟩ := create_view state role key
      refine ⟨queue, queued.move role _ ?_ ?_ moved rfl rfl rfl rfl rfl⟩
      · cases point <;> simp [Point.opening] at opens <;> simp [Local.accesses, Local.goto, here]
      · cases point <;> simp [Point.opening] at opens <;> simp [Local.advances, Local.goto, here]
  | enter role here more | finish role here done =>
      exact ⟨queue, queued.move role _ (by simp [Local.accesses, Local.goto, here])
        (by simp [Local.advances, Local.goto, here]) rfl rfl rfl rfl rfl rfl⟩
  | store data here => exact ⟨_, queued.store data here (room here)⟩
  | load here => exact queued.load here (stock here)
  | advance role here => exact ⟨queue, queued.advance role here⟩
  | count role here =>
      refine ⟨queue, queued.move role _ (by simp [Local.accesses, Local.goto, here])
        (by simp [Local.advances, Local.goto, here]) rfl rfl rfl ?_ ?_ ?_⟩ <;> cases role <;> rfl
  | call role key operation sem site operated =>
      obtain ⟨accesses, advances⟩ := accesses_succeed site
      exact ⟨queue, queued.move role _ accesses advances rfl rfl rfl rfl rfl rfl⟩
  | fail role key operation site operated =>
      have present := made role key (created_of_calls site key)
      rw [removed_of_operate operated] at present
      cases present
  | wake here => cases runs
  | destroy key here => cases runs
  | remove here => cases runs
  | terminate role running sound => cases runs

/-- A call keeps the loop variable within its bounds. -/
theorem within_succeed {view : Local} (within : view.Within nloops) :
    view.succeed.Within nloops := by
  obtain ⟨point, i⟩ := view
  obtain ⟨bound, inside⟩ := within
  cases point with
  | semInitValue key => cases key <;> exact ⟨bound, trivial⟩
  | postSlot => exact ⟨inside, trivial⟩
  | _ => exact ⟨bound, inside⟩

/-- A statement of the loops keeps the loop variables within their bounds. -/
theorem within_step {label : Label} (runs : label.runs = true)
    (within : ∀ role, (state.view role).Within nloops)
    (step : Step maxBuf nloops state label later) (role : Role) :
    (later.view role).Within nloops := by
  obtain ⟨view, moved, move⟩ := local_of_step runs step
  rw [moved]
  refine (Function.forall_update_iff state.view fun _ view => view.Within nloops).mpr
    ⟨?_, fun role _ => within role⟩ role
  have inside := within label.mover
  cases move with
  | create key point here opens =>
      cases point <;> first | exact ⟨inside.1, trivial⟩ | cases opens
  | enter here more => exact ⟨inside.1, more⟩
  | finish here done => exact ⟨inside.1, Nat.le_antisymm inside.1 (Nat.le_of_not_lt done)⟩
  | access here | advance here | count here =>
      rw [Local.Within, here] at inside
      exact inside
  | call key operation site => exact within_succeed inside
  | fail key operation site missing => exact ⟨inside.1, trivial⟩

end Steps

end ProducerS
