/-
This file proves that the buffer is a queue in the runs in which the changes of the counter do not overlap.
-/

import LinuxSystemProgramming.Construction.ProdconsT
import LinuxSystemProgramming.Library.RingBuffer

namespace ProdconsT
open Transition BoundedBuffer
open ProdconsM (mustWait)

variable {maxBuf nloops : Nat} {state later : State} {label : Label}

/-- The thread has found its condition false. -/
def Point.passed : Point → Bool
  | .access | .advance | .read | .write _ => true
  | _ => false

/-- The thread has accessed the buffer in its current iteration. -/
def Point.accessed : Point → Bool
  | .advance | .read | .write _ => true
  | _ => false

/-- The thread has moved its index in its current iteration. -/
def Point.moved : Point → Bool
  | .read | .write _ => true
  | _ => false

/-- The number of buffer accesses that a thread has made. -/
def Local.accesses (view : Local) : Nat := view.i + view.point.accessed.toNat

/-- The number of times that a thread has moved its index. -/
def Local.moves (view : Local) : Nat := view.i + view.point.moved.toNat

/-- The loop variable stays within the loop bound and reaches it at the end of the loop. -/
structure Local.Bounded (nloops : Nat) (view : Local) : Prop where
  inside : view.i ≤ nloops
  body : view.point ≠ .loop → view.point ≠ .finished → view.i < nloops
  ended : view.point = .finished → view.i = nloops

/-- The counter is the difference of the completed iterations, and a register is up to date. -/
structure Counted (maxBuf nloops : Nat) (state : State) : Prop where
  bounded : ∀ role, (state.thread role).Bounded nloops
  counter : state.buffer.counter = (state.thread .producer).i - (state.thread .consumer).i
  low : (state.thread .consumer).i ≤ (state.thread .producer).i
  high : (state.thread .producer).i ≤ (state.thread .consumer).i + maxBuf
  room : (state.thread .producer).point.passed = true →
    (state.thread .producer).i < (state.thread .consumer).i + maxBuf
  stock : (state.thread .consumer).point.passed = true →
    (state.thread .consumer).i < (state.thread .producer).i
  register : ∀ role register, (state.thread role).point = .write register →
    register = state.buffer.counter
  alone : ∀ role, (state.thread role).point.writing = true →
    (state.thread role.other).point.writing = false

/-- The ring holds the items that are produced and not consumed. -/
structure Queued (maxBuf : Nat) (state : State) : Prop where
  produced : state.produced.length = (state.thread .producer).accesses
  consumed : state.consumed.length = (state.thread .consumer).accesses
  inPlace : state.buffer.inIndex = (state.thread .producer).moves % maxBuf
  outPlace : state.buffer.outIndex = (state.thread .consumer).moves % maxBuf
  queue : ∃ queue, state.produced = state.consumed ++ queue ∧
    RingBuffer.Holds maxBuf state.buffer.buf state.consumed.length queue

theorem Role.other_ne (role : Role) : role.other ≠ role := by
  cases role <;> nofun

theorem counted_start (maxBuf nloops : Nat) :
    Counted maxBuf nloops ⟨.zero, fun _ => ⟨.loop, 0⟩, [], []⟩ := by
  constructor
  all_goals simp [BoundedBufferType.zero, Point.passed, Point.writing]
  exact fun _ => ⟨Nat.zero_le _, by simp, by simp⟩

theorem queued_start (maxBuf : Nat) : Queued maxBuf ⟨.zero, fun _ => ⟨.loop, 0⟩, [], []⟩ where
  produced := rfl
  consumed := rfl
  inPlace := (Nat.zero_mod _).symm
  outPlace := (Nat.zero_mod _).symm
  queue := ⟨[], rfl, RingBuffer.Holds.nil _ _ _⟩

/-- A move that keeps the loop variable keeps the counts if it respects the condition and the register. -/
theorem Counted.goto (counted : Counted maxBuf nloops state) (role : Role) (point : Point)
    (moved : later.thread =
      Function.update state.thread role ((state.thread role).goto point))
    (same : later.buffer.counter = state.buffer.counter)
    (bounded : ((state.thread role).goto point).Bounded nloops)
    (passes : point.passed = true → (state.thread role).point.passed = true ∨
      mustWait maxBuf role state.buffer = false)
    (reads : ∀ register, point = .write register → register = state.buffer.counter ∧
      (state.thread role.other).point.writing = false) :
    Counted maxBuf nloops later := by
  have counter := counted.counter
  have low := counted.low
  have high := counted.high
  have writes (register : Int) (here : point = .write register) := reads register here
  constructor
  · rw [moved]
    exact (Function.forall_update_iff state.thread fun _ view => view.Bounded nloops).mpr
      ⟨bounded, fun other _ => counted.bounded other⟩
  · rw [moved, same, counter]
    cases role <;> simp [Local.goto]
  · rw [moved]
    cases role <;> simpa [Local.goto] using low
  · rw [moved]
    cases role <;> simpa [Local.goto] using high
  · rw [moved]
    cases role with
    | producer =>
        intro passed
        simp only [Function.update_self, Local.goto] at passed ⊢
        rcases passes passed with before | ready
        · simpa using counted.room before
        · have notFull : state.buffer.counter ≠ maxBuf := of_decide_eq_false ready
          simp only [ne_eq, reduceCtorEq, not_false_eq_true, Function.update_of_ne]
          omega
    | consumer =>
        intro passed
        simpa [Local.goto] using counted.room (by simpa using passed)
  · rw [moved]
    cases role with
    | producer =>
        intro passed
        simpa [Local.goto] using counted.stock (by simpa using passed)
    | consumer =>
        intro passed
        simp only [Function.update_self, Local.goto] at passed ⊢
        rcases passes passed with before | ready
        · simpa using counted.stock before
        · have notEmpty : state.buffer.counter ≠ 0 := of_decide_eq_false ready
          simp only [ne_eq, reduceCtorEq, not_false_eq_true, Function.update_of_ne]
          omega
  · rw [moved, same]
    intro other register
    by_cases own : other = role
    · subst own
      rw [Function.update_self]
      exact fun here => (reads register here).1
    · rw [Function.update_of_ne own]
      exact counted.register other register
  · rw [moved]
    intro other
    by_cases own : other = role
    · subst own
      rw [Function.update_self, Function.update_of_ne (Role.other_ne other)]
      intro writing
      cases point with
      | write register => exact (reads register rfl).2
      | _ => cases writing
    · have opposite : other.other = role := by cases other <;> cases role <;> trivial
      rw [Function.update_of_ne own, opposite, Function.update_self]
      intro writing
      cases point with
      | write register =>
          have idle := (reads register rfl).2
          have same : role.other = other := by cases other <;> cases role <;> trivial
          rw [same, writing] at idle
          cases idle
      | _ => rfl

/-- A thread inside the loop body stays bounded at each point of the body. -/
theorem Local.Bounded.goto {view : Local} (bounded : view.Bounded nloops) (point : Point)
    (body : view.point ≠ .loop) (open' : view.point ≠ .finished) (inside : point ≠ .finished) :
    (view.goto point).Bounded nloops where
  inside := bounded.inside
  body _ _ := bounded.body body open'
  ended finished := absurd finished inside

/-- After a write no thread is inside its change. -/
theorem Counted.quiet (counted : Counted maxBuf nloops state) {role : Role} {register : Int}
    (here : (state.thread role).point = .write register) (other : Role) :
    ((state.write role register).thread other).point.writing = false := by
  have idle := counted.alone role (by rw [here]; rfl)
  simp only [State.write]
  by_cases own : other = role
  · subst own
    rw [Function.update_self]
    rfl
  · have opposite : role.other = other := by cases other <;> cases role <;> trivial
    rw [Function.update_of_ne own, ← opposite, idle]

/-- A write completes an iteration of its thread. -/
theorem Counted.write (counted : Counted maxBuf nloops state) {role : Role} {register : Int}
    (here : (state.thread role).point = .write register) :
    Counted maxBuf nloops (state.write role register) := by
  have counter := counted.counter
  have same := counted.register role register here
  have quiet := counted.quiet here
  have body := (counted.bounded role).body (by rw [here]; nofun) (by rw [here]; nofun)
  have next : (⟨.loop, (state.thread role).i + 1⟩ : Local).Bounded nloops := ⟨body, by simp, nofun⟩
  have bounded : ∀ other, ((state.write role register).thread other).Bounded nloops :=
    (Function.forall_update_iff state.thread fun _ view => view.Bounded nloops).mpr
      ⟨next, fun other _ => counted.bounded other⟩
  have registers : ∀ other value, ((state.write role register).thread other).point = .write value →
      value = (state.write role register).buffer.counter := by
    intro other value writing
    have none := quiet other
    rw [writing] at none
    cases none
  have alone : ∀ other, ((state.write role register).thread other).point.writing = true →
      ((state.write role register).thread other.other).point.writing = false :=
    fun other _ => quiet other.other
  cases role with
  | producer =>
      have room := counted.room (by rw [here]; rfl)
      have low := counted.low
      refine ⟨bounded, ?_, ?_, ?_, ?_, ?_, registers, alone⟩
      · simp [State.write, Role.count, BoundedBufferType.countUp, same, counter]
        omega
      · simp [State.write]
        omega
      · simp [State.write]
        omega
      · simp [State.write, Point.passed]
      · intro passed
        have stock := counted.stock (by simpa [State.write] using passed)
        simp [State.write]
        omega
  | consumer =>
      have stock := counted.stock (by rw [here]; rfl)
      have high := counted.high
      refine ⟨bounded, ?_, ?_, ?_, ?_, ?_, registers, alone⟩
      · simp [State.write, Role.count, BoundedBufferType.countDown, same, counter]
        omega
      · simp [State.write]
        omega
      · simp [State.write]
        omega
      · intro passed
        have room := counted.room (by simpa [State.write] using passed)
        simp [State.write]
        omega
      · simp [State.write, Point.passed]

/-- Each step that does not overlap keeps the counts. -/
theorem counted_step (counted : Counted maxBuf nloops state) (permitted : apart state label = true)
    (step : Step maxBuf nloops state label later) : Counted maxBuf nloops later := by
  cases step with
  | enter role here more =>
      refine counted.goto role .check rfl rfl ?_ nofun nofun
      exact ⟨(counted.bounded role).inside, fun _ _ => more, nofun⟩
  | finish role here done =>
      refine counted.goto role .finished rfl rfl ?_ nofun nofun
      have inside := (counted.bounded role).inside
      exact ⟨inside, nofun, fun _ => Nat.le_antisymm inside done⟩
  | wait role here wait =>
      refine counted.goto role .spin rfl rfl ((counted.bounded role).goto .spin ?_ ?_ nofun) nofun nofun
      all_goals rcases here with here | here <;> rw [here] <;> nofun
  | pass role here ready =>
      refine counted.goto role .access rfl rfl ((counted.bounded role).goto .access ?_ ?_ nofun)
        (fun _ => .inr ready) nofun
      all_goals rcases here with here | here <;> rw [here] <;> nofun
  | store data here =>
      exact counted.goto .producer .advance rfl rfl
        ((counted.bounded .producer).goto .advance (by rw [here]; nofun) (by rw [here]; nofun) nofun)
        (fun _ => .inl (by rw [here]; rfl)) nofun
  | load here =>
      exact counted.goto .consumer .advance rfl rfl
        ((counted.bounded .consumer).goto .advance (by rw [here]; nofun) (by rw [here]; nofun) nofun)
        (fun _ => .inl (by rw [here]; rfl)) nofun
  | advance role here =>
      exact counted.goto role .read rfl (by cases role <;> rfl)
        ((counted.bounded role).goto .read (by rw [here]; nofun) (by rw [here]; nofun) nofun)
        (fun _ => .inl (by rw [here]; rfl)) nofun
  | read role here =>
      refine counted.goto role _ rfl rfl
        ((counted.bounded role).goto _ (by rw [here]; nofun) (by rw [here]; nofun) nofun)
        (fun _ => .inl (by rw [here]; rfl)) ?_
      intro register same
      exact ⟨(Point.write.inj same).symm, of_decide_eq_true permitted here⟩
  | write role register here => exact counted.write here

/-- A move that neither accesses the buffer nor moves an index keeps the queue. -/
theorem Queued.goto (queued : Queued maxBuf state) (role : Role) {old : Point} (point : Point)
    (here : (state.thread role).point = old) (accessed : point.accessed = old.accessed)
    (moved : point.moved = old.moved) : Queued maxBuf (state.move role point) := by
  subst here
  have accesses (other : Role) : ((state.move role point).thread other).accesses =
      (state.thread other).accesses := by
    simp only [State.move]
    by_cases own : other = role
    · subst own
      rw [Function.update_self, Local.accesses, Local.accesses, Local.goto, accessed]
    · rw [Function.update_of_ne own]
  have moves (other : Role) : ((state.move role point).thread other).moves =
      (state.thread other).moves := by
    simp only [State.move]
    by_cases own : other = role
    · subst own
      rw [Function.update_self, Local.moves, Local.moves, Local.goto, moved]
    · rw [Function.update_of_ne own]
  refine ⟨?_, ?_, ?_, ?_, queued.queue⟩
  · rw [accesses]
    exact queued.produced
  · rw [accesses]
    exact queued.consumed
  · rw [moves]
    exact queued.inPlace
  · rw [moves]
    exact queued.outPlace

/-- The producer appends its item to the queue, since there is room. -/
theorem Queued.store (queued : Queued maxBuf state) (counted : Counted maxBuf nloops state)
    (here : (state.thread .producer).point = .access) (data : Int) :
    Queued maxBuf (state.store data) := by
  obtain ⟨produced, consumed, inPlace, outPlace, queue, split, holds⟩ := queued
  have room := counted.room (by rw [here]; rfl)
  have lengths := congrArg List.length split
  rw [List.length_append, produced, consumed] at lengths
  rw [Local.accesses, here] at produced lengths
  simp only [Point.accessed, Bool.toNat_false, Nat.add_zero] at produced lengths
  have space : queue.length < maxBuf := by
    rw [Local.accesses] at lengths
    omega
  rw [Local.moves, here] at inPlace
  simp only [Point.moved, Bool.toNat_false, Nat.add_zero] at inPlace
  have place : state.buffer.inIndex = (state.consumed.length + queue.length) % maxBuf := by
    rw [inPlace, ← produced, split, List.length_append]
  refine ⟨?_, ?_, ?_, ?_, queue ++ [⟨data⟩], ?_, ?_⟩
  · simp [State.store, State.move, Local.accesses, Local.goto, Point.accessed, produced]
  · simpa [State.store, State.move] using consumed
  · simpa [State.store, State.move, BoundedBufferType.store, Local.moves, Local.goto, Point.moved]
      using inPlace
  · simpa [State.store, State.move, BoundedBufferType.store] using outPlace
  · simp [State.store, State.move, split]
  · have pushed := holds.push space ⟨data⟩
    rw [← place] at pushed
    exact pushed

/-- The consumer takes the first item of the queue, since there is one. -/
theorem Queued.load (queued : Queued maxBuf state) (counted : Counted maxBuf nloops state)
    (here : (state.thread .consumer).point = .access) : Queued maxBuf state.load := by
  obtain ⟨produced, consumed, inPlace, outPlace, queue, split, holds⟩ := queued
  have stock := counted.stock (by rw [here]; rfl)
  have lengths := congrArg List.length split
  rw [List.length_append, produced, consumed] at lengths
  rw [Local.accesses, here] at consumed
  simp only [Point.accessed, Bool.toNat_false, Nat.add_zero] at consumed
  rw [Local.accesses, Local.accesses, here] at lengths
  simp only [Point.accessed, Bool.toNat_false, Nat.add_zero] at lengths
  rw [Local.moves, here] at outPlace
  simp only [Point.moved, Bool.toNat_false, Nat.add_zero] at outPlace
  cases queue with
  | nil =>
      rw [List.length_nil] at lengths
      omega
  | cons item rest =>
      have first : state.buffer.load = item := by
        rw [BoundedBufferType.load, outPlace, ← consumed]
        exact holds.head
      refine ⟨?_, ?_, ?_, ?_, rest, ?_, ?_⟩
      · simpa [State.load, State.move] using produced
      · simp [State.load, State.move, Local.accesses, Local.goto, Point.accessed, consumed]
      · simpa [State.load, State.move] using inPlace
      · simpa [State.load, State.move, Local.moves, Local.goto, Point.moved] using outPlace
      · simp [State.load, State.move, first, split]
      · have tail := (RingBuffer.holds_mod _ _ _ _).mp holds.tail
        simpa [State.load, State.move] using tail

/-- A move of an index counts in its thread. -/
theorem Queued.advance (queued : Queued maxBuf state) {role : Role}
    (here : (state.thread role).point = .advance) :
    Queued maxBuf (state.advanceIndex maxBuf role) := by
  obtain ⟨produced, consumed, inPlace, outPlace, queue, split, holds⟩ := queued
  cases role with
  | producer =>
      rw [Local.moves, here] at inPlace
      rw [Local.accesses, here] at produced
      refine ⟨?_, ?_, ?_, ?_, queue, split, holds⟩
      · simpa [State.advanceIndex, State.move, Local.accesses, Local.goto, Point.accessed]
          using produced
      · simpa [State.advanceIndex, State.move] using consumed
      · simp [State.advanceIndex, State.move, Role.advance, BoundedBufferType.advanceIn,
          Local.moves, Local.goto, Point.moved, inPlace]
      · simpa [State.advanceIndex, State.move, Role.advance, BoundedBufferType.advanceIn]
          using outPlace
  | consumer =>
      rw [Local.moves, here] at outPlace
      rw [Local.accesses, here] at consumed
      refine ⟨?_, ?_, ?_, ?_, queue, split, holds⟩
      · simpa [State.advanceIndex, State.move] using produced
      · simpa [State.advanceIndex, State.move, Local.accesses, Local.goto, Point.accessed]
          using consumed
      · simpa [State.advanceIndex, State.move, Role.advance, BoundedBufferType.advanceOut]
          using inPlace
      · simp [State.advanceIndex, State.move, Role.advance, BoundedBufferType.advanceOut,
          Local.moves, Local.goto, Point.moved, outPlace]

/-- A write changes neither the ring nor the number of accesses. -/
theorem Queued.write (queued : Queued maxBuf state) {role : Role} {register : Int}
    (here : (state.thread role).point = .write register) :
    Queued maxBuf (state.write role register) := by
  obtain ⟨produced, consumed, inPlace, outPlace, queue, split, holds⟩ := queued
  cases role with
  | producer =>
      rw [Local.moves, here] at inPlace
      rw [Local.accesses, here] at produced
      refine ⟨?_, ?_, ?_, ?_, queue, split, holds⟩
      · simpa [State.write, Local.accesses, Point.accessed] using produced
      · simpa [State.write] using consumed
      · simpa [State.write, Role.count, BoundedBufferType.countUp, Local.moves, Point.moved]
          using inPlace
      · simpa [State.write, Role.count, BoundedBufferType.countUp] using outPlace
  | consumer =>
      rw [Local.moves, here] at outPlace
      rw [Local.accesses, here] at consumed
      refine ⟨?_, ?_, ?_, ?_, queue, split, holds⟩
      · simpa [State.write] using produced
      · simpa [State.write, Local.accesses, Point.accessed] using consumed
      · simpa [State.write, Role.count, BoundedBufferType.countDown] using inPlace
      · simpa [State.write, Role.count, BoundedBufferType.countDown, Local.moves, Point.moved]
          using outPlace

/-- Each step keeps the queue while the counts hold. -/
theorem queued_step (queued : Queued maxBuf state) (counted : Counted maxBuf nloops state)
    (step : Step maxBuf nloops state label later) : Queued maxBuf later := by
  cases step with
  | enter role here more => exact queued.goto role .check here rfl rfl
  | finish role here done => exact queued.goto role .finished here rfl rfl
  | wait role here wait =>
      rcases here with here | here
      · exact queued.goto role .spin here rfl rfl
      · exact queued.goto role .spin here rfl rfl
  | pass role here ready =>
      rcases here with here | here
      · exact queued.goto role .access here rfl rfl
      · exact queued.goto role .access here rfl rfl
  | store data here => exact queued.store counted here data
  | load here => exact queued.load counted here
  | advance role here => exact queued.advance here
  | read role here => exact queued.goto role _ here rfl rfl
  | write role register here => exact queued.write here

/-- Both invariants hold in the runs whose changes do not overlap. -/
theorem reachable_invariant (maxBuf nloops : Nat)
    (reached : ((system maxBuf nloops).restrict apart).Reachable state) :
    Counted maxBuf nloops state ∧ Queued maxBuf state := by
  induction reached with
  | initial start =>
      have start : _ = _ := start
      subst start
      exact ⟨counted_start maxBuf nloops, queued_start maxBuf⟩
  | step label _ taken inductionHypothesis =>
      obtain ⟨counted, queued⟩ := inductionHypothesis
      obtain ⟨permitted, taken⟩ := ((system maxBuf nloops).restrict_next _ _ _ label).mp taken
      have step := step_of_next taken
      exact ⟨counted_step counted permitted step, queued_step queued counted step⟩

end ProdconsT
