import LinuxSystemProgramming.Proof.ProdconsM.Refinement

namespace ProdconsM
open Transition Monitor Tally BoundedBuffer

variable {Thread : Type} [DecidableEq Thread]

/-- The room of a role counts the accesses that the counter allows to threads of that role. -/
def room (maxBuf : Nat) (role : Role) (buffer : BoundedBufferType) : Int :=
  match role with
  | .producer => maxBuf - buffer.counter
  | .consumer => buffer.counter

/-- A view supports a role when it will use the room of that role or will signal that role. -/
def Local.supports (role : Role) (view : Local) : Bool :=
  match view.point with
  | .woken | .check | .access | .advance | .count => decide (view.role = role)
  | .signal => decide (view.role.other = role)
  | _ => false

/-- The support of a view depends on its role and its point. -/
theorem supports_at (role : Role) {view : Local} {point : Point} (here : view.point = point) :
    view.supports role = Local.supports role ⟨view.role, point, view.i⟩ := by
  subst here
  rfl

/-- While a thread of the role is blocked, the supporting threads cover the room of the role. -/
def Attended [Fintype Thread] (maxBuf : Nat) (role : Role) (state : State Thread) : Prop :=
  0 < tally (Local.blockedAs role) state.thread →
    room maxBuf role state.buffer ≤ tally (Local.supports role) state.thread

/-- A role that must wait has no room. -/
theorem room_of_mustWait {maxBuf : Nat} {role : Role} {buffer : BoundedBufferType}
    (wait : mustWait maxBuf role buffer = true) : room maxBuf role buffer = 0 := by
  cases role with
  | producer =>
      simp only [mustWait, decide_eq_true_eq] at wait
      simp [room, wait]
  | consumer =>
      simp only [mustWait, decide_eq_true_eq] at wait
      exact wait

/-- The index statement of a role changes no room. -/
theorem room_advance (maxBuf : Nat) (mover role : Role) (buffer : BoundedBufferType) :
    room maxBuf role (mover.advance maxBuf buffer) = room maxBuf role buffer := by
  cases mover <;> cases role <;> rfl

/-- The counter statement of a role takes one from its own room. -/
theorem room_count_self (maxBuf : Nat) (role : Role) (buffer : BoundedBufferType) :
    room maxBuf role (role.count buffer) = room maxBuf role buffer - 1 := by
  cases role <;> simp only [room, Role.count, BoundedBufferType.countUp, BoundedBufferType.countDown]
  omega

/-- The counter statement of a role adds one to the room of the other role. -/
theorem room_count_other (maxBuf : Nat) (role : Role) (buffer : BoundedBufferType) :
    room maxBuf role.other (role.count buffer) = room maxBuf role.other buffer + 1 := by
  cases role <;>
    simp only [room, Role.count, Role.other, BoundedBufferType.countUp, BoundedBufferType.countDown]
  omega

/-- The other role differs from the role. -/
theorem other_ne (role : Role) : role.other ≠ role := by
  cases role <;> simp [Role.other]

/-- A role that differs is the other role. -/
theorem eq_other {first second : Role} (different : first ≠ second) : second = first.other := by
  cases first <;> cases second <;> first | rfl | exact absurd rfl different

variable [Fintype Thread] {maxBuf nloops : Nat}

/-- A change of one view keeps the attendance when it blocks nobody and loses no more support than room. -/
theorem Attended.update {role : Role} {state later : State Thread}
    (attended : Attended maxBuf role state) (thread : Thread) (view : Local)
    (moved : later.thread = Function.update state.thread thread view)
    (blocked : view.blockedAs role = true → (state.thread thread).blockedAs role = true)
    (support : room maxBuf role later.buffer + ((state.thread thread).supports role).toNat ≤
      room maxBuf role state.buffer + (view.supports role).toNat) :
    Attended maxBuf role later := by
  rw [Attended, moved]
  exact Attends.update attended thread view blocked support

/-- A move that keeps the buffer keeps the attendance when it keeps the support. -/
theorem Attended.goto {role : Role} {state later : State Thread}
    (attended : Attended maxBuf role state) (thread : Thread) (point : Point)
    (moved : later.thread = Function.update state.thread thread ((state.thread thread).goto point))
    (awake : point ≠ .blocked) (room : room maxBuf role later.buffer = room maxBuf role state.buffer)
    (support : (state.thread thread).supports role = true →
      ((state.thread thread).goto point).supports role = true) : Attended maxBuf role later := by
  apply attended.update thread _ moved
  · intro blocked
    have both : ((state.thread thread).goto point).role = role ∧ point = .blocked :=
      of_decide_eq_true blocked
    exact absurd both.2 awake
  · have noneLost := Bool.toNat_le_toNat support
    rw [room]
    omega

/-- A thread of the role blocks only without room, and a thread of the other role changes nothing. -/
theorem Attended.block {role : Role} {state : State Thread} (attended : Attended maxBuf role state)
    (thread : Thread) (here : (state.thread thread).point = .check)
    (wait : mustWait maxBuf (state.thread thread).role state.buffer = true) :
    Attended maxBuf role (state.block thread) := by
  by_cases same : (state.thread thread).role = role
  · intro _
    have none := room_of_mustWait wait
    rw [same] at none
    change room maxBuf role state.buffer ≤ _
    omega
  · apply attended.update thread ((state.thread thread).goto .blocked) rfl
    · simp [Local.blockedAs, Local.goto, same]
    · simp [Local.supports, Local.goto, here, same, State.block, State.move]

/-- The counter statement moves one unit of support with the unit of room. -/
theorem Attended.count {role : Role} {state : State Thread} (attended : Attended maxBuf role state)
    (thread : Thread) (here : (state.thread thread).point = .count) :
    Attended maxBuf role (state.changeCounter thread) := by
  apply attended.update thread ((state.thread thread).goto .signal) rfl
  · simp [Local.blockedAs, Local.goto]
  · by_cases same : (state.thread thread).role = role
    · subst same
      have less := room_count_self maxBuf (state.thread thread).role state.buffer
      simp only [State.changeCounter, State.move, Local.supports, Local.goto, here, decide_true,
        other_ne, decide_false, Bool.toNat_true, Bool.toNat_false]
      omega
    · have other := eq_other same
      subst other
      have more := room_count_other maxBuf (state.thread thread).role state.buffer
      simp only [State.changeCounter, State.move, Local.supports, Local.goto, here, decide_true, same,
        decide_false, Bool.toNat_true, Bool.toNat_false]
      omega

/-- A wake-up adds one unit of support for the role that is signalled. -/
theorem Attended.wake {role : Role} {state : State Thread} (attended : Attended maxBuf role state)
    (signalled : Role) (target : Option Thread)
    (admitted : admits (Local.blockedAs signalled) state.thread target = true) :
    Attends (Local.blockedAs role) (Local.supports role)
      (Monitor.wake (fun view => view.goto .woken) state.thread target)
      (room maxBuf role state.buffer + (decide (signalled = role)).toNat) := by
  by_cases same : signalled = role
  · subst same
    refine Attends.wake attended admitted ?_ ?_ (by simp)
    · intro view blocked
      simp [Local.supports, (of_decide_eq_true blocked).2]
    · intro view blocked
      simp [Local.supports, Local.goto, (of_decide_eq_true blocked).1]
  · -- the target has the other role, and no test for this role sees it
    intro waiting
    rw [tally_wake _ _ _ _ admitted (Local.blockedAs role) (by
      intro view blocked
      simp [Local.blockedAs, Local.goto, (of_decide_eq_true blocked).1, same])] at waiting
    rw [tally_wake _ _ _ _ admitted (Local.supports role) (by
      intro view blocked
      simp [Local.supports, Local.goto, of_decide_eq_true blocked, same])]
    simpa [same] using attended waiting

/-- A signal replaces its own support by the support of the thread that it wakes. -/
theorem Attended.signal {role : Role} {state : State Thread} (attended : Attended maxBuf role state)
    (thread : Thread) (target : Option Thread) (here : (state.thread thread).point = .signal)
    (admitted : admits (Local.blockedAs (state.thread thread).role.other) state.thread target = true) :
    Attended maxBuf role (state.signal thread target) := by
  have self := wake_self here admitted
  refine Attends.update (attended.wake _ target admitted) thread ((state.thread thread).goto .unlock)
    (by simp [Local.blockedAs, Local.goto]) ?_
  rw [self, supports_at role here]
  simp [Local.supports, Local.goto, State.signal]

/-- Each step keeps the attendance of both roles. -/
theorem attended_step {role : Role} {state later : State Thread} {label : Label Thread}
    (attended : Attended maxBuf role state) (step : Step maxBuf nloops state label later) :
    Attended maxBuf role later := by
  cases step with
  | enter thread here _ | finish thread here _ | relock thread here _ | pass thread here _ =>
      exact attended.goto thread _ rfl (by simp) rfl (by rw [supports_at role here]; exact id)
  | lock thread here _ =>
      exact attended.goto thread _ rfl (by simp) rfl fun supported => by
        rw [supports_at role here] at supported
        cases supported
  | block thread here wait => exact attended.block thread here wait
  | store thread data here isProducer =>
      exact attended.goto thread _ rfl (by simp) (by cases role <;> rfl)
        (by rw [supports_at role here]; exact id)
  | load thread here isConsumer =>
      exact attended.goto thread _ rfl (by simp) rfl (by rw [supports_at role here]; exact id)
  | advance thread here =>
      exact attended.goto thread _ rfl (by simp) (room_advance maxBuf _ role state.buffer)
        (by rw [supports_at role here]; exact id)
  | count thread here => exact attended.count thread here
  | signal thread target here admitted => exact attended.signal thread target here admitted
  | unlock thread here =>
      exact attended.update thread _ rfl (by simp [Local.blockedAs])
        (by rw [supports_at role here]; exact le_refl _)
  | spurious thread here =>
      exact attended.goto thread _ rfl (by simp) rfl fun supported => by
        rw [supports_at role here] at supported
        cases supported

/-- Every reachable state attends to the blocked threads of both roles. -/
theorem reachable_attended {role : Thread → Role} {state : State Thread} (waiting : Role)
    (reached : (system maxBuf nloops role).Reachable state) : Attended maxBuf waiting state := by
  apply reached.invariant (Attended maxBuf waiting)
  · intro state start blocked
    change state = _ at start
    subst start
    rw [tally_eq_zero _ _ fun thread => by simp [Local.blockedAs]] at blocked
    exact absurd blocked (Nat.lt_irrefl 0)
  · intro state label later _ attended taken
    exact attended_step attended (step_of_next taken)

omit [DecidableEq Thread] in
/-- With the mutex free the threads that support a role are its woken threads. -/
theorem supports_eq_woken {state : State Thread} (owned : Owned state) (free : state.mutex = none)
    (role : Role) :
    tally (Local.supports role) state.thread = tally (Local.wokenAs role) state.thread := by
  apply tally_congr
  intro thread
  have unowned : Exclusive none Local.locked state.thread := free ▸ owned
  have outside := unowned.free thread
  cases point : (state.thread thread).point <;> simp_all [Local.locked, Local.supports, Local.wokenAs]

/-- With the mutex free the woken threads of a role cover its room while one of its threads is blocked. -/
theorem woken_cover_room {role : Thread → Role} {state : State Thread} (waiting : Role)
    (positive : 1 ≤ maxBuf) (reached : (system maxBuf nloops role).Reachable state)
    (free : state.mutex = none) (sleeper : Thread)
    (asleep : (state.thread sleeper).blockedAs waiting = true) :
    room maxBuf waiting state.buffer ≤
      (Finset.univ.filter fun thread => (state.thread thread).role = waiting ∧
        (state.thread thread).point = .woken).card := by
  have owned := (reachable_invariant positive reached).owned
  have attended := reachable_attended waiting reached (tally_pos _ _ sleeper asleep)
  rw [supports_eq_woken owned free, tally_eq_card] at attended
  simpa only [Local.wokenAs, decide_eq_true_eq] using attended

/-- A thread that is neither blocked nor finished has a step while no other thread holds the mutex. -/
theorem exists_step (maxBuf nloops : Nat) (state : State Thread) (thread : Thread)
    (awake : (state.thread thread).point ≠ .blocked)
    (unfinished : (state.thread thread).point ≠ .finished)
    (free : state.mutex = none ∨ (state.thread thread).locked = true) :
    ∃ label, label.isSpurious = false ∧ state.next maxBuf nloops label ≠ none := by
  cases point : (state.thread thread).point with
  | blocked => exact absurd point awake
  | finished => exact absurd point unfinished
  | loop =>
      refine ⟨.advance thread, rfl, ?_⟩
      by_cases more : (state.thread thread).i < nloops <;>
        simp [State.next, State.advance, point, more]
  | lock | woken =>
      have unowned : state.mutex = none := free.resolve_right (by simp [Local.locked, point])
      exact ⟨.advance thread, rfl, by simp [State.next, State.advance, point, unowned]⟩
  | check =>
      refine ⟨.advance thread, rfl, ?_⟩
      cases wait : mustWait maxBuf (state.thread thread).role state.buffer <;>
        simp [State.next, State.advance, point, wait]
  | access =>
      cases role : (state.thread thread).role with
      | producer => exact ⟨.produce thread 0, rfl, by simp [State.next, point, role]⟩
      | consumer => exact ⟨.advance thread, rfl, by simp [State.next, State.advance, point, role]⟩
  | advance | count | unlock =>
      exact ⟨.advance thread, rfl, by simp [State.next, State.advance, point]⟩
  | signal =>
      by_cases someone : ∃ sleeper,
          (state.thread sleeper).blockedAs (state.thread thread).role.other = true
      · obtain ⟨sleeper, asleep⟩ := someone
        exact ⟨.signal thread (some sleeper), rfl, by simp [State.next, point, admits, asleep]⟩
      · have nobody : ∀ sleeper,
            (state.thread sleeper).blockedAs (state.thread thread).role.other = false :=
          fun sleeper => Bool.eq_false_iff.mpr fun asleep => someone ⟨sleeper, asleep⟩
        exact ⟨.signal thread none, rfl, by simp [State.next, point, admits, nobody]⟩

/-- In a stuck state the mutex is free and each thread is blocked or finished. -/
theorem stuck_shape {state : State Thread} (owned : Owned state)
    (stuck : ∀ label, label.isSpurious = false → state.next maxBuf nloops label = none) :
    state.mutex = none ∧ ∀ thread,
      (state.thread thread).point = .blocked ∨ (state.thread thread).point = .finished := by
  have free : state.mutex = none := by
    cases owner : state.mutex with
    | none => rfl
    | some thread =>
        have inside := (owned thread).mpr owner
        obtain ⟨label, counted, enabled⟩ := exists_step maxBuf nloops state
          thread (fun blocked => by simp [Local.locked, blocked] at inside)
          (fun finished => by simp [Local.locked, finished] at inside) (Or.inr inside)
        exact absurd (stuck label counted) enabled
  refine ⟨free, fun thread => ?_⟩
  by_contra running
  rw [not_or] at running
  obtain ⟨label, counted, enabled⟩ := exists_step maxBuf nloops state
    thread running.1 running.2 (Or.inl free)
  exact enabled (stuck label counted)

/-- The two threads of `main` always have a step until both have finished. -/
theorem main_progress (positive : 1 ≤ maxBuf) {state : State Role}
    (reached : (mainSystem maxBuf nloops).Reachable state) (thread : Role)
    (unfinished : (state.thread thread).point ≠ .finished) :
    ∃ label, label.isSpurious = false ∧ state.next maxBuf nloops label ≠ none := by
  by_contra noStep
  have stuck (label : Label Role) (counted : label.isSpurious = false) :
      state.next maxBuf nloops label = none :=
    by_contra fun enabled => noStep ⟨label, counted, enabled⟩
  have holds := reachable_invariant positive reached
  obtain ⟨free, shape⟩ := stuck_shape holds.owned stuck
  obtain ⟨queue, split, represents⟩ := holds.queued
  simp only [State.settled, free] at represents
  have counter := represents.counter
  have lengths := congrArg List.length split
  have roles := holds.counted.roles
  have produced := holds.counted.produced
  have consumed := holds.counted.consumed
  rw [holds.counted.main] at produced consumed
  have idle (view : Role) : (state.thread view).point.accessed = false := by
    rcases shape view with point | point <;> rw [point] <;> rfl
  simp only [idle, Bool.toNat_false, Nat.add_zero] at produced consumed
  rw [List.length_append, produced, consumed] at lengths
  have noSupport (waiting : Role) : tally (Local.supports waiting) state.thread = 0 := by
    apply tally_eq_zero
    intro view
    rcases shape view with point | point <;> rw [supports_at waiting point] <;> rfl
  have noRoom (waiting : Role) (asleep : (state.thread waiting).point = .blocked) :
      room maxBuf waiting state.buffer ≤ 0 := by
    have attended := reachable_attended waiting reached
      (tally_pos _ _ waiting (by simp [Local.blockedAs, asleep, roles]))
    rw [noSupport waiting] at attended
    exact attended
  have ended (view : Role) (finished : (state.thread view).point = .finished) :
      (state.thread view).i = nloops := (holds.counted.bounded view).ended finished
  have inside (view : Role) (asleep : (state.thread view).point = .blocked) :
      (state.thread view).i < nloops :=
    (holds.counted.bounded view).body (by simp [asleep]) (by simp [asleep])
  rcases shape .producer with producer | producer <;> rcases shape .consumer with consumer | consumer
  · have full := noRoom .producer producer
    have empty := noRoom .consumer consumer
    simp only [room] at full empty
    omega
  · have before := inside .producer producer
    have after := ended .consumer consumer
    omega
  · have after := ended .producer producer
    have before := inside .consumer consumer
    have empty := noRoom .consumer consumer
    simp only [room] at empty
    omega
  · cases thread
    · exact unfinished producer
    · exact unfinished consumer

/-- No wake-up is lost for any threads, and the two threads of `main` never deadlock. -/
theorem attendsBlocked (maxBuf nloops : Nat) (positive : 1 ≤ maxBuf) :
    (∀ (Thread : Type) [DecidableEq Thread] [Fintype Thread] (role : Thread → Role)
      (state : State Thread), (system maxBuf nloops role).Reachable state → state.mutex = none →
      ((∃ sleeper, (state.thread sleeper).role = .producer ∧
          (state.thread sleeper).point = .blocked) →
        maxBuf - state.buffer.counter ≤ (Finset.univ.filter fun thread =>
          (state.thread thread).role = .producer ∧ (state.thread thread).point = .woken).card) ∧
      ((∃ sleeper, (state.thread sleeper).role = .consumer ∧
          (state.thread sleeper).point = .blocked) →
        state.buffer.counter ≤ (Finset.univ.filter fun thread =>
          (state.thread thread).role = .consumer ∧ (state.thread thread).point = .woken).card)) ∧
    (∀ state : State Role, (mainSystem maxBuf nloops).Reachable state →
      (∃ thread, (state.thread thread).point ≠ .finished) →
      ¬ (mainSystem maxBuf nloops).Stuck (fun label => label.isSpurious = false) state) := by
  constructor
  · intro Thread _ _ role state reached free
    constructor
    · rintro ⟨sleeper, asleep⟩
      exact woken_cover_room .producer positive reached free sleeper (decide_eq_true asleep)
    · rintro ⟨sleeper, asleep⟩
      exact woken_cover_room .consumer positive reached free sleeper (decide_eq_true asleep)
  · rintro state reached ⟨thread, unfinished⟩ stuck
    obtain ⟨label, counted, enabled⟩ := main_progress positive reached thread unfinished
    exact enabled (stuck label counted)

/-- A consumer blocks, a producer fills the slot and wakes it, and a second consumer stays blocked. -/
theorem attendsBlocked_run : ∃ state : State (Fin 3), state.buffer.counter = 1 ∧
    (state.thread 2).point = .blocked ∧
    state.buffer.counter ≤ (Finset.univ.filter fun thread =>
      (state.thread thread).role = .consumer ∧ (state.thread thread).point = .woken).card := by
  let role : Fin 3 → Role := fun thread => if thread = 0 then .producer else .consumer
  obtain ⟨state, reached, facts⟩ := (system 1 1 role).exists_reachable
    ⟨.zero, none, fun thread => ⟨role thread, .loop, 0⟩, [], []⟩ rfl
    [.advance 1, .advance 1, .advance 1, .advance 2, .advance 2, .advance 2, .advance 0, .advance 0,
      .advance 0, .produce 0 70000, .advance 0, .advance 0, .signal 0 (some 1), .advance 0]
    (fun state => decide (state.buffer.counter = 1 ∧ state.mutex = none ∧
      (state.thread 2).role = .consumer ∧ (state.thread 2).point = .blocked)) (by decide)
  simp only [decide_eq_true_eq] at facts
  exact ⟨state, facts.1, facts.2.2.2,
    ((attendsBlocked 1 1 (by decide)).1 _ _ state reached facts.2.1).2 ⟨2, facts.2.2⟩⟩

end ProdconsM
