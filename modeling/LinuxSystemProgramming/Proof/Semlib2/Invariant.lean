import LinuxSystemProgramming.Construction.Semlib2

namespace Semlib2
open Transition Monitor Tally

variable {Thread : Type} [DecidableEq Thread] [Fintype Thread]

/-- A taking thread has seen a value other than zero and has not decremented it yet. -/
def Point.taking : Point → Bool
  | .waitDecrement | .tryDecrement => true
  | _ => false

/-- An incrementing thread has signalled and has not incremented the value yet. -/
def Point.incrementing : Point → Bool
  | .postIncrement => true
  | _ => false

/-- A returning thread is inside `sem_wait` between its wake-up or entry and its decrement. -/
def Point.returning : Point → Bool
  | .waitWoken | .waitCheck | .waitDecrement => true
  | _ => false

/-- The operation of a thread has taken effect and its return of zero is still to come. -/
def Point.effected (operation : Operation) : Point → Bool
  | .waitUnlock => decide (operation = .semWait)
  | .tryUnlock => decide (operation = .semTrywait)
  | .postUnlock => decide (operation = .semPost)
  | .returned current result => decide (current = operation ∧ result = 0)
  | _ => false

theorem locked_of_taking (point : Point) (taking : point.taking = true) : point.locked = true := by
  cases point <;> first | rfl | cases taking

theorem locked_of_incrementing (point : Point) (incrementing : point.incrementing = true) :
    point.locked = true := by
  cases point <;> first | rfl | cases incrementing

/-- The mutex owner is the thread whose next statement lies between lock and unlock. -/
def Owned (state : State Thread) : Prop := Exclusive state.mutex Point.locked state.point

/-- Each step keeps the mutex with the thread inside the locked statements. -/
theorem owned_step {state later : State Thread} {label : Label Thread} (owned : Owned state)
    (step : Step state label later) : Owned later := by
  cases step with
  | call thread operation here =>
      exact owned.keep thread _ (by cases operation <;> rw [here] <;> rfl)
  | waitLock thread here free | waitRelock thread here free | tryLock thread here free
  | postLock thread here free =>
      have unowned : Exclusive none Point.locked state.point := free ▸ owned
      exact unowned.acquire thread _ rfl
  | waitBlock thread here empty => exact owned.release thread _ (by rw [here]; rfl) rfl
  | waitPass thread here present => exact owned.keep thread _ (by rw [here]; rfl)
  | tryFail thread here empty => exact owned.keep thread _ (by rw [here]; rfl)
  | tryPass thread here present => exact owned.keep thread _ (by rw [here]; rfl)
  | waitDecrement thread here | tryDecrement thread here | postIncrement thread here
  | spurious thread here => exact owned.keep thread _ (by rw [here]; rfl)
  | waitUnlock thread here | tryRefuse thread here | tryUnlock thread here
  | postUnlock thread here => exact owned.release thread _ (by rw [here]; rfl) rfl
  | ret thread operation result here => exact owned.keep thread _ (by rw [here]; rfl)
  | postSignal thread target here admitted =>
      have woken : Exclusive state.mutex Point.locked
          (wake (fun _ => .waitWoken) state.point target) :=
        owned.wake _ target admitted
          (by intro point; cases point <;> simp [Point.blocked, Point.locked])
      have awake : wake (fun _ => .waitWoken) state.point target thread = .postSignal :=
        (wake_of_not_blocked admitted (by rw [here]; rfl)).trans here
      exact woken.keep thread _ (by rw [awake]; rfl)

/-- The completed operations are the successful returns and the effects that have not returned yet. -/
def State.completed (state : State Thread) (operation : Operation) : Nat :=
  state.returned operation + tally (Point.effected operation) state.point

/-- The counters and the threads in the middle of an operation account for the value. -/
structure Accounted (value : Int) (state : State Thread) : Prop where
  balance : state.sval = value + state.increments - state.decrements
  covered : (tally Point.taking state.point : Int) ≤ state.sval
  takes : state.decrements = state.completed .semWait + state.completed .semTrywait
  posts : state.increments = state.completed .semPost

omit [DecidableEq Thread] in
/-- No thread is between its check and its decrement while the owner is elsewhere. -/
theorem taking_eq_zero {state : State Thread} (owned : Owned state) {thread : Thread}
    {point : Point} (here : state.point thread = point) (inside : point.locked = true)
    (idle : point.taking = false) : tally Point.taking state.point = 0 := by
  rw [owned.tally_owner Point.taking locked_of_taking thread (by rw [here]; exact inside), here, idle]
  rfl

/-- A move that keeps the returns and the effects keeps the completed operations. -/
theorem completed_move {state : State Thread} (later : State Thread) (thread : Thread)
    {old : Point} (point : Point) (moved : later.point = Function.update state.point thread point)
    (returned : later.returned = state.returned) (here : state.point thread = old)
    (operation : Operation) (effected : point.effected operation = old.effected operation) :
    later.completed operation = state.completed operation := by
  have same := tally_keep (Point.effected operation) state.point thread point (by rw [here, effected])
  simp only [State.completed, moved, returned, same]

/-- An effect of an operation completes it once. -/
theorem completed_effect {state : State Thread} (later : State Thread) (thread : Thread)
    {old : Point} (point : Point) (moved : later.point = Function.update state.point thread point)
    (returned : later.returned = state.returned) (here : state.point thread = old)
    (operation : Operation) (before : old.effected operation = false)
    (after : point.effected operation = true) :
    later.completed operation = state.completed operation + 1 := by
  have more := tally_rise (Point.effected operation) state.point thread point
    (by rw [here, before]) after
  simp only [State.completed, moved, returned, more, Nat.add_assoc]

omit [DecidableEq Thread] in
/-- A step that keeps the counters and the completed operations needs only the covered value. -/
theorem Accounted.congr {value : Int} {state later : State Thread}
    (accounted : Accounted value state) (sval : later.sval = state.sval)
    (increments : later.increments = state.increments)
    (decrements : later.decrements = state.decrements)
    (completed : ∀ operation, later.completed operation = state.completed operation)
    (covered : (tally Point.taking later.point : Int) ≤ state.sval) : Accounted value later where
  balance := by
    rw [sval, increments, decrements]
    exact accounted.balance
  covered := by
    rw [sval]
    exact covered
  takes := by
    rw [decrements, completed, completed]
    exact accounted.takes
  posts := by
    rw [increments, completed]
    exact accounted.posts

/-- A move that keeps the counters and all tallies keeps the account for any later owner. -/
theorem Accounted.move {value : Int} {state : State Thread} (accounted : Accounted value state)
    (owner : Option Thread) (thread : Thread) {old : Point} (point : Point)
    (here : state.point thread = old) (taking : point.taking = old.taking)
    (effected : ∀ operation, point.effected operation = old.effected operation) :
    Accounted value { state.move thread point with mutex := owner } := by
  refine accounted.congr rfl rfl rfl ?_ ?_
  · intro operation
    exact completed_move { state.move thread point with mutex := owner } thread point rfl rfl here
      operation (effected operation)
  · have same := tally_keep Point.taking state.point thread point (by rw [here, taking])
    simp only [State.move, same]
    exact accounted.covered

/-- A successful check adds one taking thread, and the value covers it. -/
theorem Accounted.pass {value : Int} {state : State Thread} (owned : Owned state)
    (accounted : Accounted value state) (thread : Thread) {old : Point} (point : Point)
    (here : state.point thread = old) (inside : old.locked = true) (idle : old.taking = false)
    (taking : point.taking = true)
    (effected : ∀ operation, point.effected operation = old.effected operation)
    (present : state.sval ≠ 0) : Accounted value (state.move thread point) := by
  refine accounted.congr rfl rfl rfl ?_ ?_
  · intro operation
    exact completed_move (state.move thread point) thread point rfl rfl here operation
      (effected operation)
  · have none := taking_eq_zero owned here inside idle
    have more := tally_rise Point.taking state.point thread point (by rw [here, idle]) taking
    have covered := accounted.covered
    simp only [State.move, more]
    omega

/-- A decrement uses the value that covers its thread. -/
theorem Accounted.decrement {value : Int} {state : State Thread}
    (accounted : Accounted value state) (thread : Thread) {old : Point} (point : Point)
    (here : state.point thread = old) (taking : old.taking = true) (idle : point.taking = false)
    (takes : (state.decrement thread point).completed .semWait +
      (state.decrement thread point).completed .semTrywait =
        state.completed .semWait + state.completed .semTrywait + 1)
    (effected : point.effected .semPost = old.effected .semPost) :
    Accounted value (state.decrement thread point) where
  balance := by
    have balance := accounted.balance
    simp only [State.decrement, State.move]
    push_cast
    omega
  covered := by
    have fewer := tally_fall Point.taking state.point thread point (by rw [here, taking]) idle
    have covered := accounted.covered
    change (tally Point.taking (Function.update state.point thread point) : Int) ≤ state.sval - 1
    omega
  takes := by
    rw [takes, ← accounted.takes]
    rfl
  posts := by
    rw [completed_move (state.decrement thread point) thread point rfl rfl here .semPost effected]
    exact accounted.posts

/-- An increment raises the value and completes its operation. -/
theorem Accounted.increment {value : Int} {state : State Thread}
    (accounted : Accounted value state) (thread : Thread)
    (here : state.point thread = .postIncrement) :
    Accounted value (state.increment thread .postUnlock) where
  balance := by
    have balance := accounted.balance
    simp only [State.increment, State.move]
    push_cast
    omega
  covered := by
    have same := tally_keep Point.taking state.point thread .postUnlock (by rw [here]; rfl)
    have covered := accounted.covered
    simp only [State.increment, State.move]
    omega
  takes := by
    have kept := completed_move (state.increment thread .postUnlock) thread .postUnlock rfl rfl here
    rw [kept .semWait rfl, kept .semTrywait rfl]
    exact accounted.takes
  posts := by
    rw [completed_effect (state.increment thread .postUnlock) thread .postUnlock rfl rfl here
      .semPost rfl rfl, ← accounted.posts]
    rfl

/-- A return keeps the completed operations. -/
theorem completed_leave {state : State Thread} (thread : Thread) (current : Operation)
    (result : Int) (here : state.point thread = .returned current result) (operation : Operation) :
    (state.leave thread current result).completed operation = state.completed operation := by
  have change := total_update (fun each => (each.effected operation).toNat) state.point thread .outside
  have gone : Point.effected operation .outside = false := rfl
  by_cases same : operation = current
  · subst same
    by_cases success : result = 0
    · subst success
      have counted : Point.effected operation (.returned operation 0) = true := by
        simp [Point.effected]
      simp only [here, counted, gone, Bool.toNat_true, Bool.toNat_false] at change
      simp only [State.completed, State.leave, State.move, Function.update_self, ite_true, tally]
      omega
    · have ignored : Point.effected operation (.returned operation result) = false := by
        simp [Point.effected, success]
      simp only [here, ignored, gone, Bool.toNat_false] at change
      simp only [State.completed, State.leave, State.move, Function.update_self, success, ite_false,
        tally]
      omega
  · have ignored : Point.effected operation (.returned current result) = false := by
      simp [Point.effected, Ne.symm same]
    simp only [here, ignored, gone, Bool.toNat_false] at change
    simp only [State.completed, State.leave, State.move, Function.update_of_ne same, tally]
    omega

/-- A return keeps the account. -/
theorem Accounted.leave {value : Int} {state : State Thread} (accounted : Accounted value state)
    (thread : Thread) (operation : Operation) (result : Int)
    (here : state.point thread = .returned operation result) :
    Accounted value (state.leave thread operation result) := by
  refine accounted.congr rfl rfl rfl (completed_leave thread operation result here) ?_
  have same := tally_keep Point.taking state.point thread .outside (by rw [here]; rfl)
  simp only [State.leave, State.move, same]
  exact accounted.covered

/-- A signal keeps the account because its target keeps its side of each test. -/
theorem Accounted.signal {value : Int} {state : State Thread} (accounted : Accounted value state)
    (thread : Thread) (target : Option Thread) (here : state.point thread = .postSignal)
    (admitted : admits Point.blocked state.point target = true) :
    Accounted value (state.signal thread target) := by
  let woken : State Thread := { state with point := wake (fun _ => .waitWoken) state.point target }
  have awake : wake (fun _ => .waitWoken) state.point target thread = .postSignal :=
    (wake_of_not_blocked admitted (by rw [here]; rfl)).trans here
  have same (operation : Operation) : woken.completed operation = state.completed operation :=
    congrArg (state.returned operation + ·) (tally_wake Point.blocked (fun _ => .waitWoken)
      state.point target admitted (Point.effected operation)
      (by intro point blocked; cases point <;> first | rfl | cases blocked))
  have kept : Accounted value woken := by
    refine accounted.congr rfl rfl rfl same ?_
    rw [tally_wake Point.blocked _ state.point target admitted Point.taking
      (by intro point blocked; cases point <;> first | rfl | cases blocked)]
    exact accounted.covered
  exact kept.move state.mutex thread .postIncrement awake rfl fun _ => rfl

/-- Each step keeps the account. -/
theorem accounted_step {value : Int} {state later : State Thread} {label : Label Thread}
    (owned : Owned state) (accounted : Accounted value state) (step : Step state label later) :
    Accounted value later := by
  cases step with
  | call thread operation here =>
      exact accounted.move state.mutex thread _ here (by cases operation <;> rfl)
        (fun _ => by cases operation <;> rfl)
  | waitLock thread here free | waitRelock thread here free | tryLock thread here free
  | postLock thread here free => exact accounted.move (some thread) thread _ here rfl fun _ => rfl
  | waitBlock thread here empty => exact accounted.move none thread _ here rfl fun _ => rfl
  | tryFail thread here empty => exact accounted.move state.mutex thread _ here rfl fun _ => rfl
  | waitPass thread here present | tryPass thread here present =>
      exact accounted.pass owned thread _ here rfl rfl rfl (fun _ => rfl) present
  | waitDecrement thread here =>
      apply accounted.decrement thread .waitUnlock here rfl rfl ?_ rfl
      rw [completed_effect (state.decrement thread .waitUnlock) thread .waitUnlock rfl rfl here
          .semWait rfl rfl,
        completed_move (state.decrement thread .waitUnlock) thread .waitUnlock rfl rfl here
          .semTrywait rfl]
      exact Nat.add_right_comm _ _ _
  | tryDecrement thread here =>
      apply accounted.decrement thread .tryUnlock here rfl rfl ?_ rfl
      rw [completed_effect (state.decrement thread .tryUnlock) thread .tryUnlock rfl rfl here
          .semTrywait rfl rfl,
        completed_move (state.decrement thread .tryUnlock) thread .tryUnlock rfl rfl here
          .semWait rfl]
      rfl
  | waitUnlock thread here | tryRefuse thread here | tryUnlock thread here
  | postUnlock thread here =>
      exact accounted.move none thread _ here rfl fun operation => by cases operation <;> rfl
  | spurious thread here => exact accounted.move state.mutex thread _ here rfl fun _ => rfl
  | postSignal thread target here admitted => exact accounted.signal thread target here admitted
  | postIncrement thread here => exact accounted.increment thread here
  | ret thread operation result here => exact accounted.leave thread operation result here

/-- The state after `sem_init` satisfies both invariants. -/
theorem initial_invariant {value : Int} {state : State Thread}
    (start : (system Thread value).initial state) : Owned state ∧ Accounted value state := by
  obtain ⟨nonneg, initialized⟩ := start
  obtain rfl := semInit_eq initialized
  have idle (operation : Operation) :
      tally (Point.effected operation) (fun _ : Thread => .outside) = 0 :=
    tally_eq_zero _ _ fun _ => rfl
  refine ⟨fun thread => by simp [Point.locked], ?_, ?_, ?_, ?_⟩
  · simp
  · rw [tally_eq_zero Point.taking _ (fun _ => rfl)]
    exact nonneg
  · simp only [State.completed, idle]
  · simp only [State.completed, idle]

/-- Every reachable state satisfies both invariants. -/
theorem reachable_invariant {value : Int} {state : State Thread}
    (reached : (system Thread value).Reachable state) : Owned state ∧ Accounted value state := by
  apply reached.invariant (fun state => Owned state ∧ Accounted value state)
  · intro state start
    exact initial_invariant start
  · intro state label later _ holds taken
    have step := step_of_next taken
    exact ⟨owned_step holds.1 step, accounted_step holds.1 holds.2 step⟩

end Semlib2
