import LinuxSystemProgramming.Construction.ProdconsS
import LinuxSystemProgramming.Proof.Semlib2.Calls

namespace ProdconsS
open Transition Tally BoundedBuffer

variable {Thread : Type} [DecidableEq Thread]

/-- The points of one iteration are executed in this order. -/
def Point.order : Point → Nat
  | .loop | .finished | .failed => 0
  | .waitSlot => 1
  | .waitMutex => 2
  | .access => 3
  | .advance => 4
  | .count => 5
  | .postMutex => 6
  | .postSlot => 7

/-- The current call of a thread has taken effect on its semaphore. -/
def State.effected (state : State Thread) (thread : Thread) : Bool :=
  match (state.thread thread).calls with
  | some (name, operation) => ((state.sem name).point thread).effected operation
  | none => false

/-- In its current iteration a thread has executed the effect of the statement at a site. -/
def State.past (state : State Thread) (site : Point) (thread : Thread) : Bool :=
  decide (site.order < (state.thread thread).point.order) ||
    (decide ((state.thread thread).point = site) && state.effected thread)

/-- A thread is between two sites after the effect of the first and before the effect of the last. -/
def State.between (state : State Thread) (first last : Point) (thread : Thread) : Bool :=
  state.past first thread && !state.past last thread

/-- A role calls an operation on a semaphore at one point of its loop at most. -/
def site (role : Role) (name : SemName) : Semlib2.Operation → Option Point
  | .semWait =>
      if name = .mutexSem then some .waitMutex
      else if name = taken role then some .waitSlot else none
  | .semPost =>
      if name = .mutexSem then some .postMutex
      else if name = given role then some .postSlot else none
  | .semTrywait => none

/-- A thread calls an operation on a semaphore exactly at the site of its role. -/
theorem calls_iff (view : Local) (name : SemName) (operation : Semlib2.Operation) :
    view.calls = some (name, operation) ↔ site view.role name operation = some view.point := by
  obtain ⟨role, point, i⟩ := view
  cases role <;> cases point <;> cases name <;> cases operation <;>
    simp [Local.calls, site, taken, given, Role.other]

/-- The number of iterations in which a thread went beyond a site. -/
def Local.passed (site : Point) (view : Local) : Nat :=
  view.i + (decide (site.order < view.point.order)).toNat

/-- The number of successful returns of an operation on a semaphore to a thread. -/
def Local.returns (name : SemName) (operation : Semlib2.Operation) (view : Local) : Nat :=
  match site view.role name operation with
  | some point => view.passed point
  | none => 0

/-- A statement outside the calls keeps the number of returns. -/
theorem returns_goto (view : Local) (point : Point)
    (same : ∀ site : Point, site = .waitSlot ∨ site = .waitMutex ∨ site = .postMutex ∨
      site = .postSlot → (site.order < point.order ↔ site.order < view.point.order))
    (name : SemName) (operation : Semlib2.Operation) :
    (view.goto point).returns name operation = view.returns name operation := by
  have kept (each : Point) (callSite : each = .waitSlot ∨ each = .waitMutex ∨ each = .postMutex ∨
      each = .postSlot) : (view.goto point).passed each = view.passed each := by
    simp only [Local.passed, Local.goto, same each callSite]
  have sites : ∀ each, site view.role name operation = some each →
      each = .waitSlot ∨ each = .waitMutex ∨ each = .postMutex ∨ each = .postSlot := by
    intro each found
    cases operation <;> simp only [site] at found <;> grind
  unfold Local.returns
  cases found : site view.role name operation with
  | none => simp [Local.goto, found]
  | some each =>
      simp only [Local.goto, found]
      exact kept each (sites each found)

/-- A successful call adds one return of its operation on its semaphore. -/
theorem returns_succeed (view : Local) (name : SemName) (operation : Semlib2.Operation)
    (calls : view.calls = some (name, operation)) (other : SemName)
    (current : Semlib2.Operation) :
    view.succeed.returns other current =
      view.returns other current + if other = name ∧ current = operation then 1 else 0 := by
  obtain ⟨role, point, i⟩ := view
  cases role <;> cases point <;> simp [Local.calls, taken, given, Role.other] at calls <;>
    obtain ⟨rfl, rfl⟩ := calls <;> cases other <;> cases current <;>
    simp [Local.succeed, Local.goto, Local.returns, site, taken, given, Role.other, Local.passed,
      Point.order]

/-- The loop variable stays within the loop bound and reaches it at the end of the loop. -/
structure Local.Bounded (nloops : Nat) (view : Local) : Prop where
  inside : view.i ≤ nloops
  ended : view.point = .finished → view.i = nloops
  body : 0 < view.point.order → view.i < nloops
  running : view.point ≠ .failed

/-- A semaphore runs for the threads that call it, and it counts their returns. -/
structure Serves [Fintype Thread] (maxBuf : Nat) (thread : Thread → Local) (name : SemName)
    (sem : Semlib2.State Thread) : Prop where
  reached : (Semlib2.system Thread (initialValue maxBuf name)).Reachable sem
  coherent : ∀ caller operation, (sem.point caller).operation = some operation →
    (thread caller).calls = some (name, operation)
  returned : ∀ operation, sem.returned operation = total (Local.returns name operation) thread

/-- The threads keep their roles and bounds, and each semaphore serves them. -/
structure Linked [Fintype Thread] (maxBuf nloops : Nat) (role : Thread → Role)
    (state : State Thread) : Prop where
  roles : ∀ thread, (state.thread thread).role = role thread
  bounded : ∀ thread, (state.thread thread).Bounded nloops
  serves : ∀ name, Serves maxBuf state.thread name (state.sem name)

section Serves
variable [Fintype Thread] {maxBuf : Nat} {thread : Thread → Local} {name : SemName}
  {sem later : Semlib2.State Thread}

omit [DecidableEq Thread] in
/-- A call of the loop is never the attempted wait. -/
theorem calls_ne_trywait {view : Local} {operation : Semlib2.Operation}
    (calls : view.calls = some (name, operation)) : operation ≠ .semTrywait := by
  intro attempt
  have found := (calls_iff view name operation).mp calls
  rw [attempt] at found
  cases found

/-- A thread outside its calls is outside all semaphores. -/
theorem Serves.outside (serves : Serves maxBuf thread name sem) {caller : Thread}
    (idle : (thread caller).calls = none) : (sem.point caller).operation = none := by
  cases operation : (sem.point caller).operation with
  | none => rfl
  | some current =>
      have calls := serves.coherent caller current operation
      rw [idle] at calls
      cases calls

/-- The result of each call is zero. -/
theorem Serves.result (serves : Serves maxBuf thread name sem) {caller : Thread}
    {operation : Semlib2.Operation} {result : Int}
    (calls : (thread caller).calls = some (name, operation))
    (here : sem.point caller = .returned operation result) : result = 0 := by
  have succeeds := Semlib2.reachable_succeeds serves.reached caller
  rw [here] at succeeds
  exact succeeds (calls_ne_trywait calls)

/-- A step inside an operation serves the same threads. -/
theorem Serves.inside (serves : Serves maxBuf thread name sem) {label : Semlib2.Label Thread}
    (internal : label.internal = true) (taken : sem.next label = some later) :
    Serves maxBuf thread name later where
  reached := .step label serves.reached taken
  coherent caller operation inside := by
    rw [Semlib2.operation_step internal (Semlib2.step_of_next taken) caller] at inside
    exact serves.coherent caller operation inside
  returned operation := by
    rw [Semlib2.returned_step internal (Semlib2.step_of_next taken)]
    exact serves.returned operation

/-- A call enters the operation that the thread calls. -/
theorem Serves.call (serves : Serves maxBuf thread name sem) {caller : Thread}
    {operation : Semlib2.Operation} (calls : (thread caller).calls = some (name, operation))
    (taken : sem.next (.call caller operation) = some later) :
    Serves maxBuf thread name later := by
  have reached : (Semlib2.system Thread (initialValue maxBuf name)).Reachable later :=
    .step (.call caller operation) serves.reached taken
  obtain ⟨_, rfl⟩ := Semlib2.call_next taken
  refine ⟨reached, ?_, serves.returned⟩
  refine (Function.forall_update_iff sem.point fun other point =>
    ∀ current, point.operation = some current → (thread other).calls = some (name, current)).mpr
    ⟨?_, fun other _ => serves.coherent other⟩
  intro current inside
  rw [Semlib2.operation_entry, Option.some.injEq] at inside
  rw [← inside]
  exact calls

/-- A thread that is outside and keeps its returns leaves the semaphore serving all threads. -/
theorem Serves.update (serves : Serves maxBuf thread name sem) (caller : Thread) (view : Local)
    (idle : (sem.point caller).operation = none)
    (same : ∀ operation, view.returns name operation = (thread caller).returns name operation) :
    Serves maxBuf (Function.update thread caller view) name sem where
  reached := serves.reached
  coherent other operation inside := by
    have different : other ≠ caller := by
      intro equal
      rw [equal, idle] at inside
      cases inside
    rw [Function.update_of_ne different]
    exact serves.coherent other operation inside
  returned operation := by
    apply total_follow (serves.returned operation) caller view
    rw [same operation]

/-- A return leaves the operation, and the semaphore counts it once. -/
theorem Serves.ret (serves : Serves maxBuf thread name sem) {caller : Thread}
    {operation : Semlib2.Operation} (calls : (thread caller).calls = some (name, operation))
    (taken : sem.next (.ret caller operation 0) = some later) :
    Serves maxBuf (Function.update thread caller (thread caller).succeed) name later := by
  have reached : (Semlib2.system Thread (initialValue maxBuf name)).Reachable later :=
    .step (.ret caller operation 0) serves.reached taken
  obtain ⟨_, rfl⟩ := Semlib2.ret_next taken
  refine ⟨reached, ?_, ?_⟩
  · refine (Function.forall_update_iff sem.point fun other point => ∀ current,
      point.operation = some current →
        (Function.update thread caller (thread caller).succeed other).calls =
          some (name, current)).mpr ⟨?_, ?_⟩
    · intro current inside
      cases inside
    · intro other different current inside
      rw [Function.update_of_ne different]
      exact serves.coherent other current inside
  · intro current
    apply total_follow (serves.returned current) caller (thread caller).succeed
    rw [returns_succeed _ name operation calls]
    simp only [Semlib2.State.leave]
    by_cases equal : current = operation
    · subst equal
      simp only [Function.update_self, if_true, and_self]
      omega
    · simp only [Function.update_of_ne equal, equal, and_false, if_false, Nat.add_zero]

end Serves

section Steps
variable [Fintype Thread] {maxBuf nloops : Nat} {role : Thread → Role}

/-- A statement outside the calls keeps the link between threads and semaphores. -/
theorem Linked.goto {state later : State Thread} (linked : Linked maxBuf nloops role state)
    (thread : Thread) (point : Point)
    (moved : later.thread = Function.update state.thread thread ((state.thread thread).goto point))
    (sems : later.sem = state.sem) (idle : (state.thread thread).calls = none)
    (bounded : ((state.thread thread).goto point).Bounded nloops)
    (same : ∀ site : Point, site = .waitSlot ∨ site = .waitMutex ∨ site = .postMutex ∨
      site = .postSlot → (site.order < point.order ↔ site.order < (state.thread thread).point.order)) :
    Linked maxBuf nloops role later where
  roles := by
    rw [moved]
    exact (Function.forall_update_iff state.thread fun other view => view.role = role other).mpr
      ⟨linked.roles thread, fun other _ => linked.roles other⟩
  bounded := by
    rw [moved]
    exact (Function.forall_update_iff state.thread fun _ view => view.Bounded nloops).mpr
      ⟨bounded, fun other _ => linked.bounded other⟩
  serves name := by
    rw [moved, sems]
    exact (linked.serves name).update thread _ ((linked.serves name).outside idle)
      (returns_goto _ point same name)

/-- A step of one semaphore that serves the same threads keeps the link. -/
theorem Linked.setSem {state : State Thread} (linked : Linked maxBuf nloops role state)
    (name : SemName) (sem : Semlib2.State Thread) (serves : Serves maxBuf state.thread name sem) :
    Linked maxBuf nloops role (state.setSem name sem) where
  roles := linked.roles
  bounded := linked.bounded
  serves := (Function.forall_update_iff state.sem (Serves maxBuf state.thread)).mpr
    ⟨serves, fun other _ => linked.serves other⟩

/-- A bounded thread stays bounded after a successful call. -/
theorem Local.Bounded.succeed {view : Local} (bounded : view.Bounded nloops) {name : SemName}
    {operation : Semlib2.Operation} (calls : view.calls = some (name, operation)) :
    view.succeed.Bounded nloops := by
  have inside := bounded.inside
  have body := bounded.body
  obtain ⟨role, point, i⟩ := view
  cases point <;> simp only [Local.calls, reduceCtorEq] at calls <;>
    simp only [Point.order] at body <;>
    constructor <;> simp [Local.succeed, Local.goto, Point.order] <;> omega

/-- A return leaves the operation and the thread goes on to its next statement. -/
theorem Linked.ret {state : State Thread} (linked : Linked maxBuf nloops role state)
    (thread : Thread) (result : Int) (name : SemName) (operation : Semlib2.Operation)
    (sem : Semlib2.State Thread) (calls : (state.thread thread).calls = some (name, operation))
    (taken : (state.sem name).next (.ret thread operation result) = some sem) :
    Linked maxBuf nloops role
      ((state.setSem name sem).setView thread ((state.thread thread).resume result)) := by
  have success := (linked.serves name).result calls (Semlib2.ret_next taken).1
  subst success
  have resumed : (state.thread thread).resume 0 = (state.thread thread).succeed := rfl
  have sameRole : (state.thread thread).succeed.role = (state.thread thread).role := by
    unfold Local.succeed
    split <;> rfl
  rw [resumed]
  refine ⟨?_, ?_, ?_⟩
  · exact (Function.forall_update_iff state.thread fun other view => view.role = role other).mpr
      ⟨sameRole.trans (linked.roles thread), fun other _ => linked.roles other⟩
  · exact (Function.forall_update_iff state.thread fun _ view => view.Bounded nloops).mpr
      ⟨(linked.bounded thread).succeed calls, fun other _ => linked.bounded other⟩
  · refine (Function.forall_update_iff state.sem (Serves maxBuf
      (Function.update state.thread thread (state.thread thread).succeed))).mpr
      ⟨(linked.serves name).ret calls taken, ?_⟩
    intro other different
    refine (linked.serves other).update thread _ ?_ ?_
    · cases inside : ((state.sem other).point thread).operation with
      | none => rfl
      | some current =>
          have elsewhere := (linked.serves other).coherent thread current inside
          rw [calls, Option.some.injEq, Prod.mk.injEq] at elsewhere
          exact absurd elsewhere.1.symm different
    · intro current
      rw [returns_succeed _ name operation calls]
      simp [different]

/-- A thread inside the loop body stays bounded at each later point of the body. -/
theorem Local.Bounded.goto {view : Local} (bounded : view.Bounded nloops) (point : Point)
    (body : view.i < nloops) (ends : point ≠ .finished) (running : point ≠ .failed) :
    (view.goto point).Bounded nloops where
  inside := bounded.inside
  ended finished := absurd finished ends
  body _ := body
  running := running

/-- Each step keeps the link. -/
theorem linked_step {state later : State Thread} {label : Label Thread}
    (linked : Linked maxBuf nloops role state) (step : Step maxBuf nloops state label later) :
    Linked maxBuf nloops role later := by
  cases step with
  | enter thread here more =>
      have bounded := (linked.bounded thread).goto .waitSlot more (by simp) (by simp)
      exact linked.goto thread .waitSlot rfl rfl (by simp [Local.calls, here]) bounded
        (by rintro site (rfl | rfl | rfl | rfl) <;> simp [here, Point.order])
  | finish thread here done =>
      have inside := (linked.bounded thread).inside
      have equal : (state.thread thread).i = nloops := by omega
      exact linked.goto thread .finished rfl rfl (by simp [Local.calls, here])
        ⟨inside, fun _ => equal, fun positive => absurd positive (by simp [Local.goto, Point.order]),
          by simp [Local.goto]⟩
        (by rintro site (rfl | rfl | rfl | rfl) <;> simp [here, Point.order])
  | store thread data here isProducer =>
      have body := (linked.bounded thread).body (by rw [here]; decide)
      exact linked.goto thread .advance rfl rfl (by simp [Local.calls, here])
        ((linked.bounded thread).goto .advance body (by simp) (by simp))
        (by rintro site (rfl | rfl | rfl | rfl) <;> simp [here, Point.order])
  | load thread here isConsumer =>
      have body := (linked.bounded thread).body (by rw [here]; decide)
      exact linked.goto thread .advance rfl rfl (by simp [Local.calls, here])
        ((linked.bounded thread).goto .advance body (by simp) (by simp))
        (by rintro site (rfl | rfl | rfl | rfl) <;> simp [here, Point.order])
  | advance thread here =>
      have body := (linked.bounded thread).body (by rw [here]; decide)
      exact linked.goto thread .count rfl rfl (by simp [Local.calls, here])
        ((linked.bounded thread).goto .count body (by simp) (by simp))
        (by rintro site (rfl | rfl | rfl | rfl) <;> simp [here, Point.order])
  | count thread here =>
      have body := (linked.bounded thread).body (by rw [here]; decide)
      exact linked.goto thread .postMutex rfl rfl (by simp [Local.calls, here])
        ((linked.bounded thread).goto .postMutex body (by simp) (by simp))
        (by rintro site (rfl | rfl | rfl | rfl) <;> simp [here, Point.order])
  | call thread name operation sem calls taken =>
      exact linked.setSem name sem ((linked.serves name).call calls taken)
  | inside name label sem internal taken =>
      exact linked.setSem name sem ((linked.serves name).inside internal taken)
  | ret thread result name operation sem calls taken =>
      exact linked.ret thread result name operation sem calls taken

/-- The initial state links idle threads to fresh semaphores. -/
theorem linked_initial {state : State Thread} (start : (system maxBuf nloops role).initial state) :
    Linked maxBuf nloops role state := by
  obtain ⟨initialized, shape⟩ := start
  have fresh (name : SemName) : (Semlib2.system Thread (initialValue maxBuf name)).Reachable
      (state.sem name) := by
    refine .initial ⟨?_, initialized name⟩
    cases name <;> simp [initialValue]
  have idle (name : SemName) : (∀ thread, (state.sem name).point thread = .outside) ∧
      ∀ operation, (state.sem name).returned operation = 0 := by
    rw [Semlib2.semInit_eq (initialized name)]
    exact ⟨fun _ => rfl, fun _ => rfl⟩
  rw [shape]
  refine ⟨fun _ => rfl, ?_, fun name => ⟨fresh name, ?_, ?_⟩⟩
  · intro thread
    exact ⟨Nat.zero_le _, by simp, by simp [Point.order], by simp⟩
  · intro thread operation inside
    simp only [(idle name).1 thread, Semlib2.Point.operation] at inside
    cases inside
  · intro operation
    simp only [(idle name).2 operation]
    symm
    apply total_eq_zero
    intro thread
    simp only [Local.returns, Local.passed, Point.order]
    cases site (role thread) name operation with
    | none => rfl
    | some point => simp

end Steps

end ProdconsS
