import LinuxSystemProgramming.Library.AtomicSemaphore
import LinuxSystemProgramming.Proof.Semlib2.Invariant

namespace Semlib2
open Transition Monitor Tally

variable {Thread : Type} [DecidableEq Thread]

/-- The source operations correspond to the operations of an atomic semaphore. -/
def Operation.atomic : Operation → AtomicSemaphore.Operation
  | .semWait => .wait
  | .semTrywait => .trywait
  | .semPost => .post

/-- An operation takes effect at its decrement, at its increment, or at its failed check. -/
def Point.phase : Point → AtomicSemaphore.Phase
  | .outside => .idle
  | .waitLock | .waitCheck | .waitBlocked | .waitWoken | .waitDecrement => .pending .wait
  | .waitUnlock => .done .wait 0
  | .tryLock | .tryCheck | .tryDecrement => .pending .trywait
  | .tryRefuse => .done .trywait (-1)
  | .tryUnlock => .done .trywait 0
  | .postLock | .postSignal | .postIncrement => .pending .post
  | .postUnlock => .done .post 0
  | .returned operation result => .done operation.atomic result

/-- The clients see the calls and the returns of the source operations. -/
def visible : Label Thread → List (AtomicSemaphore.Event Thread)
  | .call thread operation => [.called thread operation.atomic]
  | .ret thread operation result => [.returned thread operation.atomic result]
  | .advance _ | .signal _ _ | .spurious _ => []

/-- The atomic semaphore holds the same value and each caller is in the phase of its point. -/
structure Abstracts (state : State Thread) (above : AtomicSemaphore.State Thread) : Prop where
  value : state.sval = above.value
  phase : ∀ thread, above.phase thread = (state.point thread).phase

/-- A move within one phase needs no atomic step. -/
theorem Abstracts.move {state : State Thread} {above : AtomicSemaphore.State Thread}
    (abstracts : Abstracts state above) (owner : Option Thread) (thread : Thread) {old : Point}
    (point : Point) (here : state.point thread = old) (same : point.phase = old.phase) :
    Abstracts { state.move thread point with mutex := owner } above where
  value := abstracts.value
  phase := (Function.forall_update_iff state.point fun other point =>
    above.phase other = point.phase).mpr
      ⟨by rw [abstracts.phase thread, here, same], fun other _ => abstracts.phase other⟩

/-- A change of one phase follows a move of the same thread. -/
theorem Abstracts.update {state : State Thread} {above : AtomicSemaphore.State Thread}
    (abstracts : Abstracts state above) (thread : Thread) (point : Point)
    (phase : AtomicSemaphore.Phase) (same : point.phase = phase) (other : Thread) :
    Function.update above.phase thread phase other =
      (Function.update state.point thread point other).phase := by
  revert other
  refine (Function.forall_update_iff above.phase fun other phase =>
    phase = (Function.update state.point thread point other).phase).mpr ⟨?_, ?_⟩
  · rw [Function.update_self, same]
  · intro other different
    rw [Function.update_of_ne different, abstracts.phase other]

/-- An atomic effect answers the step that changes its caller's phase. -/
theorem Abstracts.effect {state : State Thread} {above : AtomicSemaphore.State Thread}
    (abstracts : Abstracts state above) (start : Nat) (thread : Thread)
    (operation : AtomicSemaphore.Operation) (value : Nat) (result : Int)
    (pending : (state.point thread).phase = .pending operation)
    (effect : operation.effect above.value = some (value, result)) :
    (AtomicSemaphore.system Thread start).run above [.effect thread] =
      some ⟨value, Function.update above.phase thread (.done operation result)⟩ :=
  (System.run_single _ _ _).trans (AtomicSemaphore.next_effect above thread operation value result
    ((abstracts.phase thread).trans pending) effect)

variable [Fintype Thread]

omit [DecidableEq Thread] in
/-- A taking thread sees a positive value. -/
theorem positive_of_taking {value : Int} {state : State Thread} (accounted : Accounted value state)
    {above : AtomicSemaphore.State Thread} (abstracts : Abstracts state above) (thread : Thread)
    (taking : (state.point thread).taking = true) : ∃ rest, above.value = rest + 1 := by
  have covered := accounted.covered
  have positive := tally_pos Point.taking state.point thread taking
  have same := abstracts.value
  exact ⟨above.value - 1, by omega⟩

/-- An atomic effect answers a decrement, whose operation takes one and returns 0. -/
theorem Abstracts.decrement {value : Int} {state : State Thread}
    {above : AtomicSemaphore.State Thread} (abstracts : Abstracts state above)
    (accounted : Accounted value state) (start : Nat) (thread : Thread)
    (taking : (state.point thread).taking = true) (operation : AtomicSemaphore.Operation)
    (pending : (state.point thread).phase = .pending operation)
    (takes : ∀ rest, operation.effect (rest + 1) = some (rest, 0)) :
    ∃ rest : Nat, state.sval - 1 = rest ∧
      (AtomicSemaphore.system Thread start).run above [.effect thread] =
        some ⟨rest, Function.update above.phase thread (.done operation 0)⟩ := by
  obtain ⟨rest, same⟩ := positive_of_taking accounted abstracts thread taking
  have value := abstracts.value
  exact ⟨rest, by omega, abstracts.effect start thread operation rest 0 pending (by rw [same, takes])⟩

/-- A signal leaves each caller in its phase. -/
theorem Abstracts.signal {state : State Thread} {above : AtomicSemaphore.State Thread}
    (abstracts : Abstracts state above) {target : Option Thread}
    (admitted : admits Point.blocked state.point target = true) :
    Abstracts { state with point := wake (fun _ => .waitWoken) state.point target } above := by
  have phases : ∀ other, above.phase other =
      (wake (fun _ => .waitWoken) state.point target other).phase := by
    refine forall_wake admitted (fun other point => above.phase other = point.phase)
      abstracts.phase ?_
    intro sleeper asleep
    rw [abstracts.phase sleeper]
    cases point : state.point sleeper <;> rw [point] at asleep <;> cases asleep
    rfl
  exact ⟨abstracts.value, phases⟩

/-- The atomic semaphore answers each step with at most one step and the same visible events. -/
theorem abstracts_step {value : Int} (start : Nat) {state later : State Thread}
    {label : Label Thread} {above : AtomicSemaphore.State Thread}
    (accounted : Accounted value state) (abstracts : Abstracts state above)
    (step : Step state label later) :
    ∃ labels final, (AtomicSemaphore.system Thread start).run above labels = some final ∧
      Abstracts later final ∧ labels.flatMap AtomicSemaphore.shown = visible label := by
  cases step with
  | call thread operation here =>
      have idle : above.phase thread = .idle := (abstracts.phase thread).trans (by rw [here]; rfl)
      have answered := AtomicSemaphore.next_call above thread operation.atomic idle
      refine ⟨[.call thread operation.atomic], _, (System.run_single _ _ _).trans answered,
        ⟨abstracts.value, fun other => ?_⟩, rfl⟩
      exact abstracts.update thread operation.entry (.pending operation.atomic)
        (by cases operation <;> rfl) other
  | waitLock thread here free | waitRelock thread here free | tryLock thread here free
  | postLock thread here free =>
      exact ⟨[], above, rfl, abstracts.move (some thread) thread _ here rfl, rfl⟩
  | waitBlock thread here empty =>
      exact ⟨[], above, rfl, abstracts.move none thread _ here rfl, rfl⟩
  | waitPass thread here present | tryPass thread here present =>
      exact ⟨[], above, rfl, abstracts.move state.mutex thread _ here rfl, rfl⟩
  | spurious thread here =>
      exact ⟨[], above, rfl, abstracts.move state.mutex thread _ here rfl, rfl⟩
  | waitUnlock thread here | tryRefuse thread here | tryUnlock thread here
  | postUnlock thread here =>
      exact ⟨[], above, rfl, abstracts.move none thread _ here rfl, rfl⟩
  | tryFail thread here empty =>
      have zero : above.value = 0 := by have same := abstracts.value; omega
      have answered := abstracts.effect start thread .trywait 0 (-1) (by rw [here]; rfl)
        (by rw [zero]; rfl)
      refine ⟨_, _, answered, ⟨?_, fun other => ?_⟩, rfl⟩
      · exact empty
      · exact abstracts.update thread .tryRefuse (.done .trywait (-1)) rfl other
  | waitDecrement thread here =>
      obtain ⟨rest, same, answered⟩ := abstracts.decrement accounted start thread (by rw [here]; rfl)
        .wait (by rw [here]; rfl) fun _ => rfl
      refine ⟨_, _, answered, ⟨same, fun other => ?_⟩, rfl⟩
      exact abstracts.update thread .waitUnlock (.done .wait 0) rfl other
  | tryDecrement thread here =>
      obtain ⟨rest, same, answered⟩ := abstracts.decrement accounted start thread (by rw [here]; rfl)
        .trywait (by rw [here]; rfl) fun _ => rfl
      refine ⟨_, _, answered, ⟨same, fun other => ?_⟩, rfl⟩
      exact abstracts.update thread .tryUnlock (.done .trywait 0) rfl other
  | postSignal thread target here admitted =>
      have woken := abstracts.signal admitted
      have awake : wake (fun _ => .waitWoken) state.point target thread = .postSignal :=
        (wake_of_not_blocked admitted (by rw [here]; rfl)).trans here
      exact ⟨[], above, rfl, woken.move state.mutex thread .postIncrement awake rfl, rfl⟩
  | postIncrement thread here =>
      have answered := abstracts.effect start thread .post (above.value + 1) 0 (by rw [here]; rfl) rfl
      refine ⟨_, _, answered, ⟨?_, fun other => ?_⟩, rfl⟩
      · have value := abstracts.value
        change state.sval + 1 = ((above.value + 1 : Nat) : Int)
        omega
      · exact abstracts.update thread .postUnlock (.done .post 0) rfl other
  | ret thread operation result here =>
      have done : above.phase thread = .done operation.atomic result :=
        (abstracts.phase thread).trans (by rw [here]; rfl)
      have answered := AtomicSemaphore.next_ret above thread operation.atomic result done
      refine ⟨[.ret thread operation.atomic result], _, (System.run_single _ _ _).trans answered,
        ⟨abstracts.value, fun other => ?_⟩, rfl⟩
      exact abstracts.update thread .outside .idle rfl other

/-- The atomic semaphore with the initial value simulates the semaphore of the source. -/
def simulation (Thread : Type) [DecidableEq Thread] [Fintype Thread] (value : Int) :
    Simulation (system Thread value) (AtomicSemaphore.system Thread value.toNat) visible
      AtomicSemaphore.shown where
  relates state above := Owned state ∧ Accounted value state ∧ Abstracts state above
  start state begins := by
    have holds := initial_invariant begins
    obtain ⟨nonneg, initialized⟩ := begins
    obtain rfl := semInit_eq initialized
    exact ⟨_, rfl, holds.1, holds.2, ⟨(Int.toNat_of_nonneg nonneg).symm, fun _ => rfl⟩⟩
  answer state above label later related taken := by
    obtain ⟨owned, accounted, abstracts⟩ := related
    have step := step_of_next taken
    obtain ⟨labels, final, answered, kept, same⟩ :=
      abstracts_step value.toNat accounted abstracts step
    exact ⟨labels, final, answered, ⟨owned_step owned step, accounted_step owned accounted step, kept⟩,
      same⟩

/-- Each run keeps the value, bounds the returned waits, and is a run of the atomic semaphore. -/
theorem refinesAtomic (value : Int) (initial final : State Thread) (labels : List (Label Thread))
    (start : (system Thread value).initial initial)
    (taken : (system Thread value).run initial labels = some final) :
    (final.mutex = none →
      final.sval = value + final.increments - final.decrements ∧ 0 ≤ final.sval) ∧
    final.returned .semWait ≤ value + final.increments ∧
    ∃ effects above,
      (AtomicSemaphore.system Thread value.toNat).run ⟨value.toNat, fun _ => .idle⟩ effects =
        some above ∧
      final.sval = above.value ∧ (∀ thread, above.phase thread = (final.point thread).phase) ∧
      effects.flatMap AtomicSemaphore.shown = labels.flatMap visible := by
  have accounted := (reachable_invariant ((system Thread value).reachable_of_run start labels taken)).2
  have balance := accounted.balance
  have covered := accounted.covered
  have takes := accounted.takes
  have bounded : final.returned .semWait ≤ final.decrements := by
    rw [takes, State.completed]
    omega
  refine ⟨fun _ => ⟨balance, by omega⟩, by omega, ?_⟩
  obtain ⟨above, begins, related⟩ := (simulation Thread value).start initial start
  obtain ⟨effects, finish, run, ⟨_, _, abstracts⟩, same⟩ :=
    (simulation Thread value).run related labels taken
  rw [show above = ⟨value.toNat, fun _ => .idle⟩ from begins] at run
  exact ⟨effects, finish, run, abstracts.value, abstracts.phase, same⟩

/-- One thread takes the only unit, a second attempt fails, and a post lets a third thread return. -/
theorem refinesAtomic_run : ∃ final : State (Fin 3), final.returned .semWait = 1 ∧
    final.returned .semWait ≤ (1 : Int) + final.increments ∧
    ∃ effects above, (AtomicSemaphore.system (Fin 3) 1).run ⟨1, fun _ => .idle⟩ effects = some above ∧
      final.sval = above.value ∧ effects.flatMap AtomicSemaphore.shown =
        [.called 0 .wait, .called 1 .trywait, .returned 0 .wait 0, .returned 1 .trywait (-1)] := by
  let start : State (Fin 3) := ⟨1, none, fun _ => .outside, 0, 0, fun _ => 0⟩
  let labels : List (Label (Fin 3)) := [.call 0 .semWait, .advance 0, .advance 0, .advance 0,
    .advance 0, .call 1 .semTrywait, .advance 1, .advance 1, .ret 0 .semWait 0, .advance 1,
    .ret 1 .semTrywait (-1)]
  obtain ⟨final, taken, facts⟩ : ∃ final, (system (Fin 3) 1).run start labels = some final ∧
      decide (final.returned .semWait = 1) = true := (Option.any_eq_true _ _).mp (by decide)
  obtain ⟨_, bounded, effects, above, run, value, _, same⟩ :=
    refinesAtomic 1 start final labels ⟨by decide, rfl⟩ taken
  exact ⟨final, of_decide_eq_true facts, bounded, effects, above, run, value, same⟩

end Semlib2
