import LinuxSystemProgramming.Proof.ProdconsS.Semaphores

namespace ProdconsS
open Transition Tally BoundedBuffer

variable {Thread : Type} [DecidableEq Thread]

/-- The number of times that a thread of the counted roles has executed the effect at a site. -/
def State.visits (state : State Thread) (counts : Role → Bool) (site : Point) (thread : Thread) :
    Nat :=
  if counts (state.thread thread).role then
    (state.thread thread).i + (state.past site thread).toNat
  else 0

/-- A role counts only its own threads. -/
def only (role : Role) : Role → Bool := fun other => decide (other = role)

/-- All roles count. -/
def all : Role → Bool := fun _ => true

section Between
variable [Fintype Thread]

/-- The number of times that the threads of the counted roles have executed the effect at a site. -/
def State.visited (state : State Thread) (counts : Role → Bool) (site : Point) : Nat :=
  total (fun visits => visits) (state.visits counts site)

/-- The number of threads of the counted roles between two sites. -/
def State.holders (state : State Thread) (counts : Role → Bool) (first last : Point) : Nat :=
  tally (fun inside => inside) fun thread =>
    counts (state.thread thread).role && state.between first last thread

omit [DecidableEq Thread] [Fintype Thread] in
/-- A thread that is past a site is past each earlier site. -/
theorem past_earlier (state : State Thread) {first last : Point} (before : first.order < last.order)
    (thread : Thread) (past : state.past last thread = true) : state.past first thread = true := by
  simp only [State.past, Bool.or_eq_true, decide_eq_true_eq, Bool.and_eq_true] at past ⊢
  left
  rcases past with later | ⟨here, _⟩
  · omega
  · rw [here]
    exact before

omit [DecidableEq Thread] in
/-- The effects at an earlier site exceed those at a later site by the threads between them. -/
theorem visited_between (state : State Thread) (counts : Role → Bool) (first last : Point)
    (before : first.order < last.order) :
    state.visited counts first = state.visited counts last + state.holders counts first last := by
  unfold State.visited State.holders tally total
  rw [← Finset.sum_add_distrib]
  apply Finset.sum_congr rfl
  intro thread _
  have earlier := past_earlier state before thread
  simp only [State.visits, State.between]
  cases counts (state.thread thread).role with
  | false => rfl
  | true =>
      cases reached : state.past last thread with
      | true => simp [earlier reached]
      | false => simp

omit [DecidableEq Thread] in
/-- The effects at a later site are at most those at an earlier site. -/
theorem visited_le (state : State Thread) (counts : Role → Bool) (first last : Point)
    (before : first.order < last.order) :
    state.visited counts last ≤ state.visited counts first := by
  have between := visited_between state counts first last before
  omega

omit [DecidableEq Thread] in
/-- A counted thread between two sites makes the effects at the earlier site more numerous. -/
theorem visited_lt (state : State Thread) (counts : Role → Bool) (first last : Point)
    (before : first.order < last.order) (thread : Thread)
    (counted : counts (state.thread thread).role = true)
    (inside : state.between first last thread = true) :
    state.visited counts last < state.visited counts first := by
  have between := visited_between state counts first last before
  have positive : 0 < state.holders counts first last :=
    tally_pos (fun inside => inside) _ thread (by simp [counted, inside])
  omega

end Between

section Values
variable [Fintype Thread] {maxBuf nloops : Nat} {role : Thread → Role}

/-- The completed operations of a semaphore are the effects at the site of its callers. -/
theorem Linked.completed {state : State Thread} (linked : Linked maxBuf nloops role state)
    (name : SemName) (operation : Semlib2.Operation) (counts : Role → Bool) (point : Point)
    (sites : ∀ role, site role name operation = if counts role then some point else none) :
    (state.sem name).completed operation = state.visited counts point := by
  unfold Semlib2.State.completed State.visited
  rw [(linked.serves name).returned operation]
  unfold tally total
  rw [← Finset.sum_add_distrib]
  apply Finset.sum_congr rfl
  intro thread _
  have coherent := (linked.serves name).coherent thread operation
  have called := calls_iff (state.thread thread) name operation
  simp only [Local.returns, State.visits, sites]
  rw [sites] at called
  cases counted : counts (state.thread thread).role with
  | false =>
      cases effected : ((state.sem name).point thread).effected operation with
      | false => rfl
      | true =>
          have found := called.mp (coherent (Semlib2.operation_of_effected effected))
          simp [counted] at found
  | true =>
      simp only [counted, if_true, Option.some.injEq] at called ⊢
      by_cases here : point = (state.thread thread).point
      · have calls := called.mpr here
        simp [Local.passed, State.past, here, State.effected, calls]
      · have idle : ((state.sem name).point thread).effected operation = false :=
          Bool.eq_false_iff.mpr fun effected =>
            here (called.mp (coherent (Semlib2.operation_of_effected effected)))
        simp [Local.passed, State.past, Ne.symm here, idle]

/-- The value of a semaphore follows from the effects at its two sites. -/
theorem Linked.value {state : State Thread} (linked : Linked maxBuf nloops role state)
    (name : SemName) (takers givers : Role → Bool) (taking giving : Point)
    (takes : ∀ role, site role name .semWait = if takers role then some taking else none)
    (gives : ∀ role, site role name .semPost = if givers role then some giving else none) :
    (state.sem name).sval =
      initialValue maxBuf name + state.visited givers giving - state.visited takers taking ∧
    0 ≤ (state.sem name).sval := by
  have accounted := (Semlib2.reachable_invariant (linked.serves name).reached).2
  have waits := linked.completed name .semWait takers taking takes
  have posts := linked.completed name .semPost givers giving gives
  have attempts := linked.completed name .semTrywait (fun _ => false) taking fun _ => rfl
  have none : state.visited (fun _ => false) taking = 0 :=
    total_eq_zero _ _ fun _ => rfl
  have balance := accounted.balance
  have decrements := accounted.takes
  have increments := accounted.posts
  have covered := accounted.covered
  constructor
  · omega
  · omega

/-- The free slots are those that consumers have given and producers have not taken. -/
theorem Linked.emptySem {state : State Thread} (linked : Linked maxBuf nloops role state) :
    (state.sem .emptySem).sval =
      maxBuf + state.visited (only .consumer) .postSlot - state.visited (only .producer) .waitSlot ∧
    0 ≤ (state.sem .emptySem).sval :=
  linked.value .emptySem (only .producer) (only .consumer) .waitSlot .postSlot
    (by intro role; cases role <;> rfl) (by intro role; cases role <;> rfl)

/-- The filled slots are those that producers have given and consumers have not taken. -/
theorem Linked.fullSem {state : State Thread} (linked : Linked maxBuf nloops role state) :
    (state.sem .fullSem).sval =
      0 + state.visited (only .producer) .postSlot - state.visited (only .consumer) .waitSlot ∧
    0 ≤ (state.sem .fullSem).sval :=
  linked.value .fullSem (only .consumer) (only .producer) .waitSlot .postSlot
    (by intro role; cases role <;> rfl) (by intro role; cases role <;> rfl)

/-- The mutex is free until a thread takes it and until that thread gives it back. -/
theorem Linked.mutexSem {state : State Thread} (linked : Linked maxBuf nloops role state) :
    (state.sem .mutexSem).sval = 1 + state.visited all .postMutex - state.visited all .waitMutex ∧
    0 ≤ (state.sem .mutexSem).sval :=
  linked.value .mutexSem all all .waitMutex .postMutex
    (by intro role; cases role <;> rfl) (by intro role; cases role <;> rfl)

/-- The free slots, the filled slots, and the slots in the threads' hands are all slots. -/
theorem Linked.slots {state : State Thread} (linked : Linked maxBuf nloops role state) :
    (state.sem .emptySem).sval + (state.sem .fullSem).sval +
      state.holders (only .producer) .waitSlot .postSlot +
      state.holders (only .consumer) .waitSlot .postSlot = maxBuf := by
  have empty := linked.emptySem.1
  have full := linked.fullSem.1
  have producers := visited_between state (only .producer) .waitSlot .postSlot (by decide)
  have consumers := visited_between state (only .consumer) .waitSlot .postSlot (by decide)
  omega

/-- The mutex and the threads that hold it make one. -/
theorem Linked.mutex {state : State Thread} (linked : Linked maxBuf nloops role state) :
    (state.sem .mutexSem).sval + state.holders all .waitMutex .postMutex = 1 ∧
      0 ≤ (state.sem .mutexSem).sval := by
  have mutex := linked.mutexSem
  have between := visited_between state all .waitMutex .postMutex (by decide)
  constructor <;> omega

/-- Two threads between the wait and the post on the mutex are the same thread. -/
theorem Linked.alone {state : State Thread} (linked : Linked maxBuf nloops role state)
    (one other : Thread) (first : state.between .waitMutex .postMutex one = true)
    (second : state.between .waitMutex .postMutex other = true) : one = other := by
  have mutex := linked.mutex
  have single : state.holders all .waitMutex .postMutex ≤ 1 := by omega
  rw [State.holders, tally_eq_card, Finset.card_le_one] at single
  exact single one (by simp [all, first]) other (by simp [all, second])

end Values

end ProdconsS
