import LinuxSystemProgramming.Library.Tally

namespace Monitor
open Tally

variable {Thread View : Type*}

/-- The owner of a mutex is exactly the thread whose view lies in a locked section. -/
def Exclusive (owner : Option Thread) (locked : View → Bool) (view : Thread → View) : Prop :=
  ∀ thread, locked (view thread) = true ↔ owner = some thread

/-- A free mutex has no thread in a locked section. -/
theorem Exclusive.free {locked : View → Bool} {view : Thread → View}
    (exclusive : Exclusive none locked view) (thread : Thread) : locked (view thread) = false := by
  have outside := exclusive thread
  simp only [reduceCtorEq, iff_false, Bool.not_eq_true] at outside
  exact outside

/-- Two threads in locked sections are the same thread. -/
theorem Exclusive.unique {owner : Option Thread} {locked : View → Bool} {view : Thread → View}
    (exclusive : Exclusive owner locked view) {first second : Thread}
    (one : locked (view first) = true) (other : locked (view second) = true) : first = second := by
  have same := ((exclusive first).mp one).symm.trans ((exclusive second).mp other)
  exact Option.some.inj same

/-- A thread outside the locked sections does not own the mutex. -/
theorem Exclusive.not_owner {owner : Option Thread} {locked : View → Bool} {view : Thread → View}
    (exclusive : Exclusive owner locked view) {thread : Thread}
    (outside : locked (view thread) = false) : owner ≠ some thread := by
  intro owns
  have inside := (exclusive thread).mpr owns
  simp [outside] at inside

section Update
variable [DecidableEq Thread]

/-- A move that stays on its side of the locked sections keeps the owner. -/
theorem Exclusive.keep {owner : Option Thread} {locked : View → Bool} {view : Thread → View}
    (exclusive : Exclusive owner locked view) (mover : Thread) (value : View)
    (same : locked value = locked (view mover)) :
    Exclusive owner locked (Function.update view mover value) := by
  refine (Function.forall_update_iff view fun thread value =>
    locked value = true ↔ owner = some thread).mpr ⟨?_, fun thread _ => exclusive thread⟩
  rw [same]
  exact exclusive mover

/-- A thread that enters a locked section with the mutex free becomes the owner. -/
theorem Exclusive.acquire {locked : View → Bool} {view : Thread → View}
    (exclusive : Exclusive none locked view) (mover : Thread) (value : View)
    (enters : locked value = true) :
    Exclusive (some mover) locked (Function.update view mover value) := by
  refine (Function.forall_update_iff view fun thread value =>
    locked value = true ↔ some mover = some thread).mpr ⟨by simp [enters], ?_⟩
  intro thread different
  rw [exclusive.free thread]
  simp [Ne.symm different]

/-- An owner that leaves its locked section frees the mutex. -/
theorem Exclusive.release {owner : Option Thread} {locked : View → Bool} {view : Thread → View}
    (exclusive : Exclusive owner locked view) (mover : Thread) (value : View)
    (inside : locked (view mover) = true) (leaves : locked value = false) :
    Exclusive none locked (Function.update view mover value) := by
  refine (Function.forall_update_iff view fun thread value =>
    locked value = true ↔ none = some thread).mpr ⟨by simp [leaves], ?_⟩
  intro thread different
  have outside : locked (view thread) ≠ true := fun other =>
    different (exclusive.unique other inside)
  simp [outside]

end Update

section Count
variable [Fintype Thread]

/-- A test that implies the locked section counts at most the owner. -/
theorem Exclusive.tally_owner {owner : Option Thread} {locked : View → Bool}
    {view : Thread → View} (exclusive : Exclusive owner locked view) (test : View → Bool)
    (implies : ∀ value, test value = true → locked value = true) (thread : Thread)
    (inside : locked (view thread) = true) : tally test view = (test (view thread)).toNat := by
  apply total_eq_single
  intro other different
  cases value : test (view other) with
  | false => rfl
  | true => exact absurd (exclusive.unique (implies _ value) inside) different

end Count

section Condition
variable [Fintype Thread]

/-- A signal wakes a blocked thread, and it wakes no thread only when none is blocked. -/
def admits (blocked : View → Bool) (view : Thread → View) : Option Thread → Bool
  | some target => blocked (view target)
  | none => decide (∀ thread, blocked (view thread) = false)

/-- The signal moves its target from the condition queue to the mutex queue. -/
def wake [DecidableEq Thread] (woken : View → View) (view : Thread → View) :
    Option Thread → Thread → View
  | some target => Function.update view target (woken (view target))
  | none => view

/-- A signal leaves the view of each thread that is not blocked. -/
theorem wake_of_not_blocked [DecidableEq Thread] {blocked : View → Bool} {woken : View → View}
    {view : Thread → View} {target : Option Thread} (admitted : admits blocked view target = true)
    {thread : Thread} (awake : blocked (view thread) = false) :
    wake woken view target thread = view thread := by
  cases target with
  | none => rfl
  | some target =>
      have different : thread ≠ target := by
        intro same
        subst same
        simp [admits, awake] at admitted
      exact Function.update_of_ne different _ _

/-- A fact about every view survives a signal when each woken view keeps it. -/
theorem forall_wake [DecidableEq Thread] {blocked : View → Bool} {woken : View → View}
    {view : Thread → View} {target : Option Thread} (admitted : admits blocked view target = true)
    (holds : Thread → View → Prop) (before : ∀ thread, holds thread (view thread))
    (kept : ∀ thread, blocked (view thread) = true → holds thread (woken (view thread))) :
    ∀ thread, holds thread (wake woken view target thread) := by
  cases target with
  | none => exact before
  | some target =>
      exact (Function.forall_update_iff view holds).mpr
        ⟨kept target admitted, fun thread _ => before thread⟩

/-- A signal keeps the tally of a test that its target passes before and after alike. -/
theorem tally_wake [DecidableEq Thread] (blocked : View → Bool) (woken : View → View)
    (view : Thread → View) (target : Option Thread) (admitted : admits blocked view target = true)
    (test : View → Bool)
    (same : ∀ value, blocked value = true → test (woken value) = test value) :
    tally test (wake woken view target) = tally test view := by
  cases target with
  | none => rfl
  | some target => exact tally_keep test view target _ (same _ admitted)

/-- A signal that keeps every locked section keeps the owner of the mutex. -/
theorem Exclusive.wake [DecidableEq Thread] {owner : Option Thread} {locked blocked : View → Bool}
    {view : Thread → View} (exclusive : Exclusive owner locked view) (woken : View → View)
    (target : Option Thread) (admitted : admits blocked view target = true)
    (same : ∀ value, blocked value = true → locked (woken value) = locked value) :
    Exclusive owner locked (wake woken view target) := by
  cases target with
  | none => exact exclusive
  | some target => exact exclusive.keep target _ (same _ admitted)

/-- While a thread is blocked, the supporting threads cover the demand. -/
def Attends (blocked support : View → Bool) (view : Thread → View) (demand : Int) : Prop :=
  0 < tally blocked view → demand ≤ tally support view

/-- A move that blocks nobody keeps the attendance when the support follows the demand. -/
theorem Attends.update [DecidableEq Thread] {blocked support : View → Bool} {view : Thread → View}
    {before after : Int} (attends : Attends blocked support view before) (mover : Thread)
    (value : View) (awake : blocked value = true → blocked (view mover) = true)
    (balance : after + (support (view mover)).toNat ≤ before + (support value).toNat) :
    Attends blocked support (Function.update view mover value) after := by
  intro waiting
  have blockedChange := total_update (fun each => (blocked each).toNat) view mover value
  have supportChange := total_update (fun each => (support each).toNat) view mover value
  have noneBlocked : (blocked value).toNat ≤ (blocked (view mover)).toNat :=
    Bool.toNat_le_toNat awake
  have covered := attends (by simp only [tally] at waiting ⊢; omega)
  simp only [tally] at covered ⊢
  omega

/-- A signal answers one more unit of demand by the support of the thread that it wakes. -/
theorem Attends.wake [DecidableEq Thread] {blocked support : View → Bool} {woken : View → View}
    {view : Thread → View} {before after : Int} (attends : Attends blocked support view before)
    {target : Option Thread} (admitted : admits blocked view target = true)
    (asleep : ∀ value, blocked value = true → support value = false)
    (rises : ∀ value, blocked value = true → support (woken value) = true)
    (demand : after ≤ before + 1) :
    Attends blocked support (Monitor.wake woken view target) after := by
  intro waiting
  cases target with
  | none =>
      -- without a target no thread is blocked
      simp only [admits, decide_eq_true_eq] at admitted
      exact absurd waiting (by simp [Monitor.wake, tally_eq_zero _ _ admitted])
  | some sleeper =>
      have covered := attends (tally_pos blocked view sleeper admitted)
      have more := tally_rise support view sleeper _ (asleep _ admitted) (rises _ admitted)
      simp only [Monitor.wake, more]
      omega

end Condition

end Monitor
