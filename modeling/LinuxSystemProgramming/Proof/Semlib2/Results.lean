/-
This file proves that the calls of `semlib2.c` report errors only while there are none.
-/

import LinuxSystemProgramming.Construction.Semlib2.Results

namespace Semlib2.Results

/-- A call succeeds only if its pthread calls do, it changes nothing and keeps no mutex if it fails, and its accesses are under the mutex. -/
structure Reports (before : Int) (exit : Run × Option Int) : Prop where
  success : exit.2 = some 0 → ∀ result ∈ exit.1.results, result = 0
  failure : exit.2 = some (-1) → exit.1.sval = before + exit.1.drift ∧ exit.1.held = false
  guarded : exit.1.guarded = true

/-- No result of a pthread call is negative. -/
@[simp] theorem not_tested (outcome : Outcome) : outcome.tested = false := by
  simp [Outcome.tested]

/-- The waits of `sem_wait` end when the value is not zero. -/
def taken : Int → List Outcome → Option (List Outcome)
  | sval, [] => if sval = 0 then none else some []
  | sval, outcome :: rest =>
      if sval = 0 then (taken (sval + outcome.drift) rest).map fun used => outcome :: used
      else some []

@[simp] theorem sval_access (run : Run) : run.access.sval = run.sval := rfl

/-- While the value stays zero the loop waits, by induction on the outcomes. -/
theorem waitLoop_none {waits : List Outcome} {run : Run} (stays : taken run.sval waits = none) :
    ∃ later, waitLoop waits run = .waiting later ∧ later.guarded = (run.guarded && run.held) := by
  induction waits generalizing run with
  | nil =>
      have zero : run.sval = 0 := by simpa [taken] using stays
      exact ⟨run.access, by simp [waitLoop, zero], rfl⟩
  | cons outcome rest inductionHypothesis =>
      have zero : run.sval = 0 := by
        by_contra passes
        simp [taken, passes] at stays
      have later : taken (run.access.record outcome).sval rest = none := by
        simpa [taken, zero, Run.record] using stays
      obtain ⟨last, loop, guarded⟩ := inductionHypothesis later
      refine ⟨last, ?_, ?_⟩
      · simpa [waitLoop, zero] using loop
      · simpa [Run.record, Run.access] using guarded

/-- Once the value is not zero the loop has made the waits that were taken, by induction on the outcomes. -/
theorem waitLoop_some {waits used : List Outcome} {run : Run}
    (passes : taken run.sval waits = some used) :
    ∃ later, waitLoop waits run = .passed later ∧ later.held = run.held ∧
      later.guarded = (run.guarded && run.held) ∧
      later.results = run.results ++ used.map Outcome.error := by
  induction waits generalizing run used with
  | nil =>
      rw [taken, Option.ite_none_left_eq_some, Option.some_inj] at passes
      obtain ⟨nonzero, rfl⟩ := passes
      exact ⟨run.access, by simp [waitLoop, nonzero], rfl, rfl, by simp [Run.access]⟩
  | cons outcome rest inductionHypothesis =>
      by_cases zero : run.sval = 0
      · rw [taken, if_pos zero, Option.map_eq_some_iff] at passes
        obtain ⟨further, passes, rfl⟩ := passes
        have later : taken (run.access.record outcome).sval rest = some further := by
          simpa [Run.record] using passes
        obtain ⟨last, loop, held, guarded, results⟩ := inductionHypothesis later
        refine ⟨last, ?_, held, ?_, ?_⟩
        · simpa [waitLoop, zero] using loop
        · simpa [Run.record, Run.access] using guarded
        · simpa [Run.record, Run.access] using results
      · rw [taken, if_neg zero, Option.some_inj] at passes
        subst passes
        exact ⟨run.access, by simp [waitLoop, zero], rfl, rfl, by simp [Run.access]⟩

/-- `sem_wait` reports its errors if and only if the lock succeeds and, if it returns, all other calls do. -/
theorem semWait_reports (lock unlock : Outcome) (waits : List Outcome) (sval : Int) :
    Reports sval (semWait lock waits unlock sval) ↔ lock.error = 0 ∧
      ∀ used, taken (sval + lock.drift) waits = some used →
        (∀ outcome ∈ used, outcome.error = 0) ∧ unlock.error = 0 := by
  have first : ((start sval).lock lock).sval = sval + lock.drift := rfl
  cases stays : taken (sval + lock.drift) waits with
  | none =>
      obtain ⟨later, loop, guarded⟩ := waitLoop_none (first ▸ stays)
      have exit : semWait lock waits unlock sval = (later, none) := by simp [semWait, loop]
      rw [exit]
      constructor
      · intro reports
        have safe := reports.guarded
        simpa [guarded, Run.lock, Run.record, start] using safe
      · rintro ⟨locks, -⟩
        constructor
        · intro returned
          cases returned
        · intro returned
          cases returned
        · simp [guarded, Run.lock, Run.record, start, locks]
  | some used =>
      obtain ⟨later, loop, held, guarded, results⟩ := waitLoop_some (first ▸ stays)
      have exit : semWait lock waits unlock sval = ((later.add (-1)).unlock unlock, some 0) := by
        simp [semWait, loop, Run.leave]
      have made : ((later.add (-1)).unlock unlock).results =
          lock.error :: (used.map Outcome.error ++ [unlock.error]) := by
        simp [Run.unlock, Run.record, Run.add, Run.access, results, Run.lock, start]
      rw [exit]
      constructor
      · intro reports
        have all := reports.success rfl
        simpa [made, or_imp, forall_and] using all
      · rintro ⟨locks, calls⟩
        obtain ⟨waits, unlocks⟩ := calls used rfl
        constructor
        · intro _
          rw [made, List.forall_mem_cons, List.forall_mem_append, List.forall_mem_map]
          exact ⟨locks, waits, by simpa using unlocks⟩
        · intro returned
          cases returned
        · simp [Run.unlock, Run.record, Run.add, Run.access, held, guarded, Run.lock, start, locks]

theorem semTrywait_reports (lock unlock : Outcome) (sval : Int) :
    Reports sval (semTrywait lock unlock sval) ↔ lock.error = 0 ∧ unlock.error = 0 := by
  by_cases empty : sval + lock.drift = 0
  · have exit : semTrywait lock unlock sval =
        (((start sval).lock lock).access.unlock unlock, some (-1)) := by
      simp [semTrywait, Run.leave, Run.access, Run.lock, Run.record, start, empty]
    rw [exit]
    constructor
    · rintro ⟨-, failure, guarded⟩
      have locks : lock.error = 0 := by
        simpa [Run.unlock, Run.record, Run.access, Run.lock, start] using guarded
      have released := (failure rfl).2
      have unlocks : unlock.error = 0 := by
        simpa [Run.unlock, Run.record, Run.access, Run.lock, start, locks] using released
      exact ⟨locks, unlocks⟩
    · rintro ⟨locks, unlocks⟩
      constructor
      · intro returned
        cases returned
      · intro _
        simp [Run.unlock, Run.record, Run.access, Run.lock, start, unlocks, Int.add_assoc]
      · simp [Run.unlock, Run.record, Run.access, Run.lock, start, locks]
  · have exit : semTrywait lock unlock sval =
        ((((start sval).lock lock).access.add (-1)).unlock unlock, some 0) := by
      simp [semTrywait, Run.leave, Run.access, Run.lock, Run.record, start, empty]
    rw [exit]
    constructor
    · rintro ⟨success, -, -⟩
      simpa [Run.unlock, Run.record, Run.add, Run.access, Run.lock, start] using success rfl
    · rintro ⟨locks, unlocks⟩
      constructor
      · intro _
        simp [Run.unlock, Run.record, Run.add, Run.access, Run.lock, start, locks, unlocks]
      · intro returned
        cases returned
      · simp [Run.unlock, Run.record, Run.add, Run.access, Run.lock, start, locks]

theorem semPost_reports (lock signal unlock : Outcome) (sval : Int) :
    Reports sval (semPost lock signal unlock sval) ↔
      lock.error = 0 ∧ signal.error = 0 ∧ unlock.error = 0 := by
  have exit : semPost lock signal unlock sval =
      (((((start sval).lock lock).record signal).add 1).unlock unlock, some 0) := by
    simp [semPost, Run.leave]
  rw [exit]
  constructor
  · rintro ⟨success, -, -⟩
    simpa [Run.unlock, Run.record, Run.add, Run.access, Run.lock, start] using success rfl
  · rintro ⟨locks, signals, unlocks⟩
    constructor
    · intro _
      simp [Run.unlock, Run.record, Run.add, Run.access, Run.lock, start, locks, signals, unlocks]
    · intro returned
      cases returned
    · simp [Run.unlock, Run.record, Run.add, Run.access, Run.lock, start, locks]

/-- The three calls report their errors exactly while the pthread calls that they make succeed, and a call of `sem_wait` that does not return needs its lock only. -/
theorem calls_report_iff (lock signal unlock : Outcome) (waits : List Outcome) (sval : Int) :
    (Reports sval (semWait lock waits unlock sval) ↔ lock.error = 0 ∧
      ∀ used, taken (sval + lock.drift) waits = some used →
        (∀ outcome ∈ used, outcome.error = 0) ∧ unlock.error = 0) ∧
    (Reports sval (semTrywait lock unlock sval) ↔ lock.error = 0 ∧ unlock.error = 0) ∧
    (Reports sval (semPost lock signal unlock sval) ↔
      lock.error = 0 ∧ signal.error = 0 ∧ unlock.error = 0) :=
  ⟨semWait_reports lock unlock waits sval, semTrywait_reports lock unlock sval,
    semPost_reports lock signal unlock sval⟩

/-- If the lock fails with `EINVAL`, then `sem_post` returns zero and changes the value without the mutex. -/
theorem semPost_unlocked :
    semPost ⟨22, 0⟩ ⟨0, 0⟩ ⟨0, 0⟩ 0 = (⟨1, false, [22, 0, 0], 0, false⟩, some 0) ∧
      ¬ Reports 0 (semPost ⟨22, 0⟩ ⟨0, 0⟩ ⟨0, 0⟩ 0) := by
  refine ⟨by decide, ?_⟩
  intro reports
  exact absurd reports.guarded (by decide)

end Semlib2.Results
