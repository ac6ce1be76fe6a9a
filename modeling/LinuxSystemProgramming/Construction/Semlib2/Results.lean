/-
This file models one call of `semlib2.c` with the results of the pthread calls inside it.
-/

import Mathlib.Data.List.Basic

namespace Semlib2.Results

/-- A pthread call returns zero or a positive error number, and meanwhile other threads change `sval`. -/
structure Outcome where
  error : Nat
  drift : Int
  deriving DecidableEq

/-- A caller may hold the mutex, and the run records its results, the changes of the others, and whether each access to `sval` was under the mutex. -/
structure Run where
  sval : Int
  held : Bool
  results : List Nat
  drift : Int
  guarded : Bool
  deriving DecidableEq

/-- A call starts without the mutex. -/
def start (sval : Int) : Run := ⟨sval, false, [], 0, true⟩

/-- A pthread call returns. -/
def Run.record (run : Run) (outcome : Outcome) : Run :=
  { run with
    sval := run.sval + outcome.drift
    results := run.results ++ [outcome.error]
    drift := run.drift + outcome.drift }

/-- `pthread_mutex_lock` acquires the mutex if it succeeds. -/
def Run.lock (run : Run) (outcome : Outcome) : Run :=
  { run.record outcome with held := run.held || outcome.error = 0 }

/-- `pthread_mutex_unlock` releases the mutex if it succeeds. -/
def Run.unlock (run : Run) (outcome : Outcome) : Run :=
  { run.record outcome with held := run.held && outcome.error ≠ 0 }

/-- An access to `sval` needs the mutex. -/
def Run.access (run : Run) : Run := { run with guarded := run.guarded && run.held }

/-- `sval` is changed by an access. -/
def Run.add (run : Run) (change : Int) : Run := { run.access with sval := run.sval + change }

/-- The source compares each result with zero by `<`. -/
def Outcome.tested (outcome : Outcome) : Bool := (outcome.error : Int) < 0

/-- `if (pthread_mutex_unlock(&sem->mutex) < 0) return -1;` comes before each `return`. -/
def Run.leave (run : Run) (unlock : Outcome) (result : Int) : Run × Option Int :=
  (run.unlock unlock, some (if unlock.tested then -1 else result))

/-- The loop of `sem_wait` may wait on, or an error ends it, or it passes. -/
inductive Loop where
  | waiting (run : Run)
  | failed (run : Run)
  | passed (run : Run)

/-- `while (sem->sval == 0)` calls `pthread_cond_wait`, which has the mutex again when it returns. -/
def waitLoop : List Outcome → Run → Loop
  | [], run => if run.access.sval = 0 then .waiting run.access else .passed run.access
  | outcome :: rest, run =>
      if run.access.sval = 0 then
        if outcome.tested then .failed (run.access.record outcome)
        else waitLoop rest (run.access.record outcome)
      else .passed run.access

/-- `sem_wait` has no result while the results of its waits do not let it pass. -/
def semWait (lock : Outcome) (waits : List Outcome) (unlock : Outcome) (sval : Int) :
    Run × Option Int :=
  let run := (start sval).lock lock
  if lock.tested then (run, some (-1))
  else
    match waitLoop waits run with
    | .waiting run => (run, none)
    | .failed run => run.leave unlock (-1)
    | .passed run => (run.add (-1)).leave unlock 0

def semTrywait (lock unlock : Outcome) (sval : Int) : Run × Option Int :=
  let run := (start sval).lock lock
  if lock.tested then (run, some (-1))
  else
    let run := run.access
    if run.sval = 0 then run.leave unlock (-1)
    else (run.add (-1)).leave unlock 0

def semPost (lock signal unlock : Outcome) (sval : Int) : Run × Option Int :=
  let run := (start sval).lock lock
  if lock.tested then (run, some (-1))
  else
    let run := run.record signal
    if signal.tested then run.leave unlock (-1)
    else (run.add 1).leave unlock 0

end Semlib2.Results
