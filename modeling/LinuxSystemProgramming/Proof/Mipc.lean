import LinuxSystemProgramming.Construction.Mipc
import Mathlib.Algebra.Group.Even

namespace Mipc
open Transition

/-- The parent takes the even turns, and the child takes the odd ones. -/
def turn (value : Nat) : Process := if value % 2 = 0 then .parent else .child

/-- The first turns return their own numbers. -/
def turns (count : Nat) : List (Process × Nat) :=
  (List.range count).map fun value => (turn value, value)

/-- The parent may call `update` from its loop test to its `TELL`, and the child from the end of its `WAIT`. -/
def State.entitled (state : State) (process : Process) : Prop :=
  match (state.local process).point with
  | .loop => process = .parent
  | .load | .store _ | .check _ | .tell => True
  | _ => False

/-- A process is in the loop body of its turn, and the counter is its turn or one more. -/
inductive Updating (i : Nat) : Point → Nat → Prop where
  | load : Updating i .load i
  | store : Updating i (.store i) i
  | check : Updating i (.check i) (i + 1)
  | tell : Updating i .tell (i + 1)

/-- The parent holds the turn at its loop test, in its loop body, or after its loop. -/
inductive Holding (nloops i : Nat) : Point → Nat → Prop where
  | loop (bound : i ≤ nloops) : Holding nloops i .loop i
  | body (inside : i < nloops) {point : Point} {area : Nat} (updating : Updating i point area) :
      Holding nloops i point area
  | finished (ended : i = nloops) : Holding nloops i .finished i

/-- The child without the turn is at its loop test, waits, or has finished. -/
inductive Idle (nloops i : Nat) : Point → Prop where
  | loop : Idle nloops i .loop
  | wait (inside : i < nloops) : Idle nloops i .wait
  | finished (ended : nloops ≤ i) : Idle nloops i .finished

/-- The turn is with the parent, in the first pipe, with the child, or in the second pipe. -/
inductive Phase (nloops : Nat) : State → Prop where
  | parent (k area : Nat) (point idle : Point) (holds : Holding nloops (2 * k) point area)
      (waits : Idle nloops (2 * k + 1) idle) :
      Phase nloops ⟨⟨point, 2 * k⟩, ⟨idle, 2 * k + 1⟩, area, [], [], turns area⟩
  | toChild (k : Nat) (idle : Point) (inside : 2 * k < nloops)
      (waits : Idle nloops (2 * k + 1) idle) :
      Phase nloops ⟨⟨.wait, 2 * k⟩, ⟨idle, 2 * k + 1⟩, 2 * k + 1, [112], [], turns (2 * k + 1)⟩
  | child (k area : Nat) (point : Point) (inside : 2 * k + 1 < nloops)
      (updating : Updating (2 * k + 1) point area) :
      Phase nloops ⟨⟨.wait, 2 * k⟩, ⟨point, 2 * k + 1⟩, area, [], [], turns area⟩
  | toParent (k : Nat) (idle : Point) (inside : 2 * k + 1 < nloops)
      (waits : Idle nloops (2 * (k + 1) + 1) idle) :
      Phase nloops ⟨⟨.wait, 2 * k⟩, ⟨idle, 2 * (k + 1) + 1⟩, 2 * (k + 1), [], [99],
        turns (2 * (k + 1))⟩

/-- One more turn is recorded behind the others. -/
theorem turns_succ (count : Nat) : turns (count + 1) = turns count ++ [(turn count, count)] := by
  rw [turns, turns, List.range_succ, List.map_append]
  rfl

/-- An even turn is the parent's. -/
theorem turn_even (k : Nat) : turn (2 * k) = .parent := if_pos (by omega)

/-- An odd turn is the child's. -/
theorem turn_odd (k : Nat) : turn (2 * k + 1) = .child := if_neg (by omega)

section Steps
variable {nloops : Nat} {state later : State}

/-- A step of the child without the turn keeps it without the turn. -/
theorem phase_idle {k area : Nat} {parent : Local} {pfd2 : List UInt8} {idle : Point}
    {trace : List (Process × Nat)} (waits : Idle nloops (2 * k + 1) idle)
    (taken : State.next nloops ⟨parent, ⟨idle, 2 * k + 1⟩, area, [], pfd2, trace⟩ .child =
      some later) :
    ∃ moved, Idle nloops (2 * k + 1) moved ∧
      later = ⟨parent, ⟨moved, 2 * k + 1⟩, area, [], pfd2, trace⟩ := by
  cases waits with
  | loop =>
      by_cases inside : 2 * k + 1 < nloops
      · simp only [State.next, State.local, State.goto, inside, if_true, Option.some.injEq] at taken
        exact ⟨.wait, .wait inside, taken.symm⟩
      · simp only [State.next, State.local, State.goto, inside, if_false, Option.some.injEq] at taken
        exact ⟨.finished, .finished (by omega), taken.symm⟩
  | wait inside => simp [State.next, State.local, State.waitParent] at taken
  | finished ended => simp [State.next, State.local] at taken

/-- Before its last statement a process stays in its turn, and it records what `update` returned. -/
theorem updating_step {process : Process} {i area : Nat} {point : Point} (own : turn i = process)
    (updating : Updating i point area) (untold : point ≠ .tell)
    (here : state.local process = ⟨point, i⟩) (counter : state.area = area)
    (traced : state.trace = turns area) (taken : state.next nloops process = some later) :
    ∃ moved next, Updating i moved next ∧
      later = { state with area := next, trace := turns next }.goto moved process := by
  have same : { state with area := area, trace := turns area } = state := by
    rw [← counter] at traced ⊢
    rw [← traced]
  cases updating with
  | load =>
      simp only [State.next, here, Option.some.injEq] at taken
      refine ⟨.store i, i, .store, ?_⟩
      rw [same, ← taken, counter]
  | store =>
      simp only [State.next, here, Option.some.injEq] at taken
      refine ⟨.check i, i + 1, .check, ?_⟩
      rw [← taken, traced, turns_succ, own]
  | check =>
      simp only [State.next, here, if_true, Option.some.injEq] at taken
      refine ⟨.tell, i + 1, .tell, ?_⟩
      rw [same, taken]
  | tell => exact absurd rfl untold

/-- Each step keeps the turn with one of the four holders. -/
theorem phase_step (phase : Phase nloops state) {process : Process}
    (taken : state.next nloops process = some later) : Phase nloops later := by
  cases phase with
  | parent k area point idle holds waits =>
      cases process with
      | child =>
          obtain ⟨moved, still, rfl⟩ := phase_idle waits taken
          exact .parent k area point moved holds still
      | parent =>
          cases holds with
          | loop bound =>
              by_cases inside : 2 * k < nloops
              · simp only [State.next, State.local, State.goto, inside, if_true,
                  Option.some.injEq] at taken
                exact taken ▸ .parent k _ _ idle (.body inside .load) waits
              · simp only [State.next, State.local, State.goto, inside, if_false,
                  Option.some.injEq] at taken
                exact taken ▸ .parent k _ _ idle (.finished (by omega)) waits
          | body inside updating =>
              by_cases told : point = .tell
              · subst told
                cases updating
                simp only [State.next, State.local, State.goto, State.tellChild,
                  List.nil_append, Option.some.injEq] at taken
                exact taken ▸ .toChild k idle inside waits
              · obtain ⟨moved, next, still, rfl⟩ :=
                  updating_step (turn_even k) updating told rfl rfl rfl taken
                exact .parent k next moved idle (.body inside still) waits
          | finished ended => simp [State.next, State.local] at taken
  | toChild k idle inside waits =>
      cases process with
      | parent => simp [State.next, State.local, State.waitChild] at taken
      | child =>
          cases waits with
          | loop =>
              by_cases odd : 2 * k + 1 < nloops
              · simp only [State.next, State.local, State.goto, odd, if_true,
                  Option.some.injEq] at taken
                exact taken ▸ .toChild k .wait inside (.wait odd)
              · simp only [State.next, State.local, State.goto, odd, if_false,
                  Option.some.injEq] at taken
                exact taken ▸ .toChild k .finished inside (.finished (by omega))
          | wait odd =>
              simp only [State.next, State.local, State.waitParent, State.goto, Option.map_some,
                if_true, Option.some.injEq] at taken
              exact taken ▸ .child k _ _ odd .load
          | finished ended => simp [State.next, State.local] at taken
  | child k area point inside updating =>
      cases process with
      | parent => simp [State.next, State.local, State.waitChild] at taken
      | child =>
          by_cases told : point = .tell
          · subst told
            cases updating
            simp only [State.next, State.local, State.again, State.tellParent,
              List.nil_append, Option.some.injEq] at taken
            exact taken ▸ .toParent k .loop inside .loop
          · obtain ⟨moved, next, still, rfl⟩ :=
              updating_step (turn_odd k) updating told rfl rfl rfl taken
            exact .child k next moved inside still
  | toParent k idle inside waits =>
      cases process with
      | child =>
          obtain ⟨moved, still, rfl⟩ := phase_idle waits taken
          exact .toParent k moved inside still
      | parent =>
          simp only [State.next, State.local, State.waitChild, State.again, Option.map_some,
            if_true, Option.some.injEq] at taken
          exact taken ▸ .parent (k + 1) _ _ idle (.loop (by omega)) waits

/-- In each reachable state the turn is with one of the four holders. -/
theorem reachable_phase (reached : (system nloops).Reachable state) : Phase nloops state := by
  apply reached.invariant (Phase nloops)
  · rintro state rfl
    exact .parent 0 0 .loop .loop (.loop (Nat.zero_le _)) .loop
  · intro state process later _ phase taken
    exact phase_step phase taken

/-- Only the holder of the turn may call `update`. -/
theorem Phase.exclusive (phase : Phase nloops state) :
    ¬ (state.entitled .parent ∧ state.entitled .child) := by
  rintro ⟨parent, child⟩
  cases phase with
  | parent k area point idle holds waits => cases waits <;> simp [State.entitled, State.local] at child
  | toChild k idle inside waits => exact parent
  | child k area point inside updating => exact parent
  | toParent k idle inside waits => exact parent

/-- The points of a turn are no failures. -/
theorem Updating.correct {i area : Nat} {point : Point} (updating : Updating i point area) :
    point ≠ .mismatch ∧ point ≠ .incorrect := by
  cases updating <;> simp

/-- The points without the turn are no failures. -/
theorem Idle.correct {i : Nat} {point : Point} (idle : Idle nloops i point) :
    point ≠ .mismatch ∧ point ≠ .incorrect := by
  cases idle <;> simp

/-- The points of the parent with the turn are no failures. -/
theorem Holding.correct {i area : Nat} {point : Point} (holds : Holding nloops i point area) :
    point ≠ .mismatch ∧ point ≠ .incorrect := by
  cases holds with
  | loop bound => simp
  | body inside updating => exact updating.correct
  | finished ended => simp

/-- No process finds a wrong counter or a wrong byte. -/
theorem Phase.correct (phase : Phase nloops state) (process : Process) :
    (state.local process).point ≠ .mismatch ∧ (state.local process).point ≠ .incorrect := by
  cases phase with
  | parent k area point idle holds waits =>
      cases process with
      | parent => exact holds.correct
      | child => exact waits.correct
  | toChild k idle inside waits =>
      cases process with
      | parent => simp [State.local]
      | child => exact waits.correct
  | child k area point inside updating =>
      cases process with
      | parent => simp [State.local]
      | child => exact updating.correct
  | toParent k idle inside waits =>
      cases process with
      | parent => simp [State.local]
      | child => exact waits.correct

/-- At most one byte is in the pipes, and the trace has all turns up to the counter. -/
theorem Phase.recorded (phase : Phase nloops state) :
    state.pfd1.length + state.pfd2.length ≤ 1 ∧ state.trace = turns state.area := by
  cases phase <;> exact ⟨by simp, rfl⟩

/-- The loop test always has a step. -/
theorem loop_moves {process : Process} (here : (state.local process).point = .loop) :
    state.next nloops process ≠ none := by
  simp only [State.next, here]
  split
  · cases process <;> simp
  · simp

/-- A process in its turn always has a step. -/
theorem updating_moves {process : Process} {area : Nat}
    (updating : Updating (state.local process).i (state.local process).point area) :
    state.next nloops process ≠ none := by
  generalize here : (state.local process).point = point at updating
  unfold State.next
  simp only [here]
  cases updating with
  | load => simp
  | store => simp
  | check => simp
  | tell => cases process <;> simp

/-- With an even bound some process has a step until both have finished. -/
theorem Phase.progress (phase : Phase nloops state) (even : Even nloops)
    (stuck : (system nloops).Stuck (fun _ => True) state) (process : Process) :
    (state.local process).point = .finished := by
  have parent : state.next nloops .parent = none := stuck .parent trivial
  have child : state.next nloops .child = none := stuck .child trivial
  obtain ⟨half, rfl⟩ := even
  cases phase with
  | parent k area point idle holds waits =>
      cases holds with
      | loop bound => exact absurd parent (loop_moves rfl)
      | body inside updating => exact absurd parent (updating_moves updating)
      | finished ended =>
          cases waits with
          | loop => exact absurd child (loop_moves rfl)
          | wait inside => omega
          | finished past => cases process <;> rfl
  | toChild k idle inside waits =>
      cases waits with
      | loop => exact absurd child (loop_moves rfl)
      | wait odd => cases child
      | finished ended => omega
  | child k area point inside updating => exact absurd child (updating_moves updating)
  | toParent k idle inside waits => cases parent

/-- The counter is the bound when both processes have finished. -/
theorem Phase.ended (phase : Phase nloops state)
    (finished : ∀ process, (state.local process).point = .finished) : state.area = nloops := by
  have parent := finished .parent
  cases phase with
  | parent k area point idle holds waits =>
      cases holds with
      | loop bound => cases parent
      | body inside updating => cases updating <;> cases parent
      | finished ended => exact ended
  | toChild k idle inside waits => cases parent
  | child k area point inside updating => cases parent
  | toParent k idle inside waits => cases parent

end Steps

/-- The processes alternate, and with an even bound both finish and the counter is the bound. -/
theorem alternates (nloops : Nat) (state : State) (reached : (system nloops).Reachable state) :
    ¬ (state.entitled .parent ∧ state.entitled .child) ∧
    state.pfd1.length + state.pfd2.length ≤ 1 ∧
    (∀ process, (state.local process).point ≠ .mismatch ∧
      (state.local process).point ≠ .incorrect) ∧
    state.trace = (List.range state.trace.length).map
      (fun value => (if value % 2 = 0 then .parent else .child, value)) ∧
    (Even nloops →
      ((∃ process, (state.local process).point ≠ .finished) →
        ¬ (system nloops).Stuck (fun _ => True) state) ∧
      ((∀ process, (state.local process).point = .finished) → state.area = nloops)) := by
  have phase := reachable_phase reached
  obtain ⟨single, traced⟩ := phase.recorded
  refine ⟨phase.exclusive, single, phase.correct, ?_, fun even => ⟨?_, phase.ended⟩⟩
  · have count : state.trace.length = state.area := by simp [traced, turns]
    rw [count, traced]
    rfl
  · rintro ⟨process, unfinished⟩ stuck
    exact unfinished (phase.progress even stuck process)

/-- With two loops the processes return zero and one, and both finish. -/
theorem alternates_run : ∃ state : State, state.trace = [(.parent, 0), (.child, 1)] ∧
    state.area = 2 := by
  obtain ⟨state, reached, facts⟩ := (system 2).exists_reachable start rfl
    ([.parent, .parent, .parent, .parent, .parent] ++
      [.child, .child, .child, .child, .child, .child, .child] ++ [.parent, .parent])
    (fun state => decide (state.parent.point = .finished ∧ state.child.point = .finished ∧
      state.trace.length = 2)) (by decide)
  simp only [decide_eq_true_eq] at facts
  obtain ⟨parent, child, count⟩ := facts
  obtain ⟨_, _, _, traced, whole⟩ := alternates 2 state reached
  rw [count] at traced
  refine ⟨state, traced, (whole ⟨1, rfl⟩).2 ?_⟩
  rintro (_ | _)
  · exact parent
  · exact child

end Mipc
