/-
This file proves in which runs `size` prints a line for each entry.
-/

import LinuxSystemProgramming.Construction.Size
import Mathlib.Data.List.Perm.Subperm
import Mathlib.Data.List.Range

namespace Size
open Transition
open Directory (Name)

variable {entries : List Name} {stSize : Name → Option Int} {state later : State}

/-- The unfinished threads have the names of their entries, and the others have printed them. -/
structure Inv (entries : List Name) (stSize : Name → Option Int) (state : State) : Prop where
  position : state.position ≤ entries.length
  created : ∀ thread, state.thread thread ≠ .absent → thread < state.position
  name : ∀ thread < state.position, state.thread thread ≠ .finished →
    entries[thread]? = some (state.na thread)
  size : ∀ thread size, state.thread thread = .printf size →
    stSize (state.na thread) = some size
  lines : ∀ line ∈ state.output,
    entries[line.1]? = some line.2.1 ∧ stSize line.2.1 = some line.2.2
  once : (state.output.map Prod.fst).Nodup
  finished : ∀ thread, thread ∈ state.output.map Prod.fst ↔ state.thread thread = .finished
  fresh : state.point = .create → 0 < state.position ∧
    state.thread (state.position - 1) = .absent
  returned : state.point = .returned → state.position = entries.length

theorem inv_start (na : Nat → Name) :
    Inv entries stSize ⟨.opendir, 0, na, fun _ => .absent, []⟩ := by
  constructor
  all_goals simp

theorem Inv.opendir (inv : Inv entries stSize state) (opens : Bool)
    (step : state.opendir opens = some later) : Inv entries stSize later := by
  rw [State.opendir, Option.ite_none_right_eq_some, Option.some_inj] at step
  obtain ⟨_, rfl⟩ := step
  refine { inv with fresh := ?_, returned := ?_ }
  · cases opens <;> simp
  · cases opens <;> simp

theorem Inv.readdir (inv : Inv entries stSize state) (memory : Nat → Name)
    (kept : keeps state (.readdir memory) = true)
    (step : state.readdir entries memory = some later) : Inv entries stSize later := by
  rw [State.readdir, Option.ite_none_right_eq_some] at step
  obtain ⟨here, step⟩ := step
  have names : ∀ thread < state.position, state.thread thread ≠ .finished →
      entries[thread]? = some (memory thread) := by
    intro thread before unfinished
    have same := of_decide_eq_true kept thread before
    rw [same.resolve_left unfinished]
    exact inv.name thread before unfinished
  cases next : entries[state.position]? with
  | none =>
      rw [next, Option.some_inj] at step
      subst step
      refine { inv with fresh := nofun, returned := fun _ => ?_ }
      have past := List.getElem?_eq_none_iff.mp next
      exact Nat.le_antisymm inv.position past
  | some name =>
      rw [next, Option.some_inj] at step
      subst step
      have fresh : state.thread state.position = .absent := by
        by_contra present
        exact absurd (inv.created _ present) (Nat.lt_irrefl _)
      have inside : state.position < entries.length := by
        obtain ⟨inside, _⟩ := List.getElem?_eq_some_iff.mp next
        exact inside
      have current : ∀ thread, state.thread thread ≠ .absent → thread ≠ state.position := by
        rintro thread present rfl
        exact present fresh
      constructor
      · exact inside
      · intro thread present
        exact Nat.lt_succ_of_lt (inv.created thread present)
      · intro thread before unfinished
        by_cases same : thread = state.position
        · simp [same, next]
        · have earlier : thread < state.position + 1 := before
          simp only [Function.update_of_ne same]
          exact names thread (by omega) unfinished
      · intro thread size printing
        have present : state.thread thread ≠ .absent := by
          rw [show state.thread thread = .printf size from printing]
          nofun
        have before := inv.created thread present
        have unfinished : state.thread thread ≠ .finished := by
          rw [show state.thread thread = .printf size from printing]
          nofun
        have own := inv.name thread before unfinished
        rw [names thread before unfinished, Option.some_inj] at own
        simp only [Function.update_of_ne (current thread present)]
        rw [own]
        exact inv.size thread size printing
      · exact inv.lines
      · exact inv.once
      · exact inv.finished
      · exact fun _ => ⟨Nat.succ_pos _, fresh⟩
      · nofun

/-- A step of a thread leaves the other threads as they are. -/
theorem Inv.update (inv : Inv entries stSize state) {thread : Nat}
    (before : thread < state.position) (unfinished : state.thread thread ≠ .finished)
    {phase : Phase} (sized : ∀ size, phase = .printf size → stSize (state.na thread) = some size) :
    (∀ other, Function.update state.thread thread phase other ≠ .absent →
      other < state.position) ∧
    (∀ other < state.position, Function.update state.thread thread phase other ≠ .finished →
      entries[other]? = some (state.na other)) ∧
    ∀ other size, Function.update state.thread thread phase other = .printf size →
      stSize (state.na other) = some size := by
  refine ⟨?_, ?_, ?_⟩
  · intro other present
    by_cases same : other = thread
    · exact same ▸ before
    · rw [Function.update_of_ne same] at present
      exact inv.created other present
  · intro other earlier open'
    by_cases same : other = thread
    · exact same ▸ inv.name thread before unfinished
    · rw [Function.update_of_ne same] at open'
      exact inv.name other earlier open'
  · intro other size printing
    by_cases same : other = thread
    · subst same
      rw [Function.update_self] at printing
      exact sized size printing
    · rw [Function.update_of_ne same] at printing
      exact inv.size other size printing

/-- The thread that is created next is not one that takes a step. -/
theorem Inv.fresh_update (inv : Inv entries stSize state) {thread : Nat}
    (present : state.thread thread ≠ .absent) (phase : Phase) (creating : state.point = .create) :
    0 < state.position ∧
      Function.update state.thread thread phase (state.position - 1) = .absent := by
  obtain ⟨positive, fresh⟩ := inv.fresh creating
  have other : state.position - 1 ≠ thread := by
    rintro rfl
    exact present fresh
  exact ⟨positive, by rw [Function.update_of_ne other, fresh]⟩

/-- A thread goes on without a line. -/
theorem Inv.advance (inv : Inv entries stSize state) {thread : Nat}
    (before : thread < state.position) (unfinished : state.thread thread ≠ .finished)
    (phase : Phase) (going : phase ≠ .finished)
    (sized : ∀ size, phase = .printf size → stSize (state.na thread) = some size) (point : Point)
    (fresh : point = .create → 0 < state.position ∧
      Function.update state.thread thread phase (state.position - 1) = .absent)
    (returned : point = .returned → state.position = entries.length) :
    Inv entries stSize
      { state with point := point, thread := Function.update state.thread thread phase } := by
  obtain ⟨created, name, size⟩ := inv.update before unfinished sized
  refine { inv with created, name, size, finished := ?_, fresh, returned }
  intro other
  by_cases same : other = thread
  · subst same
    simp only [Function.update_self, going, iff_false]
    exact fun printed => unfinished ((inv.finished other).mp printed)
  · simp only [Function.update_of_ne same]
    exact inv.finished other

theorem Inv.create (inv : Inv entries stSize state) (creates : Bool)
    (step : state.create creates = some later) : Inv entries stSize later := by
  rw [State.create, Option.ite_none_right_eq_some] at step
  obtain ⟨here, step⟩ := step
  obtain ⟨positive, fresh⟩ := inv.fresh here
  cases creates with
  | false =>
      cases step
      exact { inv with fresh := nofun, returned := nofun }
  | true =>
      cases step
      exact inv.advance (by omega) (by rw [fresh]; nofun) .lstat nofun nofun .readdir nofun nofun

theorem Inv.lstat (inv : Inv entries stSize state) (thread : Nat)
    (step : state.lstat stSize thread = some later) : Inv entries stSize later := by
  rw [State.lstat, Option.ite_none_right_eq_some] at step
  obtain ⟨⟨running, here⟩, step⟩ := step
  have before := inv.created thread (by rw [here]; nofun)
  cases found : stSize (state.na thread) with
  | none =>
      rw [found, Option.some_inj] at step
      subst step
      exact { inv with fresh := nofun, returned := nofun }
  | some size =>
      rw [found, Option.some_inj] at step
      subst step
      refine inv.advance before (by rw [here]; nofun) (.printf size) nofun ?_ state.point
        (inv.fresh_update (by rw [here]; nofun) _) inv.returned
      intro other same
      cases same
      exact found

theorem Inv.printf (inv : Inv entries stSize state) (thread : Nat)
    (step : state.printf thread = some later) : Inv entries stSize later := by
  rw [State.printf, Option.ite_none_right_eq_some] at step
  obtain ⟨running, step⟩ := step
  cases here : state.thread thread with
  | printf size =>
      rw [here, Option.some_inj] at step
      subst step
      have before := inv.created thread (by rw [here]; nofun)
      have name := inv.name thread before (by rw [here]; nofun)
      have own := inv.size thread size here
      have new : thread ∉ state.output.map Prod.fst := by
        rw [inv.finished, here]
        nofun
      obtain ⟨created, names, sizes⟩ :=
        inv.update before (by rw [here]; nofun) (show ∀ size, Phase.finished = .printf size → _ from nofun)
      refine { inv with
        created, name := names, size := sizes, lines := ?_, once := ?_, finished := ?_
        fresh := inv.fresh_update (by rw [here]; nofun) _ }
      · intro line member
        rw [List.mem_append, List.mem_singleton] at member
        rcases member with earlier | rfl
        · exact inv.lines line earlier
        · exact ⟨name, own⟩
      · rw [List.map_append, List.nodup_append]
        refine ⟨inv.once, List.nodup_singleton _, ?_⟩
        rintro other printed _ last rfl
        rw [List.map_singleton, List.mem_singleton] at last
        have same : other = thread := last
        exact new (same ▸ printed)
      · intro other
        rw [List.map_append, List.mem_append, List.map_singleton, List.mem_singleton]
        by_cases same : other = thread
        · simp [same]
        · simp only [same, or_false, Function.update_of_ne same]
          exact inv.finished other
  | _ =>
      rw [here] at step
      cases step

/-- The invariant holds in the runs that keep the names, by induction on the run. -/
theorem reachable_inv
    (reached : ((system entries stSize).restrict keeps).Reachable state) :
    Inv entries stSize state := by
  induction reached with
  | initial start =>
      obtain ⟨na, rfl⟩ := start
      exact inv_start na
  | step label _ taken inductionHypothesis =>
      obtain ⟨kept, taken⟩ := ((system entries stSize).restrict_next _ _ _ label).mp taken
      cases label with
      | opendir opens => exact inductionHypothesis.opendir opens taken
      | readdir memory => exact inductionHypothesis.readdir memory kept taken
      | create creates => exact inductionHypothesis.create creates taken
      | lstat thread => exact inductionHypothesis.lstat thread taken
      | printf thread => exact inductionHypothesis.printf thread taken

/-- The lines are those of their threads. -/
theorem Inv.map_lines (inv : Inv entries stSize state) :
    (state.output.map fun line => some line.2) =
      (state.output.map Prod.fst).map fun thread =>
        entries[thread]?.bind fun name => (stSize name).map fun size => (name, size) := by
  rw [List.map_map]
  refine List.map_congr_left fun line member => ?_
  obtain ⟨name, size⟩ := inv.lines line member
  simp [name, size]

theorem map_range (entries : List Name) (stSize : Name → Option Int) :
    (entries.map fun name => (stSize name).map fun size => (name, size)) =
      (List.range entries.length).map fun thread =>
        entries[thread]?.bind fun name => (stSize name).map fun size => (name, size) := by
  apply List.ext_getElem?
  intro i
  rw [List.getElem?_map, List.getElem?_map]
  by_cases inside : i < entries.length
  · simp [inside]
  · simp [Nat.le_of_not_lt inside]

/-- When `main` has returned, the output is complete if and only if all threads have printed. -/
theorem Inv.complete_iff (inv : Inv entries stSize state) (here : state.point = .returned) :
    Complete entries stSize state ↔
      ∀ thread < entries.length, state.thread thread = .finished := by
  have inside : state.output.map Prod.fst ⊆ List.range entries.length := by
    intro thread printed
    have finished := (inv.finished thread).mp printed
    have before := inv.created thread (by rw [finished]; nofun)
    rw [List.mem_range, ← inv.returned here]
    exact before
  rw [Complete, inv.map_lines, map_range]
  constructor
  · intro complete thread before
    have lengths := complete.length_eq
    simp only [List.length_map, List.length_range] at lengths
    have all := (List.subperm_of_subset inv.once inside).perm_of_length_le
      (by rw [List.length_map, List.length_range, lengths])
    exact (inv.finished thread).mp (all.mem_iff.mpr (List.mem_range.mpr before))
  · intro all
    refine List.Perm.map _ ((List.perm_ext_iff_of_nodup inv.once List.nodup_range).mpr ?_)
    intro thread
    refine ⟨fun printed => inside printed, fun before => ?_⟩
    exact (inv.finished thread).mpr (all thread (List.mem_range.mp before))

/-- `main` returns by `readdir` only. -/
theorem return_step {label : Label} (step : (system entries stSize).next state label = some later)
    (here : later.point = .returned) :
    (∃ memory, label = .readdir memory) ∧ entries[state.position]? = none ∧
      later = { state with point := .returned } := by
  cases label with
  | opendir opens =>
      simp only [system, State.opendir, Option.ite_none_right_eq_some, Option.some_inj] at step
      obtain ⟨_, rfl⟩ := step
      cases opens <;> cases here
  | readdir memory =>
      simp only [system, State.readdir, Option.ite_none_right_eq_some] at step
      obtain ⟨_, step⟩ := step
      cases next : entries[state.position]? with
      | none =>
          rw [next, Option.some_inj] at step
          exact ⟨⟨memory, rfl⟩, rfl, step.symm⟩
      | some name =>
          rw [next, Option.some_inj] at step
          subst step
          cases here
  | create creates =>
      simp only [system, State.create, Option.ite_none_right_eq_some] at step
      obtain ⟨_, step⟩ := step
      cases creates <;> cases step <;> cases here
  | lstat thread =>
      simp only [system, State.lstat, Option.ite_none_right_eq_some] at step
      obtain ⟨⟨running, _⟩, step⟩ := step
      cases found : stSize (state.na thread) with
      | none =>
          rw [found, Option.some_inj] at step
          subst step
          cases here
      | some size =>
          rw [found, Option.some_inj] at step
          subst step
          have returned : state.point = .returned := here
          simp [State.running, returned] at running
  | printf thread =>
      simp only [system, State.printf, Option.ite_none_right_eq_some] at step
      obtain ⟨running, step⟩ := step
      cases phase : state.thread thread with
      | printf size =>
          rw [phase, Option.some_inj] at step
          subst step
          have returned : state.point = .returned := here
          simp [State.running, returned] at running
      | _ =>
          rw [phase] at step
          cases step

/-- In the runs that wait for the threads all of them have printed when `main` has returned. -/
theorem restricted_finished
    (reached : ((system entries stSize).restrict (waits entries)).Reachable state)
    (here : state.point = .returned) :
    ∀ thread < state.position, state.thread thread = .finished := by
  cases reached with
  | initial start =>
      obtain ⟨na, rfl⟩ := start
      cases here
  | step label _ taken =>
      obtain ⟨permitted, taken⟩ := ((system entries stSize).restrict_next _ _ _ label).mp taken
      obtain ⟨⟨memory, rfl⟩, none, rfl⟩ := return_step taken here
      exact of_decide_eq_true permitted none

/-- `size` prints a line for each entry in all runs that keep the names and wait for the threads, and in those that keep the names it does so only if all threads have printed. -/
theorem size_complete (entries : List Name) (stSize : Name → Option Int) :
    (∀ state, ((system entries stSize).restrict fun state label =>
        keeps state label && waits entries state label).Reachable state →
      state.point = .returned → Complete entries stSize state) ∧
    ∀ state, ((system entries stSize).restrict keeps).Reachable state → state.point = .returned →
      (Complete entries stSize state ↔
        ∀ thread < entries.length, state.thread thread = .finished) := by
  have complete : ∀ state, ((system entries stSize).restrict keeps).Reachable state →
      state.point = .returned → (Complete entries stSize state ↔
        ∀ thread < entries.length, state.thread thread = .finished) :=
    fun state reached here => (reachable_inv reached).complete_iff here
  refine ⟨?_, complete⟩
  intro state reached here
  have kept : ((system entries stSize).restrict keeps).Reachable state :=
    reached.weaken fun state label permitted => by simp_all
  have waited : ((system entries stSize).restrict (waits entries)).Reachable state :=
    reached.weaken fun state label permitted => by simp_all
  rw [complete state kept here, ← (reachable_inv kept).returned here]
  exact restricted_finished waited here

/-- `main` can return before its only thread has printed. -/
theorem size_incomplete :
    ∃ state, (system [[97]] fun _ => some 0).Reachable state ∧ state.point = .returned ∧
      state.output = [] ∧ ¬ Complete [[97]] (fun _ => some 0) state := by
  refine ⟨_, (system [[97]] fun _ => some 0).reachable_of_run ⟨fun _ => [], rfl⟩
    [.opendir true, .readdir fun _ => [], .create true, .readdir fun _ => [97]] rfl, rfl, rfl, ?_⟩
  intro complete
  have lengths := complete.length_eq
  cases lengths

end Size
