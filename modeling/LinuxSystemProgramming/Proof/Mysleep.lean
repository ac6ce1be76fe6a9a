/-
This file proves when `mysleep` can sleep for ever and what it returns.
-/

import LinuxSystemProgramming.Construction.Mysleep

namespace Mysleep
open Transition

variable {nsecs : Nat} {state later : State}

/-- The alarm runs from its call on, and it is pending until it was delivered. -/
structure Inv (nsecs : Nat) (state : State) : Prop where
  before : state.point = .signal ∨ state.point = .alarm →
    state.timer = 0 ∧ state.pending = false ∧ state.elapsed = 0 ∧ state.early = false
  expired : state.pending = true → state.timer = 0
  timer : state.point.counts = true → state.timer = nsecs - state.elapsed
  waits : state.point = .pause ∨ state.point = .paused →
    (state.timer = 0 ∧ state.pending = false ↔ nsecs = 0 ∨ state.early = true)
  running : state.point = .cancel ∨ (∃ value, state.point = .returned value) ∨ state.ended = none
  ended : state.point = .cancel → state.ended = some .sigalrm → state.timer = 0
  returned : ∀ value, state.point = .returned value →
    value = nsecs - state.elapsed ∧ (state.ended = some .sigalrm → value = 0)

theorem inv_start : Inv nsecs start := by
  constructor
  all_goals simp [start, Point.counts]

theorem Inv.call (inv : Inv nsecs state) (step : state.call nsecs = some later) :
    Inv nsecs later := by
  obtain ⟨before, expired, timer, waits, running, ended, returned⟩ := inv
  obtain ⟨point, left, pending, elapsed, signal, early⟩ := state
  cases point with
  | paused => cases step
  | returned value => cases step
  | _ =>
      cases step
      constructor
      all_goals simp_all [Point.counts]

theorem Inv.fail (inv : Inv nsecs state) (step : state.fail nsecs = some later) :
    Inv nsecs later := by
  obtain ⟨before, expired, timer, waits, running, ended, returned⟩ := inv
  rw [State.fail, Option.ite_none_right_eq_some, Option.some_inj] at step
  obtain ⟨here, rfl⟩ := step
  constructor
  all_goals simp_all [Point.counts]

theorem Inv.tick (inv : Inv nsecs state) : Inv nsecs state.tick := by
  obtain ⟨before, expired, timer, waits, running, ended, returned⟩ := inv
  constructor
  · intro early
    obtain ⟨none, idle, zero, late⟩ := before early
    have still : state.point.counts = false := by
      rcases early with here | here
      · exact congrArg Point.counts here
      · exact congrArg Point.counts here
    simp [State.tick, none, idle, zero, late, still]
  · intro generated
    rw [State.tick, Bool.or_eq_true, decide_eq_true_eq] at generated
    rcases generated with pending | last
    · simp [State.tick, expired pending]
    · simp [State.tick, last]
  · intro counts
    have left := timer counts
    simp only [State.tick] at counts ⊢
    rw [if_pos counts]
    omega
  · intro waiting
    refine Iff.trans ?_ (waits waiting)
    simp only [State.tick, Bool.or_eq_false_iff, decide_eq_false_iff_not]
    constructor
    · rintro ⟨none, idle, more⟩
      exact ⟨by omega, idle⟩
    · rintro ⟨none, idle⟩
      exact ⟨by omega, idle, by omega⟩
  · exact running
  · intro here alarm
    simp [State.tick, ended here alarm]
  · intro value here
    have still : state.point.counts = false := congrArg Point.counts here
    simpa [State.tick, still] using returned value here

/-- A signal ends `pause`, and an alarm does so after its time. -/
theorem Inv.wake (inv : Inv nsecs state) (here : state.point = .paused) (signal : Signal)
    (alarm : signal = .sigalrm → state.pending = true) (pending early : Bool)
    (generated : pending = true → state.pending = true) :
    Inv nsecs { state.handle signal with pending := pending, early := early } := by
  have timer := inv.timer (by rw [here]; rfl)
  rw [State.handle, if_pos here]
  constructor
  · simp
  · exact fun still => inv.expired (generated still)
  · exact fun _ => timer
  · simp
  · exact .inl rfl
  · intro _ ended
    exact inv.expired (alarm (Option.some_inj.mp ended))
  · simp

/-- An alarm that is delivered in front of `pause` does not come again. -/
theorem Inv.lose (inv : Inv nsecs state) (elsewhere : state.point ≠ .paused)
    (generated : state.pending = true) :
    Inv nsecs { state with pending := false, early := state.early || state.point = .pause } := by
  have expired := inv.expired generated
  constructor
  · intro before
    have idle := (inv.before before).2.1
    rw [generated] at idle
    cases idle
  · simp
  · exact inv.timer
  · rintro (here | here)
    · have front : state.point = .pause := here
      simp [front, expired]
    · exact absurd here elsewhere
  · exact inv.running
  · exact inv.ended
  · exact inv.returned

theorem Inv.deliver (inv : Inv nsecs state) (signal : Signal)
    (step : state.deliver signal = some later) : Inv nsecs later := by
  by_cases here : state.point = .paused
  · cases signal with
    | sigalrm =>
        rw [State.deliver, Option.ite_none_right_eq_some, Option.some_inj] at step
        obtain ⟨generated, rfl⟩ := step
        exact inv.wake here .sigalrm (fun _ => generated) _ _ nofun
    | other =>
        cases step
        have kept := inv.wake here .other nofun state.pending state.early id
        rw [State.handle, if_pos here] at kept ⊢
        exact kept
  · cases signal with
    | sigalrm =>
        rw [State.deliver, Option.ite_none_right_eq_some, Option.some_inj] at step
        obtain ⟨generated, rfl⟩ := step
        rw [State.handle, if_neg here]
        exact inv.lose here generated
    | other =>
        cases step
        rw [State.handle, if_neg here]
        exact inv

/-- The invariant holds in each reachable state, by induction on the run. -/
theorem reachable_inv (reached : (system nsecs).Reachable state) : Inv nsecs state := by
  induction reached with
  | initial start =>
      cases start
      exact inv_start
  | step label _ taken inductionHypothesis =>
      cases label with
      | call => exact inductionHypothesis.call taken
      | fail => exact inductionHypothesis.fail taken
      | tick =>
          cases taken
          exact inductionHypothesis.tick
      | deliver signal => exact inductionHypothesis.deliver signal taken

/-- Only an alarm in front of `pause` is early. -/
theorem early_step {label : Label} (step : (system nsecs).next state label = some later)
    (permitted : ¬ (state.point = .pause ∧ label = .deliver .sigalrm)) :
    later.early = state.early := by
  cases label with
  | call =>
      obtain ⟨point, left, pending, elapsed, ended, early⟩ := state
      cases point with
      | paused => cases step
      | returned value => cases step
      | _ =>
          cases step
          rfl
  | fail =>
      simp only [system, State.fail, Option.ite_none_right_eq_some, Option.some_inj] at step
      obtain ⟨_, rfl⟩ := step
      rfl
  | tick =>
      cases step
      rfl
  | deliver signal =>
      cases signal with
      | sigalrm =>
          simp only [system, State.deliver, Option.ite_none_right_eq_some, Option.some_inj] at step
          obtain ⟨_, rfl⟩ := step
          have elsewhere : state.point ≠ .pause := fun front => permitted ⟨front, rfl⟩
          simp [elsewhere]
      | other =>
          cases step
          rw [State.handle]
          split
          case isTrue here => rfl
          case isFalse elsewhere => rfl

/-- In the permitted runs no alarm is early. -/
theorem restricted_early
    (reached : ((system nsecs).restrict (permits nsecs)).Reachable state) :
    state.early = false ∧ (state = start ∨ nsecs ≠ 0) := by
  induction reached with
  | initial start =>
      cases start
      exact ⟨rfl, .inl rfl⟩
  | step label _ taken inductionHypothesis =>
      obtain ⟨permitted, taken⟩ := ((system nsecs).restrict_next _ _ _ label).mp taken
      rw [permits, Bool.and_eq_true, decide_eq_true_eq] at permitted
      obtain ⟨armed, permitted⟩ := permitted
      obtain ⟨late, -⟩ := inductionHypothesis
      refine ⟨(early_step taken ?_).trans late, .inr armed⟩
      rintro ⟨front, alarm⟩
      simp [front, alarm] at permitted

/-- A process in `pause` is blocked for ever exactly without an alarm or after an early one, and the runs with an alarm that is not early never are. A value that is returned is the time that was left. -/
theorem mysleep_blocked_iff (nsecs : Nat) :
    (∀ state, ((system nsecs).restrict (permits nsecs)).Reachable state → ¬ state.Blocked) ∧
      (∀ state, (system nsecs).Reachable state → state.point = .paused →
        (state.Blocked ↔ nsecs = 0 ∨ state.early = true)) ∧
      ∀ state value, (system nsecs).Reachable state → state.point = .returned value →
        value = nsecs - state.elapsed ∧ (state.ended = some .sigalrm → value = 0) := by
  have blocked_iff : ∀ state, (system nsecs).Reachable state → state.point = .paused →
      (state.Blocked ↔ nsecs = 0 ∨ state.early = true) := by
    intro state reached here
    rw [← (reachable_inv reached).waits (.inr here), State.Blocked]
    simp [here]
  refine ⟨?_, blocked_iff, ?_⟩
  · intro state reached blocked
    obtain ⟨late, armed⟩ := restricted_early reached
    rcases (blocked_iff state reached.of_restrict blocked.1).mp blocked with none | early
    · rcases armed with begins | some
      · rw [begins] at blocked
        cases blocked.1
      · exact some none
    · rw [late] at early
      cases early
  · intro state value reached
    exact (reachable_inv reached).returned value

/-- `mysleep(0)` sets no alarm, and `mysleep(1)` loses its alarm if a second passes in front of `pause`. -/
theorem mysleep_blocked :
    (∃ state, (system 0).Reachable state ∧ state.Blocked) ∧
      ∃ state, (system 1).Reachable state ∧ state.Blocked := by
  constructor
  · exact ⟨_, (system 0).reachable_of_run rfl [.call, .call, .call] rfl, rfl, rfl, rfl⟩
  · exact ⟨_, (system 1).reachable_of_run rfl [.call, .call, .tick, .deliver .sigalrm, .call] rfl,
      rfl, rfl, rfl⟩

end Mysleep
