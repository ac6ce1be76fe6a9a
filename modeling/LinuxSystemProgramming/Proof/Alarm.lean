/-
This file proves when a signal can kill `alarm`, and that its dots go on and keep the time.
-/

import LinuxSystemProgramming.Construction.Alarm

namespace Alarm
open Transition

variable {oneShot outside : Bool} {nsecs : Nat} {state later : State}

/-- The frame has set its alarm. -/
def Frame.past : Frame → Bool
  | .print | .ret => true
  | .signal | .alarm => false

/-- The number of alarms that handlers have set. -/
def State.alarms (state : State) : Nat := state.dots + state.frames.count .print

/-- The next signal comes from the timer, or is pending, or a handler has not yet set its alarm. -/
inductive Source (nsecs : Nat) (state : State) : Prop where
  | idle (zero : nsecs = 0) (timer : state.timer = 0) (quiet : state.pending = false)
      (frames : state.frames = [])
  | armed (timer : 0 < state.timer) (bound : state.timer ≤ nsecs) (quiet : state.pending = false)
      (past : ∀ frame ∈ state.frames, frame.past = true)
      (elapsed : state.alarms * nsecs + (nsecs - state.timer) ≤ state.elapsed)
  | pending (positive : 0 < nsecs) (timer : state.timer = 0) (signal : state.pending = true)
      (past : ∀ frame ∈ state.frames, frame.past = true)
      (elapsed : (state.alarms + 1) * nsecs ≤ state.elapsed)
  | handling (positive : 0 < nsecs) (timer : state.timer = 0) (quiet : state.pending = false)
      (frame : Frame) (rest : List Frame) (frames : state.frames = frame :: rest)
      (early : frame.past = false) (past : ∀ frame ∈ rest, frame.past = true)
      (elapsed : (state.alarms + 1) * nsecs ≤ state.elapsed)

/-- These facts hold while the process runs behind `setalarm`. -/
structure Timed (nsecs : Nat) (state : State) : Prop where
  running : state.status = .running
  point : state.point = .pause
  works : state.failed = false
  alsecs : state.alsecs = nsecs
  handler : state.handler = true ∨ ∃ rest, state.frames = .signal :: rest
  source : Source nsecs state

/-- The process is in `setalarm`, or it has no alarm because `signal` failed, or it is timed, or it has exited. -/
inductive Phase (nsecs : Nat) (state : State) : Prop where
  | early (running : state.status = .running) (point : state.point ≠ .pause)
      (frames : state.frames = []) (timer : state.timer = 0) (quiet : state.pending = false)
      (dots : state.dots = 0) (elapsed : state.elapsed = 0) (works : state.failed = false)
      (handler : state.point = .signal ∨ state.handler = true)
      (alsecs : state.point = .alarm → state.alsecs = nsecs)
  | unset (running : state.status = .running) (point : state.point = .pause)
      (frames : state.frames = []) (timer : state.timer = 0) (quiet : state.pending = false)
      (failed : state.failed = true)
  | timed (timed : Timed nsecs state)
  | exited (exited : state.status = .exited) (failed : state.failed = true)

/-- `setalarm` starts the timer. -/
theorem phase_setalarm (running : state.status = .running) (point : state.point ≠ .pause)
    (frames : state.frames = []) (timer : state.timer = 0) (quiet : state.pending = false)
    (dots : state.dots = 0) (elapsed : state.elapsed = 0) (works : state.failed = false)
    (handler : state.point = .signal ∨ state.handler = true)
    (alsecs : state.point = .alarm → state.alsecs = nsecs)
    (moved : state.setalarm nsecs = some later) : Phase nsecs later := by
  rw [State.setalarm] at moved
  cases here : state.point with
  | signal =>
      simp only [here] at moved
      cases moved
      exact .early running nofun frames timer quiet dots elapsed works (.inr rfl) nofun
  | store =>
      simp only [here] at moved
      cases moved
      exact .early running nofun frames timer quiet dots elapsed works
        (.inr (handler.resolve_left (by rw [here]; exact nofun))) (fun _ => rfl)
  | alarm =>
      simp only [here] at moved
      cases moved
      refine .timed ⟨running, rfl, works, alsecs here,
        .inl (handler.resolve_left (by rw [here]; exact nofun)), ?_⟩
      rcases Nat.eq_zero_or_pos nsecs with zero | positive
      · exact .idle zero zero quiet frames
      · refine .armed positive (Nat.le_refl _) quiet ?_ ?_
        · intro frame member
          have inside : frame ∈ state.frames := member
          rw [frames] at inside
          cases inside
        · simp [State.alarms, dots, frames]
  | pause => exact absurd here point

/-- A handler that has not yet set its alarm is the source of the next signal. -/
theorem Timed.of_early (timed : Timed nsecs state) {frame : Frame} {rest : List Frame}
    (frames : state.frames = frame :: rest) (early : frame.past = false) :
    0 < nsecs ∧ state.pending = false ∧ (∀ other ∈ rest, other.past = true) ∧
      (state.alarms + 1) * nsecs ≤ state.elapsed := by
  have late (past : ∀ other ∈ state.frames, other.past = true) : False := by
    rw [frames] at past
    exact Bool.false_ne_true (early.symm.trans (past frame List.mem_cons_self))
  cases timed.source with
  | idle _ _ _ none => cases none.symm.trans frames
  | armed _ _ _ past => exact (late past).elim
  | pending _ _ _ past => exact (late past).elim
  | handling positive _ quiet other tail same _ past elapsed =>
      cases frames.symm.trans same
      exact ⟨positive, quiet, past, elapsed⟩

/-- The statements behind the new alarm keep the source of the next signal. -/
theorem Timed.of_past (timed : Timed nsecs state) {frame : Frame} {rest : List Frame}
    (frames : state.frames = frame :: rest) (late : frame.past = true)
    (running : later.status = .running) (point : later.point = .pause)
    (works : later.failed = false) (alsecs : later.alsecs = nsecs)
    (handler : later.handler = state.handler) (timer : later.timer = state.timer)
    (pending : later.pending = state.pending) (elapsed : later.elapsed = state.elapsed)
    (alarms : later.alarms = state.alarms)
    (kept : (∀ other ∈ state.frames, other.past = true) →
      ∀ other ∈ later.frames, other.past = true) : Timed nsecs later := by
  refine ⟨running, point, works, alsecs, ?_, ?_⟩
  · rcases timed.handler with installed | ⟨tail, same⟩
    · exact .inl (handler.trans installed)
    · cases frames.symm.trans same
      cases late
  · cases timed.source with
    | idle _ _ _ none => cases none.symm.trans frames
    | armed left bound quiet past time =>
        refine .armed ?_ ?_ (pending.trans quiet) (kept past) ?_
        · rwa [timer]
        · rwa [timer]
        · rwa [alarms, timer, elapsed]
    | pending positive zero signal past time =>
        refine .pending positive (timer.trans zero) (pending.trans signal) (kept past) ?_
        rwa [alarms, elapsed]
    | handling _ _ _ other tail same early =>
        cases frames.symm.trans same
        cases late.symm.trans early

/-- Each statement of `alhandler` keeps the time. -/
theorem timed_alhandler (timed : Timed nsecs state) {frame : Frame} {rest : List Frame}
    (frames : state.frames = frame :: rest) : Timed nsecs (state.alhandler frame rest) := by
  have alarms : state.alarms = state.dots + (frame :: rest).count .print :=
    frames ▸ rfl
  cases frame with
  | signal =>
      obtain ⟨positive, quiet, past, elapsed⟩ := timed.of_early frames rfl
      have zero : state.timer = 0 := by
        cases timed.source with
        | armed _ _ _ late => cases late .signal (by rw [frames]; exact List.mem_cons_self)
        | idle _ zero | pending _ zero | handling _ zero => exact zero
      refine ⟨timed.running, timed.point, timed.works, timed.alsecs, .inl rfl,
        .handling positive zero quiet .alarm rest rfl rfl past ?_⟩
      have same : (state.alhandler .signal rest).alarms = state.alarms := by
        rw [alarms]
        simp [State.alarms, State.alhandler]
      rwa [same]
  | alarm =>
      obtain ⟨positive, quiet, past, elapsed⟩ := timed.of_early frames rfl
      have installed : state.handler = true :=
        timed.handler.resolve_right fun ⟨tail, same⟩ => by cases frames.symm.trans same
      have same : (state.alhandler .alarm rest).alarms = state.alarms + 1 := by
        rw [alarms]
        simp [State.alarms, State.alhandler, Nat.add_assoc]
      refine ⟨timed.running, timed.point, timed.works, timed.alsecs, .inl installed,
        .armed ?_ (Nat.le_of_eq timed.alsecs) quiet ?_ ?_⟩
      · have timer : (state.alhandler .alarm rest).timer = nsecs := timed.alsecs
        rwa [timer]
      · exact List.forall_mem_cons.mpr ⟨rfl, past⟩
      · rw [same]
        have timer : (state.alhandler .alarm rest).timer = nsecs := timed.alsecs
        rw [timer, Nat.sub_self]
        exact elapsed
  | print =>
      refine timed.of_past frames rfl timed.running timed.point timed.works timed.alsecs rfl rfl rfl
        rfl ?_ ?_
      · rw [alarms]
        simp only [State.alarms, State.alhandler, List.count_cons_self,
          List.count_cons_of_ne (show Frame.ret ≠ .print by decide)]
        omega
      · intro past
        rw [frames] at past
        exact List.forall_mem_cons.mpr ⟨rfl, (List.forall_mem_cons.mp past).2⟩
  | ret =>
      refine timed.of_past frames rfl timed.running timed.point timed.works timed.alsecs rfl rfl rfl
        rfl ?_ ?_
      · rw [alarms]
        simp [State.alarms, State.alhandler]
      · intro past
        rw [frames] at past
        exact (List.forall_mem_cons.mp past).2

/-- A second brings the next signal closer. -/
theorem timed_tick (timed : Timed nsecs state) : Timed nsecs state.tick := by
  refine ⟨timed.running, timed.point, timed.works, timed.alsecs, timed.handler, ?_⟩
  have elapsed : state.tick.elapsed = state.elapsed + 1 := if_pos timed.point
  have alarms : state.tick.alarms = state.alarms := rfl
  cases timed.source with
  | idle zero timer quiet frames =>
      exact .idle zero (by simp [State.tick, timer]) (by simp [State.tick, timer, quiet]) frames
  | armed left bound quiet past time =>
      by_cases last : state.timer = 1
      · refine .pending (Nat.lt_of_lt_of_le left bound) (by simp [State.tick, last])
          (by simp [State.tick, last]) past ?_
        rw [elapsed, alarms, Nat.succ_mul]
        omega
      · refine .armed ?_ ?_ (by simp [State.tick, last, quiet]) past ?_
        · show 0 < state.timer - 1
          omega
        · exact Nat.le_trans (Nat.sub_le _ _) bound
        · rw [elapsed, alarms]
          show state.alarms * nsecs + (nsecs - (state.timer - 1)) ≤ state.elapsed + 1
          omega
  | pending positive timer signal past time =>
      refine .pending positive (by simp [State.tick, timer]) (by simp [State.tick, signal]) past ?_
      rw [elapsed, alarms]
      exact Nat.le_trans time (Nat.le_succ _)
  | handling positive timer quiet frame rest frames early past time =>
      refine .handling positive (by simp [State.tick, timer]) (by simp [State.tick, timer, quiet])
        frame rest frames early past ?_
      rw [elapsed, alarms]
      exact Nat.le_trans time (Nat.le_succ _)

/-- The signal of the timer finds the handler. -/
theorem timed_deliver (timed : Timed nsecs state) (moved : state.deliver oneShot = some later) :
    Timed nsecs later := by
  rw [State.deliver, Option.ite_none_right_eq_some] at moved
  obtain ⟨⟨_, signal, _⟩, moved⟩ := moved
  cases timed.source with
  | idle _ _ quiet | armed _ _ quiet | handling _ _ quiet => cases signal.symm.trans quiet
  | pending positive timer _ past time =>
      have installed : state.handler = true := by
        refine timed.handler.resolve_right ?_
        rintro ⟨rest, frames⟩
        rw [frames] at past
        cases past .signal List.mem_cons_self
      rw [if_pos installed, Option.some_inj] at moved
      subst moved
      refine ⟨timed.running, timed.point, timed.works, timed.alsecs, .inr ⟨_, rfl⟩,
        .handling positive timer rfl .signal state.frames rfl rfl past ?_⟩
      simpa [State.alarms] using time

/-- Without signals from outside each step keeps the phases. -/
theorem phase_step (phase : Phase nsecs state) {label : Label}
    (taken : (system oneShot false nsecs).next state label = some later) : Phase nsecs later := by
  cases phase with
  | early running point frames timer quiet dots elapsed works handler alsecs =>
      cases label with
      | call =>
          have moved : state.call nsecs = some later := taken
          rw [State.call, if_pos running, frames] at moved
          exact phase_setalarm running point frames timer quiet dots elapsed works handler alsecs
            moved
      | fail =>
          have moved : state.fail = some later := taken
          rw [State.fail, if_pos running, frames] at moved
          simp only [Option.ite_none_right_eq_some, Option.some_inj] at moved
          obtain ⟨_, rfl⟩ := moved
          exact .unset running rfl rfl timer quiet rfl
      | tick =>
          cases taken
          exact .early running point frames (by simp [State.tick, timer])
            (by simp [State.tick, timer, quiet]) dots ((if_neg point).trans elapsed) works handler
            alsecs
      | kill => cases taken
      | deliver =>
          have moved : state.deliver oneShot = some later := taken
          simp [State.deliver, quiet] at moved
  | unset running point frames timer quiet failed =>
      cases label with
      | call =>
          have moved : state.call nsecs = some later := taken
          simp [State.call, running, frames, State.setalarm, point] at moved
      | fail =>
          have moved : state.fail = some later := taken
          simp [State.fail, running, frames, point] at moved
      | tick =>
          cases taken
          exact .unset running point frames (by simp [State.tick, timer])
            (by simp [State.tick, timer, quiet]) failed
      | kill => cases taken
      | deliver =>
          have moved : state.deliver oneShot = some later := taken
          simp [State.deliver, quiet] at moved
  | timed timed =>
      cases label with
      | call =>
          have moved : state.call nsecs = some later := taken
          rw [State.call, if_pos timed.running] at moved
          cases frames : state.frames with
          | nil => simp [frames, State.setalarm, timed.point] at moved
          | cons frame rest =>
              simp only [frames, Option.some_inj] at moved
              exact .timed (moved ▸ timed_alhandler timed frames)
      | fail =>
          have moved : state.fail = some later := taken
          rw [State.fail, if_pos timed.running] at moved
          cases frames : state.frames with
          | nil => simp [frames, timed.point] at moved
          | cons frame rest =>
              cases frame with
              | signal =>
                  simp only [frames, Option.some_inj] at moved
                  subst moved
                  exact .exited rfl rfl
              | alarm | print | ret => simp [frames] at moved
      | tick =>
          cases taken
          exact .timed (timed_tick timed)
      | kill => cases taken
      | deliver => exact .timed (timed_deliver timed taken)
  | exited exited failed =>
      have stopped : state.status ≠ .running := by
        rw [exited]
        exact nofun
      cases label with
      | call =>
          have moved : state.call nsecs = some later := taken
          simp [State.call, stopped] at moved
      | fail =>
          have moved : state.fail = some later := taken
          simp [State.fail, stopped] at moved
      | tick =>
          cases taken
          exact .exited exited failed
      | kill => cases taken
      | deliver =>
          have moved : state.deliver oneShot = some later := taken
          simp [State.deliver, stopped] at moved

/-- Without signals from outside each reachable state is in one of the phases. -/
theorem reachable_phase (reached : (system oneShot false nsecs).Reachable state) :
    Phase nsecs state := by
  refine reached.invariant (Phase nsecs) ?_ fun _ _ _ _ phase taken => phase_step phase taken
  rintro _ rfl
  exact .early rfl nofun rfl rfl rfl rfl rfl rfl (.inl rfl) nofun

/-- A handler that is not one-shot stays, and only a process without it is killed. -/
structure Kept (state : State) : Prop where
  killed : state.status = .killed → state.point = .signal ∨ state.failed = true
  installed : state.point = .signal ∨ state.failed = true ∨ state.handler = true

/-- `setalarm` installs the handler first. -/
theorem kept_setalarm (kept : Kept state) (running : state.status = .running)
    (moved : state.setalarm nsecs = some later) : Kept later := by
  rw [State.setalarm] at moved
  have alive : state.status ≠ .killed := by
    rw [running]
    exact nofun
  cases here : state.point with
  | signal =>
      simp only [here] at moved
      cases moved
      exact ⟨fun dead => absurd dead alive, .inr (.inr rfl)⟩
  | store | alarm =>
      simp only [here] at moved
      cases moved
      refine ⟨fun dead => absurd dead alive, .inr (kept.installed.resolve_left ?_)⟩
      rw [here]
      exact nofun
  | pause =>
      simp only [here] at moved
      cases moved

/-- `alhandler` keeps its installation. -/
theorem kept_alhandler (kept : Kept state) (frame : Frame) (rest : List Frame) :
    Kept (state.alhandler frame rest) := by
  cases frame with
  | signal => exact ⟨kept.killed, .inr (.inr rfl)⟩
  | alarm | print | ret => exact ⟨kept.killed, kept.installed⟩

/-- Each step keeps a handler that is not one-shot. -/
theorem kept_step (kept : Kept state) {label : Label}
    (taken : (system false outside nsecs).next state label = some later) : Kept later := by
  cases label with
  | call =>
      have moved : state.call nsecs = some later := taken
      rw [State.call, Option.ite_none_right_eq_some] at moved
      obtain ⟨running, moved⟩ := moved
      cases frames : state.frames with
      | nil =>
          simp only [frames] at moved
          exact kept_setalarm kept running moved
      | cons frame rest =>
          simp only [frames, Option.some_inj] at moved
          exact moved ▸ kept_alhandler kept frame rest
  | fail =>
      have moved : state.fail = some later := taken
      rw [State.fail, Option.ite_none_right_eq_some] at moved
      obtain ⟨running, moved⟩ := moved
      split at moved
      · rw [Option.ite_none_right_eq_some, Option.some_inj] at moved
        obtain ⟨_, rfl⟩ := moved
        exact ⟨fun _ => .inr rfl, .inr (.inl rfl)⟩
      · cases moved
        exact ⟨nofun, .inr (.inl rfl)⟩
      · cases moved
  | tick =>
      cases taken
      exact ⟨kept.killed, kept.installed⟩
  | kill =>
      obtain ⟨_, same⟩ := Option.ite_none_right_eq_some.mp taken
      cases same
      exact ⟨kept.killed, kept.installed⟩
  | deliver =>
      have moved : state.deliver false = some later := taken
      rw [State.deliver, Option.ite_none_right_eq_some] at moved
      obtain ⟨⟨running, _⟩, moved⟩ := moved
      split at moved
      case isTrue =>
        cases moved
        exact ⟨fun dead => (Status.noConfusion (running.symm.trans dead)), .inr (.inr rfl)⟩
      case isFalse removed =>
        cases moved
        refine ⟨fun _ => ?_, kept.installed⟩
        rcases kept.installed with unset | failed | installed
        · exact .inl unset
        · exact .inr failed
        · exact absurd installed removed

/-- A signal can kill the process behind its first `signal` if and only if handlers are one-shot and other processes send `SIGALRM`. -/
theorem killed_iff (oneShot outside : Bool) (nsecs : Nat) :
    (∃ state, (system oneShot outside nsecs).Reachable state ∧ state.status = .killed ∧
      state.point ≠ .signal ∧ state.failed = false) ↔ oneShot = true ∧ outside = true := by
  constructor
  · rintro ⟨state, reached, killed, point, works⟩
    have again : oneShot = true := by
      by_contra kept
      obtain rfl := Bool.eq_false_iff.mpr kept
      have kept : Kept state := by
        refine reached.invariant Kept ?_ fun _ _ _ _ kept taken => kept_step kept taken
        rintro _ rfl
        exact ⟨nofun, .inl rfl⟩
      rcases kept.killed killed with unset | failed
      · exact point unset
      · cases works.symm.trans failed
    refine ⟨again, ?_⟩
    by_contra alone
    obtain rfl := Bool.eq_false_iff.mpr alone
    cases reachable_phase reached with
    | early running | unset running => cases killed.symm.trans running
    | timed timed => cases killed.symm.trans timed.running
    | exited exited => cases killed.symm.trans exited
  · rintro ⟨rfl, rfl⟩
    have run : (system true true nsecs).run start
        [.call, .call, .call, .kill, .deliver, .kill, .deliver] = some _ := rfl
    exact ⟨_, System.reachable_of_run _ rfl _ run, rfl, nofun, rfl⟩

/-- The steps before the next dot, which has the frames on the stack, the timer and a new handler behind it. -/
def State.left (state : State) : Nat :=
  match state.frames with
  | .signal :: _ => 3
  | .alarm :: _ => 2
  | .print :: _ => 1
  | _ => 4 + state.timer + state.frames.length

theorem left_le (state : State) : state.left ≤ 4 + state.timer + state.frames.length := by
  rw [State.left]
  split <;> omega

/-- A timed process has a step that prints a dot or gets closer to it. -/
theorem Timed.goes (timed : Timed nsecs state) (positive : 0 < nsecs) :
    ∃ label later, label ≠ .fail ∧
      (system oneShot false nsecs).next state label = some later ∧ Timed nsecs later ∧
      (state.dots < later.dots ∨ state.dots = later.dots ∧ later.left < state.left) := by
  cases frames : state.frames with
  | cons frame rest =>
      have taken : state.call nsecs = some (state.alhandler frame rest) := by
        rw [State.call, if_pos timed.running, frames]
      refine ⟨.call, _, nofun, taken, timed_alhandler timed frames, ?_⟩
      cases frame with
      | signal =>
          refine .inr ⟨rfl, ?_⟩
          rw [State.left, State.left, frames]
          exact Nat.lt_succ_self 2
      | alarm =>
          refine .inr ⟨rfl, ?_⟩
          rw [State.left, State.left, frames]
          exact Nat.lt_succ_self 1
      | print => exact .inl (Nat.lt_succ_self _)
      | ret =>
          refine .inr ⟨rfl, ?_⟩
          have bound := left_le (state.alhandler .ret rest)
          have same : state.left = 4 + state.timer + (rest.length + 1) := by
            rw [State.left, frames]
            rfl
          rw [same]
          exact Nat.lt_of_le_of_lt bound (Nat.lt_succ_self _)
  | nil =>
      have same : state.left = 4 + state.timer := by
        rw [State.left, frames]
        rfl
      cases timed.source with
      | idle zero => exact absurd zero (Nat.ne_of_gt positive)
      | armed left =>
          refine ⟨.tick, state.tick, nofun, rfl, timed_tick timed, .inr ⟨rfl, ?_⟩⟩
          have bound := left_le state.tick
          have fewer : state.tick.timer = state.timer - 1 := rfl
          have none : state.tick.frames.length = 0 := congrArg List.length frames
          omega
      | pending _ timer signal =>
          have installed : state.handler = true := by
            refine timed.handler.resolve_right ?_
            rintro ⟨rest, some'⟩
            cases frames.symm.trans some'
          have taken : state.deliver oneShot = some { state with
              frames := .signal :: state.frames, handler := !oneShot, pending := false } := by
            rw [State.deliver, if_pos ⟨timed.running, signal, .inr frames⟩, if_pos installed]
          refine ⟨.deliver, _, nofun, taken, timed_deliver timed taken, .inr ⟨rfl, ?_⟩⟩
          rw [same]
          exact Nat.lt_of_lt_of_le (Nat.lt_succ_self 3) (Nat.le_add_right 4 _)
      | handling _ _ _ _ _ some' => cases frames.symm.trans some'

/-- A timed process gets to its next dot. -/
theorem Timed.prints (timed : Timed nsecs state) (positive : 0 < nsecs) :
    ∃ labels final, .fail ∉ labels ∧
      (system oneShot false nsecs).run state labels = some final ∧ state.dots < final.dots := by
  induction measured : state.left using Nat.strongRecOn generalizing state with
  | ind left inductionHypothesis =>
      obtain ⟨label, later, works, taken, timed, printed | ⟨same, closer⟩⟩ :=
        timed.goes positive
      · refine ⟨[label], later, ?_, (System.run_single _ _ _).trans taken, printed⟩
        exact fun failed => works (List.mem_singleton.mp failed).symm
      · obtain ⟨labels, final, clean, run, more⟩ :=
          inductionHypothesis _ (measured ▸ closer) timed rfl
        refine ⟨label :: labels, final, ?_, (System.run_cons _ _ _ _ _).mpr ⟨later, taken, run⟩,
          same ▸ more⟩
        exact List.not_mem_cons_of_ne_of_not_mem (Ne.symm works) clean

/-- Without signals from outside the process goes on behind its `setalarm`: each dot has its own `nsecs` seconds, and there is always another dot ahead. -/
theorem dots_go_on (reached : (system oneShot false nsecs).Reachable state) (positive : 0 < nsecs)
    (point : state.point = .pause) (works : state.failed = false) :
    state.status = .running ∧ state.dots * nsecs ≤ state.elapsed ∧
    ∃ labels final, .fail ∉ labels ∧
      (system oneShot false nsecs).run state labels = some final ∧ state.dots < final.dots := by
  cases reachable_phase reached with
  | early _ early => exact absurd point early
  | unset _ _ _ _ _ failed | exited _ failed => cases works.symm.trans failed
  | timed timed =>
      refine ⟨timed.running, ?_, timed.prints positive⟩
      have dots : state.dots * nsecs ≤ state.alarms * nsecs :=
        Nat.mul_le_mul_right nsecs (Nat.le_add_right _ _)
      have more : state.alarms * nsecs ≤ (state.alarms + 1) * nsecs :=
        Nat.mul_le_mul_right nsecs (Nat.le_succ _)
      cases timed.source with
      | idle zero => exact absurd zero (Nat.ne_of_gt positive)
      | armed _ _ _ _ elapsed => omega
      | pending _ _ _ _ elapsed => omega
      | handling _ _ _ _ _ _ _ _ elapsed => omega

/-- After two seconds there is one dot, and another one comes. -/
theorem dots_go_on_once : ∃ state, (system true false 2).Reachable state ∧ state.dots = 1 ∧
    ∃ labels final, .fail ∉ labels ∧
      (system true false 2).run state labels = some final ∧ 1 < final.dots := by
  have run : (system true false 2).run start
      [.call, .call, .call, .tick, .tick, .deliver, .call, .call, .call] = some _ := rfl
  have reached := System.reachable_of_run _ rfl _ run
  exact ⟨_, reached, rfl, (dots_go_on reached (by decide) rfl rfl).2.2⟩

end Alarm
