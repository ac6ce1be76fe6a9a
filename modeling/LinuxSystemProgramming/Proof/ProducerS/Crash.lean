import LinuxSystemProgramming.Proof.ProducerS.Accounts

namespace ProducerS
open Transition Semlib BoundedBuffer

/-- Both processes run their loops after the initialization. -/
def running (maxBuf nloops : Nat) : System State Label :=
  (system maxBuf nloops (ready maxBuf)).restrict fun _ label => label.runs

/-- A process is outside its critical section and has taken no slot that it did not give. -/
def Point.between : Point → Bool
  | .loop | .waitSlot | .finished => true
  | _ => false

/-- The semaphores describe the buffer. -/
structure Described (maxBuf : Nat) (state : State) : Prop where
  mutexSem : count (state.sem .mutexSem) = 1
  slots : count (state.sem .emptySem) + count (state.sem .fullSem) = maxBuf
  counter : (count (state.sem .fullSem) : Int) = state.buffer.counter

/-- The producer finds a free slot at its access, and the consumer finds a filled one. -/
structure Accessible (maxBuf : Nat) (state : State) : Prop where
  producer : (state.view .producer).point = .access → state.buffer.counter < maxBuf
  consumer : (state.view .consumer).point = .access → 0 < state.buffer.counter

/-- The accounts of two started processes. -/
structure Running (base : Key → Int) (shift : Int) (state : State) : Prop where
  accounts : Accounts base (fun _ _ => 0) shift state
  started : ∀ role, (state.view role).started = true

section Runs
variable {maxBuf nloops : Nat} {base : Key → Int} {shift : Int} {state final : State}

/-- The values of the initialization. -/
def initialBase (maxBuf : Nat) : Key → Int := levels maxBuf 0 1

/-- The processes start with the values of the initialization. -/
theorem running_ready (maxBuf : Nat) : Running (initialBase maxBuf) 0 (ready maxBuf) := by
  refine ⟨⟨fun _ _ _ => rfl, ?_, rfl⟩, fun _ => rfl⟩
  intro key
  cases key <;> refine ⟨by simp [ready, semInit, initialValue, initialBase, levels, State.value,
    Local.change, Local.takes, Local.gives, Local.holding], ?_⟩ <;> funext role <;> cases role <;>
    simp [ready, semInit, Local.change, Local.takes, Local.gives, Local.holding, levels]

/-- Each step of the loops keeps the accounts. -/
theorem running_step {label : Label} {later : State} (holds : Running base shift state)
    (taken : (running maxBuf nloops).next state label = some later) : Running base shift later := by
  obtain ⟨runs, moved⟩ := (System.restrict_next _ _ _ _ _).mp taken
  have step := step_of_next moved
  exact ⟨accounts_step holds.accounts runs (holds.started _) step,
    fun role => started_step runs (holds.started role) step⟩

/-- The reachable states of the loops have the values of the initialization. -/
theorem reachable_running (reached : (running maxBuf nloops).Reachable state) :
    Running (initialBase maxBuf) 0 state := by
  apply reached.invariant (Running (initialBase maxBuf) 0)
  · rintro state rfl
    exact running_ready maxBuf
  · exact fun state label later _ holds taken => running_step holds taken

/-- The exit of a process removes its operations and clamps the values at zero. -/
def crashBase (base : Key → Int) (state : State) (role : Role) (key : Key) : Int :=
  max 0 (state.value base key - (state.view role).change role key) -
    (state.view role.other).change role.other key

/-- A process that has ended has no operations. -/
theorem change_exited (role : Role) (i : Nat) (key : Key) :
    (⟨.exited, i⟩ : Local).change role key = 0 := by
  cases role <;> cases key <;> rfl

/-- After a crash the accounts go on with other values. -/
theorem running_crash (holds : Running base shift state) (role : Role) :
    Running (crashBase base state role) (shift + sign role * (state.view role).counts)
      (state.terminate role .exited) := by
  have exits := holds.accounts.holds.exit role
  have others (other : Role) (different : other ≠ role) :
      (state.terminate role .exited).view other = state.view other :=
    Function.update_of_ne different ..
  have own : (state.terminate role .exited).view role = (state.view role).goto .exited :=
    Function.update_self ..
  have away : role.other ≠ role := by cases role <;> decide
  have value (key : Key) : (state.terminate role .exited).value (crashBase base state role) key =
      max 0 (state.value base key - (state.view role).change role key) := by
    have gone := change_exited role (state.view role).i key
    have kept := others role.other away
    cases role
    · simp only [State.value, own, kept, Role.other, crashBase, Local.goto] at gone kept ⊢
      rw [gone]
      omega
    · simp only [State.value, own, kept, Role.other, crashBase, Local.goto] at gone kept ⊢
      rw [gone]
      omega
  refine ⟨⟨?_, ?_, ?_⟩, ?_⟩
  · intro _ key _
    have made := holds.accounts.made role key (created_of_started (holds.started role) key)
    simpa [State.terminate, Table.exit] using made
  · intro key
    have level := exits key
    refine ⟨?_, ?_⟩
    · rw [value key]
      simpa [State.terminate, Int.sub_eq_add_neg] using level.1
    · refine level.2.trans ?_
      funext other
      dsimp only
      by_cases same : other = role
      · subst same
        rw [Function.update_self, own, Local.goto, change_exited]
        rfl
      · rw [Function.update_of_ne same, others other same]
  · have difference := counted_setView state role ((state.view role).goto .exited)
    have before := holds.accounts.counter
    have none : ((state.view role).goto .exited).counts = 0 := rfl
    rw [none] at difference
    change state.buffer.counter = _ + (state.setView role ((state.view role).goto .exited)).counted
    rw [difference, before]
    cases role <;> simp only [sign] <;> omega
  · intro other
    by_cases same : other = role
    · subst same
      rw [own]
      rfl
    · rw [others other same]
      exact holds.started other

/-- A process between two iterations has given what it has taken and holds nothing. -/
theorem between_counts {view : Local} (between : view.point.between = true) :
    view.takes = view.i ∧ view.gives = view.i ∧ view.counts = view.i ∧ view.holding = 0 := by
  apply sums_of_outside
  obtain ⟨point, i⟩ := view
  cases point <;> first | rfl | cases between

/-- A process that has ended makes no step of the loops. -/
theorem exited_step {label : Label} {later : State} {role : Role}
    (ended : (state.view role).point = .exited) (runs : label.runs = true)
    (step : Step maxBuf nloops state label later) : (later.view role).point = .exited := by
  obtain ⟨view, moved, move⟩ := local_of_step runs step
  by_cases own : role = label.mover
  · subst own
    cases move with
    | call key operation site => rw [Local.calls, ended] at site; cases site
    | fail key operation site missing => rw [Local.calls, ended] at site; cases site
    | create key point here opens => rw [ended] at here; cases here
    | enter here more => rw [ended] at here; cases here
    | finish here done => rw [ended] at here; cases here
    | access here => rw [ended] at here; cases here
    | advance here => rw [ended] at here; cases here
    | count here => rw [ended] at here; cases here
  · rw [moved, Function.update_of_ne own]
    exact ended

/-- The survivor goes on with the accounts after the crash. -/
theorem survivor_run (before : Running base shift state) (role : Role) (labels : List Label)
    (taken : (running maxBuf nloops).run (state.terminate role .exited) labels = some final) :
    Running (crashBase base state role) (shift + sign role * (state.view role).counts) final ∧
      (final.view role).point = .exited := by
  refine System.run_invariant (fun final => Running (crashBase base state role)
    (shift + sign role * (state.view role).counts) final ∧ (final.view role).point = .exited)
    ⟨running_crash before role, ?_⟩ ?_ labels taken
  · simp [State.terminate, State.goto, State.setView, Local.goto]
  · rintro state label later ⟨holds, ended⟩ moved
    refine ⟨running_step holds moved, ?_⟩
    obtain ⟨runs, step⟩ := (System.restrict_next _ _ _ _ _).mp moved
    exact exited_step ended runs (step_of_next step)

/-- A process that has ended counts for nothing. -/
theorem exited_counts {view : Local} (ended : view.point = .exited) :
    view.takes = 0 ∧ view.gives = 0 ∧ view.counts = 0 ∧ view.holding = 0 := by
  simp [Local.takes, Local.gives, Local.counts, Local.holding, ended]

/-- After a crash the survivor's semaphores describe the buffer exactly when no item was counted. -/
theorem described_iff {role : Role} (before : Running (initialBase maxBuf) 0 state)
    (after : Running (crashBase (initialBase maxBuf) state role)
      (0 + sign role * (state.view role).counts) final)
    (ended : (final.view role).point = .exited)
    (between : (final.view role.other).point.between = true) :
    Described maxBuf final ↔ (state.view role).counts = 0 := by
  have start := before.accounts.nonneg
  have producer := (state.view .producer).ordered
  have consumer := (state.view .consumer).ordered
  have gone := exited_counts ended
  have rests := between_counts between
  have levels' := after.accounts.counts
  have counter := after.accounts.counter
  -- the two processes differ only in which semaphore they take and in the sign of their count
  cases role
  all_goals
    simp only [crashBase, State.value, initialBase, Local.change, levels, Role.other, gone, sign,
      State.counted] at start rests levels' counter
    constructor
    · rintro ⟨mutex, slots, filled⟩
      omega
    · intro untouched
      constructor <;> omega

/-- A process at its access has taken a slot that it has not counted. -/
theorem counts_of_access {view : Local} (here : view.point = .access) :
    view.takes = view.i + 1 ∧ view.counts = view.i := by
  simp [Local.takes, Local.counts, here]

/-- After a crash without a counted item the survivor finds a free or a filled slot. -/
theorem accessible_of_crash {role : Role} (before : Running (initialBase maxBuf) 0 state)
    (after : Running (crashBase (initialBase maxBuf) state role)
      (0 + sign role * (state.view role).counts) final)
    (ended : (final.view role).point = .exited) (untouched : (state.view role).counts = 0) :
    Accessible maxBuf final := by
  have start := before.accounts.nonneg
  have producer := (state.view .producer).ordered
  have consumer := (state.view .consumer).ordered
  have gone := exited_counts ended
  have bounds := after.accounts.nonneg
  have counter := after.accounts.counter
  have absent (here : (final.view role).point = .access) : False := by
    rw [ended] at here
    cases here
  cases role
  all_goals
    simp only [crashBase, State.value, initialBase, Local.change, levels, Role.other, gone, sign,
      State.counted] at start bounds counter
  · refine ⟨fun here => (absent here).elim, fun here => ?_⟩
    obtain ⟨takes, counts⟩ := counts_of_access here
    omega
  · refine ⟨fun here => ?_, fun here => (absent here).elim⟩
    obtain ⟨takes, counts⟩ := counts_of_access here
    omega

end Runs

/-- The producer crashes after one item, and the semaphores forget the item. -/
theorem crashRecovers_fails : ∃ state : State, (running 2 20).Reachable state ∧
    (state.view .producer).point = .loop ∧
    ((state.terminate .producer .exited).view .consumer).point.between = true ∧
    ¬ Described 2 (state.terminate .producer .exited) := by
  obtain ⟨state, reached, facts⟩ := (running 2 20).exists_reachable (ready 2) rfl
    [.step .producer, .step .producer, .step .producer, .produce 7, .step .producer,
      .step .producer, .step .producer, .step .producer]
    (fun state => decide ((state.view .producer).point = .loop ∧ (state.view .producer).i = 1 ∧
      (state.view .consumer).point = .loop)) (by decide)
  simp only [decide_eq_true_eq] at facts
  obtain ⟨producer, once, consumer⟩ := facts
  have none : (running 2 20).run (state.terminate .producer .exited) [] =
    some (state.terminate .producer .exited) := rfl
  have after := survivor_run (reachable_running reached) .producer [] none
  have between : ((state.terminate .producer .exited).view .consumer).point.between = true := by
    simp [State.terminate, State.goto, State.setView, consumer, Point.between]
  refine ⟨state, reached, producer, between, fun described => ?_⟩
  have zero := (described_iff (reachable_running reached) after.1 after.2 between).mp described
  simp [Local.counts, producer, once] at zero

/-- A crash is repaired exactly when the crashed process has not changed the counter yet. -/
theorem crashRecovers (maxBuf nloops : Nat) (role : Role) (state : State)
    (reached : (running maxBuf nloops).Reachable state)
    (labels : List Label) (final : State)
    (taken : (running maxBuf nloops).run (state.terminate role .exited) labels = some final) :
    ((final.view role.other).point.between = true →
      (Described maxBuf final ↔ (state.view role).counts = 0)) ∧
    ((state.view role).counts = 0 → Accessible maxBuf final) := by
  have before := reachable_running reached
  obtain ⟨after, ended⟩ := survivor_run before role labels taken
  exact ⟨described_iff before after ended, accessible_of_crash before after ended⟩

/-- The producer crashes with a slot that it has taken, and the survivor finds all semaphores as before. -/
theorem crashRecovers_run : ∃ state : State, (state.view .producer).point = .waitMutex ∧
    Described 2 (state.terminate .producer .exited) := by
  obtain ⟨state, reached, facts⟩ := (running 2 20).exists_reachable (ready 2) rfl
    [.step .producer, .step .producer]
    (fun state => decide ((state.view .producer).point = .waitMutex ∧ (state.view .producer).i = 0 ∧
      (state.view .consumer).point = .loop)) (by decide)
  simp only [decide_eq_true_eq] at facts
  obtain ⟨producer, once, consumer⟩ := facts
  refine ⟨state, producer, ((crashRecovers 2 20 .producer state reached [] _
    rfl).1 ?_).mpr ?_⟩
  · simp [State.terminate, State.goto, State.setView, Role.other, consumer, Point.between]
  · simp [Local.counts, producer, once]

end ProducerS
