import LinuxSystemProgramming.Proof.ProducerS.Queue

namespace ProducerS
open Transition Semlib BoundedBuffer

/-- Both programs run from the start up to the tear-down. -/
def startup (maxBuf nloops : Nat) : System State Label :=
  (system maxBuf nloops fresh).restrict fun _ label => label.runs

/-- The producer posts `fullSem` only after the consumer has set it. -/
def postsLate (state : State) : Label → Bool
  | .step .producer =>
      decide ((state.view .producer).point ≠ .postSlot) || (state.view .consumer).started
  | _ => true

/-- The producer has incremented the counter and has not posted `fullSem`. -/
def Point.unposted : Point → Bool
  | .postMutex | .postSlot => true
  | _ => false

/-- The consumer has taken `fullSem` and has not decremented the counter. -/
def Point.uncounted : Point → Bool
  | .waitMutex | .access | .advance | .count => true
  | _ => false

/-- The value of `fullSem` and the two open steps give the counter. -/
def Exact (state : State) : Prop :=
  (count (state.sem .fullSem) : Int) + (if (state.view .producer).point.unposted then 1 else 0) +
    (if (state.view .consumer).point.uncounted then 1 else 0) = state.buffer.counter

instance (state : State) : Decidable (Exact state) := inferInstanceAs (Decidable (_ = _))

/-- A process has not completed its loop, and no step is possible. -/
def Deadlock (maxBuf nloops : Nat) (state : State) : Prop :=
  (∃ role, (state.view role).point ≠ .finished) ∧
    (startup maxBuf nloops).Stuck (fun _ => True) state

/-- The values that the consumer has set, less the posts that it has erased. -/
def startBase (maxBuf : Nat) (erased : Int) (view : Local) : Key → Int :=
  match view.point with
  | .semInit _ | .semInitValue .emptySem => levels 0 0 0
  | .semInitValue .mutexSem => levels maxBuf 0 0
  | .semInitValue .fullSem => levels maxBuf 0 1
  | _ => levels maxBuf (-erased) 1

/-- A process has not ended and has not removed a semaphore, and only the consumer sets them. -/
def Point.lives (role : Role) : Point → Bool
  | .semInitValue _ => decide (role = .consumer)
  | .remove | .exit | .exited | .failed => false
  | _ => true

/-- The producer has left its loop and its sleep. -/
def Point.tears : Point → Bool
  | .semDestroy _ => true
  | _ => false

/-- The accounts of the start-up, where the consumer erases the posts before its last `semInitValue`. -/
structure Startup (maxBuf nloops : Nat) (erased : Int) (state : State) : Prop where
  accounts : ∃ loose, Accounts (startBase maxBuf erased (state.view .consumer)) loose 0 state
  opening : (state.view .consumer).started = false →
    (state.view .producer).gives = erased ∧ (state.view .consumer).i = 0
  nonneg : 0 ≤ erased
  lives : ∀ role, (state.view role).point.lives role = true
  within : ∀ role, (state.view role).Within nloops

section Steps
variable {maxBuf nloops : Nat} {erased : Int} {state later final : State}

/-- A started consumer has set all values. -/
theorem startBase_started {view : Local} (started : view.started = true) :
    startBase maxBuf erased view = levels maxBuf (-erased) 1 := by
  obtain ⟨point, i⟩ := view
  cases point <;> first | rfl | cases started

/-- At the start nothing is set and nothing is erased. -/
theorem startup_fresh (maxBuf nloops : Nat) : Startup maxBuf nloops 0 fresh := by
  refine ⟨⟨fun _ _ => 0, ?_, ?_, rfl⟩, fun _ => ⟨rfl, rfl⟩, Int.le_refl 0, fun _ => rfl,
    fun _ => ⟨Nat.zero_le _, trivial⟩⟩
  · intro role key created
    cases key <;> simp [fresh, Local.created, Key.order] at created
  · intro key
    refine ⟨?_, ?_⟩
    · cases key <;> rfl
    · funext role
      cases key <;> cases role <;> rfl

/-- A process that has created its semaphores meets no error before the tear-down. -/
theorem lives_move {role : Role} {view : Local} (lives : (state.view role).point.lives role = true)
    (made : ∀ key, (state.view role).created key → (state.sem key).isSome)
    (move : LocalStep maxBuf nloops state.sem role (state.view role) view) :
    view.point.lives role = true := by
  cases move with
  | create key point here opens => cases point <;> first | rfl | cases opens | exact opens
  | call key operation site =>
      cases here : (state.view role).point with
      | semInitValue key =>
          rw [here] at lives
          cases key <;> simp [Local.succeed, next, Local.goto, here, Point.lives] at lives ⊢
          all_goals exact lives
      | _ => simp_all [Local.calls, Local.succeed, Local.goto, Point.lives]
  | fail key operation site missing =>
      have present := made key (created_of_calls site key)
      rw [missing] at present
      cases present
  | enter | finish | access | advance | count => rfl

/-- Only the post of the last semaphore adds to what a process has given. -/
theorem gives_move {role : Role} {view : Local} (lives : view.point.lives role = true)
    (move : LocalStep maxBuf nloops state.sem role (state.view role) view) :
    view.gives = (state.view role).gives +
      if (state.view role).point = .postSlot then 1 else 0 := by
  cases move with
  | create key point here opens =>
      cases point <;> simp [Point.opening] at opens <;> simp [Local.gives, Local.goto, here]
  | call key operation site =>
      cases here : (state.view role).point with
      | semInitValue key => cases key <;> simp [Local.succeed, Local.gives, Local.goto, next, here]
      | _ => simp_all [Local.calls, Local.succeed, Local.gives, Local.goto]
  | fail key operation site missing => cases lives
  | enter here more => simp [Local.gives, Local.goto, here]
  | finish here done => simp [Local.gives, Local.goto, here]
  | access here => simp [Local.gives, Local.goto, here]
  | advance here => simp [Local.gives, Local.goto, here]
  | count here => simp [Local.gives, Local.goto, here]

/-- The initialization keeps the loop variable. -/
theorem i_move {role : Role} {view : Local} (started : (state.view role).started = false)
    (move : LocalStep maxBuf nloops state.sem role (state.view role) view) :
    view.i = (state.view role).i := by
  cases move with
  | call key operation site =>
      cases here : (state.view role).point with
      | semInitValue key => cases key <;> simp [Local.succeed, Local.goto, next, here]
      | semInit => simp [Local.calls, here] at site
      | _ => simp [Local.started, here] at started
  | create | enter | finish | access | advance | count | fail => rfl

/-- A post before the last `semInitValue` is the only step that is erased. -/
def postErased (state : State) (label : Label) : Int := if postsLate state label then 0 else 1

/-- The producer's step is erased when it posts before the consumer has started. -/
theorem postErased_eq {label : Label} (runs : label.runs = true)
    (step : Step maxBuf nloops state label later) (waits : (state.view .consumer).started = false) :
    postErased state label =
      if label.mover = .producer ∧ (state.view .producer).point = .postSlot then 1 else 0 := by
  cases label with
  | step role => cases role <;> simp [postErased, postsLate, Label.mover, waits]
  | produce data =>
      cases step with
      | store _ here => simp [postErased, postsLate, here]
  | tearDown => cases runs
  | terminate role => cases runs

/-- A started consumer erases nothing. -/
theorem postErased_started (started : (state.view .consumer).started = true) (label : Label) :
    postErased state label = 0 := by
  unfold postErased postsLate
  split <;> simp [started]

/-- A step of the start-up counts the posts that will be erased. -/
theorem opening_step (startup : Startup maxBuf nloops erased state) {label : Label}
    (runs : label.runs = true) (step : Step maxBuf nloops state label later)
    (waits : (later.view .consumer).started = false) :
    (later.view .producer).gives = erased + postErased state label ∧
      (later.view .consumer).i = 0 := by
  obtain ⟨loose, accounts⟩ := startup.accounts
  obtain ⟨view, moved, move⟩ := local_of_step runs step
  have lives := lives_move (startup.lives _) (accounts.made label.mover) move
  have before : (state.view .consumer).started = false := Bool.eq_false_iff.mpr fun started => by
    rw [started_step runs started step] at waits
    cases waits
  obtain ⟨gives, first⟩ := startup.opening before
  rw [postErased_eq runs step before, moved]
  cases mover : label.mover with
  | producer =>
      rw [mover] at move lives
      refine ⟨?_, first⟩
      rw [Function.update_self, gives_move lives move, gives]
      simp
  | consumer =>
      rw [mover] at move
      refine ⟨?_, ?_⟩
      · simpa using gives
      · rw [Function.update_self, i_move before move, first]

/-- A step of the loops keeps the start-up when it keeps the accounts. -/
theorem Startup.move (startup : Startup maxBuf nloops erased state) {label : Label}
    (runs : label.runs = true) (step : Step maxBuf nloops state label later)
    (kept : ∃ loose, Accounts (startBase maxBuf (erased + postErased state label)
      (later.view .consumer)) loose 0 later) :
    Startup maxBuf nloops (erased + postErased state label) later := by
  have before := startup.nonneg
  obtain ⟨loose, accounts⟩ := startup.accounts
  refine ⟨kept, opening_step startup runs step, ?_, ?_, within_step runs startup.within step⟩
  · unfold postErased
    split <;> omega
  · obtain ⟨view, moved, move⟩ := local_of_step runs step
    rw [moved]
    exact (Function.forall_update_iff state.view fun role view => view.point.lives role = true).mpr
      ⟨lives_move (startup.lives _) (accounts.made label.mover) move,
        fun role _ => startup.lives role⟩

/-- Before the consumer has started the base does not depend on the erased posts. -/
theorem startBase_post (state : State) (label : Label) :
    startBase maxBuf (erased + postErased state label) (state.view .consumer) =
      startBase maxBuf erased (state.view .consumer) := by
  cases started : (state.view .consumer).started with
  | true => rw [postErased_started started, Int.add_zero]
  | false =>
      cases here : (state.view .consumer).point with
      | semInit key => simp [startBase, here]
      | semInitValue key => cases key <;> simp [startBase, here]
      | _ => simp [Local.started, here] at started

/-- A started process keeps the start-up. -/
theorem Startup.advance (startup : Startup maxBuf nloops erased state) {label : Label}
    (runs : label.runs = true) (step : Step maxBuf nloops state label later)
    (started : (state.view label.mover).started = true) :
    Startup maxBuf nloops (erased + postErased state label) later := by
  obtain ⟨loose, accounts⟩ := startup.accounts
  obtain ⟨view, moved, move⟩ := local_of_step runs step
  have base : startBase maxBuf (erased + postErased state label) (later.view .consumer) =
      startBase maxBuf erased (state.view .consumer) := by
    rw [moved, ← startBase_post state label]
    cases mover : label.mover with
    | producer => rfl
    | consumer =>
        rw [mover] at started move
        rw [Function.update_self, startBase_started started,
          startBase_started (started_move started move)]
  refine startup.move runs step ⟨loose, ?_⟩
  rw [base]
  exact accounts_step accounts runs started step

/-- A process creates its semaphores during the start-up. -/
theorem Startup.create (startup : Startup maxBuf nloops erased state) {role : Role} {key : Key}
    (here : (state.view role).point = .semInit key) :
    Startup maxBuf nloops (erased + postErased state (.step role)) (state.create role key) := by
  obtain ⟨loose, accounts⟩ := startup.accounts
  have base : startBase maxBuf (erased + postErased state (.step role))
      ((state.create role key).view .consumer) =
      startBase maxBuf erased (state.view .consumer) := by
    rw [← startBase_post state (.step role)]
    cases role with
    | producer => cases key <;> rfl
    | consumer =>
        cases key <;> simp [State.create, State.goto, State.setView, Local.goto, startBase, here,
          Key.after]
  refine startup.move rfl (.create role key here) ⟨loose, ?_⟩
  rw [base]
  exact accounts.create here

/-- A `semInitValue` replaces the value of its semaphore, and the last one erases the posts. -/
theorem startBase_set (startup : Startup maxBuf nloops erased state) {key : Key}
    (here : (state.view .consumer).point = .semInitValue key) :
    startBase maxBuf erased (state.view .consumer).succeed =
      Function.update (startBase maxBuf erased (state.view .consumer)) key
        (initialValue maxBuf key - (state.value (startBase maxBuf erased (state.view .consumer)) key -
          startBase maxBuf erased (state.view .consumer) key)) := by
  obtain ⟨loose, accounts⟩ := startup.accounts
  obtain ⟨gives, first⟩ := startup.opening (by rw [Local.started, here])
  obtain ⟨takes', gives', _, holding'⟩ := sums_of_outside (state.view .consumer) (by rw [here]; rfl)
  have producer := (state.view .producer).ordered
  have bounds := accounts.nonneg
  cases key with
  | emptySem =>
      simp only [startBase, here, Local.succeed, next, Local.goto, update_levels_empty, levels,
        State.value, Local.change, initialValue] at bounds ⊢
      congr 1
      omega
  | mutexSem =>
      simp only [startBase, here, Local.succeed, next, Local.goto, update_levels_mutex, levels,
        State.value, Local.change, initialValue] at bounds ⊢
      congr 1
      omega
  | fullSem =>
      simp only [startBase, here, Local.succeed, next, Local.goto, update_levels_full, levels,
        State.value, Local.change, initialValue] at bounds ⊢
      congr 1
      omega

/-- The consumer sets a semaphore during the start-up. -/
theorem Startup.set (startup : Startup maxBuf nloops erased state) {key : Key} {sem : Table Role}
    (here : (state.view .consumer).point = .semInitValue key)
    (step : Step maxBuf nloops state (.step .consumer)
      { state.setView .consumer (state.view .consumer).succeed with sem := sem })
    (operated : state.sem.operate key
      ((Operation.semInitValue (initialValue maxBuf key)).apply .consumer) = some (some sem)) :
    Startup maxBuf nloops (erased + postErased state (.step .consumer))
      { state.setView .consumer (state.view .consumer).succeed with sem := sem } := by
  obtain ⟨loose, accounts⟩ := startup.accounts
  obtain ⟨other, same, set⟩ := accounts.set here operated
  cases same
  have none : postErased state (.step .consumer) = 0 := rfl
  have moved : ({ state.setView .consumer (state.view .consumer).succeed with sem := sem } :
      State).view .consumer = (state.view .consumer).succeed := by
    simp [State.setView]
  refine startup.move rfl step ?_
  rw [none, Int.add_zero, moved, startBase_set startup here]
  exact ⟨_, set⟩

/-- Each step keeps the start-up. -/
theorem startup_step (startup : Startup maxBuf nloops erased state) {label : Label}
    (runs : label.runs = true) (step : Step maxBuf nloops state label later) :
    Startup maxBuf nloops (erased + postErased state label) later := by
  cases started : (state.view label.mover).started with
  | true => exact startup.advance runs step started
  | false =>
      cases step with
      | create role key here => exact startup.create here
      | call role key operation sem site operated =>
          have lives := startup.lives role
          cases here : (state.view role).point with
          | semInitValue other =>
              rw [here] at lives
              cases of_decide_eq_true lives
              rw [Local.calls, here] at site
              cases site
              exact startup.set here (.call .consumer key _ sem (by rw [Local.calls, here]) operated)
                operated
          | semInit other => simp [Local.calls, here] at site
          | _ => simp [Local.started, Label.mover, here] at started
      | fail role key operation site operated =>
          obtain ⟨loose, accounts⟩ := startup.accounts
          have present := accounts.made role key (created_of_calls site key)
          rw [removed_of_operate operated] at present
          cases present
      | enter role here more => simp [Local.started, Label.mover, here] at started
      | finish role here done => simp [Local.started, Label.mover, here] at started
      | store data here => simp [Local.started, Label.mover, here] at started
      | load here => simp [Local.started, Label.mover, here] at started
      | advance role here => simp [Local.started, Label.mover, here] at started
      | count role here => simp [Local.started, Label.mover, here] at started
      | wake here => cases runs
      | destroy key here => cases runs
      | remove here => cases runs
      | terminate role running sound => cases runs

/-- Each run keeps the start-up, and it erases nothing exactly when all its posts are late. -/
theorem startup_run (opened : Startup maxBuf nloops erased state) (labels : List Label)
    (taken : (startup maxBuf nloops).run state labels = some final) :
    ∃ lost, Startup maxBuf nloops lost final ∧ (lost = 0 ↔ erased = 0 ∧
      ((startup maxBuf nloops).restrict postsLate).run state labels = some final) := by
  induction labels generalizing state erased with
  | nil => exact ⟨erased, by cases taken; exact opened, by simpa using fun _ => taken⟩
  | cons label rest ih =>
      obtain ⟨later, first, continued⟩ := (System.run_cons _ state final label rest).mp taken
      obtain ⟨runs, moved⟩ := (System.restrict_next _ _ _ _ _).mp first
      obtain ⟨lost, kept, exact⟩ := ih (startup_step opened runs (step_of_next moved)) continued
      refine ⟨lost, kept, exact.trans ?_⟩
      have before := opened.nonneg
      cases late : postsLate state label with
      | true =>
          have none : postErased state label = 0 := by simp [postErased, late]
          have step : ((startup maxBuf nloops).restrict postsLate).next state label = some later :=
            (System.restrict_next _ _ _ _ _).mpr ⟨late, first⟩
          rw [none, Int.add_zero, System.run, step, Option.bind_some]
      | false =>
          have one : postErased state label = 1 := by simp [postErased, late]
          have stops : ((startup maxBuf nloops).restrict postsLate).next state label = none := by
            simp [System.restrict, late]
          rw [one, System.run, stops, Option.bind_none]
          simp only [reduceCtorEq, and_false, iff_false]
          omega

/-- The counts of a producer between the start and the tear-down. -/
theorem counts_eq {role : Role} {view : Local} (lives : view.point.lives role = true) :
    view.counts = view.gives + (if view.point.unposted then 1 else 0) ∧
      view.takes = view.counts + (if view.point.uncounted then 1 else 0) := by
  obtain ⟨point, i⟩ := view
  cases point <;> simp_all [Point.lives, Local.counts, Local.gives, Local.takes, Point.unposted,
    Point.uncounted]

/-- After the initialization the semaphore agrees with the counter when nothing is erased. -/
theorem exact_iff (startup : Startup maxBuf nloops erased state)
    (started : (state.view .consumer).started = true) : Exact state ↔ erased = 0 := by
  obtain ⟨loose, accounts⟩ := startup.accounts
  rw [startBase_started started] at accounts
  obtain ⟨_, full, _⟩ := accounts.counts
  have counter := accounts.counter
  obtain ⟨posted, _⟩ := counts_eq (startup.lives .producer)
  obtain ⟨_, counted⟩ := counts_eq (startup.lives .consumer)
  simp only [levels, State.counted] at full counter
  rw [Exact, full, counter]
  omega

/-- A statement before the tear-down does not start the tear-down. -/
theorem tears_step {label : Label} (runs : label.runs = true)
    (before : ∀ role, (state.view role).point.tears = false)
    (step : Step maxBuf nloops state label later) (role : Role) :
    (later.view role).point.tears = false := by
  obtain ⟨view, moved, move⟩ := local_of_step runs step
  rw [moved]
  refine (Function.forall_update_iff state.view fun _ view => view.point.tears = false).mpr
    ⟨?_, fun role _ => before role⟩ role
  cases move with
  | create key point here opens => cases point <;> first | rfl | cases opens
  | call key operation site =>
      cases here : (state.view label.mover).point with
      | semInitValue key => cases key <;> simp [Local.succeed, next, Local.goto, here, Point.tears]
      | _ => simp_all [Local.calls, Local.succeed, Local.goto, Point.tears]
  | fail | enter | finish | access | advance | count => rfl

/-- A process that cannot take a step has completed its loop or waits at a semaphore of value zero. -/
theorem blocked_of_stuck (opened : Startup maxBuf nloops erased state)
    (before : ∀ role, (state.view role).point.tears = false)
    (stuck : (startup maxBuf nloops).Stuck (fun _ => True) state) (role : Role) :
    (state.view role).point = .finished ∨
      (state.view role).point = .waitSlot ∧ count (state.sem (taken role)) = 0 ∨
      (state.view role).point = .waitMutex ∧ count (state.sem .mutexSem) = 0 := by
  have lives := opened.lives role
  have untorn := before role
  have idle : state.statement maxBuf nloops role = none := stuck (.step role) trivial
  have data : state.next maxBuf nloops (.produce 0) = none := stuck (.produce 0) trivial
  cases here : (state.view role).point with
  | semInit key => simp [State.statement, here] at idle
  | semInitValue key =>
      simp [State.statement, here, Local.calls, State.call] at idle
      exact absurd idle (operate_ready _ _ _)
  | loop =>
      simp only [State.statement, here] at idle
      split at idle <;> cases idle
  | waitSlot =>
      simp [State.statement, here, Local.calls, State.call] at idle
      exact Or.inr (Or.inl ⟨rfl, count_of_blocked idle⟩)
  | waitMutex =>
      simp [State.statement, here, Local.calls, State.call] at idle
      exact Or.inr (Or.inr ⟨rfl, count_of_blocked idle⟩)
  | access =>
      cases role with
      | producer => simp [State.next, here] at data
      | consumer => simp [State.statement, here] at idle
  | advance => simp [State.statement, here] at idle
  | count => simp [State.statement, here] at idle
  | postMutex | postSlot =>
      simp [State.statement, here, Local.calls, State.call] at idle
      exact absurd idle (operate_ready _ _ _)
  | finished => exact Or.inl rfl
  | semDestroy key => simp [Point.tears, here] at untorn
  | remove | exit | exited | failed => simp [Point.lives, here] at lives

/-- No state of a start-up that erases nothing is a deadlock. -/
theorem progress_of_startup (opened : Startup maxBuf nloops 0 state)
    (before : ∀ role, (state.view role).point.tears = false) (positive : 1 ≤ maxBuf) :
    ¬ Deadlock maxBuf nloops state := by
  rintro ⟨⟨open', unfinished⟩, stuck⟩
  have blocked := blocked_of_stuck opened before stuck
  have started : (state.view .consumer).started = true := by
    rcases blocked .consumer with here | ⟨here, _⟩ | ⟨here, _⟩ <;> rw [Local.started, here]
  obtain ⟨loose, accounts⟩ := opened.accounts
  rw [startBase_started started] at accounts
  obtain ⟨empty, full, mutex⟩ := accounts.counts
  simp only [levels] at empty full mutex
  have free (role : Role) : (state.view role).holding = 0 := by
    rcases blocked role with here | ⟨here, _⟩ | ⟨here, _⟩ <;> simp [Local.holding, here]
  rw [free .producer, free .consumer] at mutex
  have waits (role : Role) : (state.view role).point = .finished ∨
      (state.view role).point = .waitSlot ∧ count (state.sem (taken role)) = 0 :=
    (blocked role).imp_right fun here => here.resolve_right fun holds => by
      have zero := holds.2
      omega
  have sums (role : Role) := sums_of_outside (state.view role) (by
    rcases waits role with here | ⟨here, _⟩ <;> rw [here] <;> rfl)
  obtain ⟨produced, given, _⟩ := sums .producer
  obtain ⟨taken', freed, _⟩ := sums .consumer
  have producer := opened.within .producer
  have consumer := opened.within .consumer
  rcases waits .producer with here | ⟨here, zero⟩ <;>
    rcases waits .consumer with here' | ⟨here', zero'⟩ <;>
    simp only [Local.Within, here, here'] at producer consumer
  · cases open' <;> contradiction
  · simp only [taken] at zero'
    omega
  · simp only [taken] at zero
    omega
  · simp only [taken] at zero zero'
    omega

/-- The reachable states of the start-up have their accounts. -/
theorem reachable_startup {labels : List Label}
    (run : (startup maxBuf nloops).run fresh labels = some state) :
    (∀ role, (state.view role).point.tears = false) ∧ ∃ lost, Startup maxBuf nloops lost state ∧
      (lost = 0 ↔ ((startup maxBuf nloops).restrict postsLate).run fresh labels = some state) := by
  refine ⟨?_, ?_⟩
  · refine System.run_invariant (fun state => ∀ role, (state.view role).point.tears = false)
      (fun _ => rfl) ?_ labels run
    intro state label later before taken
    obtain ⟨runs, moved⟩ := (System.restrict_next _ _ _ _ _).mp taken
    exact tears_step runs before (step_of_next moved)
  · obtain ⟨lost, kept, exact⟩ := startup_run (startup_fresh maxBuf nloops) labels run
    exact ⟨lost, kept, by simpa using exact⟩

/-- The initialization ends in the start of the loops when both processes run it before any loop. -/
theorem ready_reachable (maxBuf nloops : Nat) :
    (startup maxBuf nloops).Reachable (ready maxBuf) := by
  refine System.reachable_of_run (startup maxBuf nloops)
    (rfl : (startup maxBuf nloops).initial fresh)
    (List.replicate 6 (.step .consumer) ++ List.replicate 3 (.step .producer)) ?_
  change some (State.mk _ _ _ _ _ _) = some (State.mk _ _ _ _ _ _)
  simp only [Option.some.injEq, State.mk.injEq]
  refine ⟨rfl, ?_, rfl, ?_, rfl, rfl⟩
  · funext key
    cases key <;> rfl
  · funext role
    cases role <;> rfl

end Steps

/-- The producer posts `fullSem` before the consumer sets it, and the consumer erases the post. -/
theorem initializes_fails : ∃ state, (startup 2 20).Reachable state ∧
    (state.view .consumer).started = true ∧ ¬ Exact state := by
  obtain ⟨state, reached, facts⟩ := (startup 2 20).exists_reachable fresh rfl
    [.step .consumer, .step .consumer, .step .consumer, .step .consumer, .step .consumer,
      .step .producer, .step .producer, .step .producer, .step .producer, .step .producer,
      .step .producer, .produce 7, .step .producer, .step .producer, .step .producer,
      .step .producer, .step .consumer]
    (fun state => (state.view .consumer).started && !decide (Exact state)) (by decide)
  simp only [Bool.and_eq_true, Bool.not_eq_true', decide_eq_false_iff_not] at facts
  exact ⟨state, reached, facts⟩

/-- The start-up keeps each post exactly when the producer posts late, and then no state is a deadlock. -/
theorem initializes (maxBuf nloops : Nat) (positive : 1 ≤ maxBuf) (labels : List Label)
    (state : State) (taken : (startup maxBuf nloops).run fresh labels = some state) :
    ((state.view .consumer).started = true →
      (Exact state ↔
        ((startup maxBuf nloops).restrict postsLate).run fresh labels = some state)) ∧
    (((startup maxBuf nloops).restrict postsLate).run fresh labels = some state →
      ¬ Deadlock maxBuf nloops state) := by
  obtain ⟨before, lost, kept, late⟩ := reachable_startup taken
  constructor
  · intro started
    exact (exact_iff kept started).trans late
  · intro permitted
    cases late.mpr permitted
    exact progress_of_startup kept before positive

/-- The consumer sets all values before the producer starts. -/
theorem initializes_run : ∃ state, (startup 2 20).run fresh [.step .consumer, .step .consumer,
      .step .consumer, .step .consumer, .step .consumer, .step .consumer] = some state ∧
    Exact state ∧ ¬ Deadlock 2 20 state := by
  have taken : (startup 2 20).run fresh [.step .consumer, .step .consumer, .step .consumer,
    .step .consumer, .step .consumer, .step .consumer] = some _ := rfl
  have permitted : ((startup 2 20).restrict postsLate).run fresh [.step .consumer, .step .consumer,
    .step .consumer, .step .consumer, .step .consumer, .step .consumer] = some _ := rfl
  have holds := initializes 2 20 (by decide) _ _ taken
  exact ⟨_, taken, (holds.1 rfl).mpr permitted, holds.2 permitted⟩

end ProducerS
