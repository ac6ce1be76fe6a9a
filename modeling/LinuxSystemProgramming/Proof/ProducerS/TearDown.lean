import LinuxSystemProgramming.Proof.ProducerS.Startup

namespace ProducerS
open Transition Semlib BoundedBuffer

/-- The consumer has consumed all its items. -/
def State.consumerDone (state : State) : Bool :=
  decide ((state.view .consumer).point = .finished ∨ (state.view .consumer).point = .exited)

/-- The producer waits after the initialization, and the processes end only at the end of `main`. -/
def normal (state : State) : Label → Bool
  | .step .producer =>
      decide ((state.view .producer).point ≠ .waitSlot) || (state.view .consumer).started
  | .terminate .producer => decide ((state.view .producer).point = .exit)
  | .terminate .consumer => decide ((state.view .consumer).point = .finished)
  | _ => true

/-- Both processes run from the start to the end of `main`. -/
def lifetime (maxBuf nloops : Nat) : System State Label :=
  (system maxBuf nloops fresh).restrict normal

/-- The producer removes a semaphore only after the consumer has left its loop. -/
def removesLate (state : State) : Label → Bool
  | .tearDown =>
      match (state.view .producer).point with
      | .semDestroy _ => state.consumerDone
      | _ => true
  | _ => true

/-- The removal comes after the consumer's loop, no call of the consumer fails, and no item is lost. -/
structure Orderly (nloops : Nat) (state : State) : Prop where
  late : (∃ role key, (state.view role).created key ∧ state.sem key = none) ∨
    state.removed = true → state.consumerDone = true
  sound : (state.view .consumer).point ≠ .failed
  first : state.consumed <+: state.produced
  complete : state.consumerDone = true →
    state.consumed = state.produced ∧ state.produced.length = nloops

/-- The producer makes no further call of a semaphore. -/
def Point.rests : Point → Bool
  | .semInit _ | .loop | .finished | .semDestroy _ | .remove | .exit | .exited => true
  | _ => false

/-- The semaphores exist and both processes run, or the consumer has left its loop with all items. -/
inductive Living (maxBuf nloops : Nat) (state : State) : Prop where
  | alive (opened : Startup maxBuf nloops 0 state)
      (waits : (state.view .consumer).started = false → (state.view .producer).takes = 0)
      (kept : state.removed = false) (queue : List ItemType) (queued : Queued maxBuf state queue)
  | done (done : state.consumerDone = true) (rests : (state.view .producer).point.rests = true)
      (last : (state.view .producer).i = nloops) (same : state.consumed = state.produced)
      (length : state.produced.length = nloops)

section Steps
variable {maxBuf nloops : Nat} {state later : State} {queue : List ItemType}

/-- At the start both processes run, and the queue is empty. -/
theorem living_fresh (maxBuf nloops : Nat) : Living maxBuf nloops fresh :=
  .alive (startup_fresh maxBuf nloops) (fun _ => rfl) rfl []
    ⟨rfl, rfl, (Nat.zero_mod _).symm, (Nat.zero_mod _).symm, rfl, RingBuffer.Holds.nil _ _ _⟩

/-- A living process has given the slots of its complete iterations. -/
theorem gives_of_lives {role : Role} {view : Local} (lives : view.point.lives role = true) :
    view.gives = view.i ∧ view.i ≤ view.accesses := by
  obtain ⟨point, i⟩ := view
  cases point <;> simp_all [Point.lives, Local.gives, Local.accesses]

/-- A living producer with all iterations makes no further call. -/
theorem rests_of_last {view : Local} (lives : view.point.lives .producer = true)
    (within : view.Within nloops) (last : view.i = nloops) :
    view.point.rests = true ∧ view.accesses = nloops := by
  obtain ⟨point, i⟩ := view
  obtain ⟨_, inside⟩ := within
  cases point <;> simp_all [Point.lives, Point.rests, Local.accesses]

/-- A process at its access has taken one more slot than it has accessed. -/
theorem takes_of_access {view : Local} (here : view.point = .access) :
    view.takes = view.i + 1 ∧ view.accesses = view.i := by
  simp [Local.takes, Local.accesses, here]

/-- The accesses of two living processes find room and stock. -/
theorem room_of_alive (opened : Startup maxBuf nloops 0 state)
    (waits : (state.view .consumer).started = false → (state.view .producer).takes = 0)
    (queued : Queued maxBuf state queue) :
    ((state.view .producer).point = .access → queue.length < maxBuf) ∧
      ((state.view .consumer).point = .access → 0 < queue.length) := by
  obtain ⟨loose, accounts⟩ := opened.accounts
  obtain ⟨producer, stored⟩ := gives_of_lives (opened.lives .producer)
  obtain ⟨consumer, loaded⟩ := gives_of_lives (opened.lives .consumer)
  have length := queued.length
  cases started : (state.view .consumer).started with
  | false =>
      have none := waits started
      refine ⟨fun here => ?_, fun here => ?_⟩
      · have more := (takes_of_access here).1
        omega
      · simp [Local.started, here] at started
  | true =>
      rw [startBase_started started] at accounts
      obtain ⟨empty, full, _⟩ := accounts.nonneg
      simp only [levels] at empty full
      refine ⟨fun here => ?_, fun here => ?_⟩
      · obtain ⟨takes, accesses⟩ := takes_of_access here
        omega
      · obtain ⟨takes, accesses⟩ := takes_of_access here
        omega

/-- When the consumer has left its loop, a living producer has given all items. -/
theorem done_of_alive (opened : Startup maxBuf nloops 0 state) (queued : Queued maxBuf state queue)
    (done : state.consumerDone = true) :
    (state.view .producer).point.rests = true ∧ (state.view .producer).i = nloops ∧
      state.consumed = state.produced ∧ state.produced.length = nloops := by
  have lives := opened.lives .consumer
  have here : (state.view .consumer).point = .finished := by
    rcases of_decide_eq_true done with here | ended
    · exact here
    · rw [ended] at lives
      cases lives
  have started : (state.view .consumer).started = true := by rw [Local.started, here]
  obtain ⟨loose, accounts⟩ := opened.accounts
  rw [startBase_started started] at accounts
  obtain ⟨_, full, _⟩ := accounts.nonneg
  obtain ⟨takes, _⟩ := sums_of_outside (state.view .consumer) (by rw [here]; rfl)
  obtain ⟨gives, _⟩ := gives_of_lives (opened.lives .producer)
  have consumer := (opened.within .consumer).2
  have producer := opened.within .producer
  have accesses : (state.view .consumer).accesses = (state.view .consumer).i := by
    simp [Local.accesses, here]
  rw [here] at consumer
  have last : (state.view .producer).i = nloops := by
    have below := producer.1
    simp only [levels] at full
    omega
  obtain ⟨rests, stored⟩ := rests_of_last (opened.lives .producer) producer last
  have length := queued.length
  have empty : queue = [] := List.eq_nil_of_length_eq_zero (by omega)
  have split := queued.split
  rw [empty, List.append_nil] at split
  exact ⟨rests, last, split.symm, by rw [queued.produced, stored]⟩

/-- A producer that has taken no slot and does not wait for one takes none. -/
theorem takes_move {view : Local} (lives : (state.view .producer).point.lives .producer = true)
    (none : (state.view .producer).takes = 0) (away : (state.view .producer).point ≠ .waitSlot)
    (move : LocalStep maxBuf nloops state.sem .producer (state.view .producer) view) :
    view.takes = 0 := by
  cases move with
  | create key point here opens =>
      cases point <;> simp [Point.opening] at opens <;>
        simpa [Local.takes, Local.goto, here] using none
  | call key operation site =>
      cases here : (state.view .producer).point with
      | semInitValue key => simp [Point.lives, here] at lives
      | waitSlot => exact absurd here away
      | waitMutex | postMutex | postSlot =>
          simp only [Local.takes, here] at none
          omega
      | _ => simp [Local.calls, here] at site
  | enter here more => simpa [Local.takes, Local.goto, here] using none
  | finish here done => simpa [Local.takes, Local.goto, here] using none
  | access here | advance here | count here =>
      simp only [Local.takes, here] at none
      omega
  | fail key operation site missing => rfl

/-- The producer takes no slot before the consumer has started. -/
theorem waits_step (opened : Startup maxBuf nloops 0 state)
    (waits : (state.view .consumer).started = false → (state.view .producer).takes = 0)
    {label : Label} (runs : label.runs = true) (allowed : normal state label = true)
    (step : Step maxBuf nloops state label later)
    (after : (later.view .consumer).started = false) : (later.view .producer).takes = 0 := by
  have before : (state.view .consumer).started = false := Bool.eq_false_iff.mpr fun started => by
    rw [started_step runs started step] at after
    cases after
  have none := waits before
  obtain ⟨view, moved, move⟩ := local_of_step runs step
  rw [moved]
  cases label with
  | step role =>
      cases role with
      | producer =>
          rw [Label.mover, Function.update_self]
          refine takes_move (opened.lives .producer) none (fun here => ?_) move
          simp [normal, here, before] at allowed
      | consumer => exact none
  | produce data =>
      cases step with
      | store _ here =>
          have taken := (takes_of_access here).1
          omega
  | tearDown => cases runs
  | terminate role => cases runs

/-- No post is erased when the producer takes no slot before the consumer has started. -/
theorem postErased_of_waits
    (waits : (state.view .consumer).started = false → (state.view .producer).takes = 0)
    {label : Label} (runs : label.runs = true) (step : Step maxBuf nloops state label later) :
    postErased state label = 0 := by
  cases started : (state.view .consumer).started with
  | true => exact postErased_started started label
  | false =>
      have none := waits started
      rw [postErased_eq runs step started, if_neg]
      rintro ⟨_, here⟩
      simp only [Local.takes, here] at none
      omega

/-- A statement before the tear-down keeps a living state. -/
theorem alive_step (opened : Startup maxBuf nloops 0 state)
    (waits : (state.view .consumer).started = false → (state.view .producer).takes = 0)
    (kept : state.removed = false) (queued : Queued maxBuf state queue) {label : Label}
    (runs : label.runs = true) (allowed : normal state label = true)
    (step : Step maxBuf nloops state label later) : Living maxBuf nloops later := by
  obtain ⟨loose, accounts⟩ := opened.accounts
  obtain ⟨room, stock⟩ := room_of_alive opened waits queued
  obtain ⟨rest, order⟩ := queued_step queued runs accounts.made room stock step
  have next := startup_step opened runs step
  rw [postErased_of_waits waits runs step, Int.add_zero] at next
  refine .alive next (waits_step opened waits runs allowed step) ?_ rest order
  cases step with
  | create | enter | finish | store | load | advance | count | call | fail => exact kept
  | wake => cases runs
  | destroy => cases runs
  | remove => cases runs
  | terminate => cases runs

/-- After the consumer's loop a statement only moves the producer to the end of its loop. -/
theorem done_local (done : state.consumerDone = true)
    (rests : (state.view .producer).point.rests = true) (last : (state.view .producer).i = nloops)
    {role : Role} {view : Local}
    (move : LocalStep maxBuf nloops state.sem role (state.view role) view) :
    role = .producer ∧ view.point.rests = true := by
  cases role with
  | producer =>
      refine ⟨rfl, ?_⟩
      cases move with
      | create key point here opens => cases point <;> first | rfl | cases opens
      | enter here more => omega
      | finish here more => rfl
      | access here => rw [here] at rests; cases rests
      | advance here => rw [here] at rests; cases rests
      | count here => rw [here] at rests; cases rests
      | call key operation site | fail key operation site missing =>
          cases here : (state.view .producer).point <;> simp_all [Local.calls, Point.rests]
  | consumer =>
      have ended := of_decide_eq_true done
      cases move with
      | create key point here opens => simp [here] at ended
      | enter here more => simp [here] at ended
      | finish here more => simp [here] at ended
      | access here => simp [here] at ended
      | advance here => simp [here] at ended
      | count here => simp [here] at ended
      | call key operation site | fail key operation site missing =>
          rcases ended with here | here <;> simp [Local.calls, here] at site

/-- After the consumer's loop nobody calls a semaphore, and no item moves. -/
theorem done_step (done : state.consumerDone = true)
    (rests : (state.view .producer).point.rests = true) (last : (state.view .producer).i = nloops)
    (same : state.consumed = state.produced) (length : state.produced.length = nloops)
    {label : Label} (step : Step maxBuf nloops state label later) : Living maxBuf nloops later := by
  have idle {role : Role} {view : Local}
      (move : LocalStep maxBuf nloops state.sem role (state.view role) view) :
      role = .producer ∧ view.point.rests = true := done_local done rests last move
  cases step with
  | create role key here =>
      obtain ⟨rfl, _⟩ := idle (.create key .loop here rfl)
      refine .done ?_ ?_ ?_ same length
      · cases key <;> exact done
      · cases key <;> rfl
      · cases key <;> exact last
  | enter role here more => cases (idle (.enter here more)).2
  | finish role here more =>
      obtain ⟨rfl, _⟩ := idle (.finish here more)
      exact .done done rfl last same length
  | store data here => cases (idle (.access here)).2
  | load here => cases (idle (.access here)).2
  | advance role here => cases (idle (.advance here)).2
  | count role here => cases (idle (.count here)).2
  | call role key operation sem site operated =>
      obtain ⟨rfl, _⟩ := idle (.call key operation site)
      cases here : (state.view .producer).point <;> simp_all [Local.calls, Point.rests]
  | fail role key operation site operated =>
      cases (idle (.fail key operation site (removed_of_operate operated))).2
  | wake here => exact .done done rfl last same length
  | destroy key here =>
      refine .done done ?_ last same length
      cases key <;> rfl
  | remove here => exact .done done rfl last same length
  | terminate role running sound =>
      cases role with
      | producer => exact .done done rfl last same length
      | consumer => exact .done rfl rests last same length

/-- The producer of a living state wakes up after its loop. -/
theorem wake_step (opened : Startup maxBuf nloops 0 state)
    (waits : (state.view .consumer).started = false → (state.view .producer).takes = 0)
    (kept : state.removed = false) (queued : Queued maxBuf state queue)
    (here : (state.view .producer).point = .finished) :
    Living maxBuf nloops (state.goto .producer (.semDestroy .emptySem)) := by
  obtain ⟨loose, accounts⟩ := opened.accounts
  have inside := opened.within .producer
  have started : (state.view .producer).started = true := by rw [Local.started, here]
  obtain ⟨change, counts⟩ := goto_outside (state.view .producer) (.semDestroy .emptySem) .producer
    (by rw [here]; rfl) rfl
  rw [Local.Within, here] at inside
  refine .alive ⟨⟨loose, accounts.move .producer _ change
    (fun key _ => created_of_started started key) rfl rfl ?_⟩, ?_, Int.le_refl 0, ?_, ?_⟩ ?_ kept queue
    (queued.move .producer _ ?_ ?_ rfl rfl rfl rfl rfl rfl)
  · rw [counts, Int.sub_self, Int.mul_zero, Int.add_zero]
    rfl
  · intro before
    simpa [State.goto, State.setView, Local.gives, Local.goto, here] using opened.opening before
  · exact (Function.forall_update_iff state.view fun role view => view.point.lives role = true).mpr
      ⟨rfl, fun role _ => opened.lives role⟩
  · exact (Function.forall_update_iff state.view fun _ view => view.Within nloops).mpr
      ⟨inside, fun role _ => opened.within role⟩
  · intro before
    simpa [State.goto, State.setView, Local.takes, Local.goto, here] using waits before
  · simp [Local.accesses, Local.goto, here]
  · simp [Local.advances, Local.goto, here]

/-- Each step keeps a living state when the removal comes after the consumer's loop. -/
theorem living_step (living : Living maxBuf nloops state) {label : Label}
    (allowed : normal state label = true) (late : removesLate state label = true)
    (step : Step maxBuf nloops state label later) : Living maxBuf nloops later := by
  cases living with
  | done done rests last same length => exact done_step done rests last same length step
  | alive opened waits kept queue queued =>
      cases runs : label.runs with
      | true => exact alive_step opened waits kept queued runs allowed step
      | false =>
          have producer := opened.lives .producer
          cases step with
          | create | enter | finish | store | load | advance | count | call | fail => cases runs
          | wake here => exact wake_step opened waits kept queued here
          | destroy key here =>
              have done : state.consumerDone = true := by simpa [removesLate, here] using late
              obtain ⟨rests, last, same, length⟩ := done_of_alive opened queued done
              exact done_step done rests last same length (.destroy key here)
          | remove here =>
              rw [here] at producer
              cases producer
          | terminate role running sound =>
              cases role with
              | producer =>
                  rw [of_decide_eq_true allowed] at producer
                  cases producer
              | consumer =>
                  have done : state.consumerDone = true :=
                    decide_eq_true (Or.inl (of_decide_eq_true allowed))
                  obtain ⟨rests, last, same, length⟩ := done_of_alive opened queued done
                  exact done_step done rests last same length (.terminate .consumer running sound)

/-- A living state is orderly. -/
theorem orderly_of_living (living : Living maxBuf nloops state) : Orderly nloops state := by
  cases living with
  | alive opened waits kept queue queued =>
      obtain ⟨loose, accounts⟩ := opened.accounts
      refine ⟨?_, ?_, ⟨queue, queued.split.symm⟩, ?_⟩
      · rintro (⟨role, key, created, missing⟩ | removed)
        · have present := accounts.made role key created
          rw [missing] at present
          cases present
        · rw [kept] at removed
          cases removed
      · intro failed
        have lives := opened.lives .consumer
        rw [failed] at lives
        cases lives
      · intro done
        obtain ⟨_, _, same, length⟩ := done_of_alive opened queued done
        exact ⟨same, length⟩
  | done done rests last same length =>
      refine ⟨fun _ => done, ?_, same ▸ List.prefix_rfl, fun _ => ⟨same, length⟩⟩
      intro failed
      simp [State.consumerDone, failed] at done

/-- A removal before the end of the consumer's loop is not orderly. -/
theorem late_of_orderly {label : Label} (step : Step maxBuf nloops state label later)
    (orderly : Orderly nloops later) : removesLate state label = true := by
  cases step with
  | destroy key here =>
      have done : state.consumerDone = true := orderly.late (Or.inl ⟨.producer, key, by
        cases key <;> trivial, by simp [Table.destroy]⟩)
      simpa [removesLate, here] using done
  | wake here => simp [removesLate, here]
  | remove here => simp [removesLate, here]
  | _ => rfl

/-- The reachable states are living when each removal comes after the consumer's loop. -/
theorem reachable_living
    (reached : ((lifetime maxBuf nloops).restrict removesLate).Reachable state) :
    Living maxBuf nloops state := by
  apply reached.invariant (Living maxBuf nloops)
  · rintro state rfl
    exact living_fresh maxBuf nloops
  · intro state label later _ living taken
    obtain ⟨late, step⟩ := (System.restrict_next _ _ _ _ _).mp taken
    obtain ⟨allowed, moved⟩ := (System.restrict_next _ _ _ _ _).mp step
    exact living_step living allowed late (step_of_next moved)

end Steps

/-- Both processes take turns, and the producer removes everything before the consumer's last item. -/
def overtaking : List Label :=
  List.replicate 6 (.step .consumer) ++ List.replicate 3 (.step .producer) ++
    (List.replicate 19 (iteration ++ List.replicate 8 (.step .consumer))).flatten ++ iteration ++
    .step .producer :: List.replicate 5 .tearDown ++ List.replicate 2 (.step .consumer)
where
  iteration : List Label :=
    List.replicate 3 (.step .producer) ++ .produce 7 :: List.replicate 4 (.step .producer)

/-- The consumer finds `fullSem` removed, and it never consumes the last item. -/
theorem outlivesConsumer_fails : ∃ state, (lifetime 2 20).Reachable state ∧
    state.removed = true ∧ (state.view .consumer).point = .failed ∧
    state.produced.length = 20 ∧ state.consumed.length = 19 := by
  obtain ⟨state, reached, facts⟩ := (lifetime 2 20).exists_reachable fresh rfl overtaking
    (fun state => decide (state.removed = true ∧ (state.view .consumer).point = .failed ∧
      state.produced.length = 20 ∧ state.consumed.length = 19)) (by decide +kernel)
  exact ⟨state, reached, of_decide_eq_true facts⟩

/-- The processes end in order exactly when each removal comes after the consumer's loop. -/
theorem outlivesConsumer (maxBuf nloops : Nat) (state : State)
    (reached : ((lifetime maxBuf nloops).restrict removesLate).Reachable state) :
    Orderly nloops state ∧ ∀ label later, (lifetime maxBuf nloops).next state label = some later →
      (Orderly nloops later ↔ removesLate state label = true) := by
  have living := reachable_living reached
  refine ⟨orderly_of_living living, fun label later taken => ?_⟩
  obtain ⟨allowed, moved⟩ := (System.restrict_next _ _ _ _ _).mp taken
  have step := step_of_next moved
  exact ⟨late_of_orderly step, fun late => orderly_of_living (living_step living allowed late step)⟩

/-- The consumer leaves its loop before the producer removes the first semaphore. -/
theorem outlivesConsumer_run : ∃ state,
    ((lifetime 2 1).restrict removesLate).Reachable state ∧ state.removed = true ∧
      Orderly 1 state := by
  obtain ⟨state, reached, facts⟩ := ((lifetime 2 1).restrict removesLate).exists_reachable fresh rfl
    (List.replicate 6 (.step .consumer) ++ List.replicate 3 (.step .producer) ++
      overtaking.iteration ++ .step .producer :: List.replicate 9 (.step .consumer) ++
      List.replicate 5 .tearDown)
    (fun state => state.removed) (by decide)
  exact ⟨state, reached, facts, (outlivesConsumer 2 1 state reached).1⟩

end ProducerS
