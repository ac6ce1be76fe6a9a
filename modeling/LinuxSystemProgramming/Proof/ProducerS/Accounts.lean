import LinuxSystemProgramming.Construction.ProducerS
import LinuxSystemProgramming.Proof.Semlib

namespace ProducerS
open Transition Semlib BoundedBuffer

/-- The number of slots that a process has taken. -/
def Local.takes (view : Local) : Int :=
  match view.point with
  | .waitMutex | .access | .advance | .count | .postMutex | .postSlot => view.i + 1
  | .exited | .failed => 0
  | _ => view.i

/-- The number of slots that a process has given. -/
def Local.gives (view : Local) : Int :=
  match view.point with
  | .exited | .failed => 0
  | _ => view.i

/-- The number of times that a process has changed the counter. -/
def Local.counts (view : Local) : Int :=
  match view.point with
  | .postMutex | .postSlot => view.i + 1
  | .exited | .failed => 0
  | _ => view.i

/-- A process in its critical section holds the mutex. -/
def Local.holding (view : Local) : Int :=
  match view.point with
  | .access | .advance | .count | .postMutex => 1
  | _ => 0

/-- The sum of the operations of a process that still count for each semaphore. -/
def Local.change (role : Role) (view : Local) : Key → Int :=
  match role with
  | .producer => levels (-view.takes) view.gives (-view.holding)
  | .consumer => levels view.gives (-view.takes) (-view.holding)

/-- A process has created the semaphores before the one that it creates next. -/
def Local.created (view : Local) (key : Key) : Prop :=
  match view.point with
  | .semInit other => key.order < other.order
  | _ => True

/-- A process has completed its part of the initialization. -/
def Local.started (view : Local) : Bool :=
  match view.point with
  | .semInit _ | .semInitValue _ => false
  | _ => true

/-- A wait takes one, and a post adds one. -/
def Operation.delta : Operation → Int
  | .semInitValue _ => 0
  | .semWait => -1
  | .semPost => 1

/-- A statement before the tear-down of a process that has not ended. -/
def Label.runs : Label → Bool
  | .step _ | .produce _ => true
  | _ => false

/-- The value of each semaphore is its base and what both processes have changed. -/
def State.value (base : Key → Int) (state : State) (key : Key) : Int :=
  base key + (state.view .producer).change .producer key + (state.view .consumer).change .consumer key

/-- The counter is the difference between the two processes. -/
def State.counted (state : State) : Int :=
  (state.view .producer).counts - (state.view .consumer).counts

/-- The semaphores and the counter agree with the points and loop variables of the processes. -/
structure Accounts (base : Key → Int) (loose : Key → Role → Int) (shift : Int) (state : State) :
    Prop where
  made : ∀ role key, (state.view role).created key → (state.sem key).isSome
  holds : state.sem.Holds (state.value base)
    fun key role => loose key role - (state.view role).change role key
  counter : state.buffer.counter = shift + state.counted

section Views

/-- A started process has created all semaphores. -/
theorem created_of_started {view : Local} (started : view.started = true) (key : Key) :
    view.created key := by
  obtain ⟨point, i⟩ := view
  cases point with
  | semInit => cases started
  | _ => trivial

/-- A process that calls a function has created all semaphores. -/
theorem created_of_calls {maxBuf : Nat} {view : Local} {role : Role} {site : Key × Operation}
    (calls : view.calls maxBuf role = some site) (key : Key) : view.created key := by
  obtain ⟨point, i⟩ := view
  cases point with
  | semInit => cases calls
  | _ => trivial

/-- A wait or a post of a started process changes its sum by one. -/
theorem change_succeed {maxBuf : Nat} {role : Role} {view : Local} {key : Key}
    {operation : Operation} (started : view.started = true)
    (site : view.calls maxBuf role = some (key, operation)) :
    view.succeed.change role =
        Function.update (view.change role) key (view.change role key + operation.delta) ∧
      view.succeed.counts = view.counts ∧ view.succeed.started = true ∧
      (operation = .semWait ∨ operation = .semPost) := by
  obtain ⟨point, i⟩ := view
  cases point with
  | waitSlot | waitMutex | postMutex | postSlot =>
      cases site
      refine ⟨?_, by simp [Local.succeed, Local.goto, Local.counts], rfl, by simp⟩
      cases role <;> funext key <;> cases key <;>
        simp [Local.succeed, Local.goto, Local.change, Local.takes, Local.gives, Local.holding,
          Operation.delta, taken, given, Role.other, levels]
      all_goals omega
  | semInitValue key => cases started
  | _ => cases site

/-- A process outside an iteration has given what it has taken and holds nothing. -/
def Point.outside : Point → Bool
  | .waitMutex | .access | .advance | .count | .postMutex | .postSlot | .exited | .failed => false
  | _ => true

/-- The sums of a process outside an iteration are its loop variable. -/
theorem sums_of_outside (view : Local) (outside : view.point.outside = true) :
    view.takes = view.i ∧ view.gives = view.i ∧ view.counts = view.i ∧ view.holding = 0 := by
  obtain ⟨point, i⟩ := view
  cases point <;>
    simp_all [Point.outside, Local.takes, Local.gives, Local.counts, Local.holding]

/-- A move outside the iterations keeps the sums. -/
theorem goto_outside (view : Local) (point : Point) (role : Role)
    (here : view.point.outside = true) (outside : point.outside = true) :
    (view.goto point).change role = view.change role ∧ (view.goto point).counts = view.counts := by
  obtain ⟨takes, gives, counts, holding⟩ := sums_of_outside view here
  obtain ⟨takes', gives', counts', holding'⟩ : (view.goto point).takes = view.i ∧
      (view.goto point).gives = view.i ∧ (view.goto point).counts = view.i ∧
      (view.goto point).holding = 0 := sums_of_outside _ outside
  refine ⟨?_, counts'.trans counts.symm⟩
  cases role <;> simp only [Local.change, takes, gives, holding, takes', gives', holding']

/-- The values after a move of one process. -/
theorem value_setView (base : Key → Int) (state : State) (role : Role) (view : Local) (key : Key) :
    (state.setView role view).value base key =
      state.value base key + (view.change role key - (state.view role).change role key) := by
  cases role
  · simp only [State.value, State.setView, Function.update_self,
      Function.update_of_ne (show Role.consumer ≠ Role.producer by decide)]
    omega
  · simp only [State.value, State.setView, Function.update_self,
      Function.update_of_ne (show Role.producer ≠ Role.consumer by decide)]
    omega

end Views

/-- A process creates a semaphore or starts its loop, and only the consumer sets a semaphore. -/
def Point.opening (role : Role) : Point → Bool
  | .semInit _ | .loop => true
  | .semInitValue _ => decide (role = .consumer)
  | _ => false

/-- The process that takes a step. -/
def Label.mover : Label → Role
  | .step role | .terminate role => role
  | .produce _ | .tearDown => .producer

/-- A statement before the tear-down moves one process in one of these ways. -/
inductive LocalStep (maxBuf nloops : Nat) (sem : Table Role) (role : Role) (view : Local) : Local → Prop where
  | create (key : Key) (point : Point) (here : view.point = .semInit key)
      (opens : point.opening role = true) : LocalStep maxBuf nloops sem role view (view.goto point)
  | enter (here : view.point = .loop) (more : view.i < nloops) :
      LocalStep maxBuf nloops sem role view (view.goto .waitSlot)
  | finish (here : view.point = .loop) (done : ¬ view.i < nloops) :
      LocalStep maxBuf nloops sem role view (view.goto .finished)
  | access (here : view.point = .access) : LocalStep maxBuf nloops sem role view (view.goto .advance)
  | advance (here : view.point = .advance) : LocalStep maxBuf nloops sem role view (view.goto .count)
  | count (here : view.point = .count) : LocalStep maxBuf nloops sem role view (view.goto .postMutex)
  | call (key : Key) (operation : Operation)
      (site : view.calls maxBuf role = some (key, operation)) :
      LocalStep maxBuf nloops sem role view view.succeed
  | fail (key : Key) (operation : Operation)
      (site : view.calls maxBuf role = some (key, operation)) (missing : sem key = none) :
      LocalStep maxBuf nloops sem role view (view.goto .failed)

section Steps
variable {maxBuf nloops : Nat} {base : Key → Int} {loose : Key → Role → Int} {shift : Int}
  {state later : State}

/-- The producer counts up, and the consumer counts down. -/
def sign : Role → Int
  | .producer => 1
  | .consumer => -1

/-- The difference after a move of one process. -/
theorem counted_setView (state : State) (role : Role) (view : Local) :
    (state.setView role view).counted =
      state.counted + sign role * (view.counts - (state.view role).counts) := by
  cases role
  · simp only [State.counted, State.setView, Function.update_self, sign,
      Function.update_of_ne (show Role.consumer ≠ Role.producer by decide)]
    omega
  · simp only [State.counted, State.setView, Function.update_self, sign,
      Function.update_of_ne (show Role.producer ≠ Role.consumer by decide)]
    omega

/-- A move that keeps the sum of its process keeps all sums. -/
theorem sums_of_move (base : Key → Int) {role : Role} {view : Local}
    (change : view.change role = (state.view role).change role)
    (moved : later.view = Function.update state.view role view) :
    later.value base = state.value base ∧
      ∀ other, (later.view other).change other = (state.view other).change other := by
  refine ⟨?_, ?_⟩
  · funext key
    have same := value_setView base state role view key
    rw [change, Int.sub_self, Int.add_zero] at same
    rw [← same]
    simp only [State.value, moved, State.setView]
  · intro other
    rw [moved]
    by_cases own : other = role
    · subst own
      rw [Function.update_self, change]
    · rw [Function.update_of_ne own]

/-- The counter follows a move. -/
theorem counter_of_move {role : Role} {view : Local}
    (before : state.buffer.counter = shift + state.counted)
    (moved : later.view = Function.update state.view role view)
    (counter : later.buffer.counter =
      state.buffer.counter + sign role * (view.counts - (state.view role).counts)) :
    later.buffer.counter = shift + later.counted := by
  have difference := counted_setView state role view
  have same : later.counted = (state.setView role view).counted := by
    simp only [State.counted, moved, State.setView]
  rw [counter, same, difference]
  omega

/-- A move without an operation keeps the accounts when the counter follows the move. -/
theorem Accounts.move (accounts : Accounts base loose shift state) (role : Role) (view : Local)
    (change : view.change role = (state.view role).change role)
    (created : ∀ key, view.created key → (state.view role).created key)
    (moved : later.view = Function.update state.view role view) (sem : later.sem = state.sem)
    (counter : later.buffer.counter =
      state.buffer.counter + sign role * (view.counts - (state.view role).counts)) :
    Accounts base loose shift later := by
  obtain ⟨value, adjust⟩ := sums_of_move base change moved
  refine ⟨?_, ?_, counter_of_move accounts.counter moved counter⟩
  · intro other key
    rw [moved, sem]
    by_cases own : other = role
    · subst own
      rw [Function.update_self]
      exact fun known => accounts.made other key (created key known)
    · rw [Function.update_of_ne own]
      exact accounts.made other key
  · rw [sem, value]
    simp only [adjust]
    exact accounts.holds

/-- The values follow an operation of one process. -/
theorem value_of_change {role : Role} {view : Local} {key : Key} {delta : Int}
    (change : view.change role = Function.update ((state.view role).change role) key
      ((state.view role).change role key + delta)) :
    (state.setView role view).value base =
      Function.update (state.value base) key (state.value base key + delta) := by
  funext name
  rw [value_setView, change]
  by_cases here : name = key
  · subst here
    rw [Function.update_self, Function.update_self]
    omega
  · rw [Function.update_of_ne here, Function.update_of_ne here]
    omega

/-- The adjustments of one process follow its operation. -/
theorem adjust_of_change {role : Role} {view : Local} {key : Key} {delta : Int}
    (change : view.change role = Function.update ((state.view role).change role) key
      ((state.view role).change role key + delta)) :
    (fun name other => loose name other - ((state.setView role view).view other).change other name) =
      Function.update (fun name other => loose name other - (state.view other).change other name) key
        (Function.update (fun other => loose key other - (state.view other).change other key) role
          (loose key role - (state.view role).change role key - delta)) := by
  funext name other
  by_cases here : name = key
  · subst here
    rw [Function.update_self]
    by_cases own : other = role
    · subst own
      simp only [Function.update_self, State.setView, change]
      omega
    · simp only [Function.update_of_ne own, State.setView]
  · rw [Function.update_of_ne here]
    by_cases own : other = role
    · subst own
      simp only [Function.update_self, State.setView, change, Function.update_of_ne here]
    · simp only [Function.update_of_ne own, State.setView]

/-- A wait or a post keeps the accounts, and a wait finds a positive value. -/
theorem Accounts.call (accounts : Accounts base loose shift state) {role : Role} {key : Key}
    {operation : Operation} (started : (state.view role).started = true)
    (site : (state.view role).calls maxBuf role = some (key, operation))
    {result : Option (Table Role)}
    (operated : state.sem.operate key (operation.apply role) = some result) :
    ∃ sem, result = some sem ∧ Accounts base loose shift
      { state.setView role (state.view role).succeed with sem := sem } := by
  have made := accounts.made role key (created_of_started started key)
  obtain ⟨change, counts, still, kind⟩ := change_succeed started site
  have effect : ∃ sem, result = some sem ∧ sem.Holds
      (Function.update (state.value base) key (state.value base key + operation.delta))
      (Function.update (fun key role => loose key role - (state.view role).change role key) key
        (Function.update (fun role => loose key role - (state.view role).change role key) role
          (loose key role - (state.view role).change role key - operation.delta))) ∧
      ∀ other, (sem other).isSome = (state.sem other).isSome := by
    rcases kind with rfl | rfl
    · obtain ⟨_, sem, rfl, holds, same⟩ := accounts.holds.wait made operated
      refine ⟨sem, rfl, ?_, same⟩
      simp only [Operation.delta, Int.sub_neg]
      exact holds
    · obtain ⟨sem, rfl, holds, same⟩ := accounts.holds.post made operated
      exact ⟨sem, rfl, holds, same⟩
  obtain ⟨sem, rfl, holds, same⟩ := effect
  refine ⟨sem, rfl, ?_, ?_, counter_of_move accounts.counter rfl ?_⟩
  · intro other name _
    rw [same]
    exact accounts.made role name (created_of_started started name)
  · rw [← value_of_change change, ← adjust_of_change change] at holds
    exact holds
  · rw [counts, Int.sub_self, Int.mul_zero, Int.add_zero]
    rfl

/-- A process that creates a semaphore has then created it and the earlier ones. -/
theorem created_of_create {point : Point} {key name : Key} {i : Nat}
    (next : (∃ other, key.after = some other ∧ point = .semInit other) ∨ key.after = none)
    (created : (⟨point, i⟩ : Local).created name) :
    name = key ∨ (⟨.semInit key, i⟩ : Local).created name := by
  rcases next with ⟨other, after, rfl⟩ | last
  · cases key <;> cases after <;> cases name <;> simp_all [Local.created, Key.order]
  · cases key <;> cases last
    cases name <;> simp [Local.created, Key.order]

/-- A process that creates a semaphore moves to an opening point. -/
theorem create_view (state : State) (role : Role) (key : Key) : ∃ point : Point,
    (state.create role key).view = Function.update state.view role ((state.view role).goto point) ∧
      point.opening role = true ∧
      ((∃ other, key.after = some other ∧ point = .semInit other) ∨ key.after = none) := by
  cases key with
  | emptySem => exact ⟨_, rfl, rfl, Or.inl ⟨_, rfl, rfl⟩⟩
  | fullSem => exact ⟨_, rfl, rfl, Or.inl ⟨_, rfl, rfl⟩⟩
  | mutexSem => cases role <;> exact ⟨_, rfl, rfl, Or.inr rfl⟩

/-- A process that creates a semaphore keeps the accounts. -/
theorem Accounts.create (accounts : Accounts base loose shift state) {role : Role} {key : Key}
    (here : (state.view role).point = .semInit key) :
    Accounts base loose shift (state.create role key) := by
  obtain ⟨point, moved, opens, next⟩ := create_view state role key
  have outside : point.outside = true := by cases point <;> first | rfl | cases opens
  obtain ⟨change, counts⟩ := goto_outside (state.view role) point role (by rw [here]; rfl) outside
  obtain ⟨value, adjust⟩ := sums_of_move base change moved
  refine ⟨?_, ?_, counter_of_move accounts.counter moved ?_⟩
  · intro other name created
    apply isSome_create
    rw [moved] at created
    by_cases own : other = role
    · subst own
      rw [Function.update_self] at created
      refine (created_of_create next created).imp_right fun known => ?_
      refine accounts.made other name ?_
      rw [Local.created, here]
      exact known
    · rw [Function.update_of_ne own] at created
      exact Or.inr (accounts.made other name created)
  · rw [value]
    simp only [adjust]
    exact accounts.holds.create key
  · rw [counts, Int.sub_self, Int.mul_zero, Int.add_zero]
    rfl

/-- A process that sets a semaphore replaces its value and clears its adjustments. -/
theorem Accounts.set (accounts : Accounts base loose shift state) {role : Role} {key : Key}
    {value : Nat} (here : (state.view role).point = .semInitValue key)
    {result : Option (Table Role)}
    (operated : state.sem.operate key ((Operation.semInitValue value).apply role) = some result) :
    ∃ sem, result = some sem ∧ Accounts
      (Function.update base key (value - (state.value base key - base key)))
      (Function.update loose key fun other => (state.view other).change other key) shift
      { state.setView role (state.view role).succeed with sem := sem } := by
  have made (name : Key) : (state.sem name).isSome :=
    accounts.made role name (by rw [Local.created, here]; trivial)
  obtain ⟨sem, rfl, holds, same⟩ := accounts.holds.set (made key) operated
  obtain ⟨point, moved, outside⟩ : ∃ point, (state.view role).succeed =
      (state.view role).goto point ∧ point.outside = true := by
    rw [Local.succeed, here]
    cases key <;> exact ⟨_, rfl, rfl⟩
  obtain ⟨change, counts⟩ := goto_outside (state.view role) point role (by rw [here]; rfl) outside
  rw [← moved] at change counts
  refine ⟨sem, rfl, ?_, ?_, ?_⟩
  · intro other name _
    rw [same]
    exact made name
  · intro name
    have later : ({ state.setView role (state.view role).succeed with sem := sem } : State).view =
        Function.update state.view role (state.view role).succeed := rfl
    obtain ⟨values, adjust⟩ := sums_of_move (Function.update base key
      (value - (state.value base key - base key))) change later
    have level := holds name
    simp only [adjust, values]
    by_cases own : name = key
    · subst own
      simp only [Function.update_self] at level ⊢
      refine ⟨?_, ?_⟩
      · rw [level.1]
        simp only [State.value, Function.update_self]
        omega
      · rw [level.2]
        funext other
        exact (Int.sub_self _).symm
    · simp only [Function.update_of_ne own] at level ⊢
      refine ⟨?_, level.2⟩
      rw [level.1]
      simp only [State.value, Function.update_of_ne own]
  · refine counter_of_move accounts.counter rfl ?_
    rw [counts, Int.sub_self, Int.mul_zero, Int.add_zero]
    rfl

/-- A statement of a started process keeps the accounts. -/
theorem accounts_step (accounts : Accounts base loose shift state) {label : Label}
    (runs : label.runs = true) (started : (state.view label.mover).started = true)
    (step : Step maxBuf nloops state label later) : Accounts base loose shift later := by
  cases step with
  | create role key here =>
      rw [Local.started, Label.mover, here] at started
      cases started
  | enter role here more | finish role here done =>
      refine accounts.move role _ ?_ ?_ rfl rfl ?_
      · cases role <;>
          simp [Local.change, Local.takes, Local.gives, Local.holding, Local.goto, here]
      · exact fun key _ => created_of_started started key
      · simp [State.goto, State.setView, Local.counts, Local.goto, here]
  | store data here =>
      refine accounts.move .producer _ ?_ ?_ rfl rfl ?_
      · simp [Local.change, Local.takes, Local.gives, Local.holding, Local.goto, here]
      · intro key _
        simp [Local.created, here]
      · simp [State.store, BoundedBufferType.store, Local.counts, Local.goto, here]
  | load here =>
      refine accounts.move .consumer _ ?_ ?_ rfl rfl ?_
      · simp [Local.change, Local.takes, Local.gives, Local.holding, Local.goto, here]
      · exact fun key _ => created_of_started started key
      · simp [State.load, State.goto, State.setView, Local.counts, Local.goto, here]
  | advance role here =>
      refine accounts.move role _ ?_ ?_ rfl rfl ?_
      · cases role <;>
          simp [Local.change, Local.takes, Local.gives, Local.holding, Local.goto, here]
      · exact fun key _ => created_of_started started key
      · cases role <;> simp [State.advanceIndex, Role.advance, BoundedBufferType.advanceIn,
          BoundedBufferType.advanceOut, Local.counts, Local.goto, here]
  | count role here =>
      refine accounts.move role _ ?_ ?_ rfl rfl ?_
      · cases role <;>
          simp [Local.change, Local.takes, Local.gives, Local.holding, Local.goto, here]
      · exact fun key _ => created_of_started started key
      · cases role <;> simp [State.changeCounter, Role.count, BoundedBufferType.countUp,
          BoundedBufferType.countDown, Local.counts, Local.goto, here, sign] <;> omega
  | call role key operation sem site operated =>
      obtain ⟨other, same, kept⟩ := accounts.call started site operated
      cases same
      exact kept
  | fail role key operation site operated =>
      obtain ⟨other, same, _⟩ := accounts.call started site operated
      cases same
  | wake here => cases runs
  | destroy key here => cases runs
  | remove here => cases runs
  | terminate role running sound => cases runs

/-- A statement moves only its own process. -/
theorem local_of_step {label : Label} (runs : label.runs = true)
    (step : Step maxBuf nloops state label later) :
    ∃ view, later.view = Function.update state.view label.mover view ∧
      LocalStep maxBuf nloops state.sem label.mover (state.view label.mover) view := by
  cases step with
  | create role key here =>
      exact ⟨_, rfl, .create key _ here (by cases key <;> cases role <;> rfl)⟩
  | enter role here more => exact ⟨_, rfl, .enter here more⟩
  | finish role here done => exact ⟨_, rfl, .finish here done⟩
  | store data here => exact ⟨_, rfl, .access here⟩
  | load here => exact ⟨_, rfl, .access here⟩
  | advance role here => exact ⟨_, rfl, .advance here⟩
  | count role here => exact ⟨_, rfl, .count here⟩
  | call role key operation sem site operated => exact ⟨_, rfl, .call key operation site⟩
  | fail role key operation site operated =>
      exact ⟨_, rfl, .fail key operation site (removed_of_operate operated)⟩
  | wake here => cases runs
  | destroy key here => cases runs
  | remove here => cases runs
  | terminate role running sound => cases runs

/-- A started process stays started. -/
theorem started_move {role : Role} {view : Local} (started : (state.view role).started = true)
    (move : LocalStep maxBuf nloops state.sem role (state.view role) view) :
    view.started = true := by
  cases move with
  | create key point here opens =>
      rw [Local.started, here] at started
      cases started
  | call key operation site => exact (change_succeed started site).2.2.1
  | enter | finish | access | advance | count | fail => rfl

/-- A statement keeps the started processes. -/
theorem started_step {label : Label} (runs : label.runs = true) {role : Role}
    (started : (state.view role).started = true) (step : Step maxBuf nloops state label later) :
    (later.view role).started = true := by
  obtain ⟨view, moved, move⟩ := local_of_step runs step
  rw [moved]
  by_cases own : role = label.mover
  · subst own
    rw [Function.update_self]
    exact started_move started move
  · rw [Function.update_of_ne own]
    exact started

/-- No value of the accounts is negative. -/
theorem Accounts.nonneg (accounts : Accounts base loose shift state) :
    (state.view .producer).takes ≤ base .emptySem + (state.view .consumer).gives ∧
    (state.view .consumer).takes ≤ base .fullSem + (state.view .producer).gives ∧
    (state.view .producer).holding + (state.view .consumer).holding ≤ base .mutexSem := by
  have empty := accounts.holds.nonneg .emptySem
  have full := accounts.holds.nonneg .fullSem
  have mutex := accounts.holds.nonneg .mutexSem
  simp only [State.value, Local.change, levels] at empty full mutex
  omega

/-- The counts of the semaphores are the values of the accounts. -/
theorem Accounts.counts (accounts : Accounts base loose shift state) :
    (count (state.sem .emptySem) : Int) =
        base .emptySem - (state.view .producer).takes + (state.view .consumer).gives ∧
      (count (state.sem .fullSem) : Int) =
        base .fullSem + (state.view .producer).gives - (state.view .consumer).takes ∧
      (count (state.sem .mutexSem) : Int) =
        base .mutexSem - (state.view .producer).holding - (state.view .consumer).holding := by
  have level (key : Key) : (count (state.sem key) : Int) = state.value base key := by
    rw [← (accounts.holds key).1]
    cases state.sem key <;> rfl
  simp only [level, State.value, Local.change, levels]
  omega

/-- A process gives a slot after it has changed the counter, and it changes the counter after it has taken a slot. -/
theorem Local.ordered (view : Local) :
    0 ≤ view.gives ∧ view.gives ≤ view.counts ∧ view.counts ≤ view.takes ∧
      view.takes ≤ view.gives + 1 ∧ 0 ≤ view.holding ∧ view.holding ≤ 1 := by
  obtain ⟨point, i⟩ := view
  cases point <;> simp only [Local.gives, Local.counts, Local.takes, Local.holding] <;> omega

end Steps

end ProducerS
