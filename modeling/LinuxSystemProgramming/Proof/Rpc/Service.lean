/-
This file proves how many requests the server `rpc` answers before a `semop` of its loop fails.
-/

import LinuxSystemProgramming.Construction.Rpc.Service
import LinuxSystemProgramming.Proof.Rpc.Session

namespace Rpc
open Transition Semlib

section Adjustment
variable {App : Type} [DecidableEq App]

omit [DecidableEq App] in
/-- The server's adjustment of a semaphore, which is zero if the semaphore does not exist. -/
def adjustment (semaphore : Option (Semaphore (Process App))) : Int :=
  (semaphore.map fun semaphore => semaphore.semadj .rpc).getD 0

omit [DecidableEq App] in
@[simp] theorem adjustment_semInit (semaphore : Option (Semaphore (Process App))) :
    adjustment (some (semInit semaphore)) = adjustment semaphore := by
  cases semaphore <;> rfl

theorem adjustment_semPost_app {client : App} {semaphore : Option (Semaphore (Process App))}
    {later : Semaphore (Process App)} (posted : semaphore.map (semPost (.app client)) = some later) :
    adjustment (some later) = adjustment semaphore := by
  obtain ⟨present, rfl, rfl⟩ := Option.map_eq_some_iff.mp posted
  simp [adjustment, semPost]

theorem adjustment_semWait_app {client : App} {semaphore : Option (Semaphore (Process App))}
    {later : Semaphore (Process App)}
    (passed : semaphore.bind (semWait (.app client)) = some later) :
    adjustment (some later) = adjustment semaphore := by
  obtain ⟨present, rfl, taken⟩ := Option.bind_eq_some_iff.mp passed
  rw [semWait, Option.ite_none_left_eq_some, Option.some_inj] at taken
  obtain ⟨_, rfl⟩ := taken
  simp [adjustment]

/-- A wait of the server adds one to its adjustment. -/
theorem adjustment_semWait_rpc {semaphore : Option (Semaphore (Process App))}
    {later : Semaphore (Process App)} (passed : semaphore.bind (semWait .rpc) = some later) :
    adjustment (some later) = adjustment semaphore + 1 := by
  obtain ⟨present, rfl, taken⟩ := Option.bind_eq_some_iff.mp passed
  rw [semWait, Option.ite_none_left_eq_some, Option.some_inj] at taken
  obtain ⟨_, rfl⟩ := taken
  simp [adjustment]

/-- A post of the server takes one from its adjustment. -/
theorem adjustment_semPost_rpc {semaphore : Option (Semaphore (Process App))}
    {later : Semaphore (Process App)} (posted : semaphore.map (semPost .rpc) = some later) :
    adjustment (some later) = adjustment semaphore - 1 := by
  obtain ⟨present, rfl, rfl⟩ := Option.map_eq_some_iff.mp posted
  simp [adjustment, semPost]

omit [DecidableEq App] in
theorem adjustment_semInitValue {value : Nat} {semaphore : Option (Semaphore (Process App))}
    {later : Semaphore (Process App)} (set : semaphore.map (semInitValue value) = some later) :
    adjustment (some later) = 0 := by
  obtain ⟨present, rfl, rfl⟩ := Option.map_eq_some_iff.mp set
  rfl

theorem adjustment_undo_app (client : App) (semaphore : Option (Semaphore (Process App))) :
    adjustment (semaphore.map (undo (.app client))) = adjustment semaphore := by
  cases semaphore with
  | none => rfl
  | some present => simp [adjustment, undo]

/-- A client moves neither the server nor its adjustments, and it removes no semaphore. -/
structure Untouched (state later : State App) : Prop where
  rpc : later.rpc = state.rpc
  sema1 : adjustment later.sema1 = adjustment state.sema1
  sema2 : adjustment later.sema2 = adjustment state.sema2
  exists1 : state.sema1.isSome → later.sema1.isSome
  exists2 : state.sema2.isSome → later.sema2.isSome

theorem untouched_of_step {number : App → Int} {state later : State App} {label : Label App}
    (step : Step number state label later) (client : label ≠ .rpc) : Untouched state later := by
  cases step with
  | start | write | read => exact ⟨rfl, rfl, rfl, id, id⟩
  | semInit1 other here => exact ⟨rfl, adjustment_semInit _, rfl, fun _ => rfl, id⟩
  | semInit2 other here => exact ⟨rfl, rfl, adjustment_semInit _, id, fun _ => rfl⟩
  | post other here semaphore posted =>
      exact ⟨rfl, adjustment_semPost_app posted, rfl, fun _ => rfl, id⟩
  | wait other here semaphore passed =>
      exact ⟨rfl, rfl, adjustment_semWait_app passed, id, fun _ => rfl⟩
  | exit other result here =>
      exact ⟨rfl, adjustment_undo_app other _, adjustment_undo_app other _,
        by simp [State.exit, State.goto], by simp [State.exit, State.goto]⟩
  | _ => exact absurd rfl client

end Adjustment

variable {App : Type} [DecidableEq App] {number : App → Int} {service later : Service App}

omit [DecidableEq App] in
/-- The adjustments count the requests that were taken and answered. -/
structure Counted (service : Service App) : Prop where
  taken : adjustment service.state.sema1 = service.answered + (!service.state.rpc.waiting).toNat
  answered : adjustment service.state.sema2 = -service.answered
  limit : service.answered + (!service.state.rpc.waiting).toNat ≤ 32767
  begun : service.state.rpc.looping = false → service.answered = 0
  exists1 : service.state.rpc.looping ∨ service.state.rpc = .semInit2 ∨
    service.state.rpc = .semInitValue1 ∨ service.state.rpc = .semInitValue2 →
    service.state.sema1.isSome
  exists2 : service.state.rpc.looping ∨ service.state.rpc = .semInitValue1 ∨
    service.state.rpc = .semInitValue2 → service.state.sema2.isSome

omit [DecidableEq App] in
theorem counted_client (counted : Counted service) {state : State App}
    (untouched : Untouched service.state state) : Counted { service with state } := by
  obtain ⟨rpc, sema1, sema2, exists1, exists2⟩ := untouched
  constructor
  · rw [sema1, rpc]
    exact counted.taken
  · rw [sema2]
    exact counted.answered
  · rw [rpc]
    exact counted.limit
  · rw [rpc]
    exact counted.begun
  · rw [rpc]
    exact fun here => exists1 (counted.exists1 here)
  · rw [rpc]
    exact fun here => exists2 (counted.exists2 here)

/-- Before 32767 answers a statement of the server keeps the adjustments in their range. -/
theorem counted_advance (counted : Counted service) (few : service.answered < 32767)
    (step : service.advance = some later) : Counted later := by
  obtain ⟨state, answers, exited⟩ := service
  obtain ⟨taken, answered, limit, begun, exists1, exists2⟩ := counted
  rw [Service.advance, Option.map_eq_some_iff] at step
  obtain ⟨next, step, rfl⟩ := step
  dsimp only at taken answered limit begun exists1 exists2 few step ⊢
  cases step_of_rpcStep (fun _ => 0) step with
  | rpcInit1 here =>
      constructor
      all_goals simp_all [RpcPoint.waiting, RpcPoint.looping]
  | rpcInit2 here =>
      constructor
      all_goals simp_all [RpcPoint.waiting, RpcPoint.looping]
  | rpcValue1 here semaphore set =>
      have zero := adjustment_semInitValue set
      constructor
      all_goals simp_all [RpcPoint.waiting, RpcPoint.looping]
  | rpcValue2 here semaphore set =>
      have zero := adjustment_semInitValue set
      constructor
      all_goals simp_all [RpcPoint.waiting, RpcPoint.looping]
  | rpcWait here semaphore passed =>
      have more := adjustment_semWait_rpc passed
      have room : answers + 1 ≤ 32767 := few
      constructor
      all_goals simp_all [RpcPoint.waiting, RpcPoint.looping]
  | rpcRead here =>
      constructor
      all_goals simp_all [State.read, RpcPoint.waiting, RpcPoint.looping]
  | rpcSum num sum here summed =>
      constructor
      all_goals simp_all [State.store, RpcPoint.waiting, RpcPoint.looping]
  | rpcPost here semaphore posted =>
      have less : adjustment (some semaphore) = -((answers + 1 : Nat) : Int) := by
        rw [adjustment_semPost_rpc posted, answered]
        omega
      constructor
      all_goals simp_all [RpcPoint.waiting, RpcPoint.looping]

omit [DecidableEq App] in
/-- A `semop` that does not wait fails if the adjustment leaves its range. -/
theorem operate_of_bind {semaphore : Option (Semaphore (Process App))}
    {operation : Semaphore (Process App) → Option (Semaphore (Process App))}
    {next : Semaphore (Process App)} (operated : semaphore.bind operation = some next) :
    operate semaphore operation =
      if -32768 ≤ adjustment (some next) ∧ adjustment (some next) ≤ 32767 then .succeeds next
      else .fails := by
  obtain ⟨present, rfl, passed⟩ := Option.bind_eq_some_iff.mp operated
  simp only [operate, attempt, passed]
  rfl

/-- The wait of the server fails after 32767 answers, unless it blocks. -/
theorem attempt_wait (counted : Counted service) (here : service.state.rpc = .wait) :
    service.state.attempt = some .blocks ∨
      ∃ next, service.state.attempt =
        some (if service.answered < 32767 then .succeeds next else .fails) := by
  have looping : service.state.rpc.looping = true := by rw [here]; rfl
  obtain ⟨semaphore, present⟩ := Option.isSome_iff_exists.mp (counted.exists1 (.inl looping))
  cases passed : semWait .rpc semaphore with
  | none =>
      left
      simp only [State.attempt, here, operate, present, passed, attempt]
  | some next =>
      right
      have bound : service.state.sema1.bind (semWait .rpc) = some next := by
        rw [present, Option.bind_some, passed]
      have more := adjustment_semWait_rpc bound
      have idle : (!RpcPoint.wait.waiting).toNat = 0 := rfl
      have limit := counted.limit
      rw [counted.taken, here, idle] at more
      rw [here, idle] at limit
      refine ⟨next, ?_⟩
      simp only [State.attempt, here]
      rw [operate_of_bind bound, more]
      by_cases few : service.answered < 32767
      · rw [if_pos few, if_pos ⟨by omega, by omega⟩]
      · rw [if_neg few, if_neg (by omega)]

/-- The post of the server finds room, since it was counted by the wait. -/
theorem attempt_post (counted : Counted service) (here : service.state.rpc = .post) :
    service.answered < 32767 ∧ ∃ next, service.state.attempt = some (.succeeds next) := by
  have looping : service.state.rpc.looping = true := by rw [here]; rfl
  obtain ⟨semaphore, present⟩ := Option.isSome_iff_exists.mp (counted.exists2 (.inl looping))
  have limit := counted.limit
  rw [here] at limit
  simp only [RpcPoint.waiting, Bool.not_false, Bool.toNat_true] at limit
  have posted : service.state.sema2.map (semPost .rpc) = some (semPost .rpc semaphore) := by
    rw [present, Option.map_some]
  have bound : (service.state.sema2.bind fun semaphore => some (semPost .rpc semaphore)) =
      some (semPost .rpc semaphore) := by
    rw [present, Option.bind_some]
  have less := adjustment_semPost_rpc posted
  rw [counted.answered] at less
  refine ⟨limit, semPost .rpc semaphore, ?_⟩
  simp only [State.attempt, here]
  rw [operate_of_bind bound, less, if_pos ⟨by omega, by omega⟩]

/-- A `semop` of the server fails after 32767 answers only. -/
theorem rpcStep_cases (counted : Counted service) (step : service.rpcStep = some later) :
    (service.answered = 32767 ∧ later = service.exit) ∨
      (service.answered < 32767 ∧ service.exited = false ∧ service.advance = some later) := by
  rw [Service.rpcStep, Option.ite_none_left_eq_some, Bool.not_eq_true] at step
  obtain ⟨running, step⟩ := step
  have limit := counted.limit
  cases here : service.state.rpc with
  | wait =>
      rcases attempt_wait counted here with blocks | ⟨next, attempted⟩
      · rw [blocks] at step
        cases step
      · rw [attempted] at step
        by_cases few : service.answered < 32767
        · rw [if_pos few] at step
          exact .inr ⟨few, running, step⟩
        · rw [if_neg few, Option.some_inj] at step
          exact .inl ⟨by omega, step.symm⟩
  | post =>
      obtain ⟨few, next, attempted⟩ := attempt_post counted here
      rw [attempted] at step
      exact .inr ⟨few, running, step⟩
  | semInit1 | semInit2 | semInitValue1 | semInitValue2 =>
      have none := counted.begun (by rw [here]; rfl)
      simp only [State.attempt, here] at step
      exact .inr ⟨by omega, running, step⟩
  | read | sum num =>
      rw [here] at limit
      simp only [State.attempt, here] at step
      simp only [RpcPoint.waiting, Bool.not_false, Bool.toNat_true] at limit
      exact .inr ⟨by omega, running, step⟩

theorem running_of_rpcStep (step : service.rpcStep = some later) : service.exited = false := by
  rw [Service.rpcStep, Option.ite_none_left_eq_some, Bool.not_eq_true] at step
  exact step.1

theorem exited_advance (step : service.advance = some later) : later.exited = service.exited := by
  rw [Service.advance, Option.map_eq_some_iff] at step
  obtain ⟨next, _, rfl⟩ := step
  rfl

omit [DecidableEq App] in
theorem counted_fresh (shm : Int) : Counted (⟨fresh shm, 0, false⟩ : Service App) := by
  constructor
  all_goals simp [fresh, adjustment, RpcPoint.waiting, RpcPoint.looping]

/-- The adjustments count the requests until the server exits, by induction on the run. -/
theorem reachable_counted (reached : (serviceSystem number).Reachable service) :
    service.exited = false → Counted service := by
  induction reached with
  | initial start =>
      obtain ⟨shm, rfl⟩ := start
      exact fun _ => counted_fresh shm
  | step label _ taken inductionHypothesis =>
      intro running
      cases label with
      | rpc =>
          have counted := inductionHypothesis (running_of_rpcStep taken)
          rcases rpcStep_cases counted taken with ⟨_, rfl⟩ | ⟨few, _, step⟩
          · cases running
          · exact counted_advance counted few step
      | app client =>
          obtain ⟨state, step, rfl⟩ := Option.map_eq_some_iff.mp taken
          exact counted_client (inductionHypothesis running)
            (untouched_of_step (step_of_appStep number client step) nofun)
      | exit client =>
          obtain ⟨state, step, rfl⟩ := Option.map_eq_some_iff.mp taken
          exact counted_client (inductionHypothesis running)
            (untouched_of_step (step_of_next step) nofun)

/-- A statement of the server succeeds if and only if it has answered fewer than 32767 requests, and in the runs in which it does so the server never exits. -/
theorem service_iff (number : App → Int) :
    (∀ service later, (serviceSystem number).Reachable service →
      (serviceSystem number).next service .rpc = some later →
      (later.exited = false ↔ service.answered < 32767)) ∧
    ∀ service, ((serviceSystem number).restrict serves).Reachable service →
      service.exited = false := by
  have succeeds : ∀ service later, (serviceSystem number).Reachable service →
      (serviceSystem number).next service .rpc = some later →
      (later.exited = false ↔ service.answered < 32767) := by
    intro service later reached step
    have counted := reachable_counted reached (running_of_rpcStep step)
    rcases rpcStep_cases counted step with ⟨full, rfl⟩ | ⟨few, running, step⟩
    · simp [full, Service.exit]
    · simp [few, exited_advance step, running]
  refine ⟨succeeds, ?_⟩
  intro service reached
  induction reached with
  | initial start =>
      obtain ⟨shm, rfl⟩ := start
      rfl
  | step label before taken inductionHypothesis =>
      obtain ⟨permitted, taken⟩ := ((serviceSystem number).restrict_next _ _ _ label).mp taken
      cases label with
      | rpc => exact (succeeds _ _ before.of_restrict taken).mpr (of_decide_eq_true permitted rfl)
      | app client =>
          obtain ⟨state, _, rfl⟩ := Option.map_eq_some_iff.mp taken
          exact inductionHypothesis
      | exit client =>
          obtain ⟨state, _, rfl⟩ := Option.map_eq_some_iff.mp taken
          exact inductionHypothesis

/-- The clients all ask for the sum up to zero. -/
def zeros : System (Service Nat) (Label Nat) := serviceSystem fun _ => 0

/-- The server waits, a client is at a point, and the clients after it have not started. -/
structure Phase (count client requests replies : Nat) (point : AppPoint)
    (service : Service Nat) : Prop where
  answered : service.answered = count
  running : service.exited = false
  rpc : service.state.rpc = .wait
  word : service.state.shm = 0
  requests : ∃ semadj, service.state.sema1 = some ⟨requests, semadj⟩ ∧ semadj .rpc = count
  replies : ∃ semadj, service.state.sema2 = some ⟨replies, semadj⟩ ∧ semadj .rpc = -count
  here : service.state.app client = point
  future : ∀ other > client, service.state.app other = .unstarted

/-- A phase is left by a run to another one. -/
theorem reach_phase (labels : List (Label Nat)) {holds : Service Nat → Prop}
    {service : Service Nat} (reached : zeros.Reachable service)
    (run : ∃ later, zeros.run service labels = some later ∧ holds later) :
    ∃ later, zeros.Reachable later ∧ holds later := by
  obtain ⟨later, taken, holds⟩ := run
  exact ⟨later, reached.run labels taken, holds⟩

/-- A client posts its request. -/
theorem Phase.request {count client : Nat} {service : Service Nat}
    (phase : Phase count client 0 0 .unstarted service) (reached : zeros.Reachable service) :
    ∃ later, zeros.Reachable later ∧ Phase count client 1 0 .semInit2 later := by
  obtain ⟨⟨shm, sema1, sema2, rpc, app, unread, overwritten⟩, answers, exited⟩ := service
  obtain ⟨same, running, waits, word, ⟨requested, present1, own1⟩, ⟨replied, present2, own2⟩,
    here, future⟩ := phase
  dsimp only at same running waits word present1 present2 here future
  subst same running waits word present1 present2
  refine reach_phase [.app client, .app client, .app client, .app client] reached ?_
  simp only [System.run, zeros, serviceSystem, State.appStep, here, State.goto, State.write,
    Option.map_some, Option.bind_some, Function.update_self, Function.update_idem]
  refine ⟨_, rfl, rfl, rfl, rfl, rfl, ⟨_, rfl, ?_⟩, ⟨_, rfl, own2⟩, ?_, ?_⟩
  · simpa [semPost, semInit] using own1
  · simp
  · intro other later
    have different : other ≠ client := by omega
    simpa only [Function.update_of_ne different] using future other later

/-- The server answers a request. -/
theorem Phase.reply {count client : Nat} {service : Service Nat}
    (phase : Phase count client 1 0 .semInit2 service) (reached : zeros.Reachable service)
    (few : count < 32767) :
    ∃ later, zeros.Reachable later ∧ Phase (count + 1) client 0 1 .semInit2 later := by
  obtain ⟨⟨shm, sema1, sema2, rpc, app, unread, overwritten⟩, answers, exited⟩ := service
  obtain ⟨same, running, waits, word, ⟨requested, present1, own1⟩, ⟨replied, present2, own2⟩,
    here, future⟩ := phase
  dsimp only at same running waits word present1 present2 here future
  subst same running waits word present1 present2
  refine reach_phase [.rpc, .rpc, .rpc, .rpc] reached ?_
  have waits : -32768 ≤ (answers : Int) + 1 ∧ (answers : Int) + 1 ≤ 32767 := by omega
  have posts : -32768 ≤ -(answers : Int) - 1 ∧ -(answers : Int) - 1 ≤ 32767 := by omega
  have sum : rpcSum 0 = some 0 := rfl
  simp only [System.run, zeros, serviceSystem, Service.rpcStep, Bool.false_eq_true, if_false,
    State.attempt, operate, semWait, one_ne_zero, attempt, Function.update_self, own1, own2, waits,
    posts, and_self, if_true, Service.advance, State.rpcStep, Option.bind_some, Option.map_some,
    reduceCtorEq, State.read, sum, State.store, semPost]
  refine ⟨_, rfl, rfl, rfl, rfl, rfl, ⟨_, rfl, ?_⟩, ⟨_, rfl, ?_⟩, here, future⟩
  · simp
  · simp only [Function.update_self]
    omega

/-- The client receives the reply, and the next client comes. -/
theorem Phase.receive {count client : Nat} {service : Service Nat}
    (phase : Phase count client 0 1 .semInit2 service) (reached : zeros.Reachable service) :
    ∃ later, zeros.Reachable later ∧ Phase count (client + 1) 0 0 .unstarted later := by
  obtain ⟨⟨shm, sema1, sema2, rpc, app, unread, overwritten⟩, answers, exited⟩ := service
  obtain ⟨same, running, waits, word, ⟨requested, present1, own1⟩, ⟨replied, present2, own2⟩,
    here, future⟩ := phase
  dsimp only at same running waits word present1 present2 here future
  subst same running waits word present1 present2
  refine reach_phase [.app client, .app client, .app client] reached ?_
  simp only [System.run, zeros, serviceSystem, State.appStep, here, State.goto, Option.map_some,
    Option.bind_some, Function.update_self, Function.update_idem, semInit, Option.getD_some,
    semWait, one_ne_zero, if_false]
  refine ⟨_, rfl, rfl, rfl, rfl, rfl, ⟨_, rfl, own1⟩, ⟨_, rfl, ?_⟩, ?_, ?_⟩
  · simpa using own2
  · have different : client + 1 ≠ client := by omega
    simpa only [Function.update_of_ne different] using future _ (Nat.lt_succ_self client)
  · intro other later
    have different : other ≠ client := by omega
    simpa only [Function.update_of_ne different] using future other (by omega)

/-- The server can answer any number of requests up to 32767, by induction on the number. -/
theorem reach_round (k : Nat) (bound : k ≤ 32767) :
    ∃ service, zeros.Reachable service ∧ Phase k k 0 0 .unstarted service := by
  induction k with
  | zero =>
      have start : zeros.Reachable ⟨fresh 0, 0, false⟩ := .initial ⟨0, rfl⟩
      refine reach_phase [.rpc, .rpc, .rpc, .rpc] start ?_
      exact ⟨_, rfl, rfl, rfl, rfl, rfl, ⟨_, rfl, rfl⟩, ⟨_, rfl, rfl⟩, rfl, fun _ _ => rfl⟩
  | succ k inductionHypothesis =>
      obtain ⟨service, reached, idle⟩ := inductionHypothesis (by omega)
      obtain ⟨requested, reached, asks⟩ := idle.request reached
      obtain ⟨replied, reached, answered⟩ := asks.reply reached (by omega)
      exact answered.receive reached

/-- After 32767 answers the next `semWait` of the server fails, and the server calls `exit(1)`. -/
theorem service_exits :
    ∃ service later, (serviceSystem fun _ : Nat => 0).Reachable service ∧
      service.answered = 32767 ∧
      (serviceSystem fun _ : Nat => 0).next service .rpc = some later ∧ later.exited = true := by
  obtain ⟨service, reached, idle⟩ := reach_round 32767 le_rfl
  obtain ⟨requested, reached, asks⟩ := idle.request reached
  refine ⟨requested, requested.exit, reached, asks.answered, ?_, rfl⟩
  obtain ⟨semadj, present, own⟩ := asks.requests
  have range : ¬ (-32768 ≤ semadj .rpc + 1 ∧ semadj .rpc + 1 ≤ 32767) := by
    rw [own]
    omega
  simp only [serviceSystem, Service.rpcStep, asks.running, Bool.false_eq_true, if_false,
    State.attempt, asks.rpc, operate, present, semWait, one_ne_zero, attempt,
    Function.update_self, range]

end Rpc
