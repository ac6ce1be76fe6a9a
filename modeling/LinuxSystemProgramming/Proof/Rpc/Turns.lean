import LinuxSystemProgramming.Proof.Rpc.Overlap

namespace Rpc
open Transition Semlib

/-- A client starts only after all earlier clients have exited. -/
def startsInTurn (numbers : List Int) (state : State Nat) : Label Nat → Bool
  | .app client => decide (state.app client = .unstarted →
      client < numbers.length ∧ ∀ other, other < client → state.app other = .exited)
  | _ => true

/-- The clients of a list of numbers run one after the other against an initialized server. -/
def consecutiveSystem (numbers : List Int) : System (State Nat) (Label Nat) :=
  (readySystem fun client => numbers.getD client 0).restrict (startsInTurn numbers)

section Runs
variable {numbers : List Int} {state later : State Nat}

/-- A started client takes its next statement in turn. -/
theorem reach_app (reached : (consecutiveSystem numbers).Reachable state) (client : Nat)
    (started : state.app client ≠ .unstarted)
    (taken : state.appStep (fun client => numbers.getD client 0) client = some later) :
    (consecutiveSystem numbers).Reachable later :=
  .step (.app client) reached ((System.restrict_next _ _ _ _ _).mpr
    ⟨by simp [startsInTurn, started], taken⟩)

/-- The server takes its next statement at any time. -/
theorem reach_rpc (reached : (consecutiveSystem numbers).Reachable state)
    (taken : state.rpcStep = some later) : (consecutiveSystem numbers).Reachable later :=
  .step .rpc reached ((System.restrict_next _ _ _ _ _).mpr ⟨rfl, taken⟩)

/-- A client whose turn has come starts and writes its number. -/
theorem reach_begin (reached : (consecutiveSystem numbers).Reachable state) (client : Nat)
    (inside : client < numbers.length) (past : ∀ other, other < client → state.app other = .exited)
    (here : state.app client = .unstarted) :
    (consecutiveSystem numbers).Reachable (state.write client (numbers.getD client 0)) := by
  have started : (consecutiveSystem numbers).Reachable (state.goto client .write) :=
    .step (.app client) reached ((System.restrict_next _ _ _ _ _).mpr
      ⟨decide_eq_true fun _ => ⟨inside, past⟩, by simp [readySystem, State.next, State.appStep, here]⟩)
  refine reach_app started client (by simp [State.goto]) ?_
  simp [State.appStep, State.goto, State.write]

/-- A client that has written its number posts its request. -/
theorem reach_request (reached : (consecutiveSystem numbers).Reachable state) (client : Nat)
    (here : state.app client = .semInit1) (semaphore : Semaphore (Process Nat))
    (present : state.sema1 = some semaphore) :
    (consecutiveSystem numbers).Reachable
      { state.goto client .semInit2 with sema1 := some (semPost (.app client) semaphore) } := by
  have created : (consecutiveSystem numbers).Reachable (state.goto client .post) := by
    refine reach_app reached client (by simp [here]) ?_
    simp [State.appStep, here, State.goto, present, semInit]
  refine reach_app created client (by simp [State.goto]) ?_
  simp [State.appStep, State.goto, present]

/-- A client that has posted its request receives a reply that is already there. -/
theorem reach_receive (reached : (consecutiveSystem numbers).Reachable state) (client : Nat)
    (here : state.app client = .semInit2) (semaphore taken : Semaphore (Process Nat))
    (present : state.sema2 = some semaphore)
    (passed : semWait (.app client) semaphore = some taken) :
    (consecutiveSystem numbers).Reachable
      { state.goto client (.returned state.shm) with sema2 := some taken } := by
  have created : (consecutiveSystem numbers).Reachable (state.goto client .wait) := by
    refine reach_app reached client (by simp [here]) ?_
    simp [State.appStep, here, State.goto, present, semInit]
  have waited : (consecutiveSystem numbers).Reachable
      { state.goto client .read with sema2 := some taken } := by
    refine reach_app created client (by simp [State.goto]) ?_
    simp [State.appStep, State.goto, present, passed]
  refine reach_app waited client (by simp [State.goto]) ?_
  simp [State.appStep, State.goto]

/-- The waiting server takes a request and loads its number. -/
theorem reach_take (reached : (consecutiveSystem numbers).Reachable state)
    (here : state.rpc = .wait) (semaphore taken : Semaphore (Process Nat))
    (present : state.sema1 = some semaphore) (passed : semWait .rpc semaphore = some taken) :
    (consecutiveSystem numbers).Reachable
      { state with sema1 := some taken, rpc := .sum state.shm, unread := none } := by
  have waited : (consecutiveSystem numbers).Reachable
      { state with sema1 := some taken, rpc := .read } := by
    refine reach_rpc reached ?_
    simp [State.rpcStep, here, present, passed]
  exact reach_rpc waited rfl

/-- The server stores its sum. -/
theorem reach_store (reached : (consecutiveSystem numbers).Reachable state) (num sum : Int)
    (here : state.rpc = .sum num) (summed : rpcSum num = some sum) :
    (consecutiveSystem numbers).Reachable (state.store sum) := by
  refine reach_rpc reached ?_
  simp [State.rpcStep, here, summed]

/-- Between two clients the request has been undone and one reply too many is left. -/
structure Settled (server : RpcPoint) (client : Nat) (state : State Nat) : Prop where
  server : state.rpc = server
  requests : ∃ semadj, state.sema1 = some ⟨0, semadj⟩ ∧
    ∀ other, client ≤ other → semadj (.app other) = 0
  replies : ∃ semadj, state.sema2 = some ⟨1, semadj⟩ ∧
    ∀ other, client ≤ other → semadj (.app other) = 0
  past : ∀ other, other < client → state.app other = .exited
  future : ∀ other, client ≤ other → state.app other = .unstarted

/-- A client has returned a result and has not exited yet. -/
structure Visited (server : RpcPoint) (left : Nat) (result : Int) (client : Nat)
    (state : State Nat) : Prop where
  server : state.rpc = server
  word : state.shm = result
  requests : ∃ semadj, state.sema1 = some ⟨left, semadj⟩ ∧ semadj (.app client) = -1 ∧
    ∀ other, client + 1 ≤ other → semadj (.app other) = 0
  replies : ∃ semadj, state.sema2 = some ⟨0, semadj⟩ ∧ semadj (.app client) = 1 ∧
    ∀ other, client + 1 ≤ other → semadj (.app other) = 0
  here : state.app client = .returned result
  past : ∀ other, other < client → state.app other = .exited
  future : ∀ other, client + 1 ≤ other → state.app other = .unstarted

/-- The exit undoes the client's post of its request and its wait for the reply. -/
theorem Visited.exit {server : RpcPoint} {left : Nat} {result : Int} {client : Nat}
    (visited : Visited server left result client state) (small : left ≤ 1) :
    Settled server (client + 1) (state.exit client) where
  server := visited.server
  requests := by
    obtain ⟨semadj, present, own, others⟩ := visited.requests
    refine ⟨Function.update semadj (.app client) 0, ?_, ?_⟩
    · simp only [State.exit, present, Option.map_some, undo, own, Option.some.injEq,
        Semaphore.mk.injEq, and_true]
      omega
    · intro other later
      rw [Function.update_of_ne (by simp only [ne_eq, Process.app.injEq]; omega)]
      exact others other later
  replies := by
    obtain ⟨semadj, present, own, others⟩ := visited.replies
    refine ⟨Function.update semadj (.app client) 0, ?_, ?_⟩
    · simp [State.exit, present, undo, own]
    · intro other later
      rw [Function.update_of_ne (by simp only [ne_eq, Process.app.injEq]; omega)]
      exact others other later
  past other before := by
    by_cases same : other = client
    · subst same
      simp [State.exit, State.goto]
    · simp only [State.exit, State.goto, Function.update_of_ne same]
      exact visited.past other (by omega)
  future other later := by
    simp only [State.exit, State.goto]
    rw [Function.update_of_ne (by omega)]
    exact visited.future other later

/-- A client of a settled state takes the reply that is left and returns its own number. -/
theorem Settled.visit {server : RpcPoint} {client : Nat} (settled : Settled server client state)
    (reached : (consecutiveSystem numbers).Reachable state) (inside : client < numbers.length) :
    ∃ visited, (consecutiveSystem numbers).Reachable visited ∧
      Visited server 1 (numbers.getD client 0) client visited := by
  obtain ⟨requested, present1, zero1⟩ := settled.requests
  obtain ⟨replied, present2, zero2⟩ := settled.replies
  have begun := reach_begin reached client inside settled.past (settled.future client le_rfl)
  have posted := reach_request begun client (by simp [State.write, State.goto]) ⟨0, requested⟩
    (by simpa [State.write, State.goto] using present1)
  have received := reach_receive posted client (by simp [State.goto]) ⟨1, replied⟩
    ⟨0, Function.update replied (.app client) (replied (.app client) + 1)⟩
    (by simpa [State.write, State.goto] using present2) (by simp [semWait])
  refine ⟨_, received, settled.server, rfl, ⟨_, rfl, ?_, ?_⟩, ⟨_, rfl, ?_, ?_⟩, ?_, ?_, ?_⟩
  · simp [zero1 client le_rfl]
  · intro other later
    rw [Function.update_of_ne (by simp only [ne_eq, Process.app.injEq]; omega)]
    exact zero1 other (by omega)
  · simp [zero2 client le_rfl]
  · intro other later
    rw [Function.update_of_ne (by simp only [ne_eq, Process.app.injEq]; omega)]
    exact zero2 other (by omega)
  · simp [State.goto, State.write]
  · intro other before
    have different : other ≠ client := by omega
    simp [State.goto, State.write, different, settled.past other before]
  · intro other later
    have different : other ≠ client := by omega
    simp [State.goto, State.write, different, settled.future other (by omega)]

/-- The server takes the request of a client that has returned, and its exit leaves the sum pending. -/
theorem Visited.take {number : Int} {client : Nat} (visited : Visited .wait 1 number client state)
    (reached : (consecutiveSystem numbers).Reachable state) :
    ∃ taken, (consecutiveSystem numbers).Reachable taken ∧
      Visited (.sum number) 0 number client taken := by
  obtain ⟨requested, present, own, others⟩ := visited.requests
  have loaded := reach_take reached visited.server _
    ⟨0, Function.update requested .rpc (requested .rpc + 1)⟩ present (by simp [semWait])
  refine ⟨_, loaded, ?_, visited.word, ⟨_, rfl, ?_, ?_⟩, visited.replies, visited.here, visited.past,
    visited.future⟩
  · rw [visited.word]
  · simp [own]
  · intro other later
    simp [others other later]

/-- A client receives the sum that the server stores late for the client before it. -/
theorem Settled.stale {number sum : Int} {client : Nat}
    (settled : Settled (.sum number) client state) (summed : rpcSum number = some sum)
    (reached : (consecutiveSystem numbers).Reachable state) (inside : client < numbers.length) :
    ∃ final, (consecutiveSystem numbers).Reachable final ∧ final.app client = .returned sum := by
  obtain ⟨requested, present1, _⟩ := settled.requests
  obtain ⟨replied, present2, _⟩ := settled.replies
  have begun := reach_begin reached client inside settled.past (settled.future client le_rfl)
  have stored := reach_store begun number sum settled.server summed
  have posted := reach_request stored client (by simp [State.store, State.write, State.goto])
    ⟨0, requested⟩ (by simpa [State.store, State.write, State.goto] using present1)
  have received := reach_receive posted client (by simp [State.goto]) ⟨1, replied⟩
    ⟨0, Function.update replied (.app client) (replied (.app client) + 1)⟩
    (by simpa [State.store, State.write, State.goto] using present2) (by simp [semWait])
  exact ⟨_, received, by simp [State.store, State.goto]⟩

/-- Every run of the consecutive clients gives each client the sum for its own number. -/
def AnswersAll (numbers : List Int) : Prop :=
  ∀ state, (consecutiveSystem numbers).Reachable state →
    Answered (fun client => numbers.getD client 0) state

/-- A client after the first one returns its own number, so its sum must be that number. -/
theorem AnswersAll.self (answers : AnswersAll numbers) {server : RpcPoint} {client : Nat}
    (settled : Settled server client state) (reached : (consecutiveSystem numbers).Reachable state)
    (inside : client < numbers.length) :
    rpcSum (numbers.getD client 0) = some (numbers.getD client 0) := by
  obtain ⟨visited, ends, visit⟩ := settled.visit reached inside
  exact answers visited ends client _ visit.here

end Runs

end Rpc
