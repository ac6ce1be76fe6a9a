import LinuxSystemProgramming.Construction.Hw3

namespace Hw3
open Transition
open Select (Socket choose number)

/-- Every handler waits or has served, and every request is pending or was served. -/
structure Port.Account (port : Port) : Prop where
  handlers : port.created = port.served.length + port.waiting.length
  requests : port.served.map Prod.snd ++ port.pending = List.range port.arrived
  distinct : (port.served.map Prod.fst ++ port.waiting).Nodup
  older : ∀ thread ∈ port.served.map Prod.fst ++ port.waiting, thread < port.created

/-- The numbers of a socket match if and only if no handler waits in vain. -/
theorem Port.Account.matched_iff {port : Port} (account : port.Account) :
    port.Matched ↔ port.waiting.length ≤ port.pending.length := by
  constructor
  · intro holds
    exact holds.awaited
  · intro awaited
    have total := congrArg List.length account.requests
    rw [List.length_append, List.length_map, List.length_range] at total
    have handlers := account.handlers
    exact ⟨by omega, awaited, (List.nodup_append.mp account.distinct).1, account.requests⟩

theorem Port.Account.arrive {port : Port} (account : port.Account) : port.arrive.Account where
  handlers := account.handlers
  requests := by
    rw [Port.arrive, ← List.append_assoc, account.requests, List.range_succ]
  distinct := account.distinct
  older := account.older

theorem Port.Account.create {port : Port} (account : port.Account) : port.create.Account where
  handlers := by
    have handlers := account.handlers
    simp only [Port.create, List.length_append, List.length_singleton]
    omega
  requests := account.requests
  distinct := by
    rw [Port.create, ← List.append_assoc]
    refine List.nodup_append.mpr ⟨account.distinct, List.nodup_singleton _, ?_⟩
    intro thread member other new same
    have before := account.older thread member
    rw [List.mem_singleton] at new
    omega
  older := by
    intro thread member
    rw [Port.create, ← List.append_assoc] at member
    rcases List.mem_append.mp member with old | new
    · exact Nat.lt_succ_of_lt (account.older thread old)
    · rw [List.mem_singleton.mp new]
      exact Nat.lt_succ_self _

/-- A handler that takes a request is counted with the served ones. -/
theorem Port.Account.take {port later : Port} {thread : Nat} (account : port.Account)
    (taken : port.take thread = some later) :
    later.Account ∧ later.waiting.length + 1 = port.waiting.length ∧
      later.pending.length + 1 = port.pending.length := by
  unfold Port.take at taken
  split at taken
  case h_1 => cases taken
  case h_2 request rest pending =>
      rw [Option.ite_none_right_eq_some] at taken
      obtain ⟨member, same⟩ := taken
      cases same
      have length : (port.waiting.erase thread).length + 1 = port.waiting.length :=
        List.length_erase_add_one member
      have moved : ((port.served ++ [(thread, request)]).map Prod.fst ++
          port.waiting.erase thread).Perm (port.served.map Prod.fst ++ port.waiting) := by
        rw [List.map_append, List.append_assoc]
        exact (List.perm_cons_erase member).symm.append_left _
      refine ⟨⟨?_, ?_, moved.nodup_iff.mpr account.distinct, ?_⟩, length, ?_⟩
      · have handlers := account.handlers
        simp only [List.length_append, List.length_singleton]
        omega
      · have requests := account.requests
        rw [pending] at requests
        simpa using requests
      · intro other inside
        exact account.older other (moved.mem_iff.mp inside)
      · rw [pending, List.length_cons]

/-- The state of one socket after a step, and of the others. -/
inductive Step (state : State) : Label → State → Prop
  | arrive (socket : Socket) :
      Step state (.arrive socket) (state.set socket (state.port socket).arrive)
  | idle (label : Label) (later : State) (same : later.port = state.port)
      (none : label = .test → state.creates = none) : Step state label later
  | create (socket : Socket) (later : State) (creates : state.creates = some socket)
      (changed : later.port = Function.update state.port socket (state.port socket).create) :
      Step state .test later
  | take (socket : Socket) (thread : Nat) (port : Port)
      (taken : (state.port socket).take thread = some port) :
      Step state (.take socket thread) (state.set socket port)

/-- Each step of the system is one of the listed steps. -/
theorem step_of_next {state later : State} {label : Label} (taken : state.next label = some later) :
    Step state label later := by
  cases label with
  | arrive socket =>
      cases taken
      exact .arrive socket
  | select =>
      rw [State.next, Option.ite_none_right_eq_some] at taken
      cases taken.2
      exact .idle .select _ rfl nofun
  | test =>
      rw [State.next, Option.ite_none_right_eq_some] at taken
      cases taken.2
      unfold State.test
      split
      case isTrue done =>
          refine .idle .test _ rfl fun _ => ?_
          rw [State.creates, if_pos done]
      case isFalse more =>
          split
          case h_1 socket chosen =>
              refine .create socket _ ?_ rfl
              rw [State.creates, if_neg more, chosen]
          case h_2 none =>
              refine .idle .test _ rfl fun _ => ?_
              rw [State.creates, if_neg more, none]
  | take socket thread =>
      rw [State.next, Option.map_eq_some_iff] at taken
      obtain ⟨port, moved, same⟩ := taken
      cases same
      exact .take socket thread port moved

/-- All sockets keep their accounts. -/
def Account (state : State) : Prop := ∀ socket, (state.port socket).Account

/-- No handler waits in vain. -/
def Awaited (state : State) : Prop :=
  ∀ socket, (state.port socket).waiting.length ≤ (state.port socket).pending.length

/-- Each step keeps the accounts. -/
theorem step_account {state later : State} {label : Label} (account : Account state)
    (taken : state.next label = some later) : Account later := by
  cases step_of_next taken with
  | arrive socket =>
      exact (Function.forall_update_iff state.port fun _ port => port.Account).mpr
        ⟨(account socket).arrive, fun other _ => account other⟩
  | idle _ _ same =>
      intro socket
      rw [same]
      exact account socket
  | create socket _ _ changed =>
      intro other
      rw [changed]
      exact (Function.forall_update_iff state.port fun _ port => port.Account).mpr
        ⟨(account socket).create, fun other _ => account other⟩ other
  | take socket thread port moved =>
      exact (Function.forall_update_iff state.port fun _ port => port.Account).mpr
        ⟨((account socket).take moved).1, fun other _ => account other⟩

/-- A step keeps all handlers supplied if and only if it creates only needed ones. -/
theorem step_awaited_iff {state later : State} {label : Label} (account : Account state)
    (awaited : Awaited state) (taken : state.next label = some later) :
    Awaited later ↔ needed state label = true := by
  have every (socket : Socket) (port : Port) (supplied : port.waiting.length ≤ port.pending.length)
      (other : Socket) : (Function.update state.port socket port other).waiting.length ≤
        (Function.update state.port socket port other).pending.length :=
    (Function.forall_update_iff state.port fun _ port =>
      port.waiting.length ≤ port.pending.length).mpr ⟨supplied, fun other _ => awaited other⟩ other
  cases step_of_next taken with
  | arrive socket =>
      refine iff_of_true (every socket _ ?_) (by simp [needed])
      have before := awaited socket
      simp only [Port.arrive, List.length_append, List.length_singleton]
      omega
  | idle _ _ same none =>
      refine iff_of_true (fun socket => by rw [same]; exact awaited socket) ?_
      by_cases test : label = .test
      · simp [needed, none test]
      · simp [needed, test]
  | create socket _ creates changed =>
      have needs : needed state .test = true ↔
          (state.port socket).waiting.length < (state.port socket).pending.length := by
        simp [needed, creates]
      have grown : (state.port socket).create.waiting.length =
          (state.port socket).waiting.length + 1 := by
        simp [Port.create]
      rw [needs]
      constructor
      · intro later
        have supplied := later socket
        rw [changed, Function.update_self, grown] at supplied
        exact supplied
      · intro room other
        rw [changed]
        exact every socket _ (by rw [grown]; exact room) other
  | take socket thread port moved =>
      refine iff_of_true (every socket _ ?_) (by simp [needed])
      obtain ⟨_, waiting, pending⟩ := (account socket).take moved
      have before := awaited socket
      omega

/-- The accounts hold in every reachable state. -/
theorem reachable_account {state : State} (reached : system.Reachable state) : Account state := by
  refine reached.invariant Account ?_ ?_
  · rintro state rfl socket
    exact ⟨rfl, rfl, List.nodup_nil, nofun⟩
  · intro state label later _ account taken
    exact step_account account taken

/-- Handlers match requests while only needed ones are created, and each other creation breaks the match. -/
theorem matched_iff_needed (state : State) :
    ((system.restrict needed).Reachable state → ∀ socket, (state.port socket).Matched) ∧
      ∀ label later, system.Reachable state → (∀ socket, (state.port socket).Matched) →
        state.next label = some later →
        ((∀ socket, (later.port socket).Matched) ↔ needed state label = true) := by
  have matched {state : State} (account : Account state) :
      (∀ socket, (state.port socket).Matched) ↔ Awaited state :=
    forall_congr' fun socket => (account socket).matched_iff
  constructor
  · intro reached
    rw [matched (reachable_account reached.of_restrict)]
    refine reached.invariant Awaited ?_ ?_
    · rintro state rfl socket
      exact Nat.le_refl _
    · intro state label later before awaited taken
      obtain ⟨permitted, moved⟩ := (system.restrict_next needed _ _ label).mp taken
      exact (step_awaited_iff (reachable_account before.of_restrict) awaited moved).mpr permitted
  · intro label later reached holds taken
    have account := reachable_account reached
    rw [matched (step_account account taken)]
    exact step_awaited_iff account ((matched account).mp holds) taken

/-- One connection arrives, and the main thread selects again before its handler accepts, so two handlers wait. -/
theorem second_handler_waits :
    ∃ state, system.Reachable state ∧ (state.port .tcp).arrived = 1 ∧
      (state.port .tcp).created = 2 ∧ (state.port .tcp).pending = [] ∧
      (state.port .tcp).waiting = [1] ∧ ¬ (state.port .tcp).Matched := by
  obtain ⟨state, reached, facts⟩ := system.exists_reachable start rfl
    [.arrive .tcp, .select, .test, .test, .select, .test, .take .tcp 0]
    (fun state => (state.port .tcp).arrived = 1 ∧ (state.port .tcp).created = 2 ∧
      (state.port .tcp).pending = [] ∧ (state.port .tcp).waiting = [1])
    (by decide)
  obtain ⟨arrived, created, pending, waiting⟩ := of_decide_eq_true facts
  refine ⟨state, reached, arrived, created, pending, waiting, ?_⟩
  intro matched
  have bounded := matched.bounded
  omega

end Hw3
