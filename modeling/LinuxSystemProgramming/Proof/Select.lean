import LinuxSystemProgramming.Construction.Select

namespace Select
open Transition

/-- What holds within a round and of the finished rounds. -/
structure Invariant (state : State) : Prop where
  counted : state.count ≤ number state.round.fdvar
  calls : ∀ socket, state.round.calls socket =
    if choose state.round.fdvar = some socket then number state.round.fdvar - state.count else 0
  untouched : state.point = .test → state.count = number state.round.fdvar →
    ∀ socket, state.round.fdvar socket = true → 0 < state.pending socket
  called : ∀ socket, state.point = .receive socket →
    choose state.round.fdvar = some socket ∧ state.count < number state.round.fdvar ∧
      (state.count + 1 = number state.round.fdvar → 0 < state.pending socket)
  replies : ∀ socket, state.point = .reply socket → state.count < number state.round.fdvar
  finished : ∀ round ∈ state.rounds, round.Exact ↔ round.both = false

/-- The chosen socket is ready. -/
theorem ready_of_choose {fdvar : Socket → Bool} {socket : Socket}
    (chosen : choose fdvar = some socket) : fdvar socket = true := by
  unfold choose at chosen
  split at chosen
  case isTrue ready =>
      cases chosen
      exact ready
  case isFalse =>
      split at chosen
      case isTrue ready =>
          cases chosen
          exact ready
      case isFalse => cases chosen

/-- A socket is chosen if `select` reported any. -/
theorem exists_choose {fdvar : Socket → Bool} (some' : 0 < number fdvar) :
    ∃ socket, choose fdvar = some socket := by
  unfold choose
  cases tcp : fdvar .tcp with
  | true => exact ⟨.tcp, rfl⟩
  | false =>
      cases udp : fdvar .udp with
      | true => exact ⟨.udp, rfl⟩
      | false =>
          simp [number, tcp, udp] at some'

/-- If one socket gets all calls of a round, the round is exact unless both were ready. -/
theorem exact_iff {round : Round} (calls : ∀ socket, round.calls socket =
    if choose round.fdvar = some socket then number round.fdvar else 0) :
    round.Exact ↔ round.both = false := by
  have each : round.Exact ↔ round.calls .tcp = (round.fdvar .tcp).toNat ∧
      round.calls .udp = (round.fdvar .udp).toNat := by
    constructor
    · intro exact'
      exact ⟨exact' .tcp, exact' .udp⟩
    · rintro ⟨tcp, udp⟩ socket
      cases socket with
      | tcp => exact tcp
      | udp => exact udp
  rw [each, calls, calls, Round.both, number, choose]
  cases round.fdvar .tcp <;> cases round.fdvar .udp <;> decide

theorem start_invariant : Invariant start where
  counted := Nat.zero_le _
  calls _ := rfl
  untouched := by simp [start]
  called := by simp [start]
  replies := by simp [start]
  finished := by simp [start]

/-- An arrival only adds pending requests. -/
theorem arrive_invariant {state : State} (holds : Invariant state) (socket : Socket) :
    Invariant (state.arrive socket) := by
  have more (other : Socket) (some' : 0 < state.pending other) :
      0 < (state.arrive socket).pending other := by
    by_cases same : other = socket
    · subst same
      simp [State.arrive]
    · simpa [State.arrive, Function.update_of_ne same] using some'
  exact {
    counted := holds.counted
    calls := holds.calls
    untouched := fun here whole other ready => more other (holds.untouched here whole other ready)
    called := fun other here => by
      obtain ⟨chosen, below, first⟩ := holds.called other here
      exact ⟨chosen, below, fun one => more other (first one)⟩
    replies := holds.replies
    finished := holds.finished }

/-- A new round has no calls, and its sockets are ready. -/
theorem select_invariant {state : State} (holds : Invariant state) : Invariant state.select where
  counted := Nat.le_refl _
  calls socket := by
    simp only [State.select, Nat.sub_self, ite_self]
  untouched _ _ socket ready := of_decide_eq_true ready
  called _ here := by cases here
  replies _ here := by cases here
  finished := holds.finished

/-- The loop either finishes a round or adds a call. -/
theorem test_invariant {state : State} (holds : Invariant state) (here : state.point = .test) :
    Invariant state.test := by
  unfold State.test
  split
  case isTrue done =>
      refine ⟨holds.counted, holds.calls, nofun, nofun, nofun, ?_⟩
      intro round member
      rcases List.mem_append.mp member with old | last
      · exact holds.finished round old
      · rw [List.mem_singleton.mp last]
        have calls := holds.calls
        rw [done, Nat.sub_zero] at calls
        exact exact_iff calls
  case isFalse more =>
      have counted := holds.counted
      have some' : 0 < number state.round.fdvar := by omega
      obtain ⟨socket, chosen⟩ := exists_choose some'
      simp only [chosen]
      refine ⟨?_, ?_, nofun, ?_, nofun, holds.finished⟩
      · change state.count - 1 ≤ number state.round.fdvar
        omega
      · intro other
        have calls := holds.calls other
        change Function.update state.round.calls socket (state.round.calls socket + 1) other =
          if choose state.round.fdvar = some other then
            number state.round.fdvar - (state.count - 1) else 0
        by_cases same : other = socket
        · subst same
          rw [if_pos chosen] at calls ⊢
          rw [Function.update_self, calls]
          omega
        · have different : choose state.round.fdvar ≠ some other := by
            rw [chosen]
            exact fun equal => same (Option.some.inj equal).symm
          rw [if_neg different] at calls ⊢
          rw [Function.update_of_ne same, calls]
      · rintro other ⟨⟩
        refine ⟨chosen, ?_, ?_⟩
        · change state.count - 1 < number state.round.fdvar
          omega
        · intro first
          change state.count - 1 + 1 = number state.round.fdvar at first
          exact holds.untouched here (by omega) socket (ready_of_choose chosen)

/-- A handler that took its request has no more to wait for. -/
theorem receive_invariant {state : State} (holds : Invariant state) {socket : Socket}
    (here : state.point = .receive socket) : Invariant (state.receive socket) where
  counted := holds.counted
  calls := holds.calls
  untouched moved := by cases moved
  called _ moved := by cases moved
  replies _ _ := (holds.called socket here).2.1
  finished := holds.finished

/-- Each step keeps the invariant. -/
theorem step_invariant {state later : State} {label : Label} (holds : Invariant state)
    (taken : state.next label = some later) : Invariant later := by
  cases label with
  | arrive socket =>
      cases taken
      exact arrive_invariant holds socket
  | select =>
      rw [State.next, Option.ite_none_right_eq_some] at taken
      cases taken.2
      exact select_invariant holds
  | test =>
      rw [State.next, Option.ite_none_right_eq_some] at taken
      cases taken.2
      exact test_invariant holds taken.1
  | receive =>
      simp only [State.next] at taken
      split at taken
      case h_1 socket here =>
          rw [Option.ite_none_right_eq_some] at taken
          cases taken.2
          exact receive_invariant holds here
      case h_2 => cases taken
  | reply =>
      simp only [State.next] at taken
      split at taken
      case h_1 socket here =>
          cases taken
          have below := holds.replies socket here
          exact {
            counted := holds.counted
            calls := holds.calls
            untouched := fun _ whole => absurd whole (Nat.ne_of_lt below)
            called := nofun
            replies := nofun
            finished := holds.finished }
      case h_2 => cases taken

/-- The invariant holds in every reachable state. -/
theorem reachable_invariant {state : State} (reached : system.Reachable state) :
    Invariant state := by
  refine reached.invariant Invariant ?_ ?_
  · rintro state rfl
    exact start_invariant
  · intro state label later _ holds taken
    exact step_invariant holds taken

/-- All rounds so far had a single ready socket. -/
def Single (state : State) : Prop := ∀ round ∈ state.round :: state.rounds, round.both = false

/-- `select` alone decides if a new round has a single ready socket. -/
theorem step_single {state later : State} {label : Label} (single : Single state)
    (permitted : singly state label = true) (taken : state.next label = some later) :
    Single later := by
  cases label with
  | arrive socket =>
      cases taken
      exact single
  | select =>
      rw [State.next, Option.ite_none_right_eq_some] at taken
      cases taken.2
      intro round member
      rcases List.mem_cons.mp member with rfl | old
      · simp only [singly, ne_eq, not_true_eq_false, decide_eq_true_eq, false_or,
          number] at permitted
        simp only [Round.both, State.select]
        revert permitted
        cases isReady state.pending .tcp <;> cases isReady state.pending .udp <;> decide
      · exact single round (List.mem_cons_of_mem _ old)
  | test =>
      rw [State.next, Option.ite_none_right_eq_some] at taken
      cases taken.2
      unfold State.test
      split
      case isTrue =>
          intro round member
          rcases List.mem_cons.mp member with rfl | finished
          · exact single _ List.mem_cons_self
          · rcases List.mem_append.mp finished with old | last
            · exact single round (List.mem_cons_of_mem _ old)
            · rw [List.mem_singleton.mp last]
              exact single _ List.mem_cons_self
      case isFalse =>
          split
          case h_1 =>
              intro round member
              rcases List.mem_cons.mp member with rfl | old
              · exact single state.round List.mem_cons_self
              · exact single round (List.mem_cons_of_mem _ old)
          case h_2 => exact single
  | receive =>
      simp only [State.next] at taken
      split at taken
      case h_1 socket here =>
          rw [Option.ite_none_right_eq_some] at taken
          cases taken.2
          exact single
      case h_2 => cases taken
  | reply =>
      simp only [State.next] at taken
      split at taken
      case h_1 socket here =>
          cases taken
          exact single
      case h_2 => cases taken

/-- A handler can wait for an arrival only when both sockets were reported. -/
theorem Invariant.dispatches {state : State} (holds : Invariant state) (single : Single state) :
    state.Dispatches := by
  constructor
  · intro round member
    exact (holds.finished round member).mpr (single round (List.mem_cons_of_mem _ member))
  · intro socket here
    obtain ⟨_, below, first⟩ := holds.called socket here
    refine first ?_
    have one : number state.round.fdvar ≤ 1 := by
      have both := single state.round List.mem_cons_self
      revert both
      rw [Round.both, number]
      cases state.round.fdvar .tcp <;> cases state.round.fdvar .udp <;> decide
    omega

/-- The dispatch is right while each `select` reports a single socket, and each round with both is wrong. -/
theorem dispatches_iff_single (state : State) :
    ((system.restrict singly).Reachable state → state.Dispatches) ∧
      (system.Reachable state → state.point = .select →
        (state.Dispatches ↔ ∀ round ∈ state.rounds, round.both = false)) := by
  constructor
  · intro reached
    have single : Single state := by
      refine reached.invariant Single ?_ ?_
      · rintro state rfl
        simp [Single, start, Round.both]
      · intro state label later _ holds taken
        obtain ⟨permitted, moved⟩ := (system.restrict_next singly _ _ label).mp taken
        exact step_single holds permitted moved
    exact (reachable_invariant reached.of_restrict).dispatches single
  · intro reached here
    have holds := reachable_invariant reached
    constructor
    · intro dispatches round member
      exact (holds.finished round member).mp (dispatches.1 round member)
    · intro single
      refine ⟨fun round member => (holds.finished round member).mpr (single round member), ?_⟩
      intro socket calling
      rw [here] at calling
      cases calling

/-- A connection and a datagram arrive together: `accept` is called twice, the second call waits, and the datagram is passed over. -/
theorem datagram_passed_over :
    ∃ state, system.Reachable state ∧ ¬ state.Dispatches ∧
      state.point = .receive .tcp ∧ state.pending .tcp = 0 ∧ state.pending .udp = 1 := by
  obtain ⟨state, reached, facts⟩ := system.exists_reachable start rfl
    [.arrive .tcp, .arrive .udp, .select, .test, .receive, .reply, .test]
    (fun state => state.point = .receive .tcp ∧ state.pending .tcp = 0 ∧ state.pending .udp = 1)
    (by decide)
  obtain ⟨here, none, datagram⟩ := of_decide_eq_true facts
  refine ⟨state, reached, ?_, here, none, datagram⟩
  intro dispatches
  have positive := dispatches.2 .tcp here
  omega

end Select
