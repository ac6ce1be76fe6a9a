/-
This file proves that the children of `hw2` answer each connection from its own bytes, and which connections get an answer.
-/

import LinuxSystemProgramming.Construction.Hw2
import Mathlib.Data.List.Nodup

namespace Hw2
open Transition CString Tcps
open Fifos (Pid chars)

variable {limit : Nat} {pid : Nat → Pid} {beyond : List UInt8} {msg : MsgType}
  {state later : State}

/-- The answer comes from the first bytes of its own connection and from the message of the parent. -/
def Own (pid : Nat → Pid) (beyond : List UInt8) (msg : MsgType) (state : State)
    (connection : Nat) (answer : Answer) : Prop :=
  ∃ received : Received, received.bytes <+: state.stream connection ∧
    (received.bytes = [] → state.finished connection = true) ∧
    answer = answerOf pid beyond msg connection received

/-- The parent has forked one child for each connection behind it, and none for the others. -/
def Counts (limit : Nat) (state : State) : Prop :=
  match state.parent with
  | .accept => state.accepted = state.children
  | .fork connection => connection = state.children ∧ state.accepted = state.children + 1
  | .close connection => connection + 1 = state.children ∧ state.accepted = state.children
  | .exited => state.accepted = state.children ∨
      state.accepted = state.children + 1 ∧ limit ≤ state.children

/-- These facts hold in every reachable state. -/
structure Inv (limit : Nat) (pid : Nat → Pid) (beyond : List UInt8) (msg : MsgType)
    (state : State) : Prop where
  copied : state.msg = msg
  counts : Counts limit state
  arrived : state.accepted ≤ state.arrived
  bound : state.children ≤ limit
  holds : ∀ connection, state.holds connection = true →
    state.parent = .fork connection ∨ state.parent = .close connection
  absent : ∀ connection, state.child connection = .absent ↔ state.children ≤ connection
  read : ∀ connection copy, state.child connection = .read copy → copy = msg
  write : ∀ connection answer, state.child connection = .write answer →
    Own pid beyond msg state connection answer
  logged : ∀ connection answer, (connection, answer) ∈ state.log →
    Own pid beyond msg state connection answer ∧
      (state.child connection = .close ∨ state.child connection = .exited)
  nodup : (state.log.map Prod.fst).Nodup

theorem inv_start : Inv limit pid beyond msg (start msg) := by
  constructor
  all_goals simp [start, Counts]

/-- A stream that grows keeps its answers. -/
theorem Own.mono {connection : Nat} {answer : Answer}
    (own : Own pid beyond msg state connection answer)
    (stream : state.stream connection <+: later.stream connection)
    (finished : state.finished connection = true → later.finished connection = true) :
    Own pid beyond msg later connection answer :=
  let ⟨received, prefixed, empty, same⟩ := own
  ⟨received, prefixed.trans stream, fun none => finished (empty none), same⟩

/-- Each step of the clients keeps the facts. -/
theorem inv_clientStep (inv : Inv limit pid beyond msg state) (step : ClientStep state later) :
    Inv limit pid beyond msg later := by
  cases step with
  | connect => exact { inv with arrived := inv.arrived.trans (Nat.le_succ _) }
  | interrupt => exact { inv with }
  | send connection bytes here opened =>
      have grows (other : Nat) : state.stream other <+: Function.update state.stream connection
          (state.stream connection ++ bytes) other := by
        rw [Function.update_apply]
        split
        case isTrue same => exact same ▸ List.prefix_append _ _
        case isFalse => exact List.prefix_rfl
      exact { inv with
        write := fun other answer there => (inv.write other answer there).mono (grows other) id
        logged := fun other answer member =>
          (inv.logged other answer member).imp_left fun own => own.mono (grows other) id }
  | finish connection here =>
      have grows (other : Nat) (finished : state.finished other = true) :
          Function.update state.finished connection true other = true := by
        rw [Function.update_apply]
        split
        case isTrue => rfl
        case isFalse => exact finished
      exact { inv with
        write := fun other answer there =>
          (inv.write other answer there).mono List.prefix_rfl (grows other)
        logged := fun other answer member =>
          (inv.logged other answer member).imp_left fun own =>
            own.mono List.prefix_rfl (grows other) }

/-- A child that goes to another point is not at this one. -/
theorem child_of_goto {connection other : Nat} {point here : ChildPoint}
    (there : (state.goto connection point).child other = here) (moved : point ≠ here) :
    other ≠ connection ∧ state.child other = here := by
  have updated : Function.update state.child connection point other = here := there
  rw [Function.update_apply] at updated
  split at updated
  case isTrue => exact absurd updated moved
  case isFalse different => exact ⟨different, updated⟩

/-- The child is at the point that it goes to. -/
theorem child_goto (state : State) (connection : Nat) (point : ChildPoint) :
    (state.goto connection point).child connection = point := by
  simp [State.goto]

/-- The other children stay at their points. -/
theorem child_goto_ne {connection other : Nat} (point : ChildPoint)
    (different : other ≠ connection) :
    (state.goto connection point).child other = state.child other := by
  simp [State.goto, different]

/-- The exit of the parent keeps the facts. -/
theorem inv_exit (inv : Inv limit pid beyond msg state)
    (counts : state.accepted = state.children ∨
      state.accepted = state.children + 1 ∧ limit ≤ state.children) :
    Inv limit pid beyond msg state.exit :=
  { inv with counts, holds := nofun }

/-- Each step of the parent keeps the facts. -/
theorem inv_parentStep (inv : Inv limit pid beyond msg state)
    (step : ParentStep limit state later) : Inv limit pid beyond msg later := by
  have counts := inv.counts
  rw [Counts] at counts
  cases step with
  | refuse here closed =>
      rw [here] at counts
      exact inv_exit inv (.inl counts)
  | accept here listens waits =>
      rw [here] at counts
      refine { inv with arrived := waits, counts := ⟨counts, congrArg (· + 1) counts⟩, holds := ?_ }
      intro other held
      have updated : Function.update state.holds state.accepted true other = true := held
      rw [Function.update_apply] at updated
      split at updated
      case isTrue same => exact .inl (same ▸ rfl)
      case isFalse =>
        have before := inv.holds other updated
        rw [here] at before
        rcases before with before | before <;> cases before
  | fork connection here room =>
      rw [here] at counts
      obtain ⟨rfl, accepted⟩ := counts
      have fresh : state.child state.children = .absent :=
        (inv.absent state.children).mpr (Nat.le_refl _)
      refine { inv with
        counts := ⟨rfl, accepted⟩, bound := room, holds := ?_, absent := ?_, read := ?_
        write := ?_, logged := ?_ }
      · intro other held
        have before := inv.holds other held
        rw [here] at before
        rcases before with before | before <;> cases before
        exact .inr rfl
      · intro other
        by_cases same : other = state.children
        · rw [same]
          have there := child_goto state state.children (.read state.msg)
          refine ⟨fun gone => ?_, fun later => absurd later (Nat.not_succ_le_self _)⟩
          cases there.symm.trans gone
        · have before := inv.absent other
          rw [← child_goto_ne (.read state.msg) same] at before
          refine before.trans ⟨fun later => ?_, Nat.le_of_succ_le⟩
          exact Nat.lt_of_le_of_ne later (Ne.symm same)
      · intro other copy there
        by_cases same : other = state.children
        · rw [same] at there
          cases (child_goto state state.children (.read state.msg)).symm.trans there
          exact inv.copied
        · exact inv.read other copy ((child_goto_ne (.read state.msg) same).symm.trans there)
      · exact fun other answer there => inv.write other answer (child_of_goto there nofun).2
      · intro other answer member
        obtain ⟨own, done⟩ := inv.logged other answer member
        have different : other ≠ state.children := by
          rintro rfl
          rw [fresh] at done
          rcases done with done | done <;> cases done
        refine ⟨own, ?_⟩
        have kept := (child_goto_ne (.read state.msg) different :
          (state.goto state.children (.read state.msg)).child other = state.child other)
        exact done.imp kept.trans kept.trans
  | fail connection here full =>
      rw [here] at counts
      exact inv_exit inv (.inr ⟨counts.2, full⟩)
  | close connection here =>
      rw [here] at counts
      refine { inv with counts := counts.2, holds := ?_ }
      intro other held
      have updated : Function.update state.holds connection false other = true := held
      rw [Function.update_apply] at updated
      split at updated
      case isTrue => cases updated
      case isFalse different =>
        have before := inv.holds other updated
        rw [here] at before
        rcases before with before | before <;> cases before
        exact absurd rfl different

/-- A child that is forked goes to a point behind the fork. -/
theorem absent_goto (inv : Inv limit pid beyond msg state) {connection : Nat} {point : ChildPoint}
    (forked : state.child connection ≠ .absent) (present : point ≠ .absent) (other : Nat) :
    (state.goto connection point).child other = .absent ↔ state.children ≤ other := by
  rw [← inv.absent other]
  by_cases same : other = connection
  · rw [same, child_goto]
    exact iff_of_false present forked
  · rw [child_goto_ne point same]

/-- A step of another child keeps an answer that is logged. -/
theorem logged_goto (inv : Inv limit pid beyond msg state) {connection other : Nat}
    {answer : Answer} {point : ChildPoint} (member : (other, answer) ∈ state.log)
    (done : other = connection → point = .close ∨ point = .exited) :
    Own pid beyond msg state other answer ∧
      ((state.goto connection point).child other = .close ∨
        (state.goto connection point).child other = .exited) := by
  obtain ⟨own, before⟩ := inv.logged other answer member
  refine ⟨own, ?_⟩
  by_cases same : other = connection
  · rw [same, child_goto]
    exact done same
  · rwa [child_goto_ne point same]

/-- A child that has not written its answer is not in the log. -/
theorem Inv.unlogged (inv : Inv limit pid beyond msg state) {connection : Nat} {answer : Answer}
    (early : state.child connection ≠ .close ∧ state.child connection ≠ .exited) :
    (connection, answer) ∉ state.log := fun member =>
  (inv.logged connection answer member).2.elim early.1 early.2

/-- Each step of a child keeps the facts. -/
theorem inv_childStep (inv : Inv limit pid beyond msg state) {connection : Nat}
    (step : ChildStep pid beyond state connection later) : Inv limit pid beyond msg later := by
  cases step with
  | read copy here received prefixed empty =>
      obtain rfl := inv.read connection copy here
      have early : state.child connection ≠ .close ∧ state.child connection ≠ .exited := by
        rw [here]
        exact ⟨nofun, nofun⟩
      refine { inv with
        absent := absent_goto inv (by rw [here]; exact nofun) nofun, read := ?_, write := ?_
        logged := ?_ }
      · exact fun other copy there => inv.read other copy (child_of_goto there nofun).2
      · intro other answer there
        by_cases same : other = connection
        · subst same
          cases (child_goto state other _).symm.trans there
          exact ⟨received, prefixed, empty, rfl⟩
        · exact inv.write other answer ((child_goto_ne _ same).symm.trans there)
      · intro other answer member
        refine logged_goto inv member fun same => ?_
        exact absurd (same ▸ member) (inv.unlogged early)
  | write answer here =>
      have early : state.child connection ≠ .close ∧ state.child connection ≠ .exited := by
        rw [here]
        exact ⟨nofun, nofun⟩
      refine { inv with
        absent := absent_goto inv (by rw [here]; exact nofun) nofun, read := ?_, write := ?_
        logged := ?_, nodup := ?_ }
      · exact fun other copy there => inv.read other copy (child_of_goto there nofun).2
      · exact fun other answer there => inv.write other answer (child_of_goto there nofun).2
      · intro other written member
        rcases List.mem_append.mp member with member | member
        · exact logged_goto inv member fun _ => .inl rfl
        · cases List.mem_singleton.mp member
          exact ⟨inv.write connection answer here, .inl (child_goto state connection .close)⟩
      · rw [List.map_append, List.nodup_append]
        refine ⟨inv.nodup, List.nodup_singleton connection, ?_⟩
        rintro other member one single rfl
        obtain ⟨⟨_, written⟩, logged, rfl⟩ := List.mem_map.mp member
        cases List.mem_singleton.mp single
        exact inv.unlogged early logged
  | close here =>
      refine { inv with
        absent := absent_goto inv (by rw [here]; exact nofun) nofun
        read := fun other copy there => inv.read other copy (child_of_goto there nofun).2
        write := fun other answer there => inv.write other answer (child_of_goto there nofun).2
        logged := fun other answer member => logged_goto inv member fun _ => .inr rfl }
  | fail here =>
      have forked : state.child connection ≠ .absent := by
        rcases here with ⟨copy, here⟩ | ⟨answer, here⟩ <;> rw [here] <;> exact nofun
      refine { inv with
        absent := absent_goto inv forked nofun
        read := fun other copy there => inv.read other copy (child_of_goto there nofun).2
        write := fun other answer there => inv.write other answer (child_of_goto there nofun).2
        logged := fun other answer member => logged_goto inv member fun _ => .inr rfl }

/-- The facts hold in every reachable state. -/
theorem reachable_inv (reached : (system limit pid beyond msg).Reachable state) :
    Inv limit pid beyond msg state := by
  refine reached.invariant (Inv limit pid beyond msg) ?_ ?_
  · rintro _ rfl
    exact inv_start
  · intro state label later _ inv taken
    rcases step_of_next limit pid beyond taken with step | step | ⟨connection, step⟩
    · exact inv_clientStep inv step
    · exact inv_parentStep inv step
    · exact inv_childStep inv step

/-- Each answer comes from its own connection, a connection gets at most one answer, and the parent holds at most the connection of its call. -/
theorem answers_own (reached : (system limit pid beyond msg).Reachable state) :
    (state.log.map Prod.fst).Nodup ∧
    (∀ connection answer, (connection, answer) ∈ state.log →
      Own pid beyond msg state connection answer) ∧
    ∀ connection, state.holds connection = true →
      state.parent = .fork connection ∨ state.parent = .close connection :=
  have inv := reachable_inv reached
  ⟨inv.nodup, fun connection answer member => (inv.logged connection answer member).1, inv.holds⟩

/-- The connection waits for its child, and the parent can go on. -/
structure Waiting (state : State) (connection : Nat) : Prop where
  listens : state.listening = true
  alive : state.parent ≠ .exited
  arrived : connection < state.arrived
  unforked : state.children ≤ connection

/-- The calls of the parent before the child of a connection is forked. -/
def State.left (state : State) (connection : Nat) : Nat :=
  3 * (connection - state.children) +
    match state.parent with
    | .close _ => 3
    | .accept => 2
    | .fork _ => 1
    | .exited => 0

/-- The parent goes on until it forks the child of a connection. -/
theorem parent_goes (inv : Inv limit pid beyond msg state) {connection : Nat}
    (room : connection < limit) (waiting : Waiting state connection) :
    ∃ later, (system limit pid beyond msg).next state .parent = some later ∧
      later.stream = state.stream ∧ later.finished = state.finished ∧
      (later.child connection = .read msg ∨
        Waiting later connection ∧ later.left connection < state.left connection) := by
  obtain ⟨listens, alive, arrived, unforked⟩ := waiting
  have counts := inv.counts
  rw [Counts] at counts
  cases here : state.parent with
  | exited => exact absurd here alive
  | accept =>
      rw [here] at counts
      have waits : state.accepted < state.arrived := by
        have same : state.accepted = state.children := counts
        omega
      refine ⟨_, parentStep_of_step limit (.accept here listens waits), rfl, rfl,
        .inr ⟨⟨listens, nofun, arrived, unforked⟩, ?_⟩⟩
      rw [State.left, State.left, here]
      exact Nat.lt_succ_self _
  | fork forked =>
      rw [here] at counts
      obtain ⟨rfl, _⟩ := counts
      have free : state.children < limit := unforked.trans_lt room
      refine ⟨_, parentStep_of_step limit (.fork _ here free), rfl, rfl, ?_⟩
      by_cases same : state.children = connection
      · subst same
        exact .inl ((child_goto state state.children _).trans (congrArg _ inv.copied))
      · have less : state.children < connection := Nat.lt_of_le_of_ne unforked same
        refine .inr ⟨⟨listens, nofun, arrived, less⟩, ?_⟩
        have fewer : 3 * (connection - (state.children + 1)) + 3 <
            3 * (connection - state.children) + 1 := by omega
        rw [State.left, State.left, here]
        exact fewer
  | close closed =>
      rw [here] at counts
      refine ⟨_, parentStep_of_step limit (.close closed here), rfl, rfl,
        .inr ⟨⟨listens, nofun, arrived, unforked⟩, ?_⟩⟩
      rw [State.left, State.left, here]
      exact Nat.lt_succ_self _

/-- The parent forks the child of a connection below the limit. -/
theorem exists_forked (inv : Inv limit pid beyond msg state) {connection : Nat}
    (room : connection < limit) (waiting : Waiting state connection) :
    ∃ labels final, (∀ label ∈ labels, label = .parent) ∧
      (system limit pid beyond msg).run state labels = some final ∧
      final.stream = state.stream ∧ final.finished = state.finished ∧
      final.child connection = .read msg := by
  induction measured : state.left connection using Nat.strong_induction_on generalizing state with
  | h left inductionHypothesis =>
      obtain ⟨later, taken, stream, finished, goes⟩ := parent_goes inv room waiting
      rcases goes with forked | ⟨waits, fewer⟩
      · exact ⟨[.parent], later, fun _ => List.mem_singleton.mp,
          (System.run_single _ _ _).trans taken, stream, finished, forked⟩
      · have inv := inv_parentStep inv (step_of_parentStep limit taken)
        obtain ⟨labels, final, only, run, stream', finished', forked⟩ :=
          inductionHypothesis _ (measured ▸ fewer) inv waits rfl
        refine ⟨.parent :: labels, final, ?_, (System.run_cons _ _ _ _ _).mpr ⟨later, taken, run⟩,
          stream'.trans stream, finished'.trans finished, forked⟩
        exact List.forall_mem_cons.mpr ⟨rfl, only⟩

/-- A child with something to read writes its answer. -/
theorem exists_answered (limit : Nat) (pid : Nat → Pid) (beyond : List UInt8)
    {connection : Nat} (here : state.child connection = .read msg)
    (sent : state.stream connection ≠ [] ∨ state.finished connection = true) :
    ∃ final answer, (system limit pid beyond msg).run state
      [.child connection, .child connection] = some final ∧
      (connection, answer) ∈ final.log := by
  have found : ∃ received, state.received connection = some received := by
    rw [State.received, if_neg]
    · exact ⟨_, rfl⟩
    · rintro ⟨none, opened⟩
      rcases sent with sent | sent
      · exact sent none
      · rw [opened] at sent
        cases sent
  obtain ⟨received, found⟩ := found
  have first := childStep_read pid beyond here found
  have second := childStep_write pid beyond (child_goto state connection
    (.write (answerOf pid beyond msg connection received)))
  refine ⟨_, answerOf pid beyond msg connection received, (System.run_cons _ _ _ _ _).mpr
    ⟨_, first, (System.run_single _ _ _).trans second⟩, ?_⟩
  exact List.mem_append_right _ (List.mem_singleton.mpr rfl)

/-- While the parent serves, a connection that has sent something can get its answer by the calls of the parent and of its own child if and only if it is below the limit. -/
theorem answerable_iff (reached : (system limit pid beyond msg).Reachable state)
    (listens : state.listening = true) (alive : state.parent ≠ .exited) {connection : Nat}
    (arrived : connection < state.arrived) (unforked : state.child connection = .absent)
    (sent : state.stream connection ≠ [] ∨ state.finished connection = true) :
    (∃ labels final answer, (∀ label ∈ labels, label = .parent ∨ label = .child connection) ∧
      (system limit pid beyond msg).run state labels = some final ∧
      (connection, answer) ∈ final.log) ↔ connection < limit := by
  have inv := reachable_inv reached
  constructor
  · rintro ⟨labels, final, answer, _, run, member⟩
    have after := reachable_inv (reached.run labels run)
    have forked : final.child connection ≠ .absent := by
      rcases (after.logged connection answer member).2 with here | here <;> rw [here] <;>
        exact nofun
    have below := mt (after.absent connection).mpr forked
    exact (Nat.not_le.mp below).trans_le after.bound
  · intro room
    obtain ⟨labels, middle, only, run, stream, finished, here⟩ := exists_forked inv room
      ⟨listens, alive, arrived, (inv.absent connection).mp unforked⟩
    rw [← stream, ← finished] at sent
    obtain ⟨final, answer, last, member⟩ := exists_answered limit pid beyond here sent
    refine ⟨labels ++ [.child connection, .child connection], final, answer, ?_, ?_, member⟩
    · intro label member
      rcases List.mem_append.mp member with member | member
      · exact .inl (only label member)
      · refine .inr ?_
        simpa using member
    · rw [System.run_append, run]
      exact last

/-- The second of two clients gets its answer while the first one is silent. -/
theorem answerable_iff_second :
    let msg : MsgType := ⟨⟨List.replicate 4 0, rfl⟩, ⟨List.replicate maxData 0, rfl⟩⟩
    let state : State := { start msg with
      arrived := 2, stream := Function.update (fun _ => []) 1 [65] }
    ∃ labels final answer, (∀ label ∈ labels, label = .parent ∨ label = .child 1) ∧
      (system 2 (fun _ => 7) [] msg).run state labels = some final ∧ (1, answer) ∈ final.log := by
  intro msg state
  have reached : (system 2 (fun _ => 7) [] msg).Reachable state :=
    (system 2 (fun _ => 7) [] msg).reachable_of_run rfl [.connect, .connect, .send 1 [65]] rfl
  exact (answerable_iff reached rfl nofun (by decide) rfl (.inl (by simp [state]))).mpr
    (by decide)

/-- The second of two clients gets its own answer. -/
theorem answers_own_second :
    let msg : MsgType := ⟨⟨List.replicate 4 0, rfl⟩, ⟨List.replicate maxData 0, rfl⟩⟩
    ∃ state, (system 2 (fun _ => 7) [] msg).Reachable state ∧ state.log.map Prod.fst = [1] ∧
      ∀ answer, (1, answer) ∈ state.log → Own (fun _ => 7) [] msg state 1 answer := by
  intro msg
  have reached := (system 2 (fun _ => 7) [] msg).reachable_of_run
    (show (system 2 (fun _ => 7) [] msg).initial (start msg) from rfl)
    [.connect, .connect, .send 1 [65], .parent, .parent, .parent, .parent, .parent, .child 1,
      .child 1] rfl
  exact ⟨_, reached, rfl, (answers_own reached).2.1 1⟩

end Hw2
