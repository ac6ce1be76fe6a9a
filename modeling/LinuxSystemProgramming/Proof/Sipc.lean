import LinuxSystemProgramming.Construction.Sipc
import LinuxSystemProgramming.Proof.Semlib

namespace Sipc
open Transition Semlib

/-- `sipc1` has created the semaphores before the one that it creates next. -/
def Sipc1Point.created (key : Key) : Sipc1Point → Prop
  | .semInit next => key.order < next.order
  | _ => True

/-- `sipc2` has created the semaphores before the one that it creates next. -/
def Sipc2Point.created (key : Key) : Sipc2Point → Prop
  | .semInit next => key.order < next.order
  | _ => True

/-- `sipc1` has read the request at its first statement of the reply. -/
def Sipc1Point.replies : Sipc1Point → Bool
  | .reply | .replying | .postMutex | .postEmpty | .exit | .exited => true
  | _ => false

/-- `sipc2` has passed its second wait on `empty`. -/
def Sipc2Point.replied : Sipc2Point → Bool
  | .print | .semDestroy _ | .exit | .exited => true
  | _ => false

/-- `sipc2` has printed the reply. -/
def Sipc2Point.prints : Sipc2Point → Bool
  | .semDestroy _ | .exit | .exited => true
  | _ => false

/-- `sipc1` reads the request before it replies, and `sipc2` prints the reply. -/
structure Safe {Text : Type} (request reply : Text) (state : State Text) : Prop where
  received : state.sipc1.replies = true → state.received = some (some request)
  printed : state.sipc2.prints = true → state.printed = some (some reply)
  silent : state.sipc2.prints = false → state.printed = none

/-- `sipc2` has not finished, and neither program has a step. -/
def Blocked {Text : Type} (request reply : Text) (state : State Text) : Prop :=
  state.sipc2 ≠ .exited ∧ ∀ process, state.next request reply process = none

/-- `sipc1` exits only after the second wait of `sipc2` on `empty`. -/
def exitsLate {Text : Type} (state : State Text) (process : Process) : Bool :=
  !decide (process = .sipc1 ∧ state.sipc1 = .exit ∧ state.sipc2.replied = false)

/-- `sipc1` creates and sets the semaphores, and its point gives the values that it has stored. -/
inductive Setup1 : Sipc1Point → Int → Int → Prop where
  | create (key : Key) : Setup1 (.semInit key) 0 0
  | empty : Setup1 (.semInitValue .emptySem) 0 0
  | full : Setup1 (.semInitValue .fullSem) 1 0
  | mutex : Setup1 (.semInitValue .mutexSem) 1 0
  | waits : Setup1 .waitFull 1 1

/-- `sipc2` creates the semaphores and waits for them, and its point gives what it has taken. -/
inductive Setup2 : Sipc2Point → Int → Prop where
  | create (key : Key) : Setup2 (.semInit key) 0
  | waitEmpty : Setup2 .waitEmpty 0
  | waitMutex : Setup2 .waitMutex 1

variable {Text : Type} {request reply old : Text} {state later : State Text}

/-- `sipc2` writes its request with the mutex. -/
inductive Requesting (request old : Text) : Sipc2Point → Option Text → Int → Prop where
  | send : Requesting request old .send (some old) 0
  | sending : Requesting request old .sending none 0
  | postMutex : Requesting request old .postMutex (some request) 0
  | postFull : Requesting request old .postFull (some request) 1

/-- `sipc1` takes the request and writes its reply, while `sipc2` waits. -/
inductive Replying (request reply : Text) :
    Sipc1Point → Option Text → Option (Option Text) → Int → Int → Int → Prop where
  | waitFull : Replying request reply .waitFull (some request) none 0 1 1
  | waitMutex : Replying request reply .waitMutex (some request) none 0 0 1
  | receive : Replying request reply .receive (some request) none 0 0 0
  | reply : Replying request reply .reply (some request) (some (some request)) 0 0 0
  | replying : Replying request reply .replying none (some (some request)) 0 0 0
  | postMutex : Replying request reply .postMutex (some reply) (some (some request)) 0 0 0
  | postEmpty : Replying request reply .postEmpty (some reply) (some (some request)) 0 0 1
  | exit : Replying request reply .exit (some reply) (some (some request)) 1 0 1

/-- `sipc2` prints the reply, removes the semaphores, and exits. -/
inductive Finishing (reply : Text) : Sipc2Point → Option (Option Text) → Prop where
  | print : Finishing reply .print none
  | destroy (key : Key) : Finishing reply (.semDestroy key) (some (some reply))
  | exit : Finishing reply .exit (some (some reply))
  | exited : Finishing reply .exited (some (some reply))

/-- The programs set up, request, reply, and finish, or the exit of `sipc1` removes the reply. -/
inductive Phase (request reply old : Text) : State Text → Prop where
  | setup (sem : Table Process) (adjust : Key → Process → Int) (first : Sipc1Point)
      (second : Sipc2Point) (empty mutex taken : Int) (sets : Setup1 first empty mutex)
      (takes : Setup2 second taken)
      (made : ∀ key, first.created key ∨ second.created key → (sem key).isSome)
      (holds : sem.Holds (levels (empty - taken) 0 mutex) adjust)
      (silent : adjust .emptySem .sipc1 = 0) :
      Phase request reply old ⟨some old, sem, first, second, none, none⟩
  | request (sem : Table Process) (adjust : Key → Process → Int) (second : Sipc2Point)
      (shm : Option Text) (mutex : Int) (sends : Requesting request old second shm mutex)
      (made : ∀ key, (sem key).isSome) (holds : sem.Holds (levels 0 0 mutex) adjust)
      (silent : adjust .emptySem .sipc1 = 0) :
      Phase request reply old ⟨shm, sem, .waitFull, second, none, none⟩
  | reply (sem : Table Process) (adjust : Key → Process → Int) (first : Sipc1Point)
      (shm : Option Text) (received : Option (Option Text)) (empty full mutex : Int)
      (answers : Replying request reply first shm received empty full mutex)
      (made : ∀ key, (sem key).isSome) (holds : sem.Holds (levels empty full mutex) adjust)
      (posted : adjust .emptySem .sipc1 = -empty) :
      Phase request reply old ⟨shm, sem, first, .waitReply, received, none⟩
  | finish (sem : Table Process) (first : Sipc1Point) (second : Sipc2Point)
      (printed : Option (Option Text)) (leaves : first = .exit ∨ first = .exited)
      (finishes : Finishing reply second printed) :
      Phase request reply old ⟨some reply, sem, first, second, some (some request), printed⟩
  | lost (sem : Table Process) (value : Key → Int) (adjust : Key → Process → Int)
      (made : (sem .emptySem).isSome) (holds : sem.Holds value adjust)
      (empty : value .emptySem = 0) :
      Phase request reply old ⟨some reply, sem, .exited, .waitReply, some (some request), none⟩

section Steps

/-- A creation makes its own key, and the earlier ones stay. -/
theorem isSome_setup {sem : Table Process} (key other : Key) (rest : Prop)
    (made : other.order < key.order ∨ rest → (sem other).isSome)
    (known : other = key ∨ other.order < key.order ∨ rest) :
    ((sem.create key) other).isSome :=
  isSome_create sem key other (known.imp_right made)

/-- A step of `sipc1` in the setup sets one more semaphore or keeps the values. -/
theorem phase_setup1 {sem : Table Process} {adjust : Key → Process → Int} {first : Sipc1Point}
    {second : Sipc2Point} {empty mutex taken : Int} (sets : Setup1 first empty mutex)
    (takes : Setup2 second taken)
    (made : ∀ key, first.created key ∨ second.created key → (sem key).isSome)
    (holds : sem.Holds (levels (empty - taken) 0 mutex) adjust)
    (silent : adjust .emptySem .sipc1 = 0)
    (moved : (⟨some old, sem, first, second, none, none⟩ : State Text).sipc1Step reply =
      some later) : Phase request reply old later := by
  have nonneg := holds.nonneg .emptySem
  simp only [levels] at nonneg
  have none' : empty = 0 → taken = 0 := by
    intro zero
    cases takes <;> omega
  cases sets with
  | create key =>
      cases Option.some.inj moved
      refine .setup _ adjust _ second 0 0 taken ?_ takes ?_ (holds.create key) silent
      · cases key <;> constructor
      · intro other known
        refine isSome_setup key other _ (made other) ?_
        rcases known with mine | theirs
        · cases key <;> cases other <;> simp_all [Sipc1Point.created, Key.after, Key.order]
        · exact Or.inr (Or.inr theirs)
  | empty =>
      obtain ⟨result, operated, rfl⟩ := Option.map_eq_some_iff.mp moved
      obtain ⟨sem, rfl, kept, same⟩ := holds.set (made _ (Or.inl trivial)) operated
      have zero := none' rfl
      subst zero
      refine .setup sem _ _ second 1 0 0 .full takes ?_ (by simpa [initialValue] using kept) (by simp)
      exact fun key _ => same key ▸ made key (Or.inl trivial)
  | full =>
      obtain ⟨result, operated, rfl⟩ := Option.map_eq_some_iff.mp moved
      obtain ⟨sem, rfl, kept, same⟩ := holds.set (made _ (Or.inl trivial)) operated
      refine .setup sem _ _ second 1 0 taken .mutex takes ?_ (by simpa [initialValue] using kept)
        (by simpa using silent)
      exact fun key _ => same key ▸ made key (Or.inl trivial)
  | mutex =>
      obtain ⟨result, operated, rfl⟩ := Option.map_eq_some_iff.mp moved
      obtain ⟨sem, rfl, kept, same⟩ := holds.set (made _ (Or.inl trivial)) operated
      refine .setup sem _ _ second 1 1 taken .waits takes ?_ (by simpa [initialValue] using kept)
        (by simpa using silent)
      exact fun key _ => same key ▸ made key (Or.inl trivial)
  | waits =>
      obtain ⟨result, operated, rfl⟩ := Option.map_eq_some_iff.mp moved
      have positive := (holds.wait (made _ (Or.inl trivial)) operated).1
      simp [levels] at positive

/-- A step of `sipc2` in the setup takes one more semaphore or keeps the values. -/
theorem phase_setup2 {sem : Table Process} {adjust : Key → Process → Int} {first : Sipc1Point}
    {second : Sipc2Point} {empty mutex taken : Int} (sets : Setup1 first empty mutex)
    (takes : Setup2 second taken)
    (made : ∀ key, first.created key ∨ second.created key → (sem key).isSome)
    (holds : sem.Holds (levels (empty - taken) 0 mutex) adjust)
    (silent : adjust .emptySem .sipc1 = 0)
    (moved : (⟨some old, sem, first, second, none, none⟩ : State Text).sipc2Step request =
      some later) : Phase request reply old later := by
  cases takes with
  | create key =>
      cases Option.some.inj moved
      refine .setup _ adjust first _ empty mutex 0 sets ?_ ?_ (holds.create key) silent
      · cases key <;> constructor
      · intro other known
        refine isSome_setup key other (first.created other) ?_ ?_
        · exact fun before => made other before.symm
        · rcases known with theirs | mine
          · exact Or.inr (Or.inr theirs)
          · cases key <;> cases other <;> simp_all [Sipc2Point.created, Key.after, Key.order]
  | waitEmpty =>
      obtain ⟨result, operated, rfl⟩ := Option.map_eq_some_iff.mp moved
      obtain ⟨_, sem, rfl, kept, same⟩ := holds.wait (made _ (Or.inr trivial)) operated
      refine .setup sem _ first _ empty mutex 1 sets .waitMutex ?_ (by simpa [levels] using kept)
        (by simpa using silent)
      exact fun key _ => same key ▸ made key (Or.inr trivial)
  | waitMutex =>
      obtain ⟨result, operated, rfl⟩ := Option.map_eq_some_iff.mp moved
      obtain ⟨positive, sem, rfl, kept, same⟩ := holds.wait (made _ (Or.inr trivial)) operated
      cases sets with
      | waits =>
          refine .request sem _ .send _ 0 .send ?_ (by simpa [levels] using kept)
            (by simpa using silent)
          exact fun key => same key ▸ made key (Or.inr trivial)
      | create | empty | full | mutex => simp [levels] at positive

/-- A step of `sipc2` with its request goes on to the wait for the reply. -/
theorem phase_request {sem : Table Process} {adjust : Key → Process → Int} {second : Sipc2Point}
    {shm : Option Text} {mutex : Int} (sends : Requesting request old second shm mutex)
    (made : ∀ key, (sem key).isSome) (holds : sem.Holds (levels 0 0 mutex) adjust)
    (silent : adjust .emptySem .sipc1 = 0)
    (moved : (⟨shm, sem, .waitFull, second, none, none⟩ : State Text).sipc2Step request =
      some later) : Phase request reply old later := by
  cases sends with
  | send =>
      cases Option.some.inj moved
      exact .request sem adjust .sending none 0 .sending made holds silent
  | sending =>
      cases Option.some.inj moved
      exact .request sem adjust .postMutex _ 0 .postMutex made holds silent
  | postMutex =>
      obtain ⟨result, operated, rfl⟩ := Option.map_eq_some_iff.mp moved
      obtain ⟨sem, rfl, kept, same⟩ := holds.post (made _) operated
      refine .request sem _ .postFull _ 1 .postFull ?_ (by simpa [levels] using kept)
        (by simpa using silent)
      exact fun key => same key ▸ made key
  | postFull =>
      obtain ⟨result, operated, rfl⟩ := Option.map_eq_some_iff.mp moved
      obtain ⟨sem, rfl, kept, same⟩ := holds.post (made _) operated
      refine .reply sem _ .waitFull _ _ 0 1 1 .waitFull ?_ (by simpa [levels] using kept)
        (by simpa using silent)
      exact fun key => same key ▸ made key

/-- A step of `sipc1` with the request goes on to its exit, which takes the reply back. -/
theorem phase_reply1 {sem : Table Process} {adjust : Key → Process → Int} {first : Sipc1Point}
    {shm : Option Text} {received : Option (Option Text)} {empty full mutex : Int}
    (answers : Replying request reply first shm received empty full mutex)
    (made : ∀ key, (sem key).isSome) (holds : sem.Holds (levels empty full mutex) adjust)
    (posted : adjust .emptySem .sipc1 = -empty)
    (moved : (⟨shm, sem, first, .waitReply, received, none⟩ : State Text).sipc1Step reply =
      some later) : Phase request reply old later := by
  cases answers with
  | waitFull =>
      obtain ⟨result, operated, rfl⟩ := Option.map_eq_some_iff.mp moved
      obtain ⟨_, sem, rfl, kept, same⟩ := holds.wait (made _) operated
      refine .reply sem _ .waitMutex _ _ 0 0 1 .waitMutex ?_ (by simpa [levels] using kept)
        (by simpa using posted)
      exact fun key => same key ▸ made key
  | waitMutex =>
      obtain ⟨result, operated, rfl⟩ := Option.map_eq_some_iff.mp moved
      obtain ⟨_, sem, rfl, kept, same⟩ := holds.wait (made _) operated
      refine .reply sem _ .receive _ _ 0 0 0 .receive ?_ (by simpa [levels] using kept)
        (by simpa using posted)
      exact fun key => same key ▸ made key
  | receive =>
      cases Option.some.inj moved
      exact .reply sem adjust .reply _ _ 0 0 0 .reply made holds posted
  | reply =>
      cases Option.some.inj moved
      exact .reply sem adjust .replying _ _ 0 0 0 .replying made holds posted
  | replying =>
      cases Option.some.inj moved
      exact .reply sem adjust .postMutex _ _ 0 0 0 .postMutex made holds posted
  | postMutex =>
      obtain ⟨result, operated, rfl⟩ := Option.map_eq_some_iff.mp moved
      obtain ⟨sem, rfl, kept, same⟩ := holds.post (made _) operated
      refine .reply sem _ .postEmpty _ _ 0 0 1 .postEmpty ?_ (by simpa [levels] using kept)
        (by simpa using posted)
      exact fun key => same key ▸ made key
  | postEmpty =>
      obtain ⟨result, operated, rfl⟩ := Option.map_eq_some_iff.mp moved
      obtain ⟨sem, rfl, kept, same⟩ := holds.post (made _) operated
      refine .reply sem _ .exit _ _ 1 0 1 .exit ?_ (by simpa [levels] using kept)
        (by simp [posted])
      exact fun key => same key ▸ made key
  | exit =>
      cases Option.some.inj moved
      refine .lost _ _ _ ?_ (holds.exit .sipc1) (by simp [levels, posted])
      simpa [Table.exit] using made .emptySem

/-- The second wait of `sipc2` on `empty` passes only after the reply. -/
theorem phase_reply2 {sem : Table Process} {adjust : Key → Process → Int} {first : Sipc1Point}
    {shm : Option Text} {received : Option (Option Text)} {empty full mutex : Int}
    (answers : Replying request reply first shm received empty full mutex)
    (made : ∀ key, (sem key).isSome) (holds : sem.Holds (levels empty full mutex) adjust)
    (moved : (⟨shm, sem, first, .waitReply, received, none⟩ : State Text).sipc2Step request =
      some later) : Phase request reply old later := by
  obtain ⟨result, operated, rfl⟩ := Option.map_eq_some_iff.mp moved
  obtain ⟨positive, sem, rfl, _, _⟩ := holds.wait (made _) operated
  cases answers with
  | exit => exact .finish sem .exit .print none (Or.inl rfl) .print
  | waitFull | waitMutex | receive | reply | replying | postMutex | postEmpty =>
      simp [levels] at positive

/-- After the reply `sipc2` prints it, removes the semaphores, and exits. -/
theorem phase_finish {sem : Table Process} {first : Sipc1Point} {second : Sipc2Point}
    {printed : Option (Option Text)} (leaves : first = .exit ∨ first = .exited)
    (finishes : Finishing reply second printed)
    (moved : (⟨some reply, sem, first, second, some (some request), printed⟩ :
      State Text).sipc2Step request = some later) : Phase request reply old later := by
  cases finishes with
  | print =>
      cases Option.some.inj moved
      exact .finish sem first _ _ leaves (.destroy _)
  | destroy key =>
      cases Option.some.inj moved
      refine .finish _ first _ _ leaves ?_
      cases key <;> constructor
  | exit =>
      cases Option.some.inj moved
      exact .finish _ first _ _ leaves .exited
  | exited => cases moved

/-- Each step keeps the phases. -/
theorem phase_step (phase : Phase request reply old state) {process : Process}
    (taken : state.next request reply process = some later) : Phase request reply old later := by
  cases phase with
  | setup sem adjust first second empty mutex taken' sets takes made holds silent =>
      cases process with
      | sipc1 => exact phase_setup1 sets takes made holds silent taken
      | sipc2 => exact phase_setup2 sets takes made holds silent taken
  | request sem adjust second shm mutex sends made holds silent =>
      cases process with
      | sipc1 =>
          obtain ⟨result, operated, rfl⟩ := Option.map_eq_some_iff.mp taken
          have positive := (holds.wait (made _) operated).1
          simp [levels] at positive
      | sipc2 => exact phase_request sends made holds silent taken
  | reply sem adjust first shm received empty full mutex answers made holds posted =>
      cases process with
      | sipc1 => exact phase_reply1 answers made holds posted taken
      | sipc2 => exact phase_reply2 answers made holds taken
  | finish sem first second printed leaves finishes =>
      cases process with
      | sipc1 =>
          rcases leaves with rfl | rfl
          · cases Option.some.inj taken
            exact .finish _ .exited second printed (Or.inr rfl) finishes
          · cases taken
      | sipc2 => exact phase_finish leaves finishes taken
  | lost sem value adjust made holds empty =>
      cases process with
      | sipc1 => cases taken
      | sipc2 =>
          obtain ⟨result, operated, rfl⟩ := Option.map_eq_some_iff.mp taken
          have positive := (holds.wait made operated).1
          omega

/-- Every reachable state is in one of the phases. -/
theorem reachable_phase (reached : (system request reply old).Reachable state) :
    Phase request reply old state := by
  apply reached.invariant (Phase request reply old)
  · rintro state rfl
    refine .setup _ (fun _ _ => 0) _ _ 0 0 0 (.create _) (.create _) ?_ ?_ rfl
    · rintro key (before | before) <;> exact absurd before (Nat.not_lt_zero _)
    · intro key
      cases key <;> exact ⟨rfl, rfl⟩
  · intro state process later _ phase taken
    exact phase_step phase taken

/-- In each phase the request is read first and the reply is printed. -/
theorem Phase.safe (phase : Phase request reply old state) : Safe request reply state := by
  cases phase with
  | setup sem adjust first second empty mutex taken sets takes made holds silent =>
      refine ⟨?_, ?_, fun _ => rfl⟩
      · cases sets <;> rintro ⟨⟩
      · cases takes <;> rintro ⟨⟩
  | request sem adjust second shm mutex sends made holds silent =>
      refine ⟨?_, ?_, fun _ => rfl⟩
      · rintro ⟨⟩
      · cases sends <;> rintro ⟨⟩
  | reply sem adjust first shm received empty full mutex answers made holds posted =>
      refine ⟨?_, ?_, fun _ => rfl⟩
      · cases answers <;> rintro ⟨⟩ <;> rfl
      · rintro ⟨⟩
  | finish sem first second printed leaves finishes =>
      refine ⟨fun _ => rfl, ?_, ?_⟩
      · cases finishes <;> rintro ⟨⟩ <;> rfl
      · cases finishes <;> rintro ⟨⟩
        rfl
  | lost sem value adjust made holds empty =>
      refine ⟨fun _ => rfl, ?_, fun _ => rfl⟩
      rintro ⟨⟩

/-- An operation of `sipc1` has a step when the operation has a result. -/
theorem operate1_ready {key : Key} {operation : Semaphore Process → Option (Semaphore Process)}
    {point : Sipc1Point} (ready : state.sem.operate key operation ≠ none) :
    state.operate1 key operation point ≠ none :=
  fun none => ready (Option.map_eq_none_iff.mp none)

/-- An operation of `sipc2` has a step when the operation has a result. -/
theorem operate2_ready {key : Key} {operation : Semaphore Process → Option (Semaphore Process)}
    {point : Sipc2Point} (ready : state.sem.operate key operation ≠ none) :
    state.operate2 key operation point ≠ none :=
  fun none => ready (Option.map_eq_none_iff.mp none)

/-- `sipc2` is blocked for ever exactly after `sipc1` has exited before its wait for the reply. -/
theorem Phase.blocked_iff (phase : Phase request reply old state) :
    Blocked request reply state ↔ state.sipc1 = .exited ∧ state.sipc2 = .waitReply := by
  constructor
  · rintro ⟨unfinished, stuck⟩
    have first : state.sipc1Step reply = none := stuck .sipc1
    have second : state.sipc2Step request = none := stuck .sipc2
    cases phase with
    | setup sem adjust one two empty mutex taken sets takes made holds silent =>
        cases sets with
        | create key => cases first
        | empty => exact absurd first (operate1_ready (operate_ready _ _ _))
        | full => exact absurd first (operate1_ready (operate_ready _ _ _))
        | mutex => exact absurd first (operate1_ready (operate_ready _ _ _))
        | waits =>
            cases takes with
            | create key => cases second
            | waitEmpty =>
                exact absurd second (operate2_ready (holds.ready .sipc2 (by simp [levels])))
            | waitMutex =>
                exact absurd second (operate2_ready (holds.ready .sipc2 (by simp [levels])))
    | request sem adjust two shm mutex sends made holds silent =>
        cases sends with
        | send => cases second
        | sending => cases second
        | postMutex => exact absurd second (operate2_ready (operate_ready _ _ _))
        | postFull => exact absurd second (operate2_ready (operate_ready _ _ _))
    | reply sem adjust one shm received empty full mutex answers made holds posted =>
        cases answers with
        | waitFull => exact absurd first (operate1_ready (holds.ready .sipc1 (by simp [levels])))
        | waitMutex => exact absurd first (operate1_ready (holds.ready .sipc1 (by simp [levels])))
        | receive => cases first
        | reply => cases first
        | replying => cases first
        | postMutex => exact absurd first (operate1_ready (operate_ready _ _ _))
        | postEmpty => exact absurd first (operate1_ready (operate_ready _ _ _))
        | exit => cases first
    | finish sem one two printed leaves finishes =>
        cases finishes with
        | print => cases second
        | destroy key => cases second
        | exit => cases second
        | exited => exact absurd rfl unfinished
    | lost sem value adjust made holds empty => exact ⟨rfl, rfl⟩
  · rintro ⟨exited, waiting⟩
    cases phase with
    | setup sem adjust one two empty mutex taken sets takes made holds silent =>
        cases sets <;> cases exited
    | request sem adjust two shm mutex sends made holds silent => cases exited
    | reply sem adjust one shm received empty full mutex answers made holds posted =>
        cases answers <;> cases exited
    | finish sem one two printed leaves finishes => cases finishes <;> cases waiting
    | lost sem value adjust made holds empty =>
        refine ⟨by simp, ?_⟩
        rintro (_ | _)
        · rfl
        · exact Option.map_eq_none_iff.mpr (holds.blocks .sipc2 made empty)

/-- An operation of `sipc1` ends at its point or fails. -/
theorem operate1_point {key : Key} {operation : Semaphore Process → Option (Semaphore Process)}
    {point : Sipc1Point} (taken : state.operate1 key operation point = some later) :
    (later.sipc1 = point ∨ later.sipc1 = .failed) ∧ later.sipc2 = state.sipc2 := by
  obtain ⟨result, _, rfl⟩ := Option.map_eq_some_iff.mp taken
  cases result with
  | none => exact ⟨Or.inr rfl, rfl⟩
  | some sem => exact ⟨Or.inl rfl, rfl⟩

/-- Only its exit brings `sipc1` to its end, and no step of it moves `sipc2`. -/
theorem exit_of_step (taken : state.sipc1Step reply = some later) (exited : later.sipc1 = .exited) :
    state.sipc1 = .exit ∧ later.sipc2 = state.sipc2 := by
  have other {key : Key} {operation : Semaphore Process → Option (Semaphore Process)}
      {point : Sipc1Point} (different : point ≠ .exited)
      (moved : state.operate1 key operation point = some later) : False := by
    rcases (operate1_point moved).1 with same | failed
    · exact different (same.symm.trans exited)
    · rw [failed] at exited
      cases exited
  unfold State.sipc1Step at taken
  split at taken
  case h_1 key here =>
      cases Option.some.inj taken
      cases key <;> cases exited
  case h_2 key here => exact (other (by cases key <;> simp [Key.after]) taken).elim
  case h_3 here => exact (other (by simp) taken).elim
  case h_4 here => exact (other (by simp) taken).elim
  case h_5 here => cases Option.some.inj taken; cases exited
  case h_6 here => cases Option.some.inj taken; cases exited
  case h_7 here => cases Option.some.inj taken; cases exited
  case h_8 here => exact (other (by simp) taken).elim
  case h_9 here => exact (other (by simp) taken).elim
  case h_10 here =>
      cases Option.some.inj taken
      exact ⟨here, rfl⟩
  case h_11 => cases taken
  case h_12 => cases taken

/-- No operation of `sipc2` moves `sipc1`. -/
theorem operate2_sipc1 {key : Key} {operation : Semaphore Process → Option (Semaphore Process)}
    {point : Sipc2Point} (taken : state.operate2 key operation point = some later) :
    later.sipc1 = state.sipc1 := by
  obtain ⟨result, _, rfl⟩ := Option.map_eq_some_iff.mp taken
  cases result <;> rfl

/-- No step of `sipc2` moves `sipc1`. -/
theorem sipc2Step_sipc1 (taken : state.sipc2Step request = some later) :
    later.sipc1 = state.sipc1 := by
  unfold State.sipc2Step at taken
  split at taken
  case h_1 => cases Option.some.inj taken; rfl
  case h_2 => exact operate2_sipc1 taken
  case h_3 => exact operate2_sipc1 taken
  case h_4 => cases Option.some.inj taken; rfl
  case h_5 => cases Option.some.inj taken; rfl
  case h_6 => exact operate2_sipc1 taken
  case h_7 => exact operate2_sipc1 taken
  case h_8 => exact operate2_sipc1 taken
  case h_9 => cases Option.some.inj taken; rfl
  case h_10 => cases Option.some.inj taken; rfl
  case h_11 => cases Option.some.inj taken; rfl
  case h_12 => cases taken
  case h_13 => cases taken

/-- A step leaves `sipc2` blocked for ever exactly when `sipc1` exits too early. -/
theorem Phase.blocks_iff (phase : Phase request reply old state) {process : Process}
    (taken : state.next request reply process = some later) :
    Blocked request reply later ↔ exitsLate state process = false := by
  rw [(phase_step phase taken).blocked_iff]
  constructor
  · rintro ⟨exited, waiting⟩
    cases process with
    | sipc1 =>
        obtain ⟨here, kept⟩ := exit_of_step taken exited
        rw [kept] at waiting
        simp [exitsLate, here, waiting, Sipc2Point.replied]
    | sipc2 =>
        have before := (sipc2Step_sipc1 taken).symm.trans exited
        cases phase with
        | setup sem adjust one two empty mutex taken' sets takes made holds silent =>
            cases sets <;> cases before
        | request sem adjust two shm mutex sends made holds silent => cases before
        | reply sem adjust one shm received empty full mutex answers made holds posted =>
            cases answers <;> cases before
        | finish sem one two printed leaves finishes =>
            cases finishes with
            | print => cases Option.some.inj taken; cases waiting
            | destroy key =>
                cases Option.some.inj taken
                cases key <;> cases waiting
            | exit => cases Option.some.inj taken; cases waiting
            | exited => cases taken
        | lost sem value adjust made holds empty =>
            have stuck := (Phase.lost sem value adjust made holds empty :
              Phase request reply old _).blocked_iff.mpr ⟨rfl, rfl⟩
            rw [stuck.2 .sipc2] at taken
            cases taken
  · intro early
    simp only [exitsLate, Bool.not_eq_false', decide_eq_true_eq] at early
    obtain ⟨rfl, here, silent⟩ := early
    cases phase with
    | setup sem adjust one two empty mutex taken' sets takes made holds silent =>
        cases sets <;> cases here
    | request sem adjust two shm mutex sends made holds silent => cases here
    | reply sem adjust one shm received empty full mutex answers made holds posted =>
        cases answers with
        | exit =>
            cases Option.some.inj taken
            exact ⟨rfl, rfl⟩
        | waitFull | waitMutex | receive | reply | replying | postMutex | postEmpty => cases here
    | finish sem one two printed leaves finishes => cases finishes <;> cases silent
    | lost sem value adjust made holds empty => cases here

end Steps

/-- `sipc1` exits before the second wait of `sipc2` on `empty`, and `sipc2` waits for ever. -/
theorem printsReply_fails : ∃ state : State Bool,
    (system true false false).Reachable state ∧ Blocked true false state := by
  obtain ⟨state, reached, facts⟩ := (system true false false).exists_reachable (start false) rfl
    (List.replicate 6 .sipc1 ++ List.replicate 9 .sipc2 ++ List.replicate 8 .sipc1)
    (fun state => decide (state.sipc1 = .exited ∧ state.sipc2 = .waitReply)) (by decide)
  simp only [decide_eq_true_eq] at facts
  exact ⟨state, reached, (reachable_phase reached).blocked_iff.mpr facts⟩

/-- The reply is printed, and `sipc2` is blocked for ever exactly when `sipc1` exits too early. -/
theorem printsReply {Text : Type} (request reply old : Text) (state : State Text)
    (reached : ((system request reply old).restrict exitsLate).Reachable state) :
    Safe request reply state ∧ ¬ Blocked request reply state ∧
    ∀ process later, state.next request reply process = some later →
      Safe request reply later ∧
      (¬ Blocked request reply later ↔ exitsLate state process = true) := by
  have invariant : Phase request reply old state ∧ ¬ Blocked request reply state := by
    apply reached.invariant fun state =>
      Phase request reply old state ∧ ¬ Blocked request reply state
    · rintro state rfl
      have phase := reachable_phase (.initial rfl : (system request reply old).Reachable _)
      exact ⟨phase, fun blocked => absurd (phase.blocked_iff.mp blocked).1 (by simp [start])⟩
    · rintro state process later _ ⟨phase, _⟩ taken
      obtain ⟨late, moved⟩ := (System.restrict_next _ _ _ _ _).mp taken
      refine ⟨phase_step phase moved, fun blocked => ?_⟩
      rw [(phase.blocks_iff moved).mp blocked] at late
      cases late
  obtain ⟨phase, free⟩ := invariant
  refine ⟨phase.safe, free, fun process later taken => ⟨(phase_step phase taken).safe, ?_⟩⟩
  rw [phase.blocks_iff taken, Bool.not_eq_false]

/-- `sipc1` exits after the second wait, and `sipc2` prints the reply. -/
theorem printsReply_run : ∃ state : State Bool, state.sipc2 = .exited ∧
    state.printed = some (some false) := by
  obtain ⟨state, reached, facts⟩ :=
    ((system true false true).restrict exitsLate).exists_reachable (start true) rfl
      (List.replicate 6 .sipc1 ++ List.replicate 9 .sipc2 ++ List.replicate 7 .sipc1 ++
        [.sipc2, .sipc1] ++ List.replicate 5 .sipc2)
      (fun state => decide (state.sipc2 = .exited)) (by decide)
  simp only [decide_eq_true_eq] at facts
  exact ⟨state, facts, (printsReply true false true state reached).1.printed (by rw [facts]; rfl)⟩

end Sipc
