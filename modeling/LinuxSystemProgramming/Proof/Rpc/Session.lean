import LinuxSystemProgramming.Proof.Rpc.Sum

namespace Rpc
open Transition Semlib

variable {App : Type} [DecidableEq App]

/-- A client is in its session between its write and its read of the shared word. -/
def AppPoint.inSession : AppPoint → Bool
  | .semInit1 | .post | .semInit2 | .wait | .read => true
  | _ => false

/-- The server has stored zero in the first semaphore. -/
def RpcPoint.reset : RpcPoint → Bool
  | .semInit1 | .semInit2 | .semInitValue1 => false
  | _ => true

/-- The server has finished its initialization. -/
def RpcPoint.looping : RpcPoint → Bool
  | .semInit1 | .semInit2 | .semInitValue1 | .semInitValue2 => false
  | _ => true

/-- The server has taken no request and has not posted a reply. -/
def RpcPoint.waiting : RpcPoint → Bool
  | .read | .sum _ | .post => false
  | _ => true

/-- A server in its loop has stored zero in the first semaphore. -/
theorem reset_of_looping {point : RpcPoint} (looping : point.looping = true) :
    point.reset = true := by
  cases point <;> first | rfl | cases looping

/-- A server in its loop never leaves it. -/
theorem looping_step {number : App → Int} {state later : State App} {label : Label App}
    (looping : state.rpc.looping = true) (step : Step number state label later) :
    later.rpc.looping = true := by
  cases step with
  | rpcInit1 here | rpcInit2 here | rpcValue1 here | rpcValue2 here =>
      rw [here] at looping
      cases looping
  | rpcWait | rpcRead | rpcSum | rpcPost => rfl
  | start | write | semInit1 | post | semInit2 | wait | read | exit => exact looping

/-- The stages of a session are those of one request and its reply. -/
inductive Stage where
  | written
  | posted
  | received
  | loaded
  | stored
  | replied
  | accepted
  deriving DecidableEq, Repr

/-- A client stands at these statements in each stage. -/
def Stage.client (stage : Stage) (point : AppPoint) : Bool :=
  match stage with
  | .written => decide (point = .semInit1 ∨ point = .post)
  | .accepted => decide (point = .read)
  | .posted | .received | .loaded | .stored | .replied => decide (point = .semInit2 ∨ point = .wait)

/-- The server stands at these statements in each stage. -/
def Stage.server (number : Int) : Stage → RpcPoint → Bool
  | .written, point => point.waiting
  | .posted, point => point.waiting && point.reset
  | .received, point => decide (point = .read)
  | .loaded, point => decide (point = .sum number)
  | .stored, point => decide (point = .post)
  | .replied, point | .accepted, point => decide (point = .wait)

/-- The first semaphore is one only after the request has been posted. -/
def Stage.requests : Stage → Nat
  | .posted => 1
  | _ => 0

/-- The second semaphore is one only after the reply has been posted. -/
def Stage.replies : Stage → Nat
  | .replied => 1
  | _ => 0

/-- The shared word is the number before the server has stored its sum and the sum afterwards. -/
def Stage.word (number word : Int) : Stage → Prop
  | .written | .posted | .received => word = number
  | .loaded => True
  | .stored | .replied | .accepted => rpcSum number = some word

/-- The request is unread until the server loads it. -/
def Stage.pending (client : App) : Stage → Option App
  | .written | .posted | .received => some client
  | _ => none

/-- The state of a session agrees with its stage. -/
structure Session (number : Int) (client : App) (stage : Stage) (state : State App) : Prop where
  atClient : stage.client (state.app client) = true
  atServer : stage.server number state.rpc = true
  requests : count state.sema1 = stage.requests
  replies : count state.sema2 = stage.replies
  word : stage.word number state.shm
  unread : state.unread = stage.pending client

/-- Without a session the server waits, and no request and no reply is pending. -/
structure Idle (state : State App) : Prop where
  server : state.rpc.waiting = true
  requests : count state.sema1 = 0
  replies : count state.sema2 = 0
  unread : state.unread = none

/-- One session at a time is open, and each finished session has returned its own result. -/
structure Serial (number : App → Int) (state : State App) : Prop where
  answered : ∀ client result, state.app client = .returned result →
    rpcSum (number client) = some result
  kept : state.overwritten = false
  session : ((∀ client, (state.app client).inSession = false) ∧ Idle state) ∨
    ∃ client stage, (∀ other, other ≠ client → (state.app other).inSession = false) ∧
      Session (number client) client stage state

/-- An orderly step exits no client, writes in no session, and posts only after the reset. -/
structure Orderly (state : State App) (label : Label App) : Prop where
  stays : ∀ client, label ≠ .exit client
  alone : ∀ client, label = .app client → state.app client = .write →
    ∀ other, (state.app other).inSession = false
  reset : ∀ client, label = .app client → state.app client = .post → state.rpc.reset = true

section Steps
variable {number : App → Int} {state later : State App}

omit [DecidableEq App] in
/-- A step of the server keeps the clients, so each session only changes its stage. -/
theorem Serial.serve (serial : Serial number state) (app : later.app = state.app)
    (kept : later.overwritten = false) (idle : Idle state → Idle later)
    (session : ∀ client stage, Session (number client) client stage state →
      ∃ next, Session (number client) client next later) : Serial number later where
  answered := by
    rw [app]
    exact serial.answered
  kept := kept
  session := by
    rw [app]
    rcases serial.session with ⟨outside, quiet⟩ | ⟨client, stage, outside, running⟩
    · exact Or.inl ⟨outside, idle quiet⟩
    · obtain ⟨next, continued⟩ := session client stage running
      exact Or.inr ⟨client, next, outside, continued⟩

omit [DecidableEq App] in
/-- A server that does not wait serves the client of a session. -/
theorem Serial.work (serial : Serial number state) (busy : state.rpc.waiting = false)
    (app : later.app = state.app) (kept : later.overwritten = false)
    (session : ∀ client stage, Session (number client) client stage state →
      ∃ next, Session (number client) client next later) : Serial number later := by
  refine serial.serve app kept ?_ session
  intro idle
  rw [idle.server] at busy
  cases busy

omit [DecidableEq App] in
/-- A client in its session is the one client in a session. -/
theorem Serial.running (serial : Serial number state) (client : App)
    (inside : (state.app client).inSession = true) :
    ∃ stage, (∀ other, other ≠ client → (state.app other).inSession = false) ∧
      Session (number client) client stage state := by
  rcases serial.session with ⟨outside, _⟩ | ⟨owner, stage, outside, running⟩
  · rw [outside client] at inside
    cases inside
  · by_cases same : client = owner
    · subst same
      exact ⟨stage, outside, running⟩
    · rw [outside client same] at inside
      cases inside

/-- The clients other than the mover stay outside their sessions. -/
theorem outside_goto {client : App} {point : AppPoint}
    (outside : ∀ other, other ≠ client → (state.app other).inSession = false) (other : App)
    (different : other ≠ client) :
    ((state.goto client point).app other).inSession = false := by
  simp only [State.goto, Function.update_of_ne different]
  exact outside other different

/-- A client that returns nothing but its own sum keeps the results of the returned clients. -/
theorem answered_goto
    (answered : ∀ other value, state.app other = .returned value →
      rpcSum (number other) = some value) (client : App) (point : AppPoint)
    (result : ∀ value, point = .returned value → rpcSum (number client) = some value) :
    ∀ other value, (state.goto client point).app other = .returned value →
      rpcSum (number other) = some value :=
  (Function.forall_update_iff state.app fun other point =>
    ∀ value, point = .returned value → rpcSum (number other) = some value).mpr
    ⟨result, fun other _ => answered other⟩

omit [DecidableEq App] in
/-- The client of a session is inside it. -/
theorem Session.inside {client : App} {own : Int} {stage : Stage}
    (session : Session own client stage state) : (state.app client).inSession = true := by
  have stands := session.atClient
  cases stage <;> simp only [Stage.client, decide_eq_true_eq] at stands
  case accepted => rw [stands]; rfl
  all_goals rcases stands with point | point <;> rw [point] <;> rfl

/-- These statements of the server belong to one stage. -/
def RpcPoint.stage : RpcPoint → Option Stage
  | .semInit1 | .semInit2 | .semInitValue1 => some .written
  | .read => some .received
  | .sum _ => some .loaded
  | .post => some .stored
  | _ => none

/-- These statements of a client belong to one stage. -/
def AppPoint.stage : AppPoint → Option Stage
  | .semInit1 | .post => some .written
  | .read => some .accepted
  | _ => none

omit [DecidableEq App] in
/-- The server shows the stage of a session. -/
theorem Session.stage_of_rpc {client : App} {own : Int} {stage other : Stage}
    (session : Session own client stage state) (here : state.rpc.stage = some other) :
    stage = other := by
  have server := session.atServer
  cases point : state.rpc <;> rw [point] at here server <;> cases here
  all_goals cases stage <;> simp [Stage.server, RpcPoint.waiting, RpcPoint.reset] at server ⊢

omit [DecidableEq App] in
/-- The client shows the stage of its session. -/
theorem Session.stage_of_app {client : App} {own : Int} {stage other : Stage}
    (session : Session own client stage state) (here : (state.app client).stage = some other) :
    stage = other := by
  have stands := session.atClient
  cases point : state.app client <;> rw [point] at here stands <;> cases here
  all_goals cases stage <;> simp [Stage.client] at stands ⊢

/-- A client that moves within its session changes the stage and the shared objects. -/
theorem Serial.advance (serial : Serial number state) (client : App) (point : AppPoint)
    (moved : later.app = (state.goto client point).app) (kept : later.overwritten = state.overwritten)
    (inside : (state.app client).inSession = true) (stays : point.inSession = true)
    (session : ∀ stage, Session (number client) client stage state →
      ∃ next, Session (number client) client next later) : Serial number later := by
  obtain ⟨stage, outside, running⟩ := serial.running client inside
  obtain ⟨next, continued⟩ := session stage running
  refine ⟨?_, kept.trans serial.kept, Or.inr ⟨client, next, ?_, continued⟩⟩
  · rw [moved]
    refine answered_goto serial.answered client point ?_
    intro value returned
    rw [returned] at stays
    cases stays
  · rw [moved]
    exact outside_goto outside

omit [DecidableEq App] in
/-- Before its last initialization the server meets at most a session without a request. -/
theorem Serial.initialize (serial : Serial number state) (here : state.rpc.stage = some .written)
    (server : later.rpc.waiting = true) (app : later.app = state.app)
    (kept : later.overwritten = state.overwritten) (shm : later.shm = state.shm)
    (unread : later.unread = state.unread)
    (requests : count state.sema1 = 0 → count later.sema1 = 0)
    (replies : count state.sema2 = 0 → count later.sema2 = 0) : Serial number later := by
  refine serial.serve app (kept.trans serial.kept) ?_ ?_
  · intro idle
    exact ⟨server, requests idle.requests, replies idle.replies, unread.trans idle.unread⟩
  · intro client stage session
    obtain rfl := session.stage_of_rpc here
    have word : later.shm = number client := shm.trans session.word
    refine ⟨.written, ?_, server, requests session.requests, replies session.replies, word,
      unread.trans session.unread⟩
    rw [app]
    exact session.atClient

/-- Each orderly step of the server keeps the sessions serial. -/
theorem serial_rpc (serial : Serial number state) (step : Step number state .rpc later) :
    Serial number later := by
  cases step with
  | rpcInit1 here =>
      refine serial.initialize (congrArg RpcPoint.stage here) rfl rfl rfl rfl rfl ?_ id
      exact (count_semInit state.sema1).trans
  | rpcInit2 here =>
      refine serial.initialize (congrArg RpcPoint.stage here) rfl rfl rfl rfl rfl id ?_
      exact (count_semInit state.sema2).trans
  | rpcValue1 here semaphore set =>
      have stored := count_semInitValue set
      exact serial.initialize (congrArg RpcPoint.stage here) rfl rfl rfl rfl rfl (fun _ => stored) id
  | rpcValue2 here semaphore set =>
      have stored := count_semInitValue set
      refine serial.serve rfl serial.kept ?_ ?_
      · intro idle
        exact ⟨rfl, idle.requests, stored, idle.unread⟩
      · intro client stage session
        have server := session.atServer
        cases stage <;> simp [Stage.server, here, RpcPoint.waiting, RpcPoint.reset] at server
        · exact ⟨.written, session.atClient, rfl, session.requests, stored, session.word,
            session.unread⟩
        · exact ⟨.posted, session.atClient, rfl, session.requests, stored, session.word,
            session.unread⟩
  | rpcWait here semaphore passed =>
      have taken := count_semWait passed
      refine serial.serve rfl serial.kept ?_ ?_
      · intro idle
        have none := idle.requests
        omega
      · intro client stage session
        have server := session.atServer
        have requests := session.requests
        rw [← taken] at requests
        cases stage <;> simp [Stage.server, here, Stage.requests] at server requests
        exact ⟨.received, session.atClient, rfl, requests, session.replies, session.word,
          session.unread⟩
  | rpcRead here =>
      refine serial.work (congrArg RpcPoint.waiting here) rfl serial.kept ?_
      intro client stage session
      obtain rfl := session.stage_of_rpc (congrArg RpcPoint.stage here)
      have loaded : state.shm = number client := session.word
      exact ⟨.loaded, session.atClient, by simp [Stage.server, State.read, loaded],
        session.requests, session.replies, trivial, rfl⟩
  | rpcSum num sum here summed =>
      have unread (client : App) (stage : Stage)
          (session : Session (number client) client stage state) : stage = .loaded ∧ num = number client := by
        obtain rfl := session.stage_of_rpc (congrArg RpcPoint.stage here)
        have server := session.atServer
        rw [here] at server
        exact ⟨rfl, by simpa [Stage.server] using server⟩
      have none : state.unread = none := by
        rcases serial.session with ⟨_, idle⟩ | ⟨client, stage, _, session⟩
        · exact idle.unread
        · have read := session.unread
          rw [(unread client stage session).1] at read
          exact read
      refine serial.work (congrArg RpcPoint.waiting here) rfl
        (by simp [State.store, serial.kept, none]) ?_
      intro client stage session
      obtain ⟨rfl, own⟩ := unread client stage session
      exact ⟨.stored, session.atClient, rfl, session.requests, session.replies, own ▸ summed,
        session.unread⟩
  | rpcPost here semaphore posted =>
      have more := count_semPost posted
      refine serial.work (congrArg RpcPoint.waiting here) rfl serial.kept ?_
      intro client stage session
      obtain rfl := session.stage_of_rpc (congrArg RpcPoint.stage here)
      have replies := session.replies
      exact ⟨.replied, session.atClient, rfl, session.requests, by rw [more, replies]; rfl,
        session.word, session.unread⟩

/-- A client that stays outside its session does not disturb the one that is open. -/
theorem Serial.outside (serial : Serial number state) (client : App) (point : AppPoint)
    (before : (state.app client).inSession = false) (after : point.inSession = false)
    (result : ∀ value, point = .returned value → rpcSum (number client) = some value) :
    Serial number (state.goto client point) := by
  refine ⟨answered_goto serial.answered client point result, serial.kept, ?_⟩
  rcases serial.session with ⟨outside, idle⟩ | ⟨owner, stage, outside, session⟩
  · left
    refine ⟨?_, idle.server, idle.requests, idle.replies, idle.unread⟩
    exact (Function.forall_update_iff state.app fun _ point => point.inSession = false).mpr
      ⟨after, fun other _ => outside other⟩
  · right
    have different : owner ≠ client := by
      rintro rfl
      rw [session.inside] at before
      cases before
    refine ⟨owner, stage, ?_, ?_, session.atServer, session.requests, session.replies,
      session.word, session.unread⟩
    · intro other distinct
      by_cases same : other = client
      · subst same
        simpa [State.goto] using after
      · simp only [State.goto, Function.update_of_ne same]
        exact outside other distinct
    · simp only [State.goto, Function.update_of_ne different]
      exact session.atClient

/-- A client that writes while no session is open begins its own. -/
theorem Serial.write (serial : Serial number state) (client : App)
    (outside : ∀ other, (state.app other).inSession = false) :
    Serial number (state.write client (number client)) := by
  rcases serial.session with ⟨_, idle⟩ | ⟨owner, stage, _, session⟩
  · refine ⟨answered_goto serial.answered client .semInit1 (by simp), ?_,
      Or.inr ⟨client, .written, ?_, ?_⟩⟩
    · simp [State.write, State.goto, serial.kept, idle.unread]
    · exact outside_goto fun other _ => outside other
    · exact ⟨by simp [State.write, State.goto, Stage.client], idle.server, idle.requests,
        idle.replies, rfl, rfl⟩
  · have inside := session.inside
    rw [outside owner] at inside
    cases inside

/-- Each orderly step of a client keeps the sessions serial. -/
theorem serial_app (serial : Serial number state) (client : App)
    (orderly : Orderly state (.app client)) (step : Step number state (.app client) later) :
    Serial number later := by
  cases step with
  | start _ here => exact serial.outside client .write (by rw [here]; rfl) rfl (by simp)
  | write _ here => exact serial.write client (orderly.alone client rfl here)
  | semInit1 _ here =>
      refine serial.advance client .post rfl rfl (by rw [here]; rfl) rfl ?_
      intro stage session
      obtain rfl := session.stage_of_app (congrArg AppPoint.stage here)
      exact ⟨.written, by simp [State.goto, Stage.client], session.atServer,
        by rw [count_semInit]; exact session.requests, session.replies, session.word, session.unread⟩
  | post _ here semaphore posted =>
      have more := count_semPost posted
      have reset := orderly.reset client rfl here
      refine serial.advance client .semInit2 rfl rfl (by rw [here]; rfl) rfl ?_
      intro stage session
      obtain rfl := session.stage_of_app (congrArg AppPoint.stage here)
      have server : state.rpc.waiting = true := session.atServer
      have none : count state.sema1 = 0 := session.requests
      exact ⟨.posted, by simp [State.goto, Stage.client],
        by simp [Stage.server, State.goto, server, reset], by rw [more, none]; rfl,
        session.replies, session.word, session.unread⟩
  | semInit2 _ here =>
      refine serial.advance client .wait rfl rfl (by rw [here]; rfl) rfl ?_
      intro stage session
      have stands := session.atClient
      rw [here] at stands
      refine ⟨stage, ?_, session.atServer, session.requests,
        by rw [count_semInit]; exact session.replies, session.word, session.unread⟩
      simp only [State.goto, Function.update_self]
      cases stage <;> simp [Stage.client] at stands ⊢
  | wait _ here semaphore passed =>
      have taken := count_semWait passed
      refine serial.advance client .read rfl rfl (by rw [here]; rfl) rfl ?_
      intro stage session
      have stands := session.atClient
      have replies := session.replies
      rw [here] at stands
      rw [← taken] at replies
      cases stage <;> simp [Stage.client, Stage.replies] at stands replies
      exact ⟨.accepted, by simp [State.goto, Stage.client], session.atServer, session.requests,
        replies, session.word, session.unread⟩
  | read _ here =>
      obtain ⟨stage, outside, session⟩ := serial.running client (by rw [here]; rfl)
      obtain rfl := session.stage_of_app (congrArg AppPoint.stage here)
      have answer : rpcSum (number client) = some state.shm := session.word
      have server := session.atServer
      simp only [Stage.server, decide_eq_true_eq] at server
      refine ⟨answered_goto serial.answered client _ ?_, serial.kept, Or.inl ⟨?_, ?_⟩⟩
      · intro value returned
        cases returned
        exact answer
      · exact (Function.forall_update_iff state.app fun _ point => point.inSession = false).mpr
          ⟨rfl, outside⟩
      · exact ⟨by simp [State.goto, server, RpcPoint.waiting], session.requests, session.replies,
          session.unread⟩

/-- Each orderly step keeps the sessions serial. -/
theorem serial_step (serial : Serial number state) {label : Label App}
    (orderly : Orderly state label) (step : Step number state label later) :
    Serial number later := by
  cases label with
  | rpc => exact serial_rpc serial step
  | app client => exact serial_app serial client orderly step
  | exit client => exact absurd rfl (orderly.stays client)

end Steps

end Rpc
