import CircleBackend.Chat.Quotes
import CircleBackend.Friends.Requests
import CircleBackend.Library.Table
import CircleBackend.Library.Transition

/-!
# The replay of a friend request

What the two wrote before the request was accepted is written into their conversation by
a durable job. The transactions on a request hold its advisory lock and are one step
each; a worker of the job is a statement a step. What a worker knows of the job is the
snapshot that it was called with, however old that is when it claims.
-/

namespace CircleBackend.Friends.Replay

open Library
open Session (UserId)
open Chat (jsString)

abbrev MessageId := Nat
abbrev WorkerId := Nat

def replayStaleLockMs : Nat := 5 * 60 * 1000
def replayMaxBackoffMs : Nat := 30 * 60 * 1000
def friendRequestMessageMaxLength : Nat := 500

def acceptedReply : JsString := jsString "我通过了你的好友请求，现在开始聊天吧"

/-! ## The rows -/

structure Request where
  id : RequestId
  userID : UserId
  friendID : UserId
  state : FriendState
  message : Option JsString
  deriving DecidableEq, Repr

structure FriendRequestMessage where
  id : MessageId
  requestId : RequestId
  senderId : UserId
  content : JsString
  createdAt : Time
  deriving DecidableEq, Repr

inductive JobStatus
  | pending
  | processing
  | failed
  | completed
  deriving DecidableEq, Repr

/-- The lease token is the worker that drew it. -/
structure ReplayJob where
  requestId : RequestId
  requesterUserID : UserId
  accepterUserID : UserId
  status : JobStatus
  stage : Nat
  messageIndex : Nat
  attempts : Nat
  nextAttemptAt : Time
  lockedAt : Option Time
  leaseToken : Option WorkerId
  deriving DecidableEq, Repr

/-- A `clientMessageId`. -/
inductive ClientMessageId
  | thread (request : RequestId) (message : MessageId)
  | greeting (request : RequestId)
  | accepted (request : RequestId)
  | other (n : Nat)
  deriving DecidableEq, Repr

def ClientMessageId.about (request : RequestId) : ClientMessageId → Bool
  | .thread r _ | .greeting r | .accepted r => r = request
  | .other _ => false

/-- The messages of a conversation have the order of their heights. -/
structure ChatMessage where
  conversation : UserId × UserId
  senderID : UserId
  clientMessageId : ClientMessageId
  text : JsString
  deriving DecidableEq, Repr

def directKey (a b : UserId) : UserId × UserId := (min a b, max a b)

/-! ## A worker -/

/-- The statement that comes next. -/
inductive Stage
  | claiming
  | first
  | second
  | reading
  | message (thread : List FriendRequestMessage) (index : Nat)
  | persisting (thread : List FriendRequestMessage) (index : Nat)
  | greeting (text : JsString)
  | closing
  | accepting
  | completing
  | failing
  | ended
  deriving DecidableEq, Repr

structure Worker where
  id : WorkerId
  job : ReplayJob
  stage : Stage
  deriving DecidableEq, Repr

structure State where
  clock : Time
  requests : Table Request RequestId (·.id)
  messages : Table FriendRequestMessage MessageId (·.id)
  outbox : Table ReplayJob RequestId (·.requestId)
  chat : List ChatMessage
  names : UserId → JsString
  workers : Table Worker WorkerId (·.id)
  /-- What the workers have found of the greetings: whether they are blocked. -/
  verdicts : List (RequestId × Bool)

def FriendRequestMessage.before (a b : FriendRequestMessage) : Bool :=
  a.createdAt < b.createdAt || a.createdAt = b.createdAt && a.id ≤ b.id

/-- `orderBy: [{ createdAt: 'asc' }, { id: 'asc' }]` -/
def State.thread (s : State) (request : RequestId) : List FriendRequestMessage :=
  (s.messages.rows.filter (·.requestId = request)).insertionSort fun a b => a.before b = true

def insertServerMessage (chat : List ChatMessage) (message : ChatMessage) : List ChatMessage :=
  if chat.any fun other => other.conversation = message.conversation &&
      other.senderID = message.senderID && other.clientMessageId = message.clientMessageId then chat
  else chat ++ [message]

def ReplayJob.conversation (job : ReplayJob) : UserId × UserId :=
  directKey job.requesterUserID job.accepterUserID

def ReplayJob.line (job : ReplayJob) (message : FriendRequestMessage) : ChatMessage where
  conversation := job.conversation
  senderID := message.senderId
  clientMessageId := .thread job.requestId message.id
  text := message.content

def ReplayJob.greetingLine (job : ReplayJob) (text : JsString) : ChatMessage where
  conversation := job.conversation
  senderID := job.requesterUserID
  clientMessageId := .greeting job.requestId
  text := text

def ReplayJob.acceptedLine (job : ReplayJob) : ChatMessage where
  conversation := job.conversation
  senderID := job.accepterUserID
  clientMessageId := .accepted job.requestId
  text := acceptedReply

def backoff (attempts : Nat) : Nat := min replayMaxBackoffMs (60000 * 2 ^ (attempts - 1))

/-- The row of a job, if a worker still has it. -/
def State.held (s : State) (w : Worker) : Option ReplayJob :=
  (s.outbox.find w.job.requestId).filter fun job =>
    job.leaseToken = some w.id && job.status = .processing

def State.goto (s : State) (w : Worker) (stage : Stage) : State :=
  { s with workers := s.workers.put { w with stage := stage } }

/-- `persistProgress`; it throws where the lease is lost. -/
def State.persist (s : State) (w : Worker) (stage : Nat) (messageIndex : Option Nat)
    (next : Stage) : State :=
  match s.held w with
  | some job =>
    { s.goto w next with
      outbox := s.outbox.put { job with
        stage := stage, messageIndex := messageIndex.getD job.messageIndex, lockedAt := some s.clock } }
  | none => s.goto w .failing

/-- The `where` of the claim. -/
def ReplayJob.claimable (job snapshot : ReplayJob) : Bool :=
  job.status = snapshot.status &&
    (snapshot.status ≠ .processing || job.lockedAt = snapshot.lockedAt)

/-- `job.stage` as the worker goes on with it. -/
def begun (job : ReplayJob) : Stage :=
  if job.stage = 0 then .first else if job.stage = 1 then .second else .reading

def nonempty (text : JsString) : Option JsString := if text.isEmpty then none else some text

/-- `request?.message?.trim() || 我是{name}`; the name is the `displayName`. -/
def greetingOf (message : Option JsString) (name : JsString) : JsString :=
  ((message.map trim).bind nonempty).getD (jsString "我是" ++ name)

section Work

variable (blocked : JsString → Bool)

def State.work (s : State) (w : Worker) : Option State :=
  match w.stage with
  | .claiming =>
    some <| match (s.outbox.find w.job.requestId).filter (·.claimable w.job) with
    | some job =>
      { s.goto w (begun w.job) with
        outbox := s.outbox.put { job with
          status := .processing, leaseToken := some w.id, lockedAt := some s.clock } }
    | none => s.goto w .ended
  | .first => some (s.persist w 1 none .second)
  | .second => some (s.persist w 2 none .reading)
  | .reading =>
    if w.job.stage ≤ 2 then
      let thread := s.thread w.job.requestId
      if thread.isEmpty then
        let text := greetingOf ((s.requests.find w.job.requestId).bind (·.message))
          (s.names w.job.requesterUserID)
        let stage := if blocked text then .closing else .greeting text
        some { s.goto w stage with verdicts := (w.job.requestId, blocked text) :: s.verdicts }
      else some (s.goto w (.message thread w.job.messageIndex))
    else some (s.goto w .accepting)
  | .message thread index =>
    some <| match thread[index]? with
    | some message =>
      let next := s.goto w (.persisting thread index)
      if blocked message.content then next
      else { next with chat := insertServerMessage s.chat (w.job.line message) }
    | none => s.goto w .closing
  | .persisting thread index => some (s.persist w 2 (some (index + 1)) (.message thread (index + 1)))
  | .greeting text =>
    some { s.goto w .closing with chat := insertServerMessage s.chat (w.job.greetingLine text) }
  | .closing => some (s.persist w 3 none .accepting)
  | .accepting =>
    some { s.goto w .completing with chat := insertServerMessage s.chat w.job.acceptedLine }
  | .completing =>
    some <| match s.held w with
    | some job =>
      { s.goto w .ended with
        outbox := s.outbox.put { job with
          status := .completed, stage := 4, lockedAt := none, leaseToken := none } }
    | none => s.goto w .ended
  | .failing =>
    some <| match s.held w with
    | some job =>
      { s.goto w .ended with
        outbox := s.outbox.put { job with
          status := .failed
          attempts := job.attempts + 1
          nextAttemptAt := s.clock + backoff (w.job.attempts + 1)
          lockedAt := none
          leaseToken := none } }
    | none => s.goto w .ended
  | .ended => none

end Work

/-! ## The whole -/

def Request.open' (request : Request) : Bool := request.state = .pending

/-- Of `appendRequestMessage`: the caps of the thread. -/
def mayAppend (thread : List FriendRequestMessage) (request : Request) (userId : UserId) : Bool :=
  let count (p : FriendRequestMessage → Bool) := thread.countP p
  (request.userID = userId || request.friendID = userId) && request.open' &&
    decide (thread.length < friendRequestMessageTotalCap) &&
    (request.userID ≠ userId || count (·.senderId = request.friendID) ≠ 0 ||
      decide (count (·.senderId = request.userID) < friendRequestMessageSenderSoftCap))

def replayJob (request : Request) (accepterUserID : UserId) (now : Time) : ReplayJob where
  requestId := request.id
  requesterUserID := request.userID
  accepterUserID := accepterUserID
  status := .pending
  stage := 0
  messageIndex := 0
  attempts := 0
  nextAttemptAt := now
  lockedAt := none
  leaseToken := none

/-- Whether `processRequest` or `processPending` may find a job. -/
def ReplayJob.due (job : ReplayJob) (now : Time) : Bool :=
  match job.status with
  | .pending => true
  | .failed => job.nextAttemptAt ≤ now
  | .processing => job.lockedAt.any fun locked => locked + replayStaleLockMs < now
  | .completed => false

inductive Act
  | send (id : RequestId) (senderId targetId : UserId) (message : Option JsString)
      (seed : MessageId)
  | append (userId : UserId) (id : RequestId) (message : MessageId) (content : JsString)
      (createdAt : Time)
  | handle (recipientId : UserId) (id : RequestId) (decision : Decision)
  | cancel (senderId : UserId) (id : RequestId)
  | look (w : WorkerId) (id : RequestId)
  | work (w : WorkerId)
  | throws (w : WorkerId)
  | crash (w : WorkerId)
  | rename (id : UserId) (name : JsString)
  /-- Another message of the two. -/
  | chat (conversation : UserId × UserId) (senderID : UserId) (n : Nat) (text : JsString)
  | tick (now : Time)
  deriving DecidableEq, Repr

/-- What a throw comes to; the claim is outside of the `try`. -/
def Stage.thrown : Stage → Stage
  | .claiming | .failing | .ended => .ended
  | _ => .failing

section Next

variable (blocked : JsString → Bool)

def State.next (s : State) : Act → Option State
  | .send id senderId targetId message seed =>
    if senderId = targetId then none
    else (s.requests.insert ⟨id, senderId, targetId, .pending, message⟩).bind fun requests =>
      match (message.map trim).bind nonempty with
      | some content =>
        (s.messages.insert ⟨seed, id, senderId, content, s.clock⟩).map fun messages =>
          { s with requests := requests, messages := messages }
      | none => some { s with requests := requests }
  | .append userId id message content createdAt =>
    let content := trim content
    if content.isEmpty || friendRequestMessageMaxLength < content.length then none
    else
      ((s.requests.find id).filter fun request => mayAppend (s.thread id) request userId).bind
        fun _ => (s.messages.insert ⟨message, id, userId, content, createdAt⟩).map fun messages =>
          { s with messages := messages }
  | .handle recipientId id decision =>
    ((s.requests.find id).filter fun request =>
      request.friendID = recipientId && request.open').map fun request =>
      let requests := s.requests.put { request with state := decision.state }
      match decision with
      | .rejected => { s with requests := requests }
      | .accepted =>
        { s with requests := requests, outbox := s.outbox.set (replayJob request recipientId s.clock) }
  | .cancel senderId id =>
    ((s.requests.find id).filter fun request =>
      request.userID = senderId && request.open').map fun request =>
      { s with requests := s.requests.put { request with state := .withdrawn } }
  | .look w id =>
    ((s.outbox.find id).filter (·.due s.clock)).bind fun job =>
      (s.workers.insert ⟨w, job, .claiming⟩).map fun workers => { s with workers := workers }
  | .work w => (s.workers.find w).bind (s.work blocked)
  | .throws w => (s.workers.find w).map fun worker => s.goto worker worker.stage.thrown
  | .crash w => (s.workers.find w).map fun worker => s.goto worker .ended
  | .rename id name => some { s with names := fun user => if user = id then name else s.names user }
  | .chat conversation senderID n text =>
    some { s with chat := insertServerMessage s.chat ⟨conversation, senderID, .other n, text⟩ }
  | .tick now => if s.clock ≤ now then some { s with clock := now } else none

def Step (s : State) (act : Act) (t : State) : Prop := s.next blocked act = some t

end Next

def State.empty : State where
  clock := 0
  requests := .empty
  messages := .empty
  outbox := .empty
  chat := []
  names _ := []
  workers := .empty
  verdicts := []

end CircleBackend.Friends.Replay
