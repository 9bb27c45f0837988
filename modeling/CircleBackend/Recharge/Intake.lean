import CircleBackend.Recharge.Orders

/-!
# The recharge support's inbox

The durable jobs of the messages to a recharge agent. A worker is a run of `processJob`;
each of its statements is a step, any of them may throw, and the process may die between
two. `sweep` gives a job back whose lock is stale, whoever still works on it.
-/

namespace CircleBackend.Recharge.Intake

open Library
open Session (UserId)
open Chat (ConversationId MessageId MessageType Content jsString)

abbrev JobId := Nat
abbrev WorkerId := Nat

def jobMaxAttempts : Nat := 5
def jobStaleMs : Nat := 2 * 60000
def jobBackoffBaseMs : Nat := 2000
def welcomeCooldownMs : Nat := 24 * 60 * 60000

/-! ## The messages -/

/-- With what is read of its conversation. -/
structure IncomingMessage where
  id : MessageId
  conversationID : ConversationId
  senderID : Option UserId
  type : MessageType
  content : Content
  deleted : Bool
  revoked : Bool
  direct : Bool
  directKey : Option (List UserId)
  deriving DecidableEq, Repr

def imageType : MessageType := .other (jsString "image")

/-- `text.trim().toLocaleLowerCase()`, by what the runtime makes of a letter. -/
def normalized (lower : JsString → JsString) (text : JsString) : JsString := lower (trim text)

/-- `words.some((word) => text.includes(word))` -/
def mentions (text : JsString) (words : List JsString) : Bool :=
  words.any fun word => text.tails.any word.isPrefixOf

def requestKeywords : List (RequestKind × List JsString) :=
  [(.coin, [jsString "积分", jsString "元宝", jsString "金币"]),
    (.membership, [jsString "会员", jsString "vip"]),
    (.general, [jsString "充值", jsString "付款", jsString "收款码"])]

def classifyRechargeRequest (lower : JsString → JsString) (text : JsString) :
    Option RequestKind :=
  let normalized := normalized lower text
  if normalized.isEmpty then none
  else if normalized = jsString "1" then some .membership
  else if normalized = jsString "2" then some .coin
  else (requestKeywords.find? fun entry => mentions normalized entry.2).map (·.1)

def asksForHuman (lower : JsString → JsString) (text : JsString) : Bool :=
  let normalized := normalized lower text
  normalized = jsString "3" ||
    mentions normalized [jsString "人工", jsString "真人客服", jsString "转人工"]

def resumesAutomation (lower : JsString → JsString) (text : JsString) : Bool :=
  mentions (normalized lower text) [jsString "重新开始", jsString "自动服务"]

def messageText (message : IncomingMessage) : JsString :=
  match message.content.field Chat.textField with
  | some (.string text) => text
  | _ => []

def messageObjectKey (message : IncomingMessage) : Option JsString :=
  match message.content.field (jsString "key") with
  | some (.string key) => if (jsString "chat/").isPrefixOf key then some key else none
  | _ => none

/-- The agent of a message that `handleIncoming` goes on with. -/
def IncomingMessage.agent (message : IncomingMessage) : Option UserId :=
  if message.senderID.isNone || message.deleted || message.revoked || !message.direct then none
  else message.directKey.bind fun ids => ids.find? fun id => some id ≠ message.senderID

/-- `key.split('.').pop()?.toLowerCase() || 'png'` -/
def extension (lower : JsString → JsString) (key : JsString) : JsString :=
  let last := lower (key.reverse.takeWhile (· ≠ 46)).reverse
  if last.isEmpty then jsString "png" else last

def evidenceKey (lower : JsString → JsString) (orderId : OrderId) (message : MessageId)
    (key : JsString) : JsString :=
  jsString "support-recharge/evidence/" ++ jsString (toString orderId) ++ jsString "/" ++
    jsString (toString message) ++ jsString "." ++ extension lower key

/-! ## The rows -/

inductive JobStatus
  | pending
  | processing
  | completed
  | failed
  deriving DecidableEq, Repr

structure SupportRechargeJob where
  id : JobId
  sourceMessageID : MessageId
  status : JobStatus
  attempts : Nat
  nextAttemptAt : Time
  lockedAt : Option Time
  deriving DecidableEq, Repr

inductive Mode
  | bot
  | human
  deriving DecidableEq, Repr

structure ConversationState where
  conversationID : ConversationId
  userID : UserId
  agentUserID : UserId
  mode : Mode
  lastWelcomeAt : Option Time
  deriving DecidableEq, Repr

abbrev Jobs := Table SupportRechargeJob JobId (·.id)

def active (order : SupportRechargeOrder) : Bool :=
  order.status = .awaitingProof || order.status = .waitingReview || order.status = .processing

/-! ## A worker -/

/-- The statement that comes next. -/
inductive Stage
  | claimed
  | source
  | agent (message : IncomingMessage) (agentUserID : UserId)
  | state (message : IncomingMessage) (agentUserID : UserId)
  | resume (message : IncomingMessage) (agentUserID : UserId) (lastWelcomeAt : Option Time)
  | handover (message : IncomingMessage)
  | welcome (message : IncomingMessage) (now : Time)
  | code (message : IncomingMessage) (agentUserID : UserId) (kind : RequestKind)
  | finding (message : IncomingMessage) (agentUserID : UserId) (kind : RequestKind) (now : Time)
  | replaying (message : IncomingMessage) (agentUserID : UserId) (kind : RequestKind) (now : Time)
  | inserting (message : IncomingMessage) (agentUserID : UserId) (kind : RequestKind) (now : Time)
      (attempt : Nat)
  | refinding (message : IncomingMessage) (agentUserID : UserId) (kind : RequestKind) (now : Time)
      (attempt : Nat)
  | proof (message : IncomingMessage) (key : JsString)
  | review (message : IncomingMessage) (key : JsString)
  | attaching (message : IncomingMessage) (key : JsString) (order : SupportRechargeOrder)
  | completing
  | failing
  | stopped
  deriving DecidableEq, Repr

/-- A run of `processJob` that has its job. -/
structure Worker where
  id : WorkerId
  job : JobId
  source : MessageId
  attempts : Nat
  stage : Stage
  deriving DecidableEq, Repr

structure State where
  core : Recharge.State
  messages : Table IncomingMessage MessageId (·.id)
  jobs : Jobs
  conversations : Table ConversationState ConversationId (·.conversationID)
  agents : List UserId
  codeEnabled : Bool
  workers : Table Worker WorkerId (·.id)
  /-- The images that have advanced an order, with the order. -/
  advanced : List (MessageId × OrderId)

namespace State

def clock (s : State) : Time := s.core.clock

def orders (s : State) : Orders := s.core.db.orders

def setOrders (s : State) (orders : Orders) : State :=
  { s with core := { s.core with db := { s.core.db with orders := orders } } }

end State

section Work

variable (lower : JsString → JsString)

/-- The branch of a text by its kind. -/
def classified (now : Time) (message : IncomingMessage) (agentUserID : UserId)
    (lastWelcomeAt : Option Time) : Stage :=
  match classifyRechargeRequest lower (messageText message) with
  | some .coin => .code message agentUserID .coin
  | some .membership => .code message agentUserID .membership
  | some .general => .welcome message now
  | none =>
    if lastWelcomeAt.any fun last => now < last + welcomeCooldownMs then .completing
    else .welcome message now

/-- The branch of a message in a conversation with a state. -/
def handled (now : Time) (message : IncomingMessage) (agentUserID : UserId)
    (state : ConversationState) : Stage :=
  if state.mode = .human ∧ message.type = imageType then .completing
  else if message.type = imageType then
    (messageObjectKey message).elim .completing (.proof message)
  else if !message.type.textual then .completing
  else if resumesAutomation lower (messageText message) then
    .resume message agentUserID state.lastWelcomeAt
  else if asksForHuman lower (messageText message) then .handover message
  else if state.mode = .human then .completing
  else classified lower now message agentUserID state.lastWelcomeAt

/-- What is answered for an order. -/
def started (message : IncomingMessage) (now : Time) (order : SupportRechargeOrder) : Stage :=
  if order.status = .waitingReview ∨ order.status = .processing then .completing
  else .welcome message now

def activeOf (s : State) (message : IncomingMessage) (p : SupportRechargeOrder → Bool) :
    Option SupportRechargeOrder :=
  s.orders.findFirst
    (fun order => order.conversationID = message.conversationID &&
      some order.userID = message.senderID && p order)
    fun a b => b.createdAt < a.createdAt

def bySource (s : State) (message : IncomingMessage) : Option SupportRechargeOrder :=
  s.orders.rows.find? fun order => order.sourceMessageID = message.id

def ConversationState.setMode (mode : Mode) (state : ConversationState) : ConversationState :=
  { state with mode := mode }

def ConversationState.welcomed (now : Time) (state : ConversationState) : ConversationState :=
  { state with lastWelcomeAt := some now }

def State.update (s : State) (id : ConversationId) (f : ConversationState → ConversationState) :
    State :=
  match s.conversations.find id with
  | some state => { s with conversations := s.conversations.put (f state) }
  | none => s

/-- A statement that changes no order and no job, and what comes next. -/
def reads (s : State) (w : Worker) : Stage → Option (State × Stage)
  | .source =>
    match s.messages.find w.source with
    | some message => some (s, message.agent.elim .completing (.agent message))
    | none => some (s, .completing)
  | .agent message a => some (s, if a ∈ s.agents then .state message a else .completing)
  | .state message a =>
    let state :=
      { ((s.conversations.find message.conversationID).getD
          { conversationID := message.conversationID, userID := 0, agentUserID := 0, mode := .bot,
            lastWelcomeAt := none }) with
        userID := message.senderID.getD 0
        agentUserID := a }
    some ({ s with conversations := s.conversations.set state },
      handled lower s.clock message a state)
  | .resume message a lastWelcomeAt =>
    some (s.update message.conversationID (.setMode .bot),
      classified lower s.clock message a lastWelcomeAt)
  | .handover message => some (s.update message.conversationID (.setMode .human), .completing)
  | .welcome message now => some (s.update message.conversationID (.welcomed now), .completing)
  | .code message a kind =>
    some (s, if s.codeEnabled then .finding message a kind s.clock else .handover message)
  | .finding message a kind now =>
    match activeOf s message active with
    | some order =>
      if order.status = .awaitingProof ∧ order.sourceMessageID ≠ message.id then some (s, .completing)
      else some (s, started message now order)
    | none => some (s, .replaying message a kind now)
  | .replaying message a kind now =>
    some (s, (bySource s message).elim (.inserting message a kind now 0) (started message now))
  | .refinding message a kind now attempt =>
    some (s, (bySource s message).elim
      (if attempt = 2 then .failing else .inserting message a kind now (attempt + 1))
      (started message now))
  | .proof message key =>
    some (s, (activeOf s message fun order => order.status = .awaitingProof).elim
      (.review message key) (.attaching message key))
  | .review message key =>
    match activeOf s message fun order =>
      order.status = .waitingReview || order.status = .processing with
    | some order =>
      some (s, if order.status = .processing then .completing else .attaching message key order)
    | none => some (s, .completing)
  | _ => none

/-- What a throw comes to. Only the `create` has a `catch` of its own. -/
def Stage.thrown : Stage → Stage
  | .inserting message a kind now attempt => .refinding message a kind now attempt
  | .claimed | .failing | .stopped => .stopped
  | _ => .failing

def opening (message : IncomingMessage) (agentUserID : UserId) (kind : RequestKind) (id : OrderId)
    (orderNo : JsString) : Opening where
  id := id
  orderNo := orderNo
  conversationID := message.conversationID
  userID := message.senderID.getD 0
  agentUserID := agentUserID
  sourceMessageID := message.id
  requestKind := kind

def SupportRechargeJob.settle (job : SupportRechargeJob) (status : JobStatus)
    (nextAttemptAt : Time) : SupportRechargeJob :=
  { job with status := status, lockedAt := none, nextAttemptAt := nextAttemptAt }

def backoff (attempts : Nat) : Nat := min (jobBackoffBaseMs * 2 ^ (attempts - 1)) 60000

/-- The next statement of a worker, with the id and the number of an order that it
creates. -/
def work (s : State) (w : Worker) (id : OrderId) (orderNo : JsString) :
    Option (State × Worker) :=
  match w.stage with
  | .claimed =>
    match s.jobs.find w.job with
    | some job => some (s, { w with
        source := job.sourceMessageID, attempts := job.attempts, stage := .source })
    | none => some (s, { w with stage := .stopped })
  | .inserting message a kind now attempt =>
    match createOrder s.core.db s.clock (opening message a kind id orderNo) with
    | some db =>
      some ({ s with core := { s.core with db := db } },
        { w with stage := .welcome message now })
    | none => some (s, { w with stage := .refinding message a kind now attempt })
  | .attaching message key order =>
    match acceptEvidence s.core.db s.clock order.id order.status message.id
      (evidenceKey lower order.id message.id key) with
    | some db =>
      -- `changed.count === 1`
      let changed := (s.orders.find order.id).any (·.status = order.status)
      let advanced := if changed then (message.id, order.id) :: s.advanced else s.advanced
      some ({ s with core := { s.core with db := db }, advanced := advanced },
        { w with stage := .completing })
    | none => some (s, { w with stage := .failing })
  | .completing =>
    match s.jobs.find w.job with
    | some job =>
      some ({ s with jobs := s.jobs.put (job.settle .completed job.nextAttemptAt) },
        { w with stage := .stopped })
    | none => some (s, { w with stage := .failing })
  | .failing =>
    match s.jobs.find w.job with
    | some job =>
      let status := if jobMaxAttempts ≤ w.attempts then .failed else .pending
      some ({ s with jobs := s.jobs.put (job.settle status (s.clock + backoff w.attempts)) },
        { w with stage := .stopped })
    | none => some (s, { w with stage := .stopped })
  | .stopped => none
  | stage => (reads lower s w stage).map fun result => (result.1, { w with stage := result.2 })

end Work

/-! ## The whole -/

inductive Act
  /-- A message and its job are written together. -/
  | receive (message : IncomingMessage) (job : JobId)
  | remove (message : MessageId)
  | sweep (now : Time)
  | claim (w : WorkerId) (job : JobId) (lockedAt : Time)
  | work (w : WorkerId) (id : OrderId) (orderNo : JsString)
  | throws (w : WorkerId)
  | crash (w : WorkerId)
  /-- A step of an approval, or of anything else but the intake. -/
  | core (act : Recharge.Act)
  | configure (agents : List UserId) (codeEnabled : Bool)

def SupportRechargeJob.stale (now : Time) (job : SupportRechargeJob) : Bool :=
  job.status = .processing && job.lockedAt.any fun locked => locked + jobStaleMs < now

def SupportRechargeJob.reset (now : Time) (job : SupportRechargeJob) : SupportRechargeJob :=
  { job with status := .pending, lockedAt := none, nextAttemptAt := now }

theorem reset_id (now : Time) (job : SupportRechargeJob) : (job.reset now).id = job.id := rfl

def SupportRechargeJob.due (lockedAt : Time) (job : SupportRechargeJob) : Bool :=
  job.status = .pending && job.nextAttemptAt ≤ lockedAt

def SupportRechargeJob.claim (lockedAt : Time) (job : SupportRechargeJob) : SupportRechargeJob :=
  { job with status := .processing, lockedAt := some lockedAt, attempts := job.attempts + 1 }

def IncomingMessage.remove (message : IncomingMessage) : IncomingMessage :=
  { message with deleted := true }

/-- Whether an act is of the approvals, and of none of the orders' intake. -/
def outside : Recharge.Act → Bool
  | .create _ | .evidence _ _ _ _ => false
  | _ => true

def State.next (lower : JsString → JsString) (s : State) : Act → Option State
  | .receive message job =>
    if s.jobs.rows.any (·.sourceMessageID = message.id) then none
    else
      (s.messages.insert message).bind fun messages =>
        (s.jobs.insert
          { id := job
            sourceMessageID := message.id
            status := .pending
            attempts := 0
            nextAttemptAt := s.clock
            lockedAt := none }).map fun jobs => { s with messages := messages, jobs := jobs }
  | .remove message =>
    (s.messages.find message).map fun message =>
      { s with messages := s.messages.put message.remove }
  | .sweep now =>
    if now ≤ s.clock then
      some { s with jobs := s.jobs.updateMany (·.stale now) (·.reset now) (reset_id now) }
    else none
  | .claim w job lockedAt =>
    if lockedAt ≤ s.clock then
      ((s.jobs.find job).filter (·.due lockedAt)).bind fun job =>
        (s.workers.insert { id := w, job := job.id, source := 0, attempts := 0, stage := .claimed }).map
          fun workers => { s with jobs := s.jobs.put (job.claim lockedAt), workers := workers }
    else none
  | .work w id orderNo =>
    (s.workers.find w).bind fun worker =>
      (work lower s worker id orderNo).map fun result =>
        { result.1 with workers := s.workers.put result.2 }
  | .throws w =>
    (s.workers.find w).map fun worker =>
      { s with workers := s.workers.put { worker with stage := worker.stage.thrown } }
  | .crash w =>
    (s.workers.find w).map fun worker =>
      { s with workers := s.workers.put { worker with stage := .stopped } }
  | .core act =>
    if outside act then (s.core.next act).map fun core => { s with core := core } else none
  | .configure agents codeEnabled =>
    some { s with agents := agents, codeEnabled := codeEnabled }

def Step (lower : JsString → JsString) (s : State) (act : Act) (t : State) : Prop :=
  s.next lower act = some t

def State.empty : State where
  core := .empty
  messages := .empty
  jobs := .empty
  conversations := .empty
  agents := []
  codeEnabled := false
  workers := .empty
  advanced := []

end CircleBackend.Recharge.Intake
