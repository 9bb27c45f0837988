import CircleBackend.Chat.Quotes
import CircleBackend.Library.Grouping
import CircleBackend.Push.Tokens

/-!
# The push outbox

One notification with its outbox row, its deliveries, and the calls of
`processPending` and `pollReceipts` that have it in a batch. Each statement is a step
of its own, and so are the requests to the push provider and their answers.
-/

namespace CircleBackend.Push.Outbox

open Library
open Session (UserId)
open Chat (jsString)

abbrev RunId := Nat
abbrev PollId := Nat
abbrev TicketId := JsString

def deliveryMaxAttempts : Nat := 5
def staleLockMs : Nat := 10 * 60 * 1000
def receiptMinAgeMs : Nat := 15 * 60 * 1000
def receiptMaxAgeMs : Nat := 24 * 60 * 60 * 1000
def maxActiveTokensPerProvider : Nat := 20
def maxErrorLength : Nat := 1000

/-! ## The rows -/

inductive OutboxStatus
  | pending
  | processing
  | completed
  | failed
  | terminal
  deriving DecidableEq, Repr

inductive CompletionReason
  | circlePushDisabled
  | noActiveDevice
  | announcementDeleted
  deriving DecidableEq, Repr

structure NotificationPushOutbox where
  status : OutboxStatus
  leaseToken : Option RunId
  attempts : Nat
  lastError : Option JsString
  nextAttemptAt : Time
  lockedAt : Option Time
  completionReason : Option CompletionReason
  processedAt : Option Time
  deriving DecidableEq, Repr

inductive DeliveryStatus
  | pending
  | sent
  | confirmed
  | failed
  | terminal
  deriving DecidableEq, Repr

/-- A delivery of the notification is named by its token. -/
structure NotificationPushDelivery where
  token : Token
  ticketID : Option TicketId
  status : DeliveryStatus
  lastError : Option JsString
  attempts : Nat
  sentAt : Option Time
  receiptCheckedAt : Option Time
  deriving DecidableEq, Repr

abbrev Deliveries := Table NotificationPushDelivery Token (·.token)

namespace NotificationPushDelivery

def unsettled (d : NotificationPushDelivery) : Bool := d.status = .pending || d.status = .failed

def retriable (d : NotificationPushDelivery) : Bool :=
  d.unsettled && d.attempts < deliveryMaxAttempts

def exhausted (d : NotificationPushDelivery) : Bool :=
  d.status = .failed && deliveryMaxAttempts ≤ d.attempts

def awaiting (d : NotificationPushDelivery) : Bool := d.status = .sent

def receiptDue (now : Time) (d : NotificationPushDelivery) : Bool :=
  d.awaiting && d.ticketID.isSome && d.sentAt.any fun at' => at' + receiptMinAgeMs ≤ now

def receiptExpired (now : Time) (d : NotificationPushDelivery) : Bool :=
  d.sentAt.any fun at' => at' + receiptMaxAgeMs < now

def create (token : Token) : NotificationPushDelivery where
  token := token
  ticketID := none
  status := .pending
  lastError := none
  attempts := 0
  sentAt := none
  receiptCheckedAt := none

def settle (status : DeliveryStatus) (lastError : Option JsString) (d : NotificationPushDelivery) :
    NotificationPushDelivery :=
  { d with status := status, lastError := lastError }

theorem settle_token (status : DeliveryStatus) (lastError : Option JsString)
    (d : NotificationPushDelivery) : (d.settle status lastError).token = d.token := rfl

def receipt (status : DeliveryStatus) (now : Time) (lastError : Option JsString)
    (d : NotificationPushDelivery) : NotificationPushDelivery :=
  { d with status := status, receiptCheckedAt := some now, lastError := lastError }

theorem receipt_token (status : DeliveryStatus) (now : Time) (lastError : Option JsString)
    (d : NotificationPushDelivery) : (d.receipt status now lastError).token = d.token := rfl

end NotificationPushDelivery

open NotificationPushDelivery (settle_token receipt_token)

/-- `createMany` with `skipDuplicates`. -/
def createDeliveries (deliveries : Deliveries) (tokens : List Token) : Deliveries :=
  tokens.foldl (fun t k => (t.insert (.create k)).getD t) deliveries

/-! ## The statements on the outbox row -/

namespace NotificationPushOutbox

variable (o : NotificationPushOutbox)

def claimable (now : Time) : Bool :=
  o.status = .pending || (o.status = .failed && o.nextAttemptAt ≤ now) ||
    (o.status = .processing && o.lockedAt.any fun locked => locked + staleLockMs < now)

def claim (leaseToken : RunId) (now : Time) : NotificationPushOutbox :=
  { o with
    status := .processing
    leaseToken := some leaseToken
    lockedAt := some now
    attempts := o.attempts + 1 }

def heldBy (leaseToken : RunId) : Bool :=
  o.leaseToken = some leaseToken && o.status = .processing

def finishJob (leaseToken : RunId) (now : Time) (status : OutboxStatus)
    (completionReason : Option CompletionReason) : NotificationPushOutbox :=
  if o.heldBy leaseToken then
    { o with
      status := status
      completionReason := completionReason
      processedAt := some now
      lockedAt := none
      leaseToken := none
      lastError := none }
  else o

/-- `attempts` is that of the row as it was loaded, and one more. -/
def failJob (leaseToken : RunId) (now : Time) (attempts : Nat) (error : JsString) :
    NotificationPushOutbox :=
  if o.heldBy leaseToken then
    { o with
      status := .failed
      lockedAt := none
      leaseToken := none
      lastError := some (error.take maxErrorLength)
      nextAttemptAt := now + min (60 * 60 * 1000) (2 ^ min attempts 10 * 1000) }
  else o

def reopen (now : Time) : NotificationPushOutbox :=
  if o.status = .completed then { o with status := .pending, nextAttemptAt := now } else o

def exhaust : NotificationPushOutbox :=
  if o.status = .completed then
    { o with status := .terminal, lastError := some (jsString "delivery-attempts-exhausted") }
  else o

def remove : NotificationPushOutbox :=
  if o.status = .pending ∨ o.status = .failed ∨ o.status = .processing then
    { o with
      status := .terminal
      completionReason := some .announcementDeleted
      leaseToken := none
      lockedAt := none }
  else o

end NotificationPushOutbox

/-! ## The answers of the provider -/

inductive OutcomeStatus
  | sent
  | retryable
  | terminal
  deriving DecidableEq, Repr

structure TokenDeliveryOutcome where
  token : Token
  status : OutcomeStatus
  ticketId : Option TicketId
  receiptFinal : Bool
  error : Option JsString
  deriving DecidableEq, Repr

/-- What an outcome writes. Two outcomes have one key exactly if they write the same. -/
inductive OutcomeWrite
  | sent (receiptFinal : Bool) (ticketID : Option TicketId)
  | failed (terminal : Bool) (lastError : JsString)
  deriving DecidableEq, Repr

def deliveryOutcomeWrite (outcome : TokenDeliveryOutcome) : OutcomeWrite :=
  if outcome.status = .sent then .sent outcome.receiptFinal outcome.ticketId
  else
    let terminal := outcome.status = .terminal
    let given := outcome.error.getD (jsString (if terminal then "terminal" else "retryable"))
    .failed terminal (given.take maxErrorLength)

def OutcomeWrite.apply (sentAt : Time) (d : NotificationPushDelivery) :
    OutcomeWrite → NotificationPushDelivery
  | .sent receiptFinal ticketID =>
    { d with
      status := if receiptFinal then .confirmed else .sent
      ticketID := ticketID
      sentAt := some sentAt
      receiptCheckedAt := if receiptFinal then some sentAt else d.receiptCheckedAt
      attempts := d.attempts + 1
      lastError := none }
  | .failed terminal lastError =>
    { d with
      status := if terminal then .terminal else .failed
      attempts := d.attempts + 1
      lastError := some lastError }

theorem OutcomeWrite.apply_token (write : OutcomeWrite) (sentAt : Time)
    (d : NotificationPushDelivery) : (write.apply sentAt d).token = d.token := by
  cases write <;> rfl

structure ExpoPushReceipt where
  ok : Bool
  error : Option JsString
  deriving DecidableEq, Repr

def terminalTokenErrors : List JsString := [jsString "DeviceNotRegistered"]

/-! ## The calls -/

/-- What a call of `processPending` has of the notification. -/
inductive Stage
  | loaded
  | claimed
  | listed (tokens : List Token)
  | created (tokens : List Token)
  | selected (tokens : List Token) (retriableDeliveries : List Token)
  | counting (tokens : List Token) (exhausted awaitingReceipt : Option Nat)
  | rechecking (pendingDeliveries : List Token)
  | cancelling
  | sending (pendingDeliveries started : List Token) (outcomes : List TokenDeliveryOutcome)
  | writing (writes : List (OutcomeWrite × List Token)) (sentAt : Time) (retryable : Nat)
  | ended
  deriving DecidableEq, Repr

structure Worker where
  leaseToken : RunId
  /-- Of the row as it was loaded. -/
  attempts : Nat
  claimedAt : Option Time
  stage : Stage
  deriving DecidableEq, Repr

inductive PollStage
  | expiring (expired pending : List NotificationPushDelivery)
  | asking (pending : List NotificationPushDelivery) (settled : Bool)
  | judging (pending : List NotificationPushDelivery) (receipts : List (TicketId × ExpoPushReceipt))
      (confirmedIDs : List Token) (terminalIDs : List (JsString × Token)) (settled : Bool)
  | burying (terminalIDsByError : List (JsString × List Token)) (settled : Bool)
  | reconciling (stillAwaiting exhausted : Option Bool)
  | ended
  deriving DecidableEq, Repr

structure Poll where
  id : PollId
  now : Time
  stage : PollStage
  deriving DecidableEq, Repr

/-- The notification, of which nothing changes but `deleted`. -/
structure Notification where
  toUserID : UserId
  /-- Whether it has a `systemAnnouncementID`. -/
  announced : Bool
  /-- `isCirclePushSkipped` -/
  skipped : Bool
  deriving DecidableEq, Repr

structure Db where
  outbox : NotificationPushOutbox
  deliveries : Deliveries
  deleted : Bool

structure State where
  clock : Time
  devices : List DevicePushToken
  db : Db
  workers : Table Worker RunId (·.leaseToken)
  polls : Table Poll PollId (·.id)

inductive WorkerAct
  | claim
  | skip
  | list
  | create
  | select
  | revoke
  | countExhausted
  | countAwaiting
  | conclude
  | recheck
  | cancel
  | start (token : Token)
  | answer (outcome : TokenDeliveryOutcome)
  | collect
  | write
  | complete
  | fail (error : JsString)
  | crash
  deriving DecidableEq, Repr

inductive PollAct
  | expire
  | ask (receipts : Option (List (TicketId × ExpoPushReceipt)))
  | judge
  | confirm
  | bury
  | readAwaiting
  | readExhausted
  | terminate
  | crash
  deriving DecidableEq, Repr

inductive Act
  | load (r : RunId)
  | worker (r : RunId) (act : WorkerAct)
  /-- A batch of a poll that began at `now` takes some of the rows that are due. -/
  | look (p : PollId) (now : Time) (taken : List Token)
  | poll (p : PollId) (act : PollAct)
  /-- The batch of `deleteAnnouncement` with the notification. -/
  | remove
  | devices (rows : List DevicePushToken)
  | tick (now : Time)
  deriving DecidableEq, Repr

def active (userId : UserId) (row : DevicePushToken) : Bool :=
  row.userID = userId && (row.provider = .expo || row.provider = .jpush) && row.disabledAt.isNone

def listActiveTokens (userId : UserId) (devices : List DevicePushToken) : List Token :=
  let rows := (devices.filter (active userId)).insertionSort fun a b => b.updatedAt ≤ a.updatedAt
  let providers := (rows.map (·.provider)).eraseDups
  providers.flatMap fun provider =>
    ((rows.filter (·.provider = provider)).take maxActiveTokensPerProvider).map (·.token)

/-! ## A call of `processPending` -/

def Db.finishJob (db : Db) (leaseToken : RunId) (now : Time) (status : OutboxStatus)
    (completionReason : Option CompletionReason) : Db :=
  { db with outbox := db.outbox.finishJob leaseToken now status completionReason }

/-- What is sent, and what else is done where nothing is. -/
def afterRevocation (n : Notification) (tokens pendingDeliveries : List Token) : Stage :=
  if pendingDeliveries = [] then .counting tokens none none
  else if n.announced then .rechecking pendingDeliveries
  else .sending pendingDeliveries [] []

def outcomesOf (pendingDeliveries : List Token) (outcomes : List TokenDeliveryOutcome) :
    List TokenDeliveryOutcome :=
  pendingDeliveries.filterMap fun k => outcomes.find? (·.token = k)

def writesOf (outcomes : List TokenDeliveryOutcome) : List (OutcomeWrite × List Token) :=
  (grouped deliveryOutcomeWrite outcomes).map fun g => (g.1, g.2.map (·.token))

/-- The stages in which the lease is taken. -/
def Stage.working : Stage → Bool
  | .loaded | .ended => false
  | _ => true

def Worker.next (n : Notification) (now : Time) (devices : List DevicePushToken) (db : Db)
    (w : Worker) (act : WorkerAct) : Option (Db × Worker) :=
  match act, w.stage with
  | .claim, .loaded =>
    if db.outbox.claimable now then
      some ({ db with outbox := db.outbox.claim w.leaseToken now },
        { w with claimedAt := some now, stage := .claimed })
    else some (db, { w with stage := .ended })
  | .skip, .claimed =>
    if n.skipped then
      some (db.finishJob w.leaseToken now .completed (some .circlePushDisabled),
        { w with stage := .ended })
    else none
  | .list, .claimed =>
    if n.skipped then none
    else some (db, { w with stage := .listed (listActiveTokens n.toUserID devices) })
  | .create, .listed tokens =>
    some ({ db with deliveries := createDeliveries db.deliveries tokens },
      { w with stage := .created tokens })
  | .select, .created tokens =>
    let retriableDeliveries := (db.deliveries.select (·.retriable)).map (·.token)
    some (db, { w with stage := .selected tokens retriableDeliveries })
  | .revoke, .selected tokens retriableDeliveries =>
    let revoked := retriableDeliveries.filter fun k => !tokens.contains k
    let pendingDeliveries := retriableDeliveries.filter fun k => tokens.contains k
    some ({ db with
        deliveries := db.deliveries.updateMany (fun d => revoked.contains d.token)
          (.settle .terminal (some (jsString "token-revoked"))) (settle_token _ _) },
      { w with stage := afterRevocation n tokens pendingDeliveries })
  | .countExhausted, .counting tokens none awaitingReceipt =>
    some (db, { w with
      stage := .counting tokens (some (db.deliveries.count (·.exhausted))) awaitingReceipt })
  | .countAwaiting, .counting tokens exhausted none =>
    some (db, { w with
      stage := .counting tokens exhausted (some (db.deliveries.count (·.awaiting))) })
  | .conclude, .counting tokens (some exhausted) (some awaitingReceipt) =>
    let finalStatus := if 0 < exhausted ∧ awaitingReceipt = 0 then .terminal else .completed
    some (db.finishJob w.leaseToken now finalStatus
        (if tokens = [] then some .noActiveDevice else none),
      { w with stage := .ended })
  | .recheck, .rechecking pendingDeliveries =>
    if db.outbox.heldBy w.leaseToken ∧ ¬db.deleted then
      some (db, { w with stage := .sending pendingDeliveries [] [] })
    else some (db, { w with stage := .cancelling })
  | .cancel, .cancelling =>
    some ({ db with
        deliveries := db.deliveries.updateMany
          (fun d => d.unsettled && db.outbox.completionReason = some .announcementDeleted)
          (.settle .terminal (some (jsString "ANNOUNCEMENT_DELETED"))) (settle_token _ _) },
      { w with stage := .ended })
  | .start token, .sending pendingDeliveries started outcomes =>
    if token ∈ pendingDeliveries ∧ token ∉ started then
      some (db, { w with stage := .sending pendingDeliveries (token :: started) outcomes })
    else none
  | .answer outcome, .sending pendingDeliveries started outcomes =>
    if outcome.token ∈ started ∧ ∀ o ∈ outcomes, o.token ≠ outcome.token then
      some (db, { w with stage := .sending pendingDeliveries started (outcome :: outcomes) })
    else none
  | .collect, .sending pendingDeliveries _ outcomes =>
    if ∀ k ∈ pendingDeliveries, ∃ o ∈ outcomes, o.token = k then
      let settled := outcomesOf pendingDeliveries outcomes
      some (db, { w with
        stage := .writing (writesOf settled) now (settled.countP (·.status = .retryable)) })
    else none
  | .write, .writing ((write, ids) :: rest) sentAt retryable =>
    some ({ db with
        deliveries := db.deliveries.updateMany (fun d => ids.contains d.token)
          (write.apply sentAt ·) (write.apply_token sentAt) },
      { w with stage := .writing rest sentAt retryable })
  | .complete, .writing [] _ retryable =>
    if retryable = 0 then
      some (db.finishJob w.leaseToken now .completed none, { w with stage := .ended })
    else none
  | .fail error, stage =>
    if stage.working then
      some ({ db with outbox := db.outbox.failJob w.leaseToken now (w.attempts + 1) error },
        { w with stage := .ended })
    else none
  | .crash, _ => some (db, { w with stage := .ended })
  | _, _ => none

/-! ## A batch of `pollReceipts` -/

def ExpoPushReceipt.errorCode (receipt : ExpoPushReceipt) : JsString :=
  receipt.error.getD (jsString "UnknownExpoReceiptError")

/-- Where the outbox is among those the batch has settled. -/
def afterSettling (settled : Bool) : PollStage := if settled then .reconciling none none else .ended

def Poll.next (db : Db) (p : Poll) (act : PollAct) : Option (Db × Poll) :=
  match act, p.stage with
  | .expire, .expiring expired pending =>
    let ids := expired.map (·.token)
    let settled := !expired.isEmpty
    some ({ db with
        deliveries := db.deliveries.updateMany (fun d => ids.contains d.token && d.awaiting)
          (.receipt .confirmed p.now (some (jsString "receipt-expired-assumed-delivered")))
          (receipt_token _ _ _) },
      { p with stage := if pending = [] then afterSettling settled else .asking pending settled })
  | .ask none, .asking _ settled => some (db, { p with stage := afterSettling settled })
  | .ask (some receipts), .asking pending settled =>
    some (db, { p with stage := .judging pending receipts [] [] settled })
  | .judge, .judging (d :: rest) receipts confirmedIDs terminalIDs settled =>
    match d.ticketID.bind fun ticket => receipts.lookup ticket with
    | none => some (db, { p with stage := .judging rest receipts confirmedIDs terminalIDs settled })
    | some receipt =>
      let errorCode := receipt.errorCode
      if receipt.ok then
        some (db, { p with
          stage := .judging rest receipts (confirmedIDs ++ [d.token]) terminalIDs true })
      else if terminalTokenErrors.contains errorCode then
        some (db, { p with
          stage :=
            .judging rest receipts confirmedIDs (terminalIDs ++ [(errorCode, d.token)]) true })
      else
        let transitioned := (db.deliveries.find d.token).any (·.awaiting)
        some ({ db with
            deliveries := db.deliveries.updateMany (fun e => e.token = d.token && e.awaiting)
              (.receipt .failed p.now (some errorCode)) (receipt_token _ _ _)
            outbox := if transitioned then db.outbox.reopen p.now else db.outbox },
          { p with stage := .judging rest receipts confirmedIDs terminalIDs true })
  | .confirm, .judging [] _ confirmedIDs terminalIDs settled =>
    let byError := (grouped Prod.fst terminalIDs).map fun g => (g.1, g.2.map Prod.snd)
    some ({ db with
        deliveries := db.deliveries.updateMany
          (fun d => confirmedIDs.contains d.token && d.awaiting) (.receipt .confirmed p.now none)
          (receipt_token _ _ _) },
      { p with stage := .burying byError settled })
  | .bury, .burying ((errorCode, ids) :: rest) settled =>
    some ({ db with
        deliveries := db.deliveries.updateMany (fun d => ids.contains d.token && d.awaiting)
          (.receipt .terminal p.now (some errorCode)) (receipt_token _ _ _) },
      { p with stage := .burying rest settled })
  | .bury, .burying [] settled => some (db, { p with stage := afterSettling settled })
  | .readAwaiting, .reconciling none exhausted =>
    some (db, { p with
      stage := .reconciling (some (db.deliveries.rows.any (·.awaiting))) exhausted })
  | .readExhausted, .reconciling stillAwaiting none =>
    some (db, { p with
      stage := .reconciling stillAwaiting (some (db.deliveries.rows.any (·.exhausted))) })
  | .terminate, .reconciling (some stillAwaiting) (some exhausted) =>
    some (if exhausted && !stillAwaiting then { db with outbox := db.outbox.exhaust } else db,
      { p with stage := .ended })
  | .crash, _ => some (db, { p with stage := .ended })
  | _, _ => none

/-! ## The whole -/

def Db.remove (db : Db) : Db where
  outbox := db.outbox.remove
  deliveries := db.deliveries.updateMany (·.unsettled)
    (.settle .terminal (some (jsString "ANNOUNCEMENT_DELETED"))) (settle_token _ _)
  deleted := true

def Worker.load (r : RunId) (attempts : Nat) : Worker where
  leaseToken := r
  attempts := attempts
  claimedAt := none
  stage := .loaded

/-- The rows a poll may take, the oldest first. -/
def Poll.look (db : Db) (p : PollId) (now : Time) (taken : List Token) : Poll where
  id := p
  now := now
  stage :=
    let due := db.deliveries.select fun d => d.receiptDue now && taken.contains d.token
    let deliveries := due.insertionSort fun a b => a.sentAt.getD 0 ≤ b.sentAt.getD 0
    .expiring (deliveries.filter (·.receiptExpired now))
      (deliveries.filter fun d => !d.receiptExpired now)

def State.next (n : Notification) (s : State) : Act → Option State
  | .load r =>
    (s.workers.insert (.load r s.db.outbox.attempts)).map fun workers =>
      { s with workers := workers }
  | .worker r act =>
    (s.workers.find r).bind fun w =>
      (w.next n s.clock s.devices s.db act).map fun result =>
        { s with db := result.1, workers := s.workers.put result.2 }
  | .look p now taken =>
    if now ≤ s.clock then
      (s.polls.insert (.look s.db p now taken)).map fun polls => { s with polls := polls }
    else none
  | .poll p act =>
    (s.polls.find p).bind fun poll =>
      (poll.next s.db act).map fun result =>
        { s with db := result.1, polls := s.polls.put result.2 }
  | .remove => if n.announced then some { s with db := s.db.remove } else none
  | .devices rows => some { s with devices := rows }
  | .tick now => if s.clock ≤ now then some { s with clock := now } else none

def Step (n : Notification) (s : State) (act : Act) (t : State) : Prop :=
  s.next n act = some t

/-- An outbox row is inserted with its notification. -/
def State.created (now : Time) (devices : List DevicePushToken) : State where
  clock := now
  devices := devices
  db :=
    { outbox :=
        { status := .pending, leaseToken := none, attempts := 0, lastError := none,
          nextAttemptAt := now, lockedAt := none, completionReason := none, processedAt := none }
      deliveries := .empty
      deleted := false }
  workers := .empty
  polls := .empty

end CircleBackend.Push.Outbox
