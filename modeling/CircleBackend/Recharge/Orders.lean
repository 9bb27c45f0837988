import CircleBackend.Chat.Quotes
import CircleBackend.Memberships.Grants

/-!
# Recharge orders

The orders of the recharge support and what an administrator does with them. A call of
`approveOrder` is several transactions; each is a step, and a call may end after any of
them. The steps of the users of the chat are the rows they create and the evidence they
attach.
-/

namespace CircleBackend.Recharge

open Library
open Session (UserId UserStatus)
open Chat (ConversationId MessageId jsString)
open Memberships (Uuid Members Grants MembershipGrant Member Registry CreateMembershipGrantDto
  GrantFault)

abbrev OrderId := Uuid
abbrev CallId := Nat
abbrev PaymentId := JsString

inductive RequestKind
  | general
  | coin
  | membership
  deriving DecidableEq, Repr

inductive OrderStatus
  | awaitingProof
  | waitingReview
  | processing
  | approved
  | rejected
  deriving DecidableEq, Repr

inductive FulfillmentType
  | coin
  | membership
  deriving DecidableEq, Repr

structure CanonicalFulfillment where
  fulfillmentType : FulfillmentType
  paymentTransactionId : PaymentId
  coinAmount : Option Nat
  membershipLevel : Option Nat
  note : Option JsString
  deriving DecidableEq, Repr

structure SupportRechargeOrder where
  id : OrderId
  orderNo : JsString
  conversationID : ConversationId
  userID : UserId
  agentUserID : UserId
  sourceMessageID : MessageId
  requestKind : RequestKind
  status : OrderStatus
  evidenceMessageID : Option MessageId
  evidenceObjectKey : Option JsString
  submittedAt : Option Time
  fulfillmentType : Option FulfillmentType
  fulfillmentPayload : Option CanonicalFulfillment
  paymentTransactionID : Option PaymentId
  reviewedBy : Option UserId
  reviewedAt : Option Time
  rejectionReason : Option JsString
  createdAt : Time
  deriving DecidableEq, Repr

abbrev Orders := Table SupportRechargeOrder OrderId (·.id)

inductive CoinTxType
  | recharge
  | other
  deriving DecidableEq, Repr

/-- The keys of the other transactions are no ids of orders. -/
structure CoinTransaction where
  idempotencyKey : Uuid
  userID : UserId
  type : CoinTxType
  amount : Nat
  balance : Nat
  note : JsString
  relatedID : OrderId
  deriving DecidableEq, Repr

structure Wallet where
  userID : UserId
  balance : Nat
  deriving DecidableEq, Repr

structure Db where
  orders : Orders
  coinTransactions : Table CoinTransaction Uuid (·.idempotencyKey)
  wallets : Table Wallet UserId (·.userID)
  registry : Registry

inductive Fault
  | orderNotFound
  | orderStateConflict (message : JsString)
  | approvalConflict (message : JsString)
  | paymentDuplicate
  | membership (fault : GrantFault)
  | outOfRange
  deriving DecidableEq, Repr

def maxInt : Nat := 2147483647

/-! ## The parameters -/

structure ApproveSupportRechargeOrderDto where
  fulfillmentType : FulfillmentType
  paymentTransactionId : PaymentId
  coinAmount : Option Nat
  membershipLevel : Option Nat
  note : Option JsString
  deriving DecidableEq, Repr

/-- What the validators of the fields let through. -/
def ApproveSupportRechargeOrderDto.valid (dto : ApproveSupportRechargeOrderDto) : Bool :=
  (dto.fulfillmentType ≠ .coin || dto.coinAmount.any fun n => 1 ≤ n && n ≤ 1000000) &&
    (dto.fulfillmentType ≠ .membership || dto.membershipLevel.any fun n => 1 ≤ n && n ≤ 4) &&
    1 ≤ dto.paymentTransactionId.length && dto.paymentTransactionId.length ≤ 128

def canonicalizeFulfillment (dto : ApproveSupportRechargeOrderDto) : CanonicalFulfillment where
  fulfillmentType := dto.fulfillmentType
  paymentTransactionId := dto.paymentTransactionId
  coinAmount := if dto.fulfillmentType = .coin then dto.coinAmount else none
  membershipLevel := if dto.fulfillmentType = .coin then none else dto.membershipLevel
  note := Memberships.trimmedNote dto.note

/-- Whether `assertSameApproval` returns. -/
def SupportRechargeOrder.sameApproval (order : SupportRechargeOrder)
    (input : CanonicalFulfillment) : Bool :=
  order.fulfillmentType = some input.fulfillmentType &&
    order.paymentTransactionID = some input.paymentTransactionId &&
    order.fulfillmentPayload.any fun payload =>
      payload.fulfillmentType = input.fulfillmentType &&
        payload.paymentTransactionId = input.paymentTransactionId &&
        payload.note = input.note &&
        (input.fulfillmentType ≠ .coin || payload.coinAmount = input.coinAmount) &&
        (input.fulfillmentType ≠ .membership || payload.membershipLevel = input.membershipLevel)

def assertSameApproval (order : SupportRechargeOrder) (input : CanonicalFulfillment) :
    Except Fault Unit :=
  throwIf (!order.sameApproval input)
    (.approvalConflict (jsString "该充值申请已经使用不同的发放参数处理"))

def requireOrder (db : Db) (orderId : OrderId) : Except Fault SupportRechargeOrder :=
  orThrow (db.orders.find orderId) .orderNotFound

def SupportRechargeOrder.claimed (order : SupportRechargeOrder) : Bool :=
  order.status = .processing || order.status = .approved

/-- Of an order that is not claimed, and its user. -/
def validateTarget (db : Db) (order : SupportRechargeOrder) (input : CanonicalFulfillment) :
    Except Fault Unit := do
  let target ← orThrow ((db.registry.members.find order.userID).filter (·.status = .active))
    (.approvalConflict (jsString "目标用户当前不可发放权益"))
  throwIf (input.fulfillmentType = .membership && input.membershipLevel.any (· ≤ target.vipLevel))
    (.approvalConflict (jsString "会员等级必须高于用户当前等级"))

/-! ## The transactions -/

def claimApproval (db : Db) (operator : UserId) (orderId : OrderId)
    (input : CanonicalFulfillment) : Except Fault (Db × SupportRechargeOrder) := do
  let current ← requireOrder db orderId
  throwIf (current.status = .rejected) (.orderStateConflict (jsString "已驳回的申请不能发放"))
  throwIf (current.status = .awaitingProof)
    (.orderStateConflict (jsString "用户尚未提交付款记录"))
  if current.claimed then
    assertSameApproval current input
    .ok (db, current)
  else
    throwIf (db.orders.rows.any fun order =>
      order.paymentTransactionID = some input.paymentTransactionId && order.id ≠ orderId)
      .paymentDuplicate
    let order := { current with
      status := .processing
      fulfillmentType := some input.fulfillmentType
      fulfillmentPayload := some input
      paymentTransactionID := some input.paymentTransactionId
      reviewedBy := some operator }
    .ok ({ db with orders := db.orders.put order }, order)

def creditInTransaction (db : Db) (userId : UserId) (amount : Nat) (note : JsString)
    (relatedId : OrderId) : Except Fault Db := do
  let balance := ((db.wallets.find userId).elim 0 (·.balance)) + amount
  throwIf (maxInt < balance) .outOfRange
  let coinTransactions ← orThrow (db.coinTransactions.insert
    { idempotencyKey := relatedId
      userID := userId
      type := .recharge
      amount := amount
      balance := balance
      note := note
      relatedID := relatedId }) .outOfRange
  .ok { db with
    wallets := db.wallets.set { userID := userId, balance := balance }
    coinTransactions := coinTransactions }

def SupportRechargeOrder.approve (order : SupportRechargeOrder) (now : Time) :
    SupportRechargeOrder :=
  { order with status := .approved, reviewedAt := some now }

def SupportRechargeOrder.title (order : SupportRechargeOrder) : JsString :=
  jsString "充值申请 " ++ order.orderNo

def fulfillCoins (db : Db) (now : Time) (order : SupportRechargeOrder)
    (input : CanonicalFulfillment) : Except Fault Db := do
  let current ← requireOrder db order.id
  if current.status = .approved then .ok db
  else
    assertSameApproval current input
    match db.coinTransactions.find order.id with
    | some replay =>
      throwIf (replay.userID ≠ order.userID || replay.type ≠ .recharge ||
          input.coinAmount ≠ some replay.amount)
        (.approvalConflict (jsString "充值申请的积分幂等键已被不同参数使用"))
      .ok { db with orders := db.orders.put (current.approve now) }
    | none =>
      let credited ← creditInTransaction db order.userID (input.coinAmount.getD 0) order.title
        order.id
      .ok { credited with orders := credited.orders.put (current.approve now) }

/-- What `approveOrder` asks of `MembershipAdminService.grant`. -/
def grantDto (order : SupportRechargeOrder) (input : CanonicalFulfillment) :
    CreateMembershipGrantDto where
  quantity := none
  daily := false
  targetLevel := input.membershipLevel.getD 0
  idempotencyKey := order.id
  note := some (input.note.getD order.title)

def fulfillMembership (db : Db) (now : Time) (order : SupportRechargeOrder)
    (input : CanonicalFulfillment) : Except Fault Db := do
  let registry ← (Memberships.grant db.registry now (order.reviewedBy.getD 0) order.userID
    (grantDto order input)).mapError .membership
  .ok { db with registry := registry }

def finalizeApproval (db : Db) (now : Time) (orderId : OrderId) : Except Fault Db := do
  let current ← requireOrder db orderId
  if current.status = .approved then .ok db
  else
    throwIf (current.status ≠ .processing)
      (.orderStateConflict (jsString "充值申请不在发放处理中"))
    .ok { db with orders := db.orders.put (current.approve now) }

def rejectOrder (db : Db) (now : Time) (operator : UserId) (orderId : OrderId)
    (reason : JsString) : Except Fault Db := do
  let before ← requireOrder db orderId
  throwIf before.claimed (.orderStateConflict (jsString "已开始或已经完成发放，不能驳回"))
  if before.status = .rejected then .ok db
  else
    .ok { db with
      orders := db.orders.put { before with
        status := .rejected
        rejectionReason := some reason
        reviewedBy := some operator
        reviewedAt := some now } }

/-! ## A call of `approveOrder` -/

inductive Stage
  | validating
  | targeting (order : SupportRechargeOrder)
  | claiming
  | fulfilling (order : SupportRechargeOrder)
  | finalizing (order : SupportRechargeOrder)
  | done
  | failed (fault : Option Fault)
  deriving DecidableEq, Repr

structure Approval where
  id : CallId
  operator : UserId
  orderId : OrderId
  dto : ApproveSupportRechargeOrderDto
  stage : Stage
  deriving DecidableEq, Repr

namespace Approval

def start (c : CallId) (operator : UserId) (orderId : OrderId)
    (dto : ApproveSupportRechargeOrderDto) : Approval where
  id := c
  operator := operator
  orderId := orderId
  dto := dto
  stage := .validating

def input (c : Approval) : CanonicalFulfillment := canonicalizeFulfillment c.dto

/-- What comes of a transaction: the call goes on, or it throws. -/
def settle (c : Approval) (db : Db) (result : Except Fault (Db × Stage)) : Db × Approval :=
  match result with
  | .ok (db, stage) => (db, { c with stage := stage })
  | .error fault => (db, { c with stage := .failed (some fault) })

def validate (c : Approval) (db : Db) : Except Fault (Db × Stage) := do
  let order ← requireOrder db c.orderId
  if order.claimed then
    assertSameApproval order c.input
    .ok (db, .claiming)
  else .ok (db, .targeting order)

def claim (c : Approval) (db : Db) : Except Fault (Db × Stage) := do
  let (db, order) ← claimApproval db c.operator c.orderId c.input
  .ok (db, if order.status = .approved then .done else .fulfilling order)

def fulfill (c : Approval) (db : Db) (now : Time) (order : SupportRechargeOrder) :
    Except Fault (Db × Stage) :=
  match c.dto.fulfillmentType with
  | .coin => (fulfillCoins db now order c.input).map fun db => (db, .done)
  | .membership => (fulfillMembership db now order c.input).map fun db => (db, .finalizing order)

def next (c : Approval) (db : Db) (now : Time) : Option (Db × Approval) :=
  match c.stage with
  | .validating => some (c.settle db (c.validate db))
  | .targeting order =>
    some (c.settle db ((validateTarget db order c.input).map fun _ => (db, .claiming)))
  | .claiming => some (c.settle db (c.claim db))
  | .fulfilling order => some (c.settle db (c.fulfill db now order))
  | .finalizing order =>
    some (c.settle db ((finalizeApproval db now order.id).map fun db => (db, .done)))
  | .done | .failed _ => none

end Approval

/-! ## The whole -/

structure State where
  clock : Time
  db : Db
  calls : Table Approval CallId (·.id)

/-- What `createOrder` is given. -/
structure Opening where
  id : OrderId
  orderNo : JsString
  conversationID : ConversationId
  userID : UserId
  agentUserID : UserId
  sourceMessageID : MessageId
  requestKind : RequestKind
  deriving DecidableEq, Repr

def Opening.order (o : Opening) (now : Time) : SupportRechargeOrder where
  id := o.id
  orderNo := o.orderNo
  conversationID := o.conversationID
  userID := o.userID
  agentUserID := o.agentUserID
  sourceMessageID := o.sourceMessageID
  requestKind := o.requestKind
  status := .awaitingProof
  evidenceMessageID := none
  evidenceObjectKey := none
  submittedAt := none
  fulfillmentType := none
  fulfillmentPayload := none
  paymentTransactionID := none
  reviewedBy := none
  reviewedAt := none
  rejectionReason := none
  createdAt := now

/-- The unique columns but the id; another order with one of them is a unique violation. -/
def createOrder (db : Db) (now : Time) (o : Opening) : Option Db :=
  if db.orders.rows.any fun order =>
      order.orderNo = o.orderNo || order.sourceMessageID = o.sourceMessageID then none
  else (db.orders.insert (o.order now)).map fun orders => { db with orders := orders }

def SupportRechargeOrder.evidenced (order : SupportRechargeOrder) (message : MessageId)
    (key : JsString) (now : Time) : SupportRechargeOrder :=
  { order with
    status := .waitingReview
    evidenceMessageID := some message
    evidenceObjectKey := some key
    submittedAt := some now }

/-- The `updateMany` of `acceptPaymentEvidence`, of an order that was read with a status. -/
def acceptEvidence (db : Db) (now : Time) (orderId : OrderId) (seen : OrderStatus)
    (message : MessageId) (key : JsString) : Option Db :=
  match (db.orders.find orderId).filter (·.status = seen) with
  | none => some db
  | some order =>
    if db.orders.rows.any fun other =>
        other.id ≠ orderId && other.evidenceMessageID = some message then none
    else some { db with orders := db.orders.put (order.evidenced message key now) }

inductive Act
  | register (id : UserId)
  | setStatus (id : UserId) (status : UserStatus)
  | create (o : Opening)
  | evidence (orderId : OrderId) (seen : OrderStatus) (message : MessageId) (key : JsString)
  | approve (c : CallId) (operator : UserId) (orderId : OrderId)
      (dto : ApproveSupportRechargeOrderDto)
  | step (c : CallId)
  | crash (c : CallId)
  | reject (operator : UserId) (orderId : OrderId) (reason : JsString)
  | grant (operator target : UserId) (dto : CreateMembershipGrantDto)
  /-- Another transaction on the wallet. -/
  | ledger (id : UserId) (balance : Nat)
  | tick (now : Time)
  deriving DecidableEq, Repr

def State.next (s : State) : Act → Option State
  | .register id =>
    (s.db.registry.members.insert
      { id := id, status := .active, vipLevel := 0, vipExpiresAt := none }).map fun members =>
        { s with db := { s.db with registry := { s.db.registry with members := members } } }
  | .setStatus id status =>
    some { s with db := { s.db with registry := { s.db.registry with
      members := s.db.registry.members.updateMany (·.id = id)
        (fun m => { m with status := status }) fun _ => rfl } } }
  | .create o => (createOrder s.db s.clock o).map fun db => { s with db := db }
  | .evidence orderId seen message key =>
    if seen = .awaitingProof ∨ seen = .waitingReview then
      (acceptEvidence s.db s.clock orderId seen message key).map fun db => { s with db := db }
    else none
  | .approve c operator orderId dto =>
    if dto.valid then
      (s.calls.insert (.start c operator orderId dto)).map fun calls => { s with calls := calls }
    else none
  | .step c =>
    (s.calls.find c).bind fun call =>
      (call.next s.db s.clock).map fun result =>
        { s with db := result.1, calls := s.calls.put result.2 }
  | .crash c =>
    (s.calls.find c).map fun call =>
      { s with calls := s.calls.put { call with stage := .failed none } }
  | .reject operator orderId reason =>
    (rejectOrder s.db s.clock operator orderId reason).toOption.map fun db => { s with db := db }
  | .grant operator target dto =>
    (Memberships.grant s.db.registry s.clock operator target dto).toOption.map fun registry =>
      { s with db := { s.db with registry := registry } }
  | .ledger id balance =>
    if balance ≤ maxInt then
      some { s with db := { s.db with
        wallets := s.db.wallets.set { userID := id, balance := balance } } }
    else none
  | .tick now => if s.clock ≤ now then some { s with clock := now } else none

def Step (s : State) (act : Act) (t : State) : Prop := s.next act = some t

def State.empty : State where
  clock := 0
  db :=
    { orders := .empty, coinTransactions := .empty, wallets := .empty,
      registry := { members := .empty, grants := .empty } }
  calls := .empty

end CircleBackend.Recharge
