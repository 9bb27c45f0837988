import CircleBackend.Recharge.Orders

/-!
# Payouts

What is claimed for an order stays as it was claimed, and it is paid out at most once
(`payouts`). The claim and the grant of a membership are apart, and nothing takes a
claim back: an order is stuck if by then its user has the lifetime membership, or its id
is the key of a grant that somebody else has made.
-/

namespace CircleBackend.Recharge

open Library
open Session (UserId UserStatus)
open Chat (MessageId)
open Memberships (Uuid Members Grants MembershipGrant Member Registry CreateMembershipGrantDto
  CanonicalGrantInput GrantFault Granted canonicalizeInput)

/-! ## The transactions -/

section Transactions

variable {db db' : Db} {now : Time} {operator : UserId} {orderId : OrderId}
  {input : CanonicalFulfillment} {order : SupportRechargeOrder}

def SupportRechargeOrder.claim (order : SupportRechargeOrder) (operator : UserId)
    (input : CanonicalFulfillment) : SupportRechargeOrder :=
  { order with
    status := .processing
    fulfillmentType := some input.fulfillmentType
    fulfillmentPayload := some input
    paymentTransactionID := some input.paymentTransactionId
    reviewedBy := some operator }

def Db.unpaid (db : Db) (orderId : OrderId) (payment : PaymentId) : Prop :=
  ∀ order ∈ db.orders.rows, order.paymentTransactionID = some payment → order.id = orderId

theorem assertSameApproval_ok {u : Unit} (h : assertSameApproval order input = .ok u) :
    order.sameApproval input = true := by
  have same := throwIf_ok h
  rwa [Bool.not_eq_false'] at same

theorem claimApproval_ok (h : claimApproval db operator orderId input = .ok (db', order)) :
    ∃ current, db.orders.find orderId = some current ∧
      (current.claimed = true ∧ current.sameApproval input = true ∧ db' = db ∧ order = current ∨
        current.status = .waitingReview ∧ db.unpaid orderId input.paymentTransactionId ∧
          order = current.claim operator input ∧
          db' = { db with orders := db.orders.put order }) := by
  obtain ⟨current, found, h⟩ := bind_ok h
  obtain ⟨_, rejected, h⟩ := bind_ok h
  obtain ⟨_, awaiting, h⟩ := bind_ok h
  have rejected := of_decide_eq_false (throwIf_ok rejected)
  have awaiting := of_decide_eq_false (throwIf_ok awaiting)
  refine ⟨current, orThrow_ok found, ?_⟩
  split at h
  · rename_i claimed
    obtain ⟨_, same, h⟩ := bind_ok h
    cases h
    exact .inl ⟨claimed, assertSameApproval_ok same, rfl, rfl⟩
  · rename_i unclaimed
    obtain ⟨_, unpaid, h⟩ := bind_ok h
    cases h
    have unpaid := List.any_eq_false.mp (throwIf_ok unpaid)
    refine .inr ⟨?_, fun order member paid => ?_, rfl, rfl⟩
    · simp only [SupportRechargeOrder.claimed, Bool.or_eq_true, decide_eq_true_eq, not_or]
        at unclaimed
      cases status : current.status <;> simp_all
    · by_contra other
      exact unpaid order member (by simp [paid, other])

theorem creditInTransaction_ok {userId : UserId} {amount : Nat} {note : JsString}
    (h : creditInTransaction db userId amount note orderId = .ok db') :
    ∃ c coinTransactions wallets, db.coinTransactions.insert c = some coinTransactions ∧
      c.idempotencyKey = orderId ∧ c.userID = userId ∧ c.type = .recharge ∧ c.amount = amount ∧
      db' = { db with wallets := wallets, coinTransactions := coinTransactions } := by
  obtain ⟨_, -, h⟩ := bind_ok h
  obtain ⟨coinTransactions, inserted, h⟩ := bind_ok h
  cases h
  exact ⟨_, _, _, orThrow_ok inserted, rfl, rfl, rfl, rfl, rfl⟩

/-- `fulfillCoins` finds the order approved, finds its transaction, or writes it. -/
theorem fulfillCoins_ok (h : fulfillCoins db now order input = .ok db') :
    ∃ current, db.orders.find order.id = some current ∧
      (current.status = .approved ∧ db' = db ∨
        current.status ≠ .approved ∧ current.sameApproval input = true ∧
          ((∃ c, db.coinTransactions.find order.id = some c ∧
              db' = { db with orders := db.orders.put (current.approve now) }) ∨
            ∃ c coinTransactions wallets,
              db.coinTransactions.find order.id = none ∧
              db.coinTransactions.insert c = some coinTransactions ∧
              c.idempotencyKey = order.id ∧ c.userID = order.userID ∧ c.type = .recharge ∧
              c.amount = input.coinAmount.getD 0 ∧
              db' = { db with
                orders := db.orders.put (current.approve now)
                wallets := wallets
                coinTransactions := coinTransactions })) := by
  obtain ⟨current, found, h⟩ := bind_ok h
  refine ⟨current, orThrow_ok found, ?_⟩
  split at h
  · rename_i approved
    cases h
    exact .inl ⟨approved, rfl⟩
  · rename_i open'
    obtain ⟨_, same, h⟩ := bind_ok h
    refine .inr ⟨open', assertSameApproval_ok same, ?_⟩
    cases replay : db.coinTransactions.find order.id with
    | some c =>
      rw [replay] at h
      obtain ⟨_, -, h⟩ := bind_ok h
      cases h
      exact .inl ⟨c, rfl, rfl⟩
    | none =>
      rw [replay] at h
      obtain ⟨credited, credit, h⟩ := bind_ok h
      cases h
      obtain ⟨c, coinTransactions, wallets, inserted, key, user, type, amount, rfl⟩ :=
        creditInTransaction_ok credit
      exact .inr ⟨c, coinTransactions, wallets, rfl, inserted, key, user, type, amount, rfl⟩

theorem fulfillMembership_ok (h : fulfillMembership db now order input = .ok db') :
    ∃ grantInput registry, canonicalizeInput (grantDto order input) = .ok grantInput ∧
      Granted db.registry now (order.reviewedBy.getD 0) order.userID grantInput registry ∧
      db' = { db with registry := registry } := by
  obtain ⟨registry, granted, h⟩ := bind_ok h
  cases h
  obtain ⟨grantInput, canonical, made⟩ := Memberships.grant_ok (mapError_ok granted)
  exact ⟨grantInput, registry, canonical, made, rfl⟩

theorem finalizeApproval_ok (h : finalizeApproval db now orderId = .ok db') :
    ∃ current, db.orders.find orderId = some current ∧
      (current.status = .approved ∧ db' = db ∨ current.status = .processing ∧
        db' = { db with orders := db.orders.put (current.approve now) }) := by
  obtain ⟨current, found, h⟩ := bind_ok h
  refine ⟨current, orThrow_ok found, ?_⟩
  split at h
  · rename_i approved
    cases h
    exact .inl ⟨approved, rfl⟩
  · obtain ⟨_, processing, h⟩ := bind_ok h
    cases h
    have processing := of_decide_eq_false (throwIf_ok processing)
    exact .inr ⟨by simpa using processing, rfl⟩

def SupportRechargeOrder.reject (order : SupportRechargeOrder) (operator : UserId)
    (reason : JsString) (now : Time) : SupportRechargeOrder :=
  { order with
    status := .rejected
    rejectionReason := some reason
    reviewedBy := some operator
    reviewedAt := some now }

theorem rejectOrder_ok {reason : JsString}
    (h : rejectOrder db now operator orderId reason = .ok db') :
    ∃ before, db.orders.find orderId = some before ∧ before.claimed = false ∧
      (before.status = .rejected ∧ db' = db ∨ before.status ≠ .rejected ∧
        db' = { db with orders := db.orders.put (before.reject operator reason now) }) := by
  obtain ⟨before, found, h⟩ := bind_ok h
  obtain ⟨_, unclaimed, h⟩ := bind_ok h
  refine ⟨before, orThrow_ok found, throwIf_ok unclaimed, ?_⟩
  split at h
  · rename_i rejected
    cases h
    exact .inl ⟨rejected, rfl⟩
  · rename_i open'
    cases h
    exact .inr ⟨open', rfl⟩

end Transactions

/-! ## A call of `approveOrder` -/

section Call

/-- A transaction of a call, and where the call is after it. -/
inductive CallStep (db : Db) (now : Time) (c : Approval) : Db → Stage → Prop
  | failed (fault : Fault) : CallStep db now c db (.failed (some fault))
  | validated {order : SupportRechargeOrder} (stage : c.stage = .validating)
      (found : db.orders.find c.orderId = some order) (claimed : order.claimed = true)
      (same : order.sameApproval c.input = true) : CallStep db now c db .claiming
  | unclaimed {order : SupportRechargeOrder} (stage : c.stage = .validating)
      (found : db.orders.find c.orderId = some order) (unclaimed : order.claimed = false) :
      CallStep db now c db (.targeting order)
  | targeted {order : SupportRechargeOrder} {target : Member} (stage : c.stage = .targeting order)
      (member : db.registry.members.find order.userID = some target) :
      CallStep db now c db .claiming
  | reclaimed {current : SupportRechargeOrder} (stage : c.stage = .claiming)
      (found : db.orders.find c.orderId = some current) (claimed : current.claimed = true)
      (same : current.sameApproval c.input = true) :
      CallStep db now c db (if current.status = .approved then .done else .fulfilling current)
  | claimed {current : SupportRechargeOrder} (stage : c.stage = .claiming)
      (found : db.orders.find c.orderId = some current) (waiting : current.status = .waitingReview)
      (unpaid : db.unpaid c.orderId c.input.paymentTransactionId) :
      CallStep db now c { db with orders := db.orders.put (current.claim c.operator c.input) }
        (.fulfilling (current.claim c.operator c.input))
  | stopped {order current : SupportRechargeOrder}
      (stage : c.stage = .fulfilling order ∧ c.dto.fulfillmentType = .coin ∨
        c.stage = .finalizing order)
      (found : db.orders.find order.id = some current) (approved : current.status = .approved) :
      CallStep db now c db .done
  | recredited {order current : SupportRechargeOrder} {tx : CoinTransaction}
      (stage : c.stage = .fulfilling order) (coin : c.dto.fulfillmentType = .coin)
      (found : db.orders.find order.id = some current) (open' : current.status ≠ .approved)
      (same : current.sameApproval c.input = true)
      (replay : db.coinTransactions.find order.id = some tx) :
      CallStep db now c { db with orders := db.orders.put (current.approve now) } .done
  | credited {order current : SupportRechargeOrder} {tx : CoinTransaction}
      {coinTransactions : Table CoinTransaction Uuid (·.idempotencyKey)}
      {wallets : Table Wallet UserId (·.userID)}
      (stage : c.stage = .fulfilling order) (coin : c.dto.fulfillmentType = .coin)
      (found : db.orders.find order.id = some current) (open' : current.status ≠ .approved)
      (same : current.sameApproval c.input = true)
      (inserted : db.coinTransactions.insert tx = some coinTransactions)
      (key : tx.idempotencyKey = order.id) (user : tx.userID = order.userID)
      (type : tx.type = .recharge) (amount : tx.amount = c.input.coinAmount.getD 0) :
      CallStep db now c
        { db with
          orders := db.orders.put (current.approve now)
          wallets := wallets
          coinTransactions := coinTransactions } .done
  | enrolled {order : SupportRechargeOrder} {grantInput : CanonicalGrantInput} {registry : Registry}
      (stage : c.stage = .fulfilling order) (membership : c.dto.fulfillmentType = .membership)
      (canonical : canonicalizeInput (grantDto order c.input) = .ok grantInput)
      (granted : Granted db.registry now (order.reviewedBy.getD 0) order.userID grantInput
        registry) :
      CallStep db now c { db with registry := registry } (.finalizing order)
  | finalized {order current : SupportRechargeOrder} (stage : c.stage = .finalizing order)
      (found : db.orders.find order.id = some current) (processing : current.status = .processing) :
      CallStep db now c { db with orders := db.orders.put (current.approve now) } .done

variable {db db' : Db} {now : Time} {c c' : Approval}

theorem settled {result : Except Fault (Db × Stage)} (h : c.settle db result = (db', c')) :
    c' = { c with stage := c'.stage } ∧ (result = .ok (db', c'.stage) ∨
      db' = db ∧ ∃ fault, c'.stage = .failed (some fault)) := by
  cases result with
  | error fault =>
    cases h
    exact ⟨rfl, .inr ⟨rfl, fault, rfl⟩⟩
  | ok result =>
    cases h
    exact ⟨rfl, .inl rfl⟩

theorem call_next (h : c.next db now = some (db', c')) :
    c' = { c with stage := c'.stage } ∧ CallStep db now c db' c'.stage := by
  have lost (fault : Fault) (same : db' = db) (failed : c'.stage = .failed (some fault)) :
      CallStep db now c db' c'.stage := by
    rw [same, failed]
    exact .failed fault
  unfold Approval.next at h
  split at h
  case h_1 stage =>
    obtain ⟨kept, ok | ⟨same, fault, failed⟩⟩ := settled (Option.some.inj h)
    · refine ⟨kept, ?_⟩
      obtain ⟨order, found, ok⟩ := bind_ok ok
      have found := orThrow_ok found
      split at ok
      · rename_i claimed
        obtain ⟨_, same, ok⟩ := bind_ok ok
        obtain ⟨rfl, after⟩ := Prod.mk.inj (Except.ok.inj ok)
        exact after ▸ .validated stage found claimed (assertSameApproval_ok same)
      · rename_i unclaimed
        obtain ⟨rfl, after⟩ := Prod.mk.inj (Except.ok.inj ok)
        exact after ▸ .unclaimed stage found (Bool.eq_false_iff.mpr unclaimed)
    · exact ⟨kept, lost fault same failed⟩
  case h_2 order stage =>
    obtain ⟨kept, ok | ⟨same, fault, failed⟩⟩ := settled (Option.some.inj h)
    · refine ⟨kept, ?_⟩
      obtain ⟨_, valid, ok⟩ := map_ok ok
      obtain ⟨rfl, after⟩ := Prod.mk.inj ok
      obtain ⟨target, member, -⟩ := bind_ok valid
      obtain ⟨member, -⟩ := Option.filter_eq_some_iff.mp (orThrow_ok member)
      exact after ▸ .targeted stage member
    · exact ⟨kept, lost fault same failed⟩
  case h_3 stage =>
    obtain ⟨kept, ok | ⟨same, fault, failed⟩⟩ := settled (Option.some.inj h)
    · refine ⟨kept, ?_⟩
      obtain ⟨⟨db'', order⟩, claims, ok⟩ := bind_ok ok
      obtain ⟨rfl, after⟩ := Prod.mk.inj (Except.ok.inj ok)
      obtain ⟨current, found, ⟨claimed, same, rfl, rfl⟩ | ⟨waiting, unpaid, rfl, rfl⟩⟩ :=
        claimApproval_ok claims
      · exact after ▸ .reclaimed stage found claimed same
      · exact after ▸ .claimed stage found waiting unpaid
    · exact ⟨kept, lost fault same failed⟩
  case h_4 order stage =>
    obtain ⟨kept, ok | ⟨same, fault, failed⟩⟩ := settled (Option.some.inj h)
    · refine ⟨kept, ?_⟩
      unfold Approval.fulfill at ok
      split at ok
      · rename_i coin
        obtain ⟨db'', paid, ok⟩ := map_ok ok
        obtain ⟨rfl, after⟩ := Prod.mk.inj ok
        obtain ⟨current, found, ⟨approved, rfl⟩ | ⟨open', same, ⟨tx, replay, rfl⟩ |
          ⟨tx, coinTransactions, wallets, -, inserted, key, user, type, amount, rfl⟩⟩⟩ :=
          fulfillCoins_ok paid
        · exact after ▸ .stopped (.inl ⟨stage, coin⟩) found approved
        · exact after ▸ .recredited stage coin found open' same replay
        · exact after ▸ .credited stage coin found open' same inserted key user type amount
      · rename_i membership
        obtain ⟨db'', paid, ok⟩ := map_ok ok
        obtain ⟨rfl, after⟩ := Prod.mk.inj ok
        obtain ⟨grantInput, registry, canonical, granted, rfl⟩ := fulfillMembership_ok paid
        exact after ▸ .enrolled stage membership canonical granted
    · exact ⟨kept, lost fault same failed⟩
  case h_5 order stage =>
    obtain ⟨kept, ok | ⟨same, fault, failed⟩⟩ := settled (Option.some.inj h)
    · refine ⟨kept, ?_⟩
      obtain ⟨db'', final, ok⟩ := map_ok ok
      obtain ⟨rfl, after⟩ := Prod.mk.inj ok
      obtain ⟨current, found, ⟨approved, rfl⟩ | ⟨processing, rfl⟩⟩ := finalizeApproval_ok final
      · exact after ▸ .stopped (.inr stage) found approved
      · exact after ▸ .finalized stage found processing
    · exact ⟨kept, lost fault same failed⟩
  case h_6 | h_7 => cases h

end Call

/-! ## The invariant -/

/-- What an order was claimed with. -/
structure Agreed (order : SupportRechargeOrder) (input : CanonicalFulfillment) : Prop where
  payload : order.fulfillmentPayload = some input
  type : order.fulfillmentType = some input.fulfillmentType
  payment : order.paymentTransactionID = some input.paymentTransactionId
  reviewed : ∃ operator, order.reviewedBy = some operator

def Enrolled (db : Db) (order : SupportRechargeOrder) (input : CanonicalFulfillment) : Prop :=
  ∃ g grantInput, db.registry.grants.find order.id = some g ∧
    canonicalizeInput (grantDto order input) = .ok grantInput ∧
    g.replays (order.reviewedBy.getD 0) order.userID grantInput = true

def Coined (db : Db) (order : SupportRechargeOrder) (input : CanonicalFulfillment) : Prop :=
  ∃ tx, db.coinTransactions.find order.id = some tx ∧ tx.userID = order.userID ∧
    tx.type = .recharge ∧ input.coinAmount = some tx.amount

/-- What was approved has been credited. -/
def Credited (db : Db) (order : SupportRechargeOrder) (input : CanonicalFulfillment) : Prop :=
  match input.fulfillmentType with
  | .coin => Coined db order input
  | .membership => Enrolled db order input

structure OrderOk (db : Db) (order : SupportRechargeOrder) : Prop where
  unclaimed : order.claimed = false →
    order.paymentTransactionID = none ∧ order.fulfillmentPayload = none
  claimed : order.claimed = true → ∃ dto : ApproveSupportRechargeOrderDto,
    dto.valid = true ∧ Agreed order (canonicalizeFulfillment dto)
  credited : order.status = .approved →
    ∃ input, order.fulfillmentPayload = some input ∧ Credited db order input
  member : order.claimed = true → (db.registry.members.find order.userID).isSome = true

structure Claims (db : Db) : Prop where
  orders : ∀ k order, db.orders.find k = some order → OrderOk db order
  distinct : ∀ k k' order order' payment, db.orders.find k = some order →
    db.orders.find k' = some order' → order.paymentTransactionID = some payment →
    order'.paymentTransactionID = some payment → k = k'
  members : ∀ id m, db.registry.members.find id = some m → m.sound

structure Sound (db : Db) : Prop extends Claims db where
  paid : ∀ k tx, db.coinTransactions.find k = some tx → ∃ order input,
    db.orders.find k = some order ∧ order.status = .approved ∧
      order.fulfillmentPayload = some input ∧ input.fulfillmentType = .coin

/-- What an order may become. -/
structure Evolves (order order' : SupportRechargeOrder) : Prop where
  userID : order'.userID = order.userID
  orderNo : order'.orderNo = order.orderNo
  claimed : order.claimed = true → order'.claimed = true ∧
    order'.fulfillmentPayload = order.fulfillmentPayload ∧
    order'.paymentTransactionID = order.paymentTransactionID ∧
    order'.reviewedBy = order.reviewedBy
  approved : order.status = .approved → order'.status = .approved
  rejected : order.status = .rejected → order' = order

theorem Evolves.refl (order : SupportRechargeOrder) : Evolves order order :=
  ⟨rfl, rfl, fun h => ⟨h, rfl, rfl, rfl⟩, id, fun _ => rfl⟩

theorem Evolves.trans {a b c : SupportRechargeOrder} (h : Evolves a b) (k : Evolves b c) :
    Evolves a c where
  userID := k.userID.trans h.userID
  orderNo := k.orderNo.trans h.orderNo
  claimed claimed := by
    obtain ⟨again, payload, payment, reviewed⟩ := h.claimed claimed
    obtain ⟨last, payload', payment', reviewed'⟩ := k.claimed again
    exact ⟨last, payload'.trans payload, payment'.trans payment, reviewed'.trans reviewed⟩
  approved approved := k.approved (h.approved approved)
  rejected rejected := by
    have same := h.rejected rejected
    subst same
    exact k.rejected rejected

/-- Nothing that a call may rely on is taken back. -/
structure Onward (db db' : Db) : Prop where
  orders : ∀ k order, db.orders.find k = some order →
    ∃ order', db'.orders.find k = some order' ∧ Evolves order order'
  members : ∀ id, (db.registry.members.find id).isSome = true →
    (db'.registry.members.find id).isSome = true
  grants : ∀ k g, db.registry.grants.find k = some g → db'.registry.grants.find k = some g
  coins : ∀ k tx, db.coinTransactions.find k = some tx → db'.coinTransactions.find k = some tx

theorem Onward.refl (db : Db) : Onward db db :=
  ⟨fun _ order found => ⟨order, found, .refl order⟩, fun _ h => h, fun _ _ h => h, fun _ _ h => h⟩

theorem Onward.trans {a b c : Db} (h : Onward a b) (k : Onward b c) : Onward a c where
  orders key order found := by
    obtain ⟨order', found', evolves⟩ := h.orders key order found
    obtain ⟨order'', found'', again⟩ := k.orders key order' found'
    exact ⟨order'', found'', evolves.trans again⟩
  members id found := k.members id (h.members id found)
  grants key g found := k.grants key g (h.grants key g found)
  coins key tx found := k.coins key tx (h.coins key tx found)

/-- The order that a call goes on with. -/
structure InHand (db : Db) (c : Approval) (order : SupportRechargeOrder) : Prop where
  own : order.id = c.orderId
  stored : ∃ current, db.orders.find c.orderId = some current ∧ current.claimed = true ∧
    current.fulfillmentPayload = some c.input ∧ current.userID = order.userID ∧
    current.orderNo = order.orderNo ∧ current.reviewedBy = order.reviewedBy

/-- What a call has seen. -/
def CallOk (db : Db) (c : Approval) : Prop :=
  match c.stage with
  | .targeting order => ∃ current, db.orders.find c.orderId = some current ∧
      current.userID = order.userID
  | .claiming => ∃ current, db.orders.find c.orderId = some current ∧
      (db.registry.members.find current.userID).isSome = true
  | .fulfilling order => InHand db c order
  | .finalizing order => InHand db c order ∧ Credited db order c.input
  | .done => ∃ current, db.orders.find c.orderId = some current ∧ current.status = .approved ∧
      current.fulfillmentPayload = some c.input
  | _ => True

section Onward

variable {db db' : Db} {c : Approval} {order order' : SupportRechargeOrder}
  {input : CanonicalFulfillment}

theorem Credited.onward (credited : Credited db order input) (onward : Onward db db') :
    Credited db' order input := by
  unfold Credited at credited ⊢
  split
  · rename_i type
    rw [type] at credited
    obtain ⟨tx, found, rest⟩ := credited
    exact ⟨tx, onward.coins _ tx found, rest⟩
  · rename_i type
    rw [type] at credited
    obtain ⟨g, grantInput, found, rest⟩ := credited
    exact ⟨g, grantInput, onward.grants _ g found, rest⟩

theorem claimed_of_approved (approved : order.status = .approved) : order.claimed = true := by
  simp [SupportRechargeOrder.claimed, approved]

theorem InHand.onward (hand : InHand db c order) (onward : Onward db db') : InHand db' c order := by
  obtain ⟨own, current, found, claimed, payload, user, number, reviewed⟩ := hand
  obtain ⟨current', found', evolves⟩ := onward.orders _ current found
  obtain ⟨claimed', payload', -, reviewed'⟩ := evolves.claimed claimed
  exact ⟨own, current', found', claimed', payload'.trans payload, evolves.userID.trans user,
    evolves.orderNo.trans number, reviewed'.trans reviewed⟩

theorem CallOk.onward (ok : CallOk db c) (onward : Onward db db') : CallOk db' c := by
  unfold CallOk at ok ⊢
  split at ok
  · obtain ⟨current, found, user⟩ := ok
    obtain ⟨current', found', evolves⟩ := onward.orders _ current found
    exact ⟨current', found', evolves.userID.trans user⟩
  · obtain ⟨current, found, member⟩ := ok
    obtain ⟨current', found', evolves⟩ := onward.orders _ current found
    exact ⟨current', found', evolves.userID ▸ onward.members _ member⟩
  · exact ok.onward onward
  · exact ⟨ok.1.onward onward, ok.2.onward onward⟩
  · obtain ⟨current, found, approved, payload⟩ := ok
    obtain ⟨current', found', evolves⟩ := onward.orders _ current found
    have kept := (evolves.claimed (claimed_of_approved approved)).2.1
    exact ⟨current', found', evolves.approved approved, kept.trans payload⟩
  · trivial

theorem OrderOk.onward (ok : OrderOk db order) (onward : Onward db db') : OrderOk db' order where
  unclaimed := ok.unclaimed
  claimed := ok.claimed
  credited approved := by
    obtain ⟨input, payload, credited⟩ := ok.credited approved
    exact ⟨input, payload, credited.onward onward⟩
  member claimed := onward.members _ (ok.member claimed)

end Onward

/-! ## One order is written -/

section Put

variable {db : Db} (now : Time) {order : SupportRechargeOrder} (order' : SupportRechargeOrder)

def Db.put (db : Db) (order : SupportRechargeOrder) : Db :=
  { db with orders := db.orders.put order }

variable {order'} in
theorem find_put (own : order'.id = order.id) (found : db.orders.find order.id = some order)
    (k : OrderId) :
    (db.orders.put order').find k = if k = order'.id then some order' else db.orders.find k := by
  have here : db.orders.find order'.id = some order := by
    rw [own]
    exact found
  exact Table.find_put_of_find here k

theorem onward_put (found : db.orders.find order.id = some order) (own : order'.id = order.id)
    (evolves : Evolves order order') : Onward db (db.put order') where
  orders k o before := by
    have after := find_put own found k
    by_cases here : k = order'.id
    · rw [if_pos here] at after
      rw [here, own, found] at before
      cases before
      exact ⟨order', after, evolves⟩
    · rw [if_neg here, before] at after
      exact ⟨o, after, .refl o⟩
  members _ h := h
  grants _ _ h := h
  coins _ _ h := h

theorem find_put_own {k : OrderId} (found : db.orders.find k = some order)
    (own : order'.id = order.id) : (db.put order').orders.find k = some order' := by
  have key : order.id = k := Table.find_key found
  have after := find_put own (Table.mem_find (Table.find_mem found)) k
  rwa [if_pos (own.trans key).symm] at after

theorem claims_put (claims : Claims db) (found : db.orders.find order.id = some order)
    (own : order'.id = order.id) (ok : OrderOk db order')
    (payment : order'.paymentTransactionID = order.paymentTransactionID ∨
      ∃ payment, order'.paymentTransactionID = some payment ∧ db.unpaid order.id payment)
    (evolves : Evolves order order') : Claims (db.put order') := by
  have onward := onward_put order' found own evolves
  have finds := find_put own found
  constructor
  case orders =>
    intro k o after
    dsimp only [Db.put] at after
    rw [finds] at after
    split at after
    · cases after
      exact ok.onward onward
    · exact (claims.orders k o after).onward onward
  case distinct =>
    -- the order that is written, against another one
    have apart : ∀ k o payment, db.orders.find k = some o →
        o.paymentTransactionID = some payment → order'.paymentTransactionID = some payment →
          k = order.id := by
      intro k o payment' before paid paid'
      rcases payment with same | ⟨payment, own', unpaid⟩
      · exact claims.distinct k order.id o order payment' before found paid (same ▸ paid')
      · cases own'.symm.trans paid'
        exact (Table.find_key before).symm.trans (unpaid o (Table.find_mem before) paid)
    intro k k' o o' payment' after after' paid paid'
    dsimp only [Db.put] at after after'
    rw [finds] at after after'
    split at after
    · rename_i here
      cases after
      split at after'
      · rename_i here'
        rw [here, here']
      · rw [here, own]
        exact (apart k' o' payment' after' paid' paid).symm
    · split at after'
      · rename_i here'
        cases after'
        rw [here', own]
        exact apart k o payment' after paid paid'
      · exact claims.distinct k k' o o' payment' after after' paid paid'
  case members => exact claims.members

theorem sound_put (sound : Sound db) (found : db.orders.find order.id = some order)
    (own : order'.id = order.id) (ok : OrderOk db order')
    (payment : order'.paymentTransactionID = order.paymentTransactionID ∨
      ∃ payment, order'.paymentTransactionID = some payment ∧ db.unpaid order.id payment)
    (evolves : Evolves order order') : Sound (db.put order') where
  toClaims := claims_put order' sound.toClaims found own ok payment evolves
  paid k tx coined := by
    obtain ⟨o, input, before, approved, payload, coin⟩ := sound.paid k tx coined
    obtain ⟨o', after, evolves⟩ := (onward_put order' found own evolves).orders k o before
    have kept := (evolves.claimed (claimed_of_approved approved)).2.1
    exact ⟨o', input, after, evolves.approved approved, kept.trans payload, coin⟩

theorem evolves_approve (claimed : order.claimed = true) : Evolves order (order.approve now) where
  userID := rfl
  orderNo := rfl
  claimed _ := ⟨by simp [SupportRechargeOrder.claimed, SupportRechargeOrder.approve], rfl, rfl, rfl⟩
  approved _ := rfl
  rejected rejected := by
    simp [SupportRechargeOrder.claimed, rejected] at claimed

/-- An order that is not claimed may be written in any way but out of REJECTED. -/
theorem evolves_unclaimed (unclaimed : order.claimed = false) (open' : order.status ≠ .rejected)
    (user : order'.userID = order.userID) (number : order'.orderNo = order.orderNo) :
    Evolves order order' where
  userID := user
  orderNo := number
  claimed claimed := by
    rw [unclaimed] at claimed
    cases claimed
  approved approved := by
    rw [claimed_of_approved approved] at unclaimed
    cases unclaimed
  rejected rejected := absurd rejected open'

variable {input : CanonicalFulfillment}

theorem Credited.same (credited : Credited db order input) (id : order'.id = order.id)
    (user : order'.userID = order.userID) (number : order'.orderNo = order.orderNo)
    (reviewed : order'.reviewedBy = order.reviewedBy) : Credited db order' input := by
  unfold Credited Coined Enrolled grantDto SupportRechargeOrder.title at credited ⊢
  rwa [id, user, number, reviewed]

/-- A claimed order is approved once it is credited. -/
theorem orderOk_approve (ok : OrderOk db order)
    (claimed : order.claimed = true) (payload : order.fulfillmentPayload = some input)
    (credited : Credited db order input) : OrderOk db (order.approve now) where
  unclaimed unclaimed := by
    simp [SupportRechargeOrder.claimed, SupportRechargeOrder.approve] at unclaimed
  claimed _ := by
    obtain ⟨dto, valid, agreed⟩ := ok.claimed claimed
    exact ⟨dto, valid, agreed.payload, agreed.type, agreed.payment, agreed.reviewed⟩
  credited _ := ⟨input, payload, credited.same _ rfl rfl rfl rfl⟩
  member _ := ok.member claimed

theorem sound_approve (sound : Sound db)
    (found : db.orders.find order.id = some order) (claimed : order.claimed = true)
    (payload : order.fulfillmentPayload = some input) (credited : Credited db order input) :
    Onward db (db.put (order.approve now)) ∧ Sound (db.put (order.approve now)) := by
  have evolves := evolves_approve now claimed
  have ok := orderOk_approve now (sound.orders _ _ found) claimed payload credited
  exact ⟨onward_put _ found rfl evolves, sound_put _ sound found rfl ok (.inl rfl) evolves⟩

end Put

/-! ## A step of a call -/

section CallSound

variable {db db' : Db} {now : Time} {c : Approval} {order current : SupportRechargeOrder}

theorem canonical_ext {dto dto' : ApproveSupportRechargeOrderDto}
    (same : (canonicalizeFulfillment dto').fulfillmentType = dto.fulfillmentType)
    (payment : (canonicalizeFulfillment dto').paymentTransactionId = dto.paymentTransactionId)
    (note : (canonicalizeFulfillment dto').note = (canonicalizeFulfillment dto).note)
    (coin : dto.fulfillmentType = .coin →
      (canonicalizeFulfillment dto').coinAmount = (canonicalizeFulfillment dto).coinAmount)
    (level : dto.fulfillmentType = .membership →
      (canonicalizeFulfillment dto').membershipLevel =
        (canonicalizeFulfillment dto).membershipLevel) :
    canonicalizeFulfillment dto' = canonicalizeFulfillment dto := by
  have same : dto'.fulfillmentType = dto.fulfillmentType := same
  have payment : dto'.paymentTransactionId = dto.paymentTransactionId := payment
  unfold canonicalizeFulfillment at note coin level ⊢
  cases type : dto.fulfillmentType with
  | coin => simp_all
  | membership => simp_all

theorem same_payload {dto : ApproveSupportRechargeOrderDto}
    (agreed : Agreed order (canonicalizeFulfillment dto)) (same : order.sameApproval c.input = true) :
    order.fulfillmentPayload = some c.input := by
  rw [agreed.payload]
  simp only [SupportRechargeOrder.sameApproval, agreed.payload, Option.any_some, Bool.and_eq_true,
    Bool.or_eq_true, decide_eq_true_eq, ne_eq] at same
  obtain ⟨-, ⟨⟨⟨type, payment⟩, note⟩, coin⟩, level⟩ := same
  exact congrArg some (canonical_ext type payment note (fun h => coin.resolve_left (fun k => k h))
    fun h => level.resolve_left fun k => k h)

theorem approval_of_same (sound : Sound db) (found : db.orders.find order.id = some order)
    (same : order.sameApproval c.input = true) :
    order.claimed = true ∧ order.fulfillmentPayload = some c.input := by
  have ok := sound.orders _ _ found
  have claimed : order.claimed = true := by
    by_contra unclaimed
    have pristine := ok.unclaimed (Bool.not_eq_true _ ▸ unclaimed)
    simp [SupportRechargeOrder.sameApproval, pristine.2] at same
  obtain ⟨dto, -, agreed⟩ := ok.claimed claimed
  exact ⟨claimed, same_payload agreed same⟩

theorem agreed_claim (c : Approval) : Agreed (current.claim c.operator c.input) c.input :=
  ⟨rfl, rfl, rfl, c.operator, rfl⟩

theorem coinAmount_of_valid (valid : c.dto.valid = true) (coin : c.dto.fulfillmentType = .coin) :
    ∃ n, c.input.coinAmount = some n := by
  simp only [ApproveSupportRechargeOrderDto.valid, Bool.and_eq_true, Bool.or_eq_true, coin,
    ne_eq, not_true_eq_false, decide_false, Bool.false_eq_true, false_or] at valid
  obtain ⟨n, given, -⟩ := (Option.any_eq_true _ _).mp valid.1.1.1
  refine ⟨n, ?_⟩
  rw [Approval.input, canonicalizeFulfillment]
  simp [coin, given]

theorem sound_grant {operator target : UserId} {dto : CreateMembershipGrantDto}
    {input : CanonicalGrantInput} {registry : Registry} (sound : Sound db)
    (canonical : canonicalizeInput dto = .ok input)
    (granted : Granted db.registry now operator target input registry) :
    Onward db { db with registry := registry } ∧ Sound { db with registry := registry } := by
  have onward : Onward db { db with registry := registry } :=
    ⟨(Onward.refl db).orders, fun _ h => granted.member_kept h, fun _ _ h => granted.grants h,
      fun _ _ h => h⟩
  refine ⟨onward, ⟨fun k o h => (sound.orders k o h).onward onward, sound.distinct, ?_⟩, sound.paid⟩
  intro id m found
  rcases granted.members found with before | ⟨m', before, -, level, ends⟩
  · exact sound.members id m before
  · obtain ⟨-, -, exact', positive, daily⟩ := Memberships.canonicalizeInput_ok canonical
    have bound := input.targetLevel.isLt
    refine ⟨by omega, ?_⟩
    rw [ends, level]
    constructor
    · rintro ⟨-, top⟩
      exact .inr (congrArg Fin.val top)
    · rintro (zero | top)
      · omega
      · refine ⟨fun chosen => ?_, Fin.ext top⟩
        have one := daily chosen
        omega

theorem call_sound (sound : Sound db) (ok : CallOk db c) (valid : c.dto.valid = true)
    {stage : Stage} (step : CallStep db now c db' stage) :
    Onward db db' ∧ Sound db' ∧ CallOk db' { c with stage := stage } := by
  unfold CallOk at ok
  cases step with
  | failed fault => exact ⟨.refl db, sound, trivial⟩
  | @validated order stage found claimed same =>
    exact ⟨.refl db, sound, order, found, (sound.orders _ _ found).member claimed⟩
  | @unclaimed order stage found unclaimed => exact ⟨.refl db, sound, order, found, rfl⟩
  | @targeted order target stage member =>
    rw [stage] at ok
    obtain ⟨current, found, user⟩ := ok
    exact ⟨.refl db, sound, current, found, by rw [user, member]; rfl⟩
  | @reclaimed current stage found claimed same =>
    have own : current.id = c.orderId := Table.find_key found
    have payload := (approval_of_same sound (own ▸ found) same).2
    refine ⟨.refl db, sound, ?_⟩
    split
    · rename_i approved
      exact ⟨current, found, approved, payload⟩
    · exact ⟨own, current, found, claimed, payload, rfl, rfl, rfl⟩
  | @claimed current stage found waiting unpaid =>
    rw [stage] at ok
    obtain ⟨current', found', member⟩ := ok
    cases found.symm.trans found'
    have own : current.id = c.orderId := Table.find_key found
    have unclaimed : current.claimed = false := by
      simp [SupportRechargeOrder.claimed, waiting]
    have evolves := evolves_unclaimed (current.claim c.operator c.input) unclaimed
      (by rw [waiting]; nofun) rfl rfl
    have claimed : OrderOk db (current.claim c.operator c.input) := by
      constructor
      case unclaimed =>
        intro unclaimed
        simp [SupportRechargeOrder.claimed, SupportRechargeOrder.claim] at unclaimed
      case claimed => exact fun _ => ⟨c.dto, valid, agreed_claim c⟩
      case credited => nofun
      case member => exact fun _ => member
    have here := Table.mem_find (Table.find_mem found)
    refine ⟨onward_put _ here rfl evolves,
      sound_put _ sound here rfl claimed (.inr ⟨_, rfl, own ▸ unpaid⟩) evolves, own, ?_⟩
    exact ⟨_, find_put_own (current.claim c.operator c.input) found rfl, rfl, rfl, rfl, rfl, rfl⟩
  | @stopped order current stage found approved =>
    have hand : InHand db c order := by
      rcases stage with ⟨stage, -⟩ | stage
      · rw [stage] at ok
        exact ok
      · rw [stage] at ok
        exact ok.1
    obtain ⟨own, current', found', claimed, payload, -⟩ := hand
    rw [own] at found
    cases found.symm.trans found'
    exact ⟨.refl db, sound, current, found, approved, payload⟩
  | @recredited order current tx stage coin found open' same replay =>
    obtain ⟨paidOrder, input, found', approved, -⟩ := sound.paid _ tx replay
    cases found.symm.trans found'
    exact absurd approved open'
  | @credited order current tx coinTransactions wallets stage coin found open' same inserted key user
      type amount =>
    rw [stage] at ok
    obtain ⟨own, current', found', claimed, payload, user', number, reviewed⟩ := ok
    rw [own] at found
    cases found.symm.trans found'
    have here := Table.mem_find (Table.find_mem found)
    have id : current.id = order.id := (Table.find_key found).trans own.symm
    let credited : Db := { db with wallets := wallets, coinTransactions := coinTransactions }
    have onward : Onward db credited := by
      refine ⟨(Onward.refl db).orders, fun _ h => h, fun _ _ h => h, fun k tx' before => ?_⟩
      have fresh := Table.insert_fresh inserted
      rw [Table.find_insert inserted, if_neg]
      · exact before
      · rintro rfl
        rw [fresh] at before
        cases before
    have claims : Claims credited :=
      ⟨fun k o h => (sound.orders k o h).onward onward, sound.distinct, sound.members⟩
    have paid : Credited credited current c.input := by
      have type' : c.input.fulfillmentType = .coin := coin
      rw [Credited, type']
      refine ⟨tx, ?_, user.trans user'.symm, type, ?_⟩
      · rw [id, Table.find_insert inserted, if_pos key]
      · obtain ⟨n, given⟩ := coinAmount_of_valid valid coin
        rw [amount, given]
        rfl
    have evolves := evolves_approve now claimed
    have approves := orderOk_approve now (claims.orders _ _ here) claimed payload paid
    have onward' : Onward credited (credited.put (current.approve now)) :=
      onward_put _ here rfl evolves
    have own' : (credited.put (current.approve now)).orders.find c.orderId =
        some (current.approve now) := find_put_own _ found rfl
    have claims' := claims_put (current.approve now) claims here rfl approves (.inl rfl) evolves
    refine ⟨onward.trans onward', ⟨claims', ?_⟩, current.approve now, own', rfl, payload⟩
    intro k tx' coined
    dsimp only [Db.put, credited] at coined
    rw [Table.find_insert inserted] at coined
    split at coined
    · rename_i here'
      have there : k = c.orderId := here'.symm.trans (key.trans own)
      exact ⟨current.approve now, c.input, there ▸ own', rfl, payload, coin⟩
    · obtain ⟨o, input, before, approved, payload', coin'⟩ := sound.paid k tx' coined
      obtain ⟨o', after, evolves'⟩ := onward'.orders k o before
      have kept := (evolves'.claimed (claimed_of_approved approved)).2.1
      exact ⟨o', input, after, evolves'.approved approved, kept.trans payload', coin'⟩
  | @enrolled order grantInput registry stage membership canonical granted =>
    rw [stage] at ok
    obtain ⟨onward, sound'⟩ := sound_grant sound canonical granted
    have hand := InHand.onward ok onward
    refine ⟨onward, sound', ⟨hand.own, hand.stored⟩, ?_⟩
    have type : c.input.fulfillmentType = .membership := membership
    change Credited _ order c.input
    rw [Credited, type]
    obtain ⟨g, found, replays⟩ := granted.replay
    have key : grantInput.idempotencyKey = order.id := (Memberships.canonicalizeInput_ok canonical).1
    rw [key] at found
    exact ⟨g, grantInput, found, canonical, replays⟩
  | @finalized order current stage found processing =>
    rw [stage] at ok
    obtain ⟨⟨own, current', found', claimed, payload, user, number, reviewed⟩, credited⟩ := ok
    rw [own] at found
    cases found.symm.trans found'
    have key : current.id = c.orderId := Table.find_key found
    have credited := credited.same current (key.trans own.symm) user number reviewed
    obtain ⟨onward, sound'⟩ := sound_approve now sound
      (Table.mem_find (Table.find_mem found)) claimed payload credited
    exact ⟨onward, sound', current.approve now, find_put_own _ found rfl, rfl, payload⟩

end CallSound

/-! ## A step -/

section Steps

variable {db db' : Db} {now : Time} {s t : State} {act : Act}

theorem sound_register {id : UserId} {members : Members} (sound : Sound db)
    (inserted : db.registry.members.insert
      { id := id, status := .active, vipLevel := 0, vipExpiresAt := none } = some members) :
    let db' := { db with registry := { db.registry with members := members } }
    Onward db db' ∧ Sound db' := by
  have finds := Table.find_insert inserted
  have onward :
      Onward db { db with registry := { db.registry with members := members } } := by
    refine ⟨(Onward.refl db).orders, fun k before => ?_, fun _ _ h => h, fun _ _ h => h⟩
    dsimp only
    rw [finds]
    split
    · rfl
    · exact before
  refine ⟨onward, ⟨fun k o h => (sound.orders k o h).onward onward, sound.distinct, ?_⟩, sound.paid⟩
  intro k m found
  dsimp only at found
  rw [finds] at found
  split at found
  · cases found
    simp [Member.sound]
  · exact sound.members k m found

theorem sound_setStatus {id : UserId} {status : UserStatus} {members : Members} (sound : Sound db)
    (set : members = db.registry.members.updateMany (·.id = id)
      (fun m => { m with status := status }) fun _ => rfl) :
    let db' := { db with registry := { db.registry with members := members } }
    Onward db db' ∧ Sound db' := by
  have finds (k : UserId) : members.find k = (db.registry.members.find k).map fun m =>
      if m.id = id then { m with status := status } else m := by
    rw [set, Table.find_updateMany]
    simp only [decide_eq_true_eq]
  have onward :
      Onward db { db with registry := { db.registry with members := members } } := by
    refine ⟨(Onward.refl db).orders, fun k before => ?_, fun _ _ h => h, fun _ _ h => h⟩
    dsimp only
    rw [finds, Option.isSome_map]
    exact before
  refine ⟨onward, ⟨fun k o h => (sound.orders k o h).onward onward, sound.distinct, ?_⟩, sound.paid⟩
  intro k m found
  dsimp only at found
  rw [finds] at found
  obtain ⟨m', before, rfl⟩ := Option.map_eq_some_iff.mp found
  have kept := sound.members k m' before
  split
  · exact kept
  · exact kept

theorem createOrder_ok {o : Opening} (h : createOrder db now o = some db') :
    ∃ orders, db.orders.insert (o.order now) = some orders ∧ db' = { db with orders := orders } := by
  unfold createOrder at h
  split at h
  · cases h
  · obtain ⟨orders, inserted, rfl⟩ := Option.map_eq_some_iff.mp h
    exact ⟨orders, inserted, rfl⟩

theorem sound_create {o : Opening} (sound : Sound db) (h : createOrder db now o = some db') :
    Onward db db' ∧ Sound db' := by
  obtain ⟨orders, inserted, rfl⟩ := createOrder_ok h
  have finds := Table.find_insert inserted
  have kept (k : OrderId) (order : SupportRechargeOrder) (before : db.orders.find k = some order) :
      orders.find k = some order := by
    rw [finds, if_neg]
    · exact before
    · rintro rfl
      rw [Table.insert_fresh inserted] at before
      cases before
  have onward : Onward db { db with orders := orders } :=
    ⟨fun k order before => ⟨order, kept k order before, .refl order⟩, fun _ h => h,
      fun _ _ h => h, fun _ _ h => h⟩
  have back (k : OrderId) (order : SupportRechargeOrder) (after : orders.find k = some order) :
      order = o.order now ∨ db.orders.find k = some order := by
    rw [finds] at after
    split at after
    · exact .inl (Option.some.inj after).symm
    · exact .inr after
  refine ⟨onward, ⟨fun k order after => ?_, ?_, sound.members⟩, fun k tx coined => ?_⟩
  · rcases back k order after with rfl | before
    · exact ⟨fun _ => ⟨rfl, rfl⟩, by intros; contradiction, by intros; contradiction,
        by intros; contradiction⟩
    · exact (sound.orders k order before).onward onward
  · intro k k' order order' payment after after' paid paid'
    rcases back k order after with rfl | before
    · cases paid
    · rcases back k' order' after' with rfl | before'
      · cases paid'
      · exact sound.distinct k k' order order' payment before before' paid paid'
  · obtain ⟨order, input, before, rest⟩ := sound.paid k tx coined
    exact ⟨order, input, kept k order before, rest⟩

/-- An order that is not claimed is written, and is not claimed after it. -/
theorem sound_unclaimed {order order' : SupportRechargeOrder} (sound : Sound db)
    (found : db.orders.find order.id = some order) (own : order'.id = order.id)
    (before : order.claimed = false) (open' : order.status ≠ .rejected)
    (after : order'.claimed = false) (user : order'.userID = order.userID)
    (number : order'.orderNo = order.orderNo)
    (payment : order'.paymentTransactionID = order.paymentTransactionID)
    (payload : order'.fulfillmentPayload = order.fulfillmentPayload) :
    Onward db (db.put order') ∧ Sound (db.put order') := by
  have evolves := evolves_unclaimed order' before open' user number
  have pristine := (sound.orders _ _ found).unclaimed before
  have ok : OrderOk db order' := by
    constructor
    case unclaimed => exact fun _ => ⟨payment.trans pristine.1, payload.trans pristine.2⟩
    case credited =>
      intro approved
      rw [claimed_of_approved approved] at after
      cases after
    all_goals
      intro claimed
      rw [claimed] at after
      cases after
  exact ⟨onward_put order' found own evolves, sound_put order' sound found own ok (.inl payment)
    evolves⟩

variable {orderId : OrderId}

theorem acceptEvidence_ok {seen : OrderStatus} {message : MessageId}
    {key : JsString} (h : acceptEvidence db now orderId seen message key = some db') :
    (db.orders.find orderId).any (·.status = seen) = false ∧ db' = db ∨
      ∃ order, db.orders.find orderId = some order ∧ order.status = seen ∧
      (∀ other ∈ db.orders.rows, other.id ≠ orderId → other.evidenceMessageID ≠ some message) ∧
      db' = db.put (order.evidenced message key now) := by
  unfold acceptEvidence at h
  split at h
  · rename_i missing
    refine .inl ⟨?_, (Option.some.inj h).symm⟩
    cases found : db.orders.find orderId with
    | none => rfl
    | some order =>
      have other := Option.filter_eq_none_iff.mp missing order found
      exact Bool.not_eq_true _ ▸ other
  · rename_i order found
    obtain ⟨found, status⟩ := Option.filter_eq_some_iff.mp found
    split at h
    · cases h
    · rename_i fresh
      cases h
      refine .inr ⟨order, found, of_decide_eq_true status, fun other member apart used => ?_, rfl⟩
      exact fresh (List.any_eq_true.mpr ⟨other, member, by simp [apart, used]⟩)

theorem sound_evidence {seen : OrderStatus} {message : MessageId}
    {key : JsString} (sound : Sound db) (open' : seen = .awaitingProof ∨ seen = .waitingReview)
    (h : acceptEvidence db now orderId seen message key = some db') :
    Onward db db' ∧ Sound db' := by
  obtain ⟨-, rfl⟩ | ⟨order, found, status, -, rfl⟩ := acceptEvidence_ok h
  · exact ⟨.refl db', sound⟩
  · refine sound_unclaimed sound (Table.mem_find (Table.find_mem found)) rfl ?_ ?_ ?_ rfl rfl rfl rfl
    · rcases open' with rfl | rfl <;> simp [SupportRechargeOrder.claimed, status]
    · rcases open' with rfl | rfl <;> simp [status]
    · rfl

theorem sound_reject {operator : UserId} {reason : JsString} (sound : Sound db)
    (h : rejectOrder db now operator orderId reason = .ok db') : Onward db db' ∧ Sound db' := by
  obtain ⟨order, found, unclaimed, ⟨-, rfl⟩ | ⟨open', rfl⟩⟩ := rejectOrder_ok h
  · exact ⟨.refl db', sound⟩
  · change Onward db (db.put (order.reject operator reason now)) ∧
      Sound (db.put (order.reject operator reason now))
    exact sound_unclaimed sound (Table.mem_find (Table.find_mem found)) rfl unclaimed open' rfl rfl
      rfl rfl rfl

structure State.Sound (s : State) : Prop where
  db : Recharge.Sound s.db
  calls : ∀ id c, s.calls.find id = some c → CallOk s.db c ∧ c.dto.valid = true

theorem State.Sound.onward {db' : Db} {now : Time} (sound : s.Sound)
    (kept : Onward s.db db' ∧ Recharge.Sound db') :
    Onward s.db db' ∧ State.Sound { s with clock := now, db := db' } :=
  ⟨kept.1, kept.2, fun id c found =>
    ⟨(sound.calls id c found).1.onward kept.1, (sound.calls id c found).2⟩⟩

/-- A call is written, in a database where it has seen what it says. -/
theorem State.Sound.put {id : CallId} {call call' : Approval} (sound : s.Sound)
    (found : s.calls.find id = some call) (own : call'.id = call.id)
    (kept : Onward s.db db' ∧ Recharge.Sound db') (ok : CallOk db' call')
    (valid : call'.dto.valid = true) :
    Onward s.db db' ∧ State.Sound { s with db := db', calls := s.calls.put call' } := by
  refine ⟨kept.1, kept.2, fun k c after => ?_⟩
  rw [Table.find_put_own found own] at after
  split at after
  · cases after
    exact ⟨ok, valid⟩
  · obtain ⟨before, valid⟩ := sound.calls k c after
    exact ⟨before.onward kept.1, valid⟩

theorem step_sound (sound : s.Sound) (step : Step s act t) : Onward s.db t.db ∧ t.Sound := by
  unfold Step State.next at step
  cases act with
  | register id =>
    obtain ⟨members, inserted, rfl⟩ := Option.map_eq_some_iff.mp step
    exact sound.onward (sound_register sound.db inserted)
  | setStatus id status =>
    cases step
    exact sound.onward (sound_setStatus sound.db rfl)
  | create o =>
    obtain ⟨db', created, rfl⟩ := Option.map_eq_some_iff.mp step
    exact sound.onward (sound_create sound.db created)
  | evidence orderId seen message key =>
    dsimp only at step
    split at step
    · rename_i open'
      obtain ⟨db', accepted, rfl⟩ := Option.map_eq_some_iff.mp step
      exact sound.onward (sound_evidence sound.db open' accepted)
    · cases step
  | approve c operator orderId dto =>
    dsimp only at step
    split at step
    · rename_i valid
      obtain ⟨calls, inserted, rfl⟩ := Option.map_eq_some_iff.mp step
      refine ⟨.refl s.db, sound.db, fun k call after => ?_⟩
      rw [Table.find_insert inserted] at after
      split at after
      · cases after
        exact ⟨trivial, valid⟩
      · exact sound.calls k call after
    · cases step
  | step c =>
    obtain ⟨call, found, step⟩ := Option.bind_eq_some_iff.mp step
    obtain ⟨⟨db', call'⟩, next, rfl⟩ := Option.map_eq_some_iff.mp step
    obtain ⟨kept, turn⟩ := call_next next
    obtain ⟨ok, valid⟩ := sound.calls c call found
    obtain ⟨onward, sound', ok'⟩ := call_sound sound.db ok valid turn
    rw [← kept] at ok'
    have same : call'.dto = call.dto := by rw [kept]
    exact sound.put found (by rw [kept]) ⟨onward, sound'⟩ ok' (same ▸ valid)
  | crash c =>
    obtain ⟨call, found, rfl⟩ := Option.map_eq_some_iff.mp step
    exact sound.put found rfl ⟨.refl s.db, sound.db⟩ trivial (sound.calls c call found).2
  | reject operator orderId reason =>
    obtain ⟨db', rejected, rfl⟩ := Option.map_eq_some_iff.mp step
    exact sound.onward (sound_reject sound.db (toOption_some rejected))
  | grant operator target dto =>
    obtain ⟨registry, granted, rfl⟩ := Option.map_eq_some_iff.mp step
    obtain ⟨input, canonical, granted⟩ := Memberships.grant_ok (toOption_some granted)
    exact sound.onward (sound_grant sound.db canonical granted)
  | ledger id balance =>
    dsimp only at step
    split at step
    · cases step
      refine sound.onward ⟨⟨(Onward.refl s.db).orders, fun _ h => h, fun _ _ h => h,
        fun _ _ h => h⟩, ⟨fun k o h => ?_, sound.db.distinct, sound.db.members⟩, sound.db.paid⟩
      obtain ⟨unclaimed, claimed, credited, member⟩ := sound.db.orders k o h
      exact ⟨unclaimed, claimed, credited, member⟩
    · cases step
  | tick now =>
    dsimp only at step
    split at step
    · cases step
      exact sound.onward ⟨.refl s.db, sound.db⟩
    · cases step

theorem run_onward {acts : List Act} (sound : s.Sound) (run : Run Step s acts t) :
    Onward s.db t.db ∧ t.Sound := by
  induction run with
  | nil => exact ⟨.refl _, sound⟩
  | snoc _ last ih =>
    obtain ⟨onward, sound⟩ := step_sound ih.2 last
    exact ⟨ih.1.trans onward, sound⟩

theorem empty_sound : State.empty.Sound := by
  refine ⟨⟨⟨?_, ?_, ?_⟩, ?_⟩, ?_⟩
  · intro k order found
    cases found
  · intro k k' order order' payment found
    cases found
  · intro id m found
    cases found
  · intro k tx found
    cases found
  · intro id c found
    cases found

theorem run_sound {acts : List Act} (run : Run Step .empty acts s) : s.Sound :=
  (run_onward empty_sound run).2

end Steps

end CircleBackend.Recharge
