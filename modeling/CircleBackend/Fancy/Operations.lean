import CircleBackend.Fancy.Model
import CircleBackend.Library.Checked

/-!
# The transactions of the marketplace

One definition for each, from the state it begins in to the one it commits. A call
that runs several is the run of them, with others in between.
-/

namespace CircleBackend.Fancy

open Library
open Session (UserId UserStatus)

def FancyNumberLease.overdue (l : FancyNumberLease) (now : Time) : Bool :=
  l.active && l.permanentAt.isNone && l.expiresAt.any (· ≤ now)

namespace Db

/-! ## Shared parts -/

def activeLease (db : Db) (userId : UserId) : Option FancyNumberLease :=
  db.leases.rows.find? fun l => l.userID = userId && l.active

def hasAccountIdentifierClaim (db : Db) (value : JsString) : Bool :=
  (db.identifiers.find value).all (·.claimed)

def resolvePurchasableTarget (db : Db) (casing : Casing) (target : FancyNumberTarget)
    (numberId : NumberId) : Except Fault (Db × Option FancyNumber) :=
  match target with
  | .inventory id =>
    .ok (db, (db.numbers.find id).filter fun n => !db.hasAccountIdentifierClaim n.value)
  | .custom value =>
    match db.numberOf value with
    | some existing => .ok (db, if db.hasAccountIdentifierClaim existing.value then none else existing)
    | none => do
      let taken := Fault.refused "该靓号已被占用" .notAvailable
      throwIf (db.identifiers.find value).isSome taken
      let number : FancyNumber := ⟨numberId, value, .available, .custom, false⟩
      match db.createIdentifier casing value >>= fun db => db.createNumber casing number with
      | .error .uniqueViolation => .error taken
      | .error fault => .error fault
      | .ok db => .ok (db, some number)

/-- The wallet is created when it is missing. -/
def debit (db : Db) (userId : UserId) (totalPrice : Nat) :
    Except Fault (Table Wallet UserId (·.userID) × Nat) :=
  let initial := db.wallets.upsert ⟨userId, 0⟩ id fun _ => rfl
  if totalPrice = 0 then .ok (initial, ((initial.find userId).map (·.balance)).getD 0)
  else do
    let wallets ← orThrow
      (initial.updateOne userId (totalPrice ≤ ·.balance)
        fun w => { w with balance := w.balance - totalPrice })
      (.refused "积分不足" .insufficientPoints)
    return (wallets, ((wallets.find userId).map (·.balance)).getD 0)

/-- The order and, where something was paid, its transaction. -/
def recordOrder (db : Db) (order : FancyNumberOrder) : Except Fault Db := do
  let orders ← orThrow (db.orders.insert order) .uniqueViolation
  if order.totalPrice = 0 then return { db with orders := orders }
  else
    let paid : CoinTransaction :=
      { idempotencyKey := order.idempotencyKey
        userID := order.userID
        amount := -order.totalPrice
        balance := order.walletBalanceAfter.getD 0
        relatedID := order.id }
    let coinTransactions ← orThrow (db.coinTransactions.insert paid) .uniqueViolation
    return { db with orders := orders, coinTransactions := coinTransactions }

def claimNumber (db : Db) (id : NumberId) (status : NumberStatus) :
    Except Fault (Table FancyNumber NumberId (·.id)) :=
  orThrow (db.numbers.updateOne id (·.status = .available) fun n => { n with status := status })
    (.refused "该靓号已被购买" .notAvailable)

def releaseFancyNumberInventory (db : Db) (id : NumberId) (value : JsString)
    (expectedStatus : NumberStatus) : Except Fault Db := do
  let identifier ← orThrow ((db.identifiers.find value).filter (·.currentUserID.isNone))
    (.refused "原靓号账号标识状态发生变化，请重试" .inventoryConflict)
  let hasDurableClaim :=
    identifier.reservedForUserID.isSome || identifier.inviteOwnerUserID.isSome
  let status := if hasDurableClaim then NumberStatus.disabled else .available
  let numbers ← orThrow
    (db.numbers.updateOne id (·.status = expectedStatus) fun n => { n with status := status })
    (.refused "原靓号状态发生变化，请重试" .inventoryConflict)
  return { db with numbers := numbers }

/-! ## The end of a lease -/

def closeLease (db : Db) (id : LeaseId) (now : Time) :
    Option (Table FancyNumberLease LeaseId (·.id)) :=
  db.leases.updateOne id (·.overdue now) fun l => { l with endedAt := some now }

/-- The account goes back to its owner, and the number to the inventory. -/
def restoreAccount (db : Db) (casing : Casing) (lease : FancyNumberLease) (user : User)
    (number : FancyNumber) (restoreAccountId : JsString) : Except Fault Db := do
  let inconsistent := Fault.raised "Fancy number account identifiers are inconsistent"
  let released ← orThrow
    (db.identifiers.updateOne number.value (·.currentUserID = some lease.userID)
      fun ai => { ai with currentUserID := none })
    inconsistent
  let identifiers ← orThrow
    (released.updateOne restoreAccountId
      (fun ai => ai.currentUserID.isNone && ai.reservedForUserID = some lease.userID)
      fun ai => { ai with currentUserID := some lease.userID, reservedForUserID := none })
    inconsistent
  let db ← { db with identifiers := identifiers }.updateUser casing user
    { user with
      accountId := restoreAccountId
      fancyNumber := false
      fancyNumberExpiresAt := none
      fancyNumberPermanent := false }
  db.releaseFancyNumberInventory lease.fancyNumberID number.value .leased

def expireLease (db : Db) (casing : Casing) (leaseId : LeaseId) (now : Time) :
    Except Fault (Db × Bool) :=
  match (db.leases.find leaseId).filter (·.overdue now) with
  | none => .ok (db, false)
  | some lease => do
    let user ← orThrow (db.users.find lease.userID) .recordNotFound
    let number ← orThrow (db.numbers.find lease.fancyNumberID) .recordNotFound
    let restoreAccountId ← orThrow
      (lease.restoreAccountId.filter fun _ => user.accountId = number.value)
      (.raised "Fancy number lease account state is inconsistent")
    match db.closeLease lease.id now with
    | none => return (db, false)
    | some leases =>
      let db ← { db with leases := leases }.restoreAccount casing lease user number restoreAccountId
      return (db, true)

def restoreExpiredLeaseInTransaction (db : Db) (casing : Casing) (lease : FancyNumberLease)
    (now : Time) : Except Fault Db := do
  let user ← orThrow (db.users.find lease.userID) .recordNotFound
  let number ← orThrow (db.numbers.find lease.fancyNumberID) .recordNotFound
  let restoreAccountId ← orThrow
    (lease.restoreAccountId.filter fun _ => user.accountId = number.value)
    (.raised "Fancy number lease account state is inconsistent")
  let leases ← orThrow (db.closeLease lease.id now)
    (.refused "靓号租期状态已变化，请重试" .leaseExpired)
  { db with leases := leases }.restoreAccount casing lease user number restoreAccountId

/-- The lookup before the transaction. -/
def dueLease (db : Db) (userId : UserId) (now : Time) : Option FancyNumberLease :=
  db.leases.rows.find? fun l => l.userID = userId && l.overdue now

def expireOverdueLeaseForUser (db : Db) (casing : Casing) (userId : UserId) (now : Time) :
    Except Fault (Db × Bool) :=
  match db.dueLease userId now with
  | none => .ok (db, false)
  | some lease => db.expireLease casing lease.id now

def convertActiveLeaseToPermanent (db : Db) (casing : Casing) (userId : UserId) (now : Time)
    (orderId : OrderId) : Except Fault (Db × Bool) :=
  match (db.activeLease userId).filter fun l => l.permanentAt.isNone && l.expiresAt.isSome with
  | none => .ok (db, false)
  | some lease =>
    if lease.expiresAt.any (· ≤ now) then
      (db.restoreExpiredLeaseInTransaction casing lease now).map (·, false)
    else do
      let leases ← orThrow
        (db.leases.updateOne lease.id
          (fun l => l.active && l.permanentAt.isNone && l.expiresAt.any (now < ·))
          fun l => { l with expiresAt := none, permanentAt := some now })
        (.refused "靓号租期状态已变化，请重试" .leaseExpired)
      let numbers ← orThrow
        (db.numbers.updateOne lease.fancyNumberID (fun _ => true)
          fun n => { n with status := .permanent })
        .recordNotFound
      let user ← orThrow (db.users.find userId) .recordNotFound
      let order : FancyNumberOrder :=
        { idempotencyKey := .superConversion lease.id
          id := orderId
          requestFingerprint := .superConversion lease.id
          userID := userId
          fancyNumberID := lease.fancyNumberID
          leaseID := lease.id
          months := none
          unitPrice := 0
          totalPrice := 0
          walletBalanceAfter := none
          newExpiresAt := none }
      let permanent : User :=
        { user with
          fancyNumber := true
          fancyNumberExpiresAt := none
          fancyNumberPermanent := true }
      let converted : Db :=
        { db with
          leases := leases
          numbers := numbers
          users := db.users.put permanent
          orders := (db.orders.insert order).getD db.orders }
      return (converted, true)

/-! ## What the user pays for -/

def idempotencyConflict : Fault := .refused "幂等键已用于其他请求" .idempotencyConflict

/-- The price the client saw is still the price. -/
def confirmQuote (expectedUnitPrice : Option Nat) : Except Fault Unit :=
  throwIf (expectedUnitPrice.any (· ≠ unitPrice))
    (.refused "靓号价格已更新，请刷新后重试" .quoteChanged)

def validMonths (months : Nat) : Bool := 1 ≤ months && months ≤ 12

/-- What `purchaseTarget` answers when the key has an order. -/
def replayPurchase (db : Db) (casing : Casing) (userId : UserId) (target : FancyNumberTarget)
    (months : Option Nat) (order : FancyNumberOrder) : Except Fault FancyNumberPurchaseResult := do
  let fingerprintMonths := if order.newExpiresAt.isNone then none else months
  throwIf (order.requestFingerprint ≠ .purchase target userId fingerprintMonths)
    idempotencyConflict
  let number ← orThrow (db.numbers.find order.fancyNumberID) .recordNotFound
  return {
    orderId := order.id
    accountId := displayTargetValue casing number.value target
    expiresAt := order.newExpiresAt
    permanent := order.newExpiresAt.isNone
    months := order.months
    unitPrice := order.unitPrice
    totalPrice := order.totalPrice
    walletBalanceAfter := order.walletBalanceAfter.getD 0 }

/-- And when it has none. -/
def purchaseAnew (db : Db) (casing : Casing) (user : User) (target : FancyNumberTarget)
    (months : Option Nat) (key : OrderKey) (now : Time) (expectedUnitPrice : Option Nat)
    (minted : Minted) : Except Fault (Db × FancyNumberPurchaseResult) := do
  let permanent := decide (resolveEffectiveMembershipLevel user now = 4)
  throwIf (!permanent && !months.any validMonths)
    (.refused "购买月数必须是 1 到 12 的整数" .invalidMonths)
  let normalizedMonths := if permanent then none else months
  confirmQuote expectedUnitPrice
  throwIf (db.activeLease user.id).isSome (.refused "当前已有靓号" .alreadyOwned)
  let (db, purchasable) ← db.resolvePurchasableTarget casing target minted.numberId
  let number ← orThrow (purchasable.filter (·.status = .available))
    (.refused "该靓号不可购买" .notAvailable)
  let numbers ← db.claimNumber number.id (if permanent then .permanent else .leased)
  let reservedOriginal ← orThrow
    (db.identifiers.updateOne user.accountId
      (fun ai => ai.currentUserID = some user.id && ai.reservedForUserID.isNone)
      fun ai => { ai with currentUserID := none, reservedForUserID := some user.id })
    (.raised "Current account identifier is inconsistent")
  let assignedFancy ← orThrow
    (reservedOriginal.updateOne number.value (fun ai => !ai.claimed)
      fun ai => { ai with currentUserID := some user.id })
    (.raised "Fancy number is not available")
  let totalPrice := normalizedMonths.getD 0 * unitPrice
  let (wallets, walletBalanceAfter) ← db.debit user.id totalPrice
  let expiresAt := normalizedMonths.map (addUtcCalendarMonths now)
  let lease : FancyNumberLease :=
    { id := minted.leaseId
      userID := user.id
      fancyNumberID := number.id
      restoreAccountId := some user.accountId
      startedAt := now
      expiresAt := expiresAt
      permanentAt := if permanent then some now else none
      endedAt := none }
  let leases ← orThrow (db.leases.insert lease) .uniqueViolation
  let held : Db :=
    { db with numbers := numbers, identifiers := assignedFancy, wallets := wallets, leases := leases }
  let renamed ← held.updateUser casing user
    { user with
      accountId := number.value
      fancyNumber := true
      fancyNumberExpiresAt := expiresAt
      fancyNumberPermanent := permanent }
  let recorded ← renamed.recordOrder
    { idempotencyKey := key
      id := minted.orderId
      requestFingerprint := .purchase target user.id normalizedMonths
      userID := user.id
      fancyNumberID := number.id
      leaseID := lease.id
      months := normalizedMonths
      unitPrice := unitPrice
      totalPrice := totalPrice
      walletBalanceAfter := some walletBalanceAfter
      newExpiresAt := expiresAt }
  return (recorded, {
    orderId := minted.orderId
    accountId := displayTargetValue casing number.value target
    expiresAt := expiresAt
    permanent := permanent
    months := normalizedMonths
    unitPrice := unitPrice
    totalPrice := totalPrice
    walletBalanceAfter := walletBalanceAfter })

/-- The transaction of `purchase` and `purchaseCustom`. -/
def purchaseTarget (db : Db) (casing : Casing) (userId : UserId) (target : FancyNumberTarget)
    (months : Option Nat) (key : OrderKey) (now : Time) (expectedUnitPrice : Option Nat)
    (minted : Minted) : Except Fault (Db × FancyNumberPurchaseResult) := do
  let user ← orThrow ((db.users.find userId).filter (·.status = .active)) (.raised "User not found")
  match db.orders.find key with
  | some order => return (db, ← db.replayPurchase casing userId target months order)
  | none => db.purchaseAnew casing user target months key now expectedUnitPrice minted

def replaySwitch (db : Db) (casing : Casing) (target : FancyNumberTarget)
    (requestFingerprint : Fingerprint) (order : FancyNumberOrder) :
    Except Fault FancyNumberPurchaseResult := do
  throwIf (order.requestFingerprint ≠ requestFingerprint) idempotencyConflict
  let switchedNumber ← orThrow (db.numbers.find order.fancyNumberID) .recordNotFound
  return {
    orderId := order.id
    accountId := displayTargetValue casing switchedNumber.value target
    expiresAt := none
    permanent := true
    months := none
    unitPrice := order.unitPrice
    totalPrice := order.totalPrice
    walletBalanceAfter := order.walletBalanceAfter.getD 0 }

def switchAnew (db : Db) (casing : Casing) (lease : FancyNumberLease) (target : FancyNumberTarget)
    (key : OrderKey) (expectedUnitPrice : Option Nat) (minted : Minted) :
    Except Fault (Db × FancyNumberPurchaseResult) := do
  let user ← orThrow (db.users.find lease.userID) .recordNotFound
  let number ← orThrow (db.numbers.find lease.fancyNumberID) .recordNotFound
  confirmQuote expectedUnitPrice
  throwIf (lease.permanentAt.isNone || lease.expiresAt.isSome || user.status ≠ .active)
    (.refused "只有永久靓号可以付费更换" .switchRequiresPermanent)
  throwIf (user.accountId ≠ number.value)
    (.raised "Permanent fancy number account state is inconsistent")
  let (db, purchasable) ← db.resolvePurchasableTarget casing target minted.numberId
  let targetNumber ← orThrow (purchasable.filter (·.status = .available))
    (.refused "该靓号不可更换" .notAvailable)
  let (wallets, walletBalanceAfter) ← db.debit lease.userID unitPrice
  let numbers ← db.claimNumber targetNumber.id .permanent
  let changed := Fault.refused "靓号账号标识状态发生变化，请重试" .inventoryConflict
  let releasedIdentifier ← orThrow
    (db.identifiers.updateOne number.value (·.currentUserID = some lease.userID)
      fun ai => { ai with currentUserID := none })
    changed
  let assignedIdentifier ← orThrow
    (releasedIdentifier.updateOne targetNumber.value (fun ai => !ai.claimed)
      fun ai => { ai with currentUserID := some lease.userID })
    changed
  let held : Db :=
    { db with numbers := numbers, identifiers := assignedIdentifier, wallets := wallets }
  let released ← held.releaseFancyNumberInventory number.id number.value .permanent
  let leases ← orThrow
    (released.leases.updateOne lease.id (fun _ => true)
      fun l => { l with fancyNumberID := targetNumber.id })
    .recordNotFound
  let renamed ← { released with leases := leases }.updateUser casing user
    { user with
      accountId := targetNumber.value
      fancyNumber := true
      fancyNumberExpiresAt := none
      fancyNumberPermanent := true }
  let recorded ← renamed.recordOrder
    { idempotencyKey := key
      id := minted.orderId
      requestFingerprint := .switch target lease.userID lease.id
      userID := lease.userID
      fancyNumberID := targetNumber.id
      leaseID := lease.id
      months := none
      unitPrice := unitPrice
      totalPrice := unitPrice
      walletBalanceAfter := some walletBalanceAfter
      newExpiresAt := none }
  return (recorded, {
    orderId := minted.orderId
    accountId := displayTargetValue casing targetNumber.value target
    expiresAt := none
    permanent := true
    months := none
    unitPrice := unitPrice
    totalPrice := unitPrice
    walletBalanceAfter := walletBalanceAfter })

/-- The transaction of `switchPermanent` and `switchPermanentCustom`. -/
def switchPermanentTarget (db : Db) (casing : Casing) (userId : UserId)
    (target : FancyNumberTarget) (key : OrderKey) (expectedUnitPrice : Option Nat)
    (minted : Minted) : Except Fault (Db × FancyNumberPurchaseResult) := do
  let lease ← orThrow (db.activeLease userId)
    (.refused "当前没有可更换的永久靓号" .leaseNotFound)
  match db.orders.find key with
  | some order => return (db, ← db.replaySwitch casing target (.switch target userId lease.id) order)
  | none => db.switchAnew casing lease target key expectedUnitPrice minted

def renewalResult (order : FancyNumberOrder) (number : FancyNumber) : FancyNumberPurchaseResult :=
  { orderId := order.id
    accountId := number.value
    expiresAt := order.newExpiresAt
    permanent := false
    months := order.months
    unitPrice := order.unitPrice
    totalPrice := order.totalPrice
    walletBalanceAfter := order.walletBalanceAfter.getD 0 }

/-- The lookup of `renew` before its transaction, which reads only a part of the
fingerprint. -/
def renewalLookup (db : Db) (userId : UserId) (months : Nat) (key : OrderKey) :
    Except Fault (Option FancyNumberPurchaseResult) :=
  match db.orders.find key with
  | none => .ok none
  | some order => do
    let matching :=
      match order.requestFingerprint with
      | .renewal user _ recorded => decide (user = userId ∧ recorded = months)
      | _ => false
    throwIf (!matching) idempotencyConflict
    let number ← orThrow (db.numbers.find order.fancyNumberID) .recordNotFound
    return renewalResult order number

def replayRenewal (db : Db) (requestFingerprint : Fingerprint) (order : FancyNumberOrder) :
    Except Fault FancyNumberPurchaseResult := do
  throwIf (order.requestFingerprint ≠ requestFingerprint) idempotencyConflict
  let number ← orThrow (db.numbers.find order.fancyNumberID) .recordNotFound
  return renewalResult order number

def renewAnew (db : Db) (lease : FancyNumberLease) (months : Nat) (key : OrderKey) (now : Time)
    (expectedUnitPrice : Option Nat) (minted : Minted) :
    Except Fault (Db × FancyNumberPurchaseResult) := do
  let number ← orThrow (db.numbers.find lease.fancyNumberID) .recordNotFound
  confirmQuote expectedUnitPrice
  let until' ← orThrow (lease.expiresAt.filter fun _ => lease.permanentAt.isNone)
    (.refused "永久靓号无需续费" .permanentCannotRenew)
  throwIf (until' ≤ now) (.refused "靓号已到期" .leaseExpired)
  let totalPrice := months * unitPrice
  let (wallets, walletBalanceAfter) ← db.debit lease.userID totalPrice
  let expiresAt := addUtcCalendarMonths until' months
  let leases ← orThrow
    (db.leases.updateOne lease.id (fun _ => true) fun l => { l with expiresAt := some expiresAt })
    .recordNotFound
  let user ← orThrow (db.users.find lease.userID) .recordNotFound
  let renewed : Db :=
    { db with
      wallets := wallets
      leases := leases
      users := db.users.put { user with fancyNumberExpiresAt := some expiresAt } }
  let recorded ← renewed.recordOrder
    { idempotencyKey := key
      id := minted.orderId
      requestFingerprint := .renewal lease.userID lease.id months
      userID := lease.userID
      fancyNumberID := number.id
      leaseID := lease.id
      months := some months
      unitPrice := unitPrice
      totalPrice := totalPrice
      walletBalanceAfter := some walletBalanceAfter
      newExpiresAt := some expiresAt }
  return (recorded, {
    orderId := minted.orderId
    accountId := number.value
    expiresAt := some expiresAt
    permanent := false
    months := some months
    unitPrice := unitPrice
    totalPrice := totalPrice
    walletBalanceAfter := walletBalanceAfter })

/-- The transaction of `renew`. -/
def renew (db : Db) (userId : UserId) (months : Nat) (key : OrderKey) (now : Time)
    (expectedUnitPrice : Option Nat) (minted : Minted) :
    Except Fault (Db × FancyNumberPurchaseResult) := do
  let lease ← orThrow (db.activeLease userId) (.refused "当前没有可续费的靓号" .leaseNotFound)
  match db.orders.find key with
  | some order => return (db, ← db.replayRenewal (.renewal userId lease.id months) order)
  | none => db.renewAnew lease months key now expectedUnitPrice minted

/-! ## The inventory -/

/-- `createMany` of both tables. -/
def enlist (db : Db) (casing : Casing) (values : List JsString) (number : JsString → FancyNumber) :
    Except Fault Db := do
  let registered ← values.foldlM (fun db value => db.createIdentifier casing value) db
  values.foldlM (fun db value => db.createNumber casing (number value)) registered

/-- `P2002` as the answer that the caller gets. -/
def duplicate (answer : Fault) : Fault → Fault
  | .uniqueViolation => answer
  | fault => fault

def adminBatchCreate (db : Db) (casing : Casing) (values : List JsString)
    (mint : JsString → NumberId) : Except Fault Db := do
  let normalized := (values.map fun value => casing.toLowerCase (trim value)).dedup
  throwIf
    (normalized.isEmpty || 100 < normalized.length || normalized.any (!accountIdPattern ·))
    (.raised "Invalid fancy number inventory batch")
  match normalized.find? fun value => (db.identifiers.find value).isSome with
  | some value => .error (.occupied "Account identifier is already occupied: " value none)
  | none =>
    (db.enlist casing normalized fun value => ⟨mint value, value, .available, .admin, false⟩).mapError
      (duplicate (.raised "One or more account identifiers are already occupied"))

def adminAddRecommendations (db : Db) (casing : Casing) (values : List JsString)
    (mint : JsString → NumberId) : Except Fault Db := do
  let normalized ← values.mapM (requireCustomFancyNumber casing)
  throwIf
    (normalized.isEmpty || recommendationLimit < normalized.length || !decide normalized.Nodup)
    (.raised "Invalid fancy number recommendations")
  match normalized.find? fun value =>
      (db.identifiers.find value).isSome && (db.numberOf value).isNone with
  | some value =>
    .error (.occupied "账号标识已被占用：" value (some .recommendationAccountOccupied))
  | none => do
    let valuesToAppend := normalized.filter fun value =>
      !(db.numberOf value).any (·.isRecommended)
    throwIf
      (recommendationLimit < db.numbers.count (·.isRecommended) + valuesToAppend.length)
      (.refused "热门靓号推荐最多 100 个" .recommendationLimit)
    let newValues := valuesToAppend.filter fun value => (db.numberOf value).isNone
    let recommended : Db :=
      { db with
        numbers := db.numbers.updateMany (fun n => valuesToAppend.contains n.value)
          (fun n => { n with isRecommended := true }) fun _ => rfl }
    (recommended.enlist casing newValues
        fun value => ⟨mint value, value, .available, .admin, true⟩).mapError
      (duplicate (.refused "一个或多个账号标识已被占用" .recommendationAccountOccupied))

def adminSetAvailability (db : Db) (fancyNumberId : NumberId) (enabled : Bool) :
    Except Fault Db := do
  let current ← orThrow (db.numbers.find fancyNumberId) (.raised "Fancy number not found")
  throwIf (current.status = .leased || current.status = .permanent)
    (.raised "Leased or permanent fancy numbers cannot be disabled")
  throwIf (enabled && db.hasAccountIdentifierClaim current.value)
    (.raised "Fancy number has an identifier claim")
  let status := if enabled then NumberStatus.available else .disabled
  return { db with numbers := db.numbers.put { current with status := status } }

end Db

/-! ## Runs -/

/-- A transaction: of the marketplace, on a user, or by somebody else on what the
marketplace reads. -/
inductive Act
  | createUser (user : User)
  | changeInviteCode (userId : UserId) (inviteCode : JsString)
  | purchase (userId : UserId) (target : FancyNumberTarget) (months : Option Nat) (key : OrderKey)
      (now : Time) (expectedUnitPrice : Option Nat) (minted : Minted)
  | switchPermanent (userId : UserId) (target : FancyNumberTarget) (key : OrderKey)
      (expectedUnitPrice : Option Nat) (minted : Minted)
  | renew (userId : UserId) (months : Nat) (key : OrderKey) (now : Time)
      (expectedUnitPrice : Option Nat) (minted : Minted)
  | convertActiveLeaseToPermanent (userId : UserId) (now : Time) (orderId : OrderId)
  | expireLease (leaseId : LeaseId) (now : Time)
  | adminBatchCreate (values : List JsString) (mint : JsString → NumberId)
  | adminAddRecommendations (values : List JsString) (mint : JsString → NumberId)
  | adminSetAvailability (fancyNumberId : NumberId) (enabled : Bool)
  | setMembership (userId : UserId) (vipLevel : Nat) (vipExpiresAt : Option Time)
  | setStatus (userId : UserId) (status : UserStatus)
  | credit (userId : UserId) (points : Nat)

namespace Db

def empty : Db :=
  ⟨Table.empty, Table.empty, Table.empty, Table.empty, Table.empty, Table.empty, Table.empty⟩

/-- What a transaction commits; one that throws is no step. -/
def commit (casing : Casing) (db : Db) : Act → Except Fault Db
  | .createUser user => db.createUser casing user
  | .changeInviteCode userId inviteCode => db.changeInviteCode casing userId inviteCode
  | .purchase userId target months key now expectedUnitPrice minted =>
    (db.purchaseTarget casing userId target months key now expectedUnitPrice minted).map (·.1)
  | .switchPermanent userId target key expectedUnitPrice minted =>
    (db.switchPermanentTarget casing userId target key expectedUnitPrice minted).map (·.1)
  | .renew userId months key now expectedUnitPrice minted =>
    (db.renew userId months key now expectedUnitPrice minted).map (·.1)
  | .convertActiveLeaseToPermanent userId now orderId =>
    (db.convertActiveLeaseToPermanent casing userId now orderId).map (·.1)
  | .expireLease leaseId now => (db.expireLease casing leaseId now).map (·.1)
  | .adminBatchCreate values mint => db.adminBatchCreate casing values mint
  | .adminAddRecommendations values mint => db.adminAddRecommendations casing values mint
  | .adminSetAvailability fancyNumberId enabled => db.adminSetAvailability fancyNumberId enabled
  | .setMembership userId vipLevel vipExpiresAt =>
    .ok { db with
      users := db.users.updateMany (fun u => u.id = userId)
        (fun u => { u with vipLevel := vipLevel, vipExpiresAt := vipExpiresAt }) fun _ => rfl }
  | .setStatus userId status =>
    .ok { db with
      users := db.users.updateMany (fun u => u.id = userId)
        (fun u => { u with status := status }) fun _ => rfl }
  | .credit userId points =>
    .ok { db with
      wallets := db.wallets.upsert ⟨userId, points⟩
        (fun w => { w with balance := w.balance + points }) (credited_userID points) }

def next (casing : Casing) (db : Db) (act : Act) : Option Db := (db.commit casing act).toOption

end Db

abbrev Step (casing : Casing) (db : Db) (act : Act) (db' : Db) : Prop :=
  db.next casing act = some db'

end CircleBackend.Fancy
