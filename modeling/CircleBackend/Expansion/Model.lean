import CircleBackend.Coin.Model
import CircleBackend.Joining.Policy
import CircleBackend.Library.Transition

/-!
# Group expansions

The cards that raise the capacity of a circle, and `purchase`: one serializable
transaction, with the order of a key that has been paid for returned again.
-/

namespace CircleBackend.Expansion

open Library
open Memberships (MembershipLevel StoredMembership membershipCatalog)
open Joining (CircleId groupCapacityHardLimit)
open Coin (Wallet)
open Session (UserId)

abbrev OrderId := Nat

structure GroupExpansionProduct where
  id : String
  name : String
  seats : Nat
  price : Nat
  deriving DecidableEq, Repr

def groupExpansionProducts : List GroupExpansionProduct :=
  [⟨"light", "轻量扩群卡", 100, 100⟩, ⟨"advanced", "进阶扩群卡", 200, 180⟩,
    ⟨"large", "大型扩群卡", 600, 480⟩, ⟨"flagship", "旗舰扩群卡", 2000, 1000⟩]

def getGroupExpansionProduct (productId : String) : Option GroupExpansionProduct :=
  groupExpansionProducts.find? (·.id = productId)

/-- `client:${userId}:${idempotencyKey}` -/
structure ScopedIdempotencyKey where
  userId : UserId
  idempotencyKey : JsString
  deriving DecidableEq, Repr

structure ExpectedQuote where
  price : Int
  seats : Int
  deriving DecidableEq, Repr

/-- A JSON object with the quote, or the two ids. -/
inductive RequestFingerprint
  | quoted (circleId : CircleId) (productId : String) (expected : ExpectedQuote)
  | plain (circleId : CircleId) (productId : String)
  deriving DecidableEq, Repr

structure GroupExpansionOrder where
  idempotencyKey : ScopedIdempotencyKey
  id : OrderId
  requestFingerprint : RequestFingerprint
  userID : UserId
  circleID : CircleId
  productID : String
  productName : String
  seats : Nat
  price : Nat
  previousMaxMembers : Nat
  newMaxMembers : Nat
  walletBalanceAfter : Int
  deriving DecidableEq, Repr

/-- A `PURCHASE`, under `group-expansion:` and the key of its order. -/
structure CoinTransaction where
  idempotencyKey : ScopedIdempotencyKey
  userID : UserId
  amount : Int
  balance : Int
  note : String
  relatedID : OrderId
  deriving DecidableEq, Repr

structure GroupExpansionPurchaseResult where
  orderId : OrderId
  circleId : CircleId
  productId : String
  productName : String
  seats : Nat
  price : Nat
  previousMaxMembers : Nat
  newMaxMembers : Nat
  walletBalanceAfter : Int
  deriving DecidableEq, Repr

inductive ErrorCode
  | productNotFound
  | quoteChanged (currentPrice currentSeats : Nat)
  | circleNotFound
  | capacityExceeded (limit : Nat)
  | insufficientPoints
  | idempotencyConflict
  | userNotFound
  deriving DecidableEq, Repr

inductive Fault
  | refused (message : String) (code : ErrorCode)
  | uniqueViolation
  deriving DecidableEq, Repr

def productNotFound : Fault := .refused "扩容商品不存在" .productNotFound

def circleNotFound : Fault := .refused "群不存在" .circleNotFound

def quoteChanged (product : GroupExpansionProduct) : Fault :=
  .refused "扩容商品价格或名额已更新，请刷新后重试" (.quoteChanged product.price product.seats)

def capacityExceeded : Fault :=
  .refused "该扩容卡会超过 3000 人上限" (.capacityExceeded groupCapacityHardLimit)

def insufficientPoints : Fault := .refused "积分不足" .insufficientPoints

def idempotencyConflict : Fault := .refused "Idempotency-Key 已用于其他扩容请求" .idempotencyConflict

/-- The circles, the users and the programme are those of the admission policy. -/
structure Db where
  joining : Joining.Db
  wallets : Table Wallet UserId (·.userID)
  orders : Table GroupExpansionOrder ScopedIdempotencyKey (·.idempotencyKey)
  coinTransactions : List CoinTransaction

structure PurchaseCall where
  userId : UserId
  circleId : CircleId
  productId : String
  idempotencyKey : JsString
  expectedQuote : Option ExpectedQuote
  now : Time
  deriving DecidableEq, Repr

namespace PurchaseCall

def scopedIdempotencyKey (call : PurchaseCall) : ScopedIdempotencyKey :=
  ⟨call.userId, call.idempotencyKey⟩

def requestFingerprint (call : PurchaseCall) (product : GroupExpansionProduct) :
    RequestFingerprint :=
  match call.expectedQuote with
  | some expected => .quoted call.circleId product.id expected
  | none => .plain call.circleId product.id

end PurchaseCall

def effectiveCapacity (configuredCapacity membershipCapacity expansionSeats : Nat) : Nat :=
  min configuredCapacity (min (membershipCapacity + expansionSeats) groupCapacityHardLimit)

def configuredCapacity (circle : Joining.Circle) (baseCapacity : Nat) : Nat :=
  min (circle.maxMembers.getD baseCapacity) groupCapacityHardLimit

/-- The capacities before and after a card. -/
structure Raise where
  currentEffectiveCapacity : Nat
  nextConfiguredCapacity : Nat
  nextEffectiveCapacity : Nat

def raise (circle : Joining.Circle) (baseCapacity : Nat) (product : GroupExpansionProduct) : Raise :=
  let configured := configuredCapacity circle baseCapacity
  let nextConfigured := min (configured + product.seats) groupCapacityHardLimit
  { currentEffectiveCapacity := effectiveCapacity configured baseCapacity circle.expansionSeats
    nextConfiguredCapacity := nextConfigured
    nextEffectiveCapacity :=
      effectiveCapacity nextConfigured baseCapacity (circle.expansionSeats + product.seats) }

def Raise.purchasable (r : Raise) (product : GroupExpansionProduct) : Bool :=
  (r.nextEffectiveCapacity : Int) - r.currentEffectiveCapacity = product.seats

structure ProductItem where
  product : GroupExpansionProduct
  purchasable : Bool
  resultingMaxMembers : Nat
  deriving DecidableEq, Repr

structure GroupExpansionProductsResult where
  circleId : CircleId
  memberCount : Int
  currentMaxMembers : Nat
  expansionSeats : Nat
  hardLimit : Nat
  products : List ProductItem
  deriving DecidableEq, Repr

def restorePrior (order : GroupExpansionOrder) (requestFingerprint : RequestFingerprint) :
    Except Fault GroupExpansionPurchaseResult := do
  throwIf (order.requestFingerprint ≠ requestFingerprint) idempotencyConflict
  .ok ⟨order.id, order.circleID, order.productID, order.productName, order.seats, order.price,
    order.previousMaxMembers, order.newMaxMembers, order.walletBalanceAfter⟩

namespace Db

def ownedCircle (db : Db) (userId : UserId) (circleId : CircleId) : Except Fault Joining.Circle :=
  orThrow ((db.joining.circles.find circleId).filter fun c => c.ownerID = userId && !c.deleted)
    circleNotFound

/-- `entitlement.tier.quotas.groupMembers.actual` -/
def baseCapacity (db : Db) (membership : StoredMembership) (now : Time) : Nat :=
  (db.joining.tierOf membership now).groupMembers

def getProducts (db : Db) (userId : UserId) (circleId : CircleId) (now : Time) :
    Except Fault GroupExpansionProductsResult := do
  let circle ← db.ownedCircle userId circleId
  let user ← orThrow (db.joining.users.find userId) (.refused "User not found" .userNotFound)
  let base := db.baseCapacity user.membership now
  .ok
    { circleId := circle.id
      memberCount := circle.memberCount
      currentMaxMembers :=
        effectiveCapacity (configuredCapacity circle base) base circle.expansionSeats
      expansionSeats := circle.expansionSeats
      hardLimit := groupCapacityHardLimit
      products := groupExpansionProducts.map fun product =>
        let raised := raise circle base product
        ⟨product, raised.purchasable product, raised.nextEffectiveCapacity⟩ }

/-- The wallet is made where there is none, and debited where it holds the price. -/
def debit (db : Db) (userId : UserId) (price : Nat) :
    Except Fault (Table Wallet UserId (·.userID)) :=
  orThrow ((db.wallets.ensure ⟨userId, 0⟩).updateOne userId (fun w => (price : Int) ≤ w.balance)
    fun w => { w with balance := w.balance - price }) insufficientPoints

def balanceOf (wallets : Table Wallet UserId (·.userID)) (userId : UserId) : Int :=
  (wallets.find userId).elim 0 (·.balance)

/-- What the transaction does where no order has the key. -/
def purchaseAnew (db : Db) (call : PurchaseCall) (product : GroupExpansionProduct)
    (orderId : OrderId) : Except Fault (Db × GroupExpansionPurchaseResult) := do
  throwIf
    (call.expectedQuote.any fun e => e.price ≠ (product.price : Int) || e.seats ≠ (product.seats : Int))
    (quoteChanged product)
  let circle ← db.ownedCircle call.userId call.circleId
  let user ← orThrow (db.joining.users.find call.userId) circleNotFound
  let raised := raise circle (db.baseCapacity user.membership call.now) product
  throwIf (!raised.purchasable product) capacityExceeded
  let wallets ← db.debit call.userId product.price
  let balance := balanceOf wallets call.userId
  let order : GroupExpansionOrder :=
    { idempotencyKey := call.scopedIdempotencyKey
      id := orderId
      requestFingerprint := call.requestFingerprint product
      userID := call.userId
      circleID := call.circleId
      productID := product.id
      productName := product.name
      seats := product.seats
      price := product.price
      previousMaxMembers := raised.currentEffectiveCapacity
      newMaxMembers := raised.nextEffectiveCapacity
      walletBalanceAfter := balance }
  let orders ← orThrow (db.orders.insert order) .uniqueViolation
  throwIf (db.coinTransactions.any (·.idempotencyKey = call.scopedIdempotencyKey)) .uniqueViolation
  let circles := db.joining.circles.put
    { circle with
      expansionSeats := circle.expansionSeats + product.seats
      maxMembers := some raised.nextConfiguredCapacity }
  let result ← restorePrior order order.requestFingerprint
  .ok
    ({ db with
        joining := { db.joining with circles := circles }
        wallets := wallets
        orders := orders
        coinTransactions := db.coinTransactions ++
          [{ idempotencyKey := call.scopedIdempotencyKey
             userID := call.userId
             amount := -product.price
             balance := balance
             note := s!"{product.name}：群永久扩容 {product.seats} 人"
             relatedID := orderId }] },
      result)

/-- The transaction of a call, with the id that a new order gets. -/
def purchase (db : Db) (call : PurchaseCall) (orderId : OrderId) :
    Except Fault (Db × GroupExpansionPurchaseResult) := do
  let product ← orThrow (getGroupExpansionProduct call.productId) productNotFound
  match db.orders.find call.scopedIdempotencyKey with
  | some prior =>
    let result ← restorePrior prior (call.requestFingerprint product)
    .ok (db, result)
  | none => db.purchaseAnew call product orderId

/-- What is answered where the transaction lost the key to another that committed first. -/
def collided (db : Db) (call : PurchaseCall) : Except Fault GroupExpansionPurchaseResult := do
  let product ← orThrow (getGroupExpansionProduct call.productId) productNotFound
  let prior ← orThrow (db.orders.find call.scopedIdempotencyKey) .uniqueViolation
  restorePrior prior (call.requestFingerprint product)

end Db

/-- A call, and what others write between the calls: a circle, a user, the programme and the
points of a wallet. -/
inductive Action
  | purchase (call : PurchaseCall) (orderId : OrderId)
  | collided (call : PurchaseCall)
  | setCircle (circle : Joining.Circle)
  | setUser (user : Joining.User)
  | setProgram (enabled : Bool)
  | credit (userId : UserId) (points : Int)

def Db.next (db : Db) : Action → Db
  | .purchase call orderId => ((db.purchase call orderId).toOption.map (·.1)).getD db
  | .collided _ => db
  | .setCircle circle =>
    { db with joining := { db.joining with circles := db.joining.circles.set circle } }
  | .setUser user => { db with joining := { db.joining with users := db.joining.users.set user } }
  | .setProgram enabled => { db with joining := { db.joining with programEnabled := enabled } }
  | .credit userId points =>
    { db with
      wallets := (db.wallets.ensure ⟨userId, 0⟩).updateMany (·.userID = userId)
        (fun w => { w with balance := w.balance + points }) fun _ => rfl }

def Step (db : Db) (a : Action) (db' : Db) : Prop := db.next a = db'

/-- No card has been bought. -/
structure Start (db : Db) : Prop where
  orders : db.orders.rows = []
  coinTransactions : db.coinTransactions = []

end CircleBackend.Expansion
