import CircleBackend.Library.Ledger
import CircleBackend.Session.Model

/-!
# Coin gifts

The wallets, the transactions and the gifts of `CoinService`. A transaction of
`sendGift` is one step, what comes before it is one step a query: a call in
flight is where it has got to. The status of a user and the rows of a friendship
change at any time, and the rewards that put coins into wallets are
`creditInTransaction`.
-/

namespace CircleBackend.Coin

open Library
open Session (UserId UserStatus)

abbrev GiftId := Nat
abbrev CallId := Nat

inductive CoinTxType
  | recharge
  | giftSent
  | giftReceived
  | refund
  | purchase
  | adjustment
  | referralReward
  | referralBonus
  deriving DecidableEq, Repr

inductive FriendState
  | pending
  | accepted
  | rejected
  | withdrawn
  deriving DecidableEq, Repr

structure User where
  id : UserId
  status : UserStatus
  deriving DecidableEq, Repr

structure Friend where
  userID : UserId
  friendID : UserId
  state : FriendState
  deriving DecidableEq, Repr

structure Wallet where
  userID : UserId
  balance : Int
  deriving DecidableEq, Repr

structure CoinTransaction where
  userID : UserId
  type : CoinTxType
  amount : Int
  balance : Int
  note : Option JsString
  relatedID : Option GiftId
  idempotencyKey : Option JsString
  createdAt : Time
  deriving DecidableEq, Repr

structure CoinGift where
  idempotencyKey : JsString
  id : GiftId
  senderID : UserId
  recipientID : UserId
  amount : Nat
  message : Option JsString
  deriving DecidableEq, Repr

structure Db where
  users : Table User UserId (·.id)
  friends : Table Friend (UserId × UserId) fun f => (f.userID, f.friendID)
  wallets : Table Wallet UserId (·.userID)
  coinTransactions : List CoinTransaction
  gifts : Table CoinGift JsString (·.idempotencyKey)

/-- The arguments of `sendGift`, checked by the DTO. -/
structure Gift where
  senderId : UserId
  recipientId : UserId
  amount : Nat
  positive : 0 < amount
  idempotencyKey : JsString
  message : Option JsString

inductive CoinErrorCode
  | selfTransfer
  | amountTooLarge
  | recipientNotFound
  | notFriend
  | idempotencyConflict
  | dailyLimit
  | insufficient
  deriving DecidableEq, Repr

inductive Fault
  | refused (message : String) (code : CoinErrorCode)
  | uniqueViolation
  | recordNotFound
  | outOfRange
  | aborted
  deriving DecidableEq, Repr

def giftMaxSingle : Nat := 10000
def giftDailyLimit : Nat := 50000
def maxInt : Int := 2147483647

/-- `setHours(0, 0, 0, 0)` in the zone of the process. -/
structure Calendar where
  startOfDay : Time → Time
  before : ∀ t, startOfDay t ≤ t
  ordered : ∀ t u, t ≤ u → startOfDay t ≤ startOfDay u

/-! ## The transactions -/

namespace Db

def balanceOf (db : Db) (u : UserId) : Int := ((db.wallets.find u).map (·.balance)).getD 0

def ledgerOf (db : Db) (u : UserId) : Int :=
  posted (·.amount) (fun tx => tx.userID = u) db.coinTransactions

def totalBalance (db : Db) : Int := db.wallets.sum (·.balance)

def ensureWallet (db : Db) (u : UserId) : Db :=
  { db with wallets := db.wallets.ensure ⟨u, 0⟩ }

/-- `updateMany` with the balance in its condition; `none` is a count of 0. -/
def debit (db : Db) (u : UserId) (amount : Nat) : Option Db :=
  (db.wallets.updateOne u (fun w => (amount : Int) ≤ w.balance)
    fun w => { w with balance := w.balance - amount }).map fun wallets => { db with wallets := wallets }

def increment (db : Db) (u : UserId) (amount : Nat) : Except Fault Db :=
  match db.wallets.find u with
  | none => .error .recordNotFound
  | some w =>
    if maxInt < w.balance + amount then .error .outOfRange
    else .ok { db with wallets := db.wallets.put { w with balance := w.balance + amount } }

def creditInTransaction (db : Db) (userId : UserId) (amount : Nat) (type : CoinTxType)
    (note idempotencyKey : JsString) (now : Time) : Except Fault Db := do
  let db' ← (db.ensureWallet userId).increment userId amount
  if db.coinTransactions.any fun tx => tx.idempotencyKey = some idempotencyKey then
    .error .uniqueViolation
  else
    .ok
      { db' with
        coinTransactions := db'.coinTransactions ++
          [⟨userId, type, amount, db'.balanceOf userId, some note, none, some idempotencyKey, now⟩] }

/-- What `_sum` gives for the transactions the sender made since `todayStart`. -/
def sentSince (db : Db) (senderId : UserId) (todayStart : Time) : Int :=
  posted (·.amount)
    (fun tx => tx.userID = senderId && tx.type = .giftSent && todayStart ≤ tx.createdAt)
    db.coinTransactions

def sendGift (db : Db) (gift : Gift) (todayStart createdAt : Time) (giftId : GiftId) :
    Except Fault Db := do
  let totalSentToday := (db.sentSince gift.senderId todayStart).natAbs
  if giftDailyLimit < totalSentToday + gift.amount then
    .error (.refused s!"Daily gift limit of {giftDailyLimit} coins reached" .dailyLimit)
  else
    match ((db.ensureWallet gift.senderId).ensureWallet gift.recipientId).debit gift.senderId
        gift.amount with
    | none => .error (.refused "Insufficient coins" .insufficient)
    | some debited =>
      let credited ← debited.increment gift.recipientId gift.amount
      match credited.gifts.insert
          ⟨gift.idempotencyKey, giftId, gift.senderId, gift.recipientId, gift.amount,
            gift.message⟩ with
      | none => .error .uniqueViolation
      | some gifts =>
        .ok
          { credited with
            gifts := gifts
            coinTransactions := credited.coinTransactions ++
              [⟨gift.senderId, .giftSent, -gift.amount, debited.balanceOf gift.senderId,
                  gift.message, some giftId, none, createdAt⟩,
                ⟨gift.recipientId, .giftReceived, gift.amount,
                  credited.balanceOf gift.recipientId, gift.message, some giftId, none,
                  createdAt⟩] }

def areFriends (db : Db) (a b : UserId) : Bool :=
  db.friends.rows.any fun f =>
    ((f.userID = a && f.friendID = b) || (f.userID = b && f.friendID = a)) && f.state = .accepted

def recipientActive (db : Db) (u : UserId) : Bool :=
  (db.users.find u).any fun user => user.status = .active

/-! ## The reconciliation -/

structure WalletReconciliationResult where
  wallets : Nat
  ledgerMismatches : Nat
  negativeBalances : Nat
  deriving DecidableEq, Repr

/-- The `FULL OUTER JOIN` of the wallets and the ledger. -/
def reconciliationRows (db : Db) : List (Option Wallet × Int) :=
  (db.wallets.rows.map fun w => (some w, db.ledgerOf w.userID)) ++
    ((db.coinTransactions.map (·.userID)).dedup.filter fun u => (db.wallets.find u).isNone).map
      fun u => (none, db.ledgerOf u)

def reconcile (db : Db) : WalletReconciliationResult where
  wallets := db.reconciliationRows.length
  ledgerMismatches :=
    db.reconciliationRows.countP fun row => (row.1.map (·.balance)).getD 0 ≠ row.2
  negativeBalances := db.reconciliationRows.countP fun row => row.1.any (·.balance < 0)

end Db

/-! ## Calls in flight -/

def assertIdempotentReplayMatches (prior : CoinGift) (gift : Gift) : Option Fault :=
  if prior.senderID ≠ gift.senderId ∨ prior.recipientID ≠ gift.recipientId ∨
      prior.amount ≠ gift.amount then
    some (.refused "Idempotency-Key has already been used for a different gift"
      .idempotencyConflict)
  else none

/-- Before the recipient is read, before the friendship is, before the key is looked
up, before the transaction with the time `todayStart` was taken from, before the
key is looked up again. -/
inductive Phase
  | checked
  | recipientFound
  | befriended
  | fresh (at' : Time)
  | collided
  | returned
  | threw (fault : Fault)
  deriving DecidableEq, Repr

/-- `late` remembers whether the gift was there when the call began. -/
structure Call where
  gift : Gift
  phase : Phase
  late : Bool

structure State where
  db : Db
  now : Time
  calls : CallId → Option Call

inductive Action
  | begin (c : CallId) (gift : Gift)
  | look (c : CallId)
  | settle (c : CallId) (createdAt : Time) (giftId : GiftId)
  | abort (c : CallId) (fault : Fault)
  | setStatus (u : UserId) (status : UserStatus)
  | setFriend (userID friendID : UserId) (state : Option FriendState)
  | credit (u : UserId) (amount : Nat) (type : CoinTxType) (note key : JsString)
  | pass (ms : Nat)

def Action.caller : Action → Option CallId
  | .begin c _ | .look c | .settle c _ _ | .abort c _ => some c
  | .setStatus _ _ | .setFriend _ _ _ | .credit _ _ _ _ _ | .pass _ => none

/-- The gift that was recorded is the one that is asked for. -/
def Db.committed (db : Db) (gift : Gift) : Bool :=
  (db.gifts.find gift.idempotencyKey).any fun prior =>
    (assertIdempotentReplayMatches prior gift).isNone

namespace State

def move (s : State) (c : CallId) (call : Call) (phase : Phase) : State :=
  { s with calls := Function.update s.calls c (some { call with phase := phase }) }

/-- The checks without a query. -/
def opening (gift : Gift) : Phase :=
  if gift.senderId = gift.recipientId then
    .threw (.refused "Cannot send coins to yourself" .selfTransfer)
  else if giftMaxSingle < gift.amount then
    .threw (.refused s!"Cannot send more than {giftMaxSingle} coins at once" .amountTooLarge)
  else .checked

/-- What the next query answers. -/
def looked (s : State) (gift : Gift) : Phase → Option Phase
  | .checked =>
    some (if s.db.recipientActive gift.recipientId then .recipientFound
      else .threw (.refused "Recipient not found" .recipientNotFound))
  | .recipientFound =>
    some (if s.db.areFriends gift.senderId gift.recipientId then .befriended
      else .threw (.refused "You can only send coins to friends" .notFriend))
  | .befriended =>
    match s.db.gifts.find gift.idempotencyKey with
    | none => some (.fresh s.now)
    | some prior =>
      some ((assertIdempotentReplayMatches prior gift).elim .returned .threw)
  | .collided =>
    match s.db.gifts.find gift.idempotencyKey with
    | none => some (.threw .uniqueViolation)
    | some winner =>
      some ((assertIdempotentReplayMatches winner gift).elim .returned .threw)
  | .fresh _ | .returned | .threw _ => none

/-- `P2002` leads to a second look at the key. -/
def failed : Fault → Phase
  | .uniqueViolation => .collided
  | fault => .threw fault

def next (calendar : Calendar) (s : State) : Action → Option State
  | .begin c gift =>
    if (s.calls c).isSome then none
    else some (s.move c ⟨gift, .checked, s.db.committed gift⟩ (opening gift))
  | .look c =>
    (s.calls c).bind fun call => (s.looked call.gift call.phase).map (s.move c call)
  | .settle c createdAt giftId =>
    (s.calls c).bind fun call =>
      match call.phase with
      | .fresh at' =>
        if at' ≤ createdAt ∧ createdAt ≤ s.now then
          match s.db.sendGift call.gift (calendar.startOfDay at') createdAt giftId with
          | .ok db => some ({ s with db := db }.move c call .returned)
          | .error fault => some (s.move c call (failed fault))
        else none
      | _ => none
  | .abort c fault =>
    (s.calls c).bind fun call =>
      match call.phase with
      | .fresh _ => some (s.move c call (failed fault))
      | _ => none
  | .setStatus u status =>
    some { s with
      db :=
        { s.db with
          users := s.db.users.updateMany (fun user => user.id = u)
            (fun user => { user with status := status }) fun _ => rfl } }
  | .setFriend userID friendID state =>
    let others := s.db.friends.deleteMany fun f => f.userID = userID && f.friendID = friendID
    match state with
    | none => some { s with db := { s.db with friends := others } }
    | some state =>
      some { s with db := { s.db with friends := others.ensure ⟨userID, friendID, state⟩ } }
  | .credit u amount type note key =>
    if type = .giftSent then none
    else
      match s.db.creditInTransaction u amount type note key s.now with
      | .ok db => some { s with db := db }
      | .error _ => none
  | .pass ms => some { s with now := s.now + ms }

end State

def Step (calendar : Calendar) (s : State) (a : Action) (t : State) : Prop :=
  s.next calendar a = some t

/-- No gift and no coin yet, and nobody calls. -/
structure Start (s : State) : Prop where
  wallets : s.db.wallets.rows = []
  coinTransactions : s.db.coinTransactions = []
  gifts : s.db.gifts.rows = []
  calls : ∀ c, s.calls c = none

end CircleBackend.Coin
