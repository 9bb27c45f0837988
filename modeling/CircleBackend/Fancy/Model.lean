import CircleBackend.Session.Model

/-!
# The fancy-number marketplace

Account identifiers, fancy numbers, their leases and the orders for them. The
triggers on `User` are part of every write of its `accountId` or `inviteCode`.
Each call is a sequence of transactions, one after the other, and one that throws
leaves the state it began with. What `randomUUID` gives is an argument. The
constraints of the tables that only refuse are left out, except for the unique
keys of the rows that are inserted.
-/

namespace CircleBackend.Fancy

open Library
open Session (UserId UserStatus)

abbrev NumberId := Nat
abbrev LeaseId := Nat
abbrev OrderId := Nat

/-- JavaScript's letters, and the database's. -/
structure Casing where
  toUpperCase : JsString → JsString
  toLowerCase : JsString → JsString
  upper : JsString → JsString
  lower : JsString → JsString
  upper_upper : ∀ s, upper (upper s) = upper s
  lower_lower : ∀ s, lower (lower s) = lower s

def lowerUnit (c : UInt16) : UInt16 := if 65 ≤ c ∧ c ≤ 90 then c + 32 else c

def upperUnit (c : UInt16) : UInt16 := if 97 ≤ c ∧ c ≤ 122 then c - 32 else c

theorem lowerUnit_twice (c : UInt16) : lowerUnit (lowerUnit c) = lowerUnit c := by
  unfold lowerUnit
  by_cases letter : 65 ≤ c ∧ c ≤ 90
  · rw [if_pos letter, if_neg]
    simp only [UInt16.le_iff_toNat_le, UInt16.toNat_add, UInt16.reduceToNat] at letter ⊢
    omega
  · rw [if_neg letter, if_neg letter]

theorem upperUnit_twice (c : UInt16) : upperUnit (upperUnit c) = upperUnit c := by
  unfold upperUnit
  by_cases letter : 97 ≤ c ∧ c ≤ 122
  · rw [if_pos letter, if_neg]
    simp only [UInt16.le_iff_toNat_le, UInt16.toNat_sub, UInt16.reduceToNat] at letter ⊢
    omega
  · rw [if_neg letter, if_neg letter]

/-- The letters from A to Z, and no others. -/
def Casing.ascii : Casing where
  toUpperCase := List.map upperUnit
  toLowerCase := List.map lowerUnit
  upper := List.map upperUnit
  lower := List.map lowerUnit
  upper_upper s := by
    rw [List.map_map]
    exact List.map_congr_left fun c _ => upperUnit_twice c
  lower_lower s := by
    rw [List.map_map]
    exact List.map_congr_left fun c _ => lowerUnit_twice c

inductive NumberStatus
  | available
  | leased
  | permanent
  | disabled
  deriving DecidableEq, Repr

inductive NumberSource
  | admin
  | custom
  deriving DecidableEq, Repr

structure User where
  id : UserId
  status : UserStatus
  accountId : JsString
  inviteCode : JsString
  vipLevel : Nat
  vipExpiresAt : Option Time
  fancyNumber : Bool
  fancyNumberExpiresAt : Option Time
  fancyNumberPermanent : Bool
  deriving DecidableEq, Repr

structure AccountIdentifier where
  value : JsString
  currentUserID : Option UserId
  reservedForUserID : Option UserId
  inviteOwnerUserID : Option UserId
  deriving DecidableEq, Repr

def AccountIdentifier.claimed (ai : AccountIdentifier) : Bool :=
  ai.currentUserID.isSome || ai.reservedForUserID.isSome || ai.inviteOwnerUserID.isSome

structure FancyNumber where
  id : NumberId
  value : JsString
  status : NumberStatus
  source : NumberSource
  isRecommended : Bool
  deriving DecidableEq, Repr

structure FancyNumberLease where
  id : LeaseId
  userID : UserId
  fancyNumberID : NumberId
  restoreAccountId : Option JsString
  startedAt : Time
  expiresAt : Option Time
  permanentAt : Option Time
  endedAt : Option Time
  deriving DecidableEq, Repr

def FancyNumberLease.active (l : FancyNumberLease) : Bool := l.endedAt.isNone

/-- The keys of the orders: `client:…` and `super-conversion:…`. -/
inductive OrderKey
  | client (userId : UserId) (key : JsString)
  | superConversion (leaseId : LeaseId)
  deriving DecidableEq, Repr

inductive FancyNumberTarget
  | inventory (id : NumberId)
  | custom (value : JsString)
  deriving DecidableEq, Repr

/-- What is written into `requestFingerprint`. -/
inductive Fingerprint
  | purchase (target : FancyNumberTarget) (userId : UserId) (months : Option Nat)
  | switch (target : FancyNumberTarget) (userId : UserId) (leaseId : LeaseId)
  | renewal (userId : UserId) (leaseId : LeaseId) (months : Nat)
  | superConversion (leaseId : LeaseId)
  deriving DecidableEq, Repr

structure FancyNumberOrder where
  idempotencyKey : OrderKey
  id : OrderId
  requestFingerprint : Fingerprint
  userID : UserId
  fancyNumberID : NumberId
  leaseID : LeaseId
  months : Option Nat
  unitPrice : Nat
  totalPrice : Nat
  walletBalanceAfter : Option Nat
  newExpiresAt : Option Time
  deriving DecidableEq, Repr

structure Wallet where
  userID : UserId
  balance : Nat
  deriving DecidableEq, Repr

theorem credited_userID (points : Nat) (w : Wallet) :
    { w with balance := w.balance + points }.userID = w.userID := rfl

/-- A transaction of the service; its key is that of the order. -/
structure CoinTransaction where
  idempotencyKey : OrderKey
  userID : UserId
  amount : Int
  balance : Nat
  relatedID : OrderId
  deriving DecidableEq, Repr

structure Db where
  users : Table User UserId (·.id)
  identifiers : Table AccountIdentifier JsString (·.value)
  numbers : Table FancyNumber NumberId (·.id)
  leases : Table FancyNumberLease LeaseId (·.id)
  orders : Table FancyNumberOrder OrderKey (·.idempotencyKey)
  wallets : Table Wallet UserId (·.userID)
  coinTransactions : Table CoinTransaction OrderKey (·.idempotencyKey)

inductive FancyNumberErrorCode
  | invalidMonths
  | invalidIdempotencyKey
  | idempotencyConflict
  | notAvailable
  | alreadyOwned
  | leaseNotFound
  | leaseExpired
  | permanentCannotRenew
  | switchRequiresPermanent
  | invalidValue
  | reservedValue
  | insufficientPoints
  | quoteChanged
  | inventoryConflict
  | recommendationLimit
  | recommendationAccountOccupied
  deriving DecidableEq, Repr

/-- An exception of the service with its code or without, one of the triggers, or
one of the database. -/
inductive Fault
  | refused (message : String) (code : FancyNumberErrorCode)
  | raised (message : String)
  | occupied (message : String) (value : JsString) (code : Option FancyNumberErrorCode)
  | collision (identifier : JsString)
  | uniqueViolation
  | checkViolation
  | recordNotFound
  deriving DecidableEq, Repr

structure FancyNumberPurchaseResult where
  orderId : OrderId
  accountId : JsString
  expiresAt : Option Time
  permanent : Bool
  months : Option Nat
  unitPrice : Nat
  totalPrice : Nat
  walletBalanceAfter : Nat
  deriving DecidableEq, Repr

/-- The ids of one call. -/
structure Minted where
  numberId : NumberId
  leaseId : LeaseId
  orderId : OrderId
  deriving DecidableEq, Repr

def unitPrice : Nat := 100
def recommendationLimit : Nat := 100

/-! ## The calendar -/

def dayMs : Nat := 86400000

/-- Year, month and day of a number of days since the epoch. -/
def civil (days : Nat) : Nat × Nat × Nat :=
  let z := days + 719468
  let era := z / 146097
  let doe := z % 146097
  let yoe := (doe - doe / 1460 + doe / 36524 - doe / 146096) / 365
  let doy := doe - (365 * yoe + yoe / 4 - yoe / 100)
  let mp := (5 * doy + 2) / 153
  let month := if mp < 10 then mp + 3 else mp - 9
  let year := yoe + era * 400
  (if month ≤ 2 then year + 1 else year, month, doy - (153 * mp + 2) / 5 + 1)

def daysOf (year month day : Nat) : Nat :=
  let year := if month ≤ 2 then year - 1 else year
  let yoe := year % 400
  let doy := (153 * ((month + 9) % 12) + 2) / 5 + day - 1
  year / 400 * 146097 + (yoe * 365 + yoe / 4 - yoe / 100 + doy) - 719468

def addUtcCalendarMonths (source : Time) (months : Nat) : Time :=
  let (year, month, day) := civil (source / dayMs)
  let total := year * 12 + (month - 1) + months
  let first := daysOf (total / 12) (total % 12 + 1) 1
  let lastDay := daysOf ((total + 1) / 12) ((total + 1) % 12 + 1) 1 - first
  (first + (min day lastDay - 1)) * dayMs + source % dayMs

def resolveEffectiveMembershipLevel (user : User) (now : Time) : Nat :=
  if user.vipLevel = 0 then 0
  else if 4 ≤ user.vipLevel then 4
  else if user.vipExpiresAt.any (· ≤ now) then 0
  else user.vipLevel

/-! ## Values -/

def isUpperLetter (c : UInt16) : Bool := 65 ≤ c && c ≤ 90
def isLowerLetter (c : UInt16) : Bool := 97 ≤ c && c ≤ 122
def isDigit (c : UInt16) : Bool := 48 ≤ c && c ≤ 57

/-- `ACCOUNT_ID_PATTERN` -/
def accountIdPattern (s : JsString) : Bool :=
  4 ≤ s.length && s.length ≤ 32 &&
    s.all fun c => isUpperLetter c || isLowerLetter c || isDigit c || c = 95 || c = 45

/-- `CUSTOM_FANCY_NUMBER_PATTERN` -/
def customFancyNumberPattern (s : JsString) : Bool :=
  s.length = 6 && s.all fun c => isUpperLetter c || isDigit c

/-- ADMIN, GOVERN, OFFICI, POLICE, SERVIC, SUPPOR, SYSTEM -/
def reservedPrefixes : List JsString :=
  [[65, 68, 77, 73, 78], [71, 79, 86, 69, 82, 78], [79, 70, 70, 73, 67, 73],
    [80, 79, 76, 73, 67, 69], [83, 69, 82, 86, 73, 67], [83, 85, 80, 80, 79, 82],
    [83, 89, 83, 84, 69, 77]]

/-- The stored value. -/
def requireCustomFancyNumber (casing : Casing) (value : JsString) : Except Fault JsString :=
  let displayValue := casing.toUpperCase (trim value)
  if !customFancyNumberPattern displayValue then
    .error (.refused "靓号必须是 6 位英文字母或数字" .invalidValue)
  else
    -- `validateCustomFancyNumber` normalizes what it is given once more
    let again := casing.toUpperCase (trim displayValue)
    if !customFancyNumberPattern again || reservedPrefixes.any (·.isPrefixOf again) then
      .error (.refused "该靓号不可使用" .reservedValue)
    else .ok (casing.toLowerCase again)

def clientIdempotencyKey (userId : UserId) (value : JsString) : Except Fault OrderKey :=
  let normalized := trim value
  if normalized.isEmpty || 128 < normalized.length then
    .error (.refused "无效的 Idempotency-Key" .invalidIdempotencyKey)
  else .ok (.client userId normalized)

def displayTargetValue (casing : Casing) (storedValue : JsString) : FancyNumberTarget → JsString
  | .custom _ => casing.toUpperCase storedValue
  | .inventory _ => storedValue

namespace Db

/-! ## The registry and its triggers -/

def numberOf (db : Db) (value : JsString) : Option FancyNumber :=
  db.numbers.rows.find? fun n => n.value = value

/-- `INSERT … ON CONFLICT DO NOTHING` -/
def ensureIdentifier (db : Db) (value : JsString) : Db :=
  { db with identifiers := (db.identifiers.insert ⟨value, none, none, none⟩).getD db.identifiers }

/-- The rows are kept in lower case. -/
def createIdentifier (db : Db) (casing : Casing) (value : JsString) : Except Fault Db :=
  match db.identifiers.insert ⟨casing.lower value, none, none, none⟩ with
  | none => .error .uniqueViolation
  | some identifiers => .ok { db with identifiers := identifiers }

/-- Another row has the value, or it is not in lower case, or the registry lacks it. -/
def createNumber (db : Db) (casing : Casing) (n : FancyNumber) : Except Fault Db :=
  if (db.numberOf n.value).isSome then .error .uniqueViolation
  else if casing.lower n.value ≠ n.value ∨ (db.identifiers.find n.value).isNone then
    .error .checkViolation
  else
    match db.numbers.insert n with
    | none => .error .uniqueViolation
    | some numbers => .ok { db with numbers := numbers }

def occupied (db : Db) (value : JsString) (p : AccountIdentifier → Bool) : Bool :=
  (db.identifiers.find value).any p

/-- `User_account_identifier_prepare` on `INSERT`; the letters of the row are
folded before. -/
def prepareInsert (db : Db) (casing : Casing) (new : User) : Except Fault Db :=
  let taken (value : JsString) (ai : AccountIdentifier) : Bool :=
    ai.claimed || (db.numberOf value).isSome
  let invite := casing.lower new.inviteCode
  if db.occupied new.accountId (taken new.accountId) then .error (.collision new.accountId)
  else
    let db' := db.ensureIdentifier new.accountId
    if invite = new.accountId then .ok db'
    else if db'.occupied invite (taken invite) then .error (.collision new.inviteCode)
    else .ok (db'.ensureIdentifier invite)

/-- `User_account_identifier_assign` -/
def assign (db : Db) (casing : Casing) (new : User) : Db :=
  let invite := casing.lower new.inviteCode
  let current := db.identifiers.updateMany (fun ai => ai.value = new.accountId)
    (fun ai =>
      { ai with
        currentUserID := some new.id
        inviteOwnerUserID := if ai.value = invite then some new.id else ai.inviteOwnerUserID })
    fun _ => rfl
  if invite = new.accountId then { db with identifiers := current }
  else
    { db with
      identifiers := current.updateMany (fun ai => ai.value = invite)
        (fun ai => { ai with inviteOwnerUserID := some new.id }) fun _ => rfl }

/-- The part of `prepare` on `UPDATE` that moves the account. -/
def moveAccount (db : Db) (casing : Casing) (old new : User) : Except Fault Db :=
  let from' := casing.lower old.accountId
  if new.accountId = from' then .ok db
  else if db.occupied new.accountId fun ai =>
      ai.currentUserID ≠ some new.id &&
        (ai.currentUserID.isSome || ai.reservedForUserID.isSome ||
          ai.inviteOwnerUserID.any (· ≠ new.id) || (db.numberOf new.accountId).isSome) then
    .error (.collision new.accountId)
  else if (db.identifiers.find new.accountId).any (·.currentUserID = some new.id) then .ok db
  else
    let released := (db.ensureIdentifier new.accountId).identifiers.updateMany
      (fun ai => ai.value = from' && ai.currentUserID = some new.id)
      (fun ai => { ai with currentUserID := none }) fun _ => rfl
    match released.updateOne new.accountId (·.currentUserID.isNone)
        (fun ai => { ai with currentUserID := some new.id }) with
    | none => .error (.collision new.accountId)
    | some identifiers => .ok { db with identifiers := identifiers }

/-- The part that moves the invite code. -/
def moveInvite (db : Db) (casing : Casing) (old new : User) : Except Fault Db :=
  let from' := casing.lower old.inviteCode
  let to' := casing.lower new.inviteCode
  if to' = from' then .ok db
  else if db.occupied to' fun ai =>
      ai.currentUserID.any (· ≠ new.id) || ai.reservedForUserID.isSome ||
        ai.inviteOwnerUserID.any (· ≠ new.id) || (db.numberOf to').isSome then
    .error (.collision new.inviteCode)
  else if (db.identifiers.find to').any (·.inviteOwnerUserID = some new.id) then .ok db
  else
    let released := (db.ensureIdentifier to').identifiers.updateMany
      (fun ai => ai.value = from' && ai.inviteOwnerUserID = some new.id)
      (fun ai => { ai with inviteOwnerUserID := none }) fun _ => rfl
    match released.updateOne to' (·.inviteOwnerUserID.isNone)
        (fun ai => { ai with inviteOwnerUserID := some new.id }) with
    | none => .error (.collision new.inviteCode)
    | some identifiers => .ok { db with identifiers := identifiers }

/-- The row of the registry is deleted when nothing holds on to it. -/
def dropIdentifier (db : Db) (value : JsString) : Db :=
  { db with
    identifiers := db.identifiers.deleteMany fun ai =>
      ai.value = value && !ai.claimed && (db.numberOf value).isNone }

/-- `User_account_identifier_cleanup` -/
def cleanup (db : Db) (casing : Casing) (old new : User) : Db :=
  let account := casing.lower old.accountId
  let invite := casing.lower old.inviteCode
  let db' := if account = casing.lower new.accountId then db else db.dropIdentifier account
  if invite = casing.lower new.inviteCode ∨ invite = account then db' else db'.dropIdentifier invite

/-- The letters that `prepare` folds. -/
def fold (casing : Casing) (u : User) : User :=
  { u with accountId := casing.lower u.accountId, inviteCode := casing.upper u.inviteCode }

/-- `UPDATE` of a user that names `accountId` or `inviteCode`. -/
def updateUser (db : Db) (casing : Casing) (old new : User) : Except Fault Db := do
  let folded := fold casing new
  let moved ← db.moveAccount casing old folded
  let prepared ← moved.moveInvite casing old folded
  return { prepared with users := prepared.users.put folded }.cleanup casing old folded

/-- `INSERT` of a user; `accountId` and `inviteCode` are unique. -/
def createUser (db : Db) (casing : Casing) (new : User) : Except Fault Db := do
  let folded := fold casing new
  let prepared ← db.prepareInsert casing folded
  if db.users.rows.any fun u =>
      u.accountId = folded.accountId || u.inviteCode = folded.inviteCode then
    .error .uniqueViolation
  else
    match prepared.users.insert folded with
    | none => .error .uniqueViolation
    | some users => .ok ({ prepared with users := users }.assign casing folded)

def changeInviteCode (db : Db) (casing : Casing) (userId : UserId) (inviteCode : JsString) :
    Except Fault Db :=
  match db.users.find userId with
  | none => .error .recordNotFound
  | some u => db.updateUser casing u { u with inviteCode := inviteCode }

end Db

end CircleBackend.Fancy
