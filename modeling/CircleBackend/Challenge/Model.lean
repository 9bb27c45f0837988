import CircleBackend.Session.Model
import Mathlib.Data.Int.Notation

/-!
# Login challenges of one account

The rows `DeviceTrustService` keeps for one account and the statements it runs
on them. Every write to a challenge is one conditional update; which rows it
selects and what it sets are `Update.selects` and `Update.set`. The log keeps
each update with the rows it matched, newest first.
-/

namespace CircleBackend.Challenge

open Library
open Session (DeviceKey SessionContext maxDeviceNameLength maxUserAgentLength maxIpLength)

abbrev ChallengeId := Nat

def loginChallengeDecisionMs : Nat := 5 * 60 * 1000
def loginChallengeCodeTtlMs : Nat := 60 * 1000
def loginChallengeMaxAttempts : Nat := 5
def loginChallengeRateLimit : Nat := 5
def loginChallengeAccountRateLimit : Nat := 20
def loginChallengeRateWindowMs : Nat := 10 * 60 * 1000
def loginChallengeRetentionMs : Nat := 24 * 60 * 60 * 1000
def loginChallengeSecurityCodeDailyFailures : Nat := 10
def loginRecoveryDelayMs : Nat := 24 * 60 * 60 * 1000
def loginRecoveryCompletionWindowMs : Nat := 7 * 24 * 60 * 60 * 1000
def loginRecoveryMaxActive : Nat := 3

/-- `argon2.hash` with the salt it draws, and `argon2.verify`. The text hashed
is the challenge's id and the code; an id holds no colon, so the pair says what
the joined text says. -/
structure Argon2 where
  hash : Nat → ChallengeId × JsString → JsString
  verify : JsString → ChallengeId × JsString → Bool

/-- What the encoded hash promises: it verifies the text it was made from and no
other, and it carries its salt. -/
structure Argon2.Lawful (argon2 : Argon2) : Prop where
  verify_hash : ∀ salt text other,
    argon2.verify (argon2.hash salt text) other = true ↔ text = other
  salted : ∀ salt salt' text text',
    argon2.hash salt text = argon2.hash salt' text' → salt = salt'

/-- `randomInt(0, 1_000_000).toString().padStart(6, '0')` -/
def sixDigits (drawn : Fin 1000000) : JsString :=
  [100000, 10000, 1000, 100, 10, 1].map fun place => UInt16.ofNat (48 + drawn.val / place % 10)

inductive LoginChallengeStatus
  | pending
  | approved
  | rejected
  | consumed
  deriving DecidableEq, Repr

structure LoginChallenge where
  id : ChallengeId
  deviceKey : DeviceKey
  deviceName : Option JsString
  ip : Option JsString
  userAgent : Option JsString
  status : LoginChallengeStatus
  codeHash : Option JsString
  codeExpiresAt : Option Time
  attempts : Int
  expiresAt : Time
  decidedAt : Option Time
  createdAt : Time
  recoveryRequestedAt : Option Time
  recoveryAvailableAt : Option Time
  deriving DecidableEq, Repr

structure TrustedDevice where
  deviceKey : DeviceKey
  revokedAt : Option Time
  stableDeviceKey : Option DeviceKey
  deriving DecidableEq, Repr

/-- The exceptions of the service, each with its text and its error code. -/
inductive TrustError
  | deviceIdRequired
  | deviceNotTrusted
  | rateLimited
  | recoveryLimited
  | codeInvalid
  | challengeInvalid
  | challengeExpired
  | challengeRejected
  | challengeLocked
  deriving DecidableEq, Repr

def TrustError.message : TrustError → String
  | .deviceIdRequired => "检测到陌生设备登录，请升级到最新版本后重试"
  | .deviceNotTrusted => "当前设备不是受信任设备，无法处理登录请求"
  | .rateLimited => "验证请求过于频繁，请 10 分钟后再试"
  | .recoveryLimited => "找回申请过多，请等现有申请处理完后再试"
  | .codeInvalid => "验证码错误，请核对受信任设备上显示的验证码"
  | .challengeInvalid => "登录验证请求无效，请重新登录"
  | .challengeExpired => "验证码已失效，请重新发起验证"
  | .challengeRejected => "登录请求已被受信任设备拒绝"
  | .challengeLocked => "验证码错误次数过多，本次验证已作废，请重新发起"

def TrustError.errorCode : TrustError → String
  | .deviceIdRequired => "AUTH_DEVICE_ID_REQUIRED"
  | .deviceNotTrusted => "AUTH_DEVICE_NOT_TRUSTED"
  | .rateLimited => "AUTH_DEVICE_VERIFICATION_RATE_LIMITED"
  | .recoveryLimited => "AUTH_LOGIN_RECOVERY_LIMITED"
  | .codeInvalid => "AUTH_DEVICE_CODE_INVALID"
  | .challengeInvalid => "AUTH_LOGIN_CHALLENGE_INVALID"
  | .challengeExpired => "AUTH_LOGIN_CHALLENGE_EXPIRED"
  | .challengeRejected => "AUTH_LOGIN_CHALLENGE_REJECTED"
  | .challengeLocked => "AUTH_LOGIN_CHALLENGE_LOCKED"

/-- `status in [PENDING, APPROVED]` -/
def LoginChallenge.live (r : LoginChallenge) : Bool :=
  r.status = .pending || r.status = .approved

inductive PublicStatus
  | pending
  | approved
  | rejected
  | expired
  | consumed
  deriving DecidableEq, Repr

/-- A code issued just before the decision window closed may still be entered
while it lasts. -/
def LoginChallenge.publicStatus (r : LoginChallenge) (now : Time) : PublicStatus :=
  if r.status = .rejected then .rejected
  else if r.status = .consumed then .consumed
  else if r.attempts ≥ loginChallengeMaxAttempts then .expired
  else if now < r.expiresAt then if r.status = .approved then .approved else .pending
  else if r.status = .approved && r.codeExpiresAt.any (now < ·) then .approved
  else .expired

/-- The refusals `resendLocked` raises on a status that is over. -/
def PublicStatus.decided : PublicStatus → Option TrustError
  | .rejected => some .challengeRejected
  | .consumed => some .challengeInvalid
  | _ => none

/-- The checks the request of a recovery and the security-code fallback share. -/
def LoginChallenge.refusal (r : LoginChallenge) (now : Time) : Option TrustError :=
  match (r.publicStatus now).decided with
  | some e => some e
  | none =>
    if r.attempts ≥ loginChallengeMaxAttempts then some .challengeLocked
    else if r.publicStatus now = .expired then some .challengeExpired
    else none

/-- The conditional updates. Some also name what the statement does not carry:
the code approved or entered, the row a failure's call had read, the device that
asks for a recovery or claims it, and the recovery whose completion runs an
`invalidateChallenges`. -/
inductive Update
  | approve (id : ChallengeId) (now : Time) (code : JsString) (codeHash : JsString)
  | reject (id : ChallengeId) (now : Time)
  | reopenIfCodeExpired (id : ChallengeId) (now : Time)
  | requestRecovery (id : ChallengeId) (deviceKey : Option DeviceKey) (now : Time)
  | reserve (id : ChallengeId) (codeHash : JsString) (now : Time)
  | consumeCode (id : ChallengeId) (codeHash : JsString) (now : Time) (code : JsString)
  | countFailure (read : LoginChallenge)
  | consumeFallback (id : ChallengeId)
  | claimRecovery (id : ChallengeId) (deviceKey : DeviceKey) (now : Time)
  | releaseRecoveryClaim (id : ChallengeId)
  | cancelRecoveries (activeDeviceKey : DeviceKey) (now : Time)
  | invalidateChallenges (completing : Option ChallengeId) (now : Time)
  deriving DecidableEq, Repr

namespace Update

def selects : Update → LoginChallenge → Bool
  | approve id now _ _, r => r.id = id && r.live && now < r.expiresAt
  | reject id _, r => r.id = id && r.live
  | reopenIfCodeExpired id now, r =>
    r.id = id && r.status = .approved && r.codeExpiresAt.any (· ≤ now) && now < r.expiresAt
  | requestRecovery id _ now, r =>
    r.id = id && r.live && r.recoveryAvailableAt.isNone && now < r.expiresAt &&
      r.attempts < loginChallengeMaxAttempts
  | reserve id codeHash now, r =>
    r.id = id && r.status = .approved && r.codeHash = some codeHash &&
      r.codeExpiresAt.any (now < ·) && r.attempts < loginChallengeMaxAttempts
  | consumeCode id codeHash now _, r =>
    r.id = id && r.status = .approved && r.codeHash = some codeHash &&
      r.codeExpiresAt.any (now < ·) && r.attempts ≤ loginChallengeMaxAttempts
  | countFailure read, r => r.id = read.id && r.attempts < loginChallengeMaxAttempts
  | consumeFallback id, r => r.id = id && r.live && r.attempts < loginChallengeMaxAttempts
  | claimRecovery id _ now, r =>
    r.id = id && r.live && r.recoveryAvailableAt.any (· ≤ now) && now < r.expiresAt
  | releaseRecoveryClaim id, r =>
    r.id = id && r.status = .consumed && r.recoveryAvailableAt.isSome
  | cancelRecoveries activeDeviceKey _, r =>
    r.deviceKey ≠ activeDeviceKey && r.recoveryAvailableAt.isSome && r.live
  | invalidateChallenges _ _, r => r.live

def set : Update → LoginChallenge → LoginChallenge
  | approve _ now _ codeHash, r =>
    { r with
      status := .approved
      codeHash := some codeHash
      codeExpiresAt := some (now + loginChallengeCodeTtlMs)
      attempts := 0
      decidedAt := some now }
  | reject _ now, r | cancelRecoveries _ now, r | invalidateChallenges _ now, r =>
    { r with
      status := .rejected
      codeHash := none
      codeExpiresAt := none
      decidedAt := some now }
  | reopenIfCodeExpired _ _, r =>
    { r with
      status := .pending
      codeHash := none
      codeExpiresAt := none }
  | requestRecovery _ _ now, r =>
    { r with
      recoveryRequestedAt := some now
      recoveryAvailableAt := some (now + loginRecoveryDelayMs)
      expiresAt := now + loginRecoveryDelayMs + loginRecoveryCompletionWindowMs }
  | reserve _ _ _, r | countFailure _, r => { r with attempts := r.attempts + 1 }
  | consumeCode _ _ _ _, r =>
    { r with
      status := .consumed
      codeHash := none
      attempts := r.attempts - 1 }
  | consumeFallback _, r =>
    { r with
      status := .consumed
      codeHash := none }
  | claimRecovery _ _ now, r =>
    { r with
      status := .consumed
      codeHash := none
      codeExpiresAt := none
      decidedAt := some now }
  | releaseRecoveryClaim _, r =>
    { r with
      status := .pending
      decidedAt := none }

@[simp] theorem set_id (u : Update) (r : LoginChallenge) : (u.set r).id = r.id := by
  cases u <;> rfl

@[simp] theorem set_deviceKey (u : Update) (r : LoginChallenge) :
    (u.set r).deviceKey = r.deviceKey := by
  cases u <;> rfl

@[simp] theorem set_createdAt (u : Update) (r : LoginChallenge) :
    (u.set r).createdAt = r.createdAt := by
  cases u <;> rfl

/-- What the update leaves of a row. -/
def apply (u : Update) (r : LoginChallenge) : LoginChallenge := if u.selects r then u.set r else r

@[simp] theorem apply_id (u : Update) (r : LoginChallenge) : (u.apply r).id = r.id := by
  unfold apply
  split <;> simp

@[simp] theorem apply_createdAt (u : Update) (r : LoginChallenge) :
    (u.apply r).createdAt = r.createdAt := by
  unfold apply
  split <;> simp

/-- The updates that let a device in. -/
def logsIn : Update → Bool
  | consumeCode .. | consumeFallback _ | claimRecovery .. => true
  | _ => false

/-- The updates that shut a challenge. -/
def shuts : Update → Bool
  | reject .. | cancelRecoveries .. | invalidateChallenges .. => true
  | _ => false

def releases : Update → Bool
  | releaseRecoveryClaim _ => true
  | _ => false

def approves : Update → Bool
  | approve .. => true
  | _ => false

end Update

/-- One update, the clock when it ran and the rows it matched, as they were. -/
structure Entry where
  time : Time
  update : Update
  rows : List LoginChallenge
  deriving DecidableEq, Repr

def Entry.hits (e : Entry) (id : ChallengeId) : Bool := e.rows.any (·.id = id)

structure Db where
  now : Time
  challenges : Table LoginChallenge ChallengeId (·.id)
  trustedDevices : Table TrustedDevice DeviceKey (·.deviceKey)
  nextId : ChallengeId
  salts : Nat
  log : List Entry

namespace Db

/-- `updateMany` -/
def exec (db : Db) (u : Update) : Db :=
  { db with
    challenges := db.challenges.updateMany u.selects u.set u.set_id
    log := ⟨db.now, u, db.challenges.select u.selects⟩ :: db.log }

def find (db : Db) (id : ChallengeId) : Option LoginChallenge := db.challenges.find id

/-- `findForDevice`: a wrong device gets the answer of a missing challenge. -/
def findForDevice (db : Db) (id : ChallengeId) (deviceKey : Option DeviceKey) :
    Option LoginChallenge :=
  match deviceKey.filter (· ≠ []) with
  | none => none
  | some k => (db.find id).filter (·.deviceKey = k)

def isTrusted (db : Db) (deviceKey : Option DeviceKey) : Bool :=
  match deviceKey.filter (· ≠ []) with
  | none => false
  | some k => (db.trustedDevices.find k).any (·.revokedAt.isNone)

/-- No trusted device and no live APP session; the sessions are counted in
another table. -/
def isFirstDevice (db : Db) (liveSessions : Nat) : Bool :=
  db.trustedDevices.count (·.revokedAt.isNone) = 0 && liveSessions = 0

/-- The trusted devices after `trust`. -/
def trust (db : Db) (k : DeviceKey) : Table TrustedDevice DeviceKey (·.deviceKey) :=
  db.trustedDevices.upsert ⟨k, none, none⟩ (fun d => { d with revokedAt := none }) (fun _ => rfl)

/-- `recordTrustOnRefresh`: whether the device is trusted now, and the devices
after it. A revoked device is not trusted again. -/
def recordTrustOnRefresh (db : Db) (k : DeviceKey) (context : SessionContext) :
    Bool × Table TrustedDevice DeviceKey (·.deviceKey) :=
  let stable := context.stableDeviceKey.filter fun s =>
    s ≠ [] && context.deviceKey = some k && s ≠ k
  match db.trustedDevices.find k with
  | none => (true, db.trustedDevices.upsert ⟨k, none, stable⟩ id (fun _ => rfl))
  | some d =>
    if d.revokedAt.isSome then (false, db.trustedDevices)
    else (true, db.trustedDevices.updateMany (fun d => d.deviceKey = k)
      (fun d => { d with stableDeviceKey := nullish stable d.stableDeviceKey }) (fun _ => rfl))

/-- `revokeDevice` and `revokeOtherDevices` -/
def revokeDevices (db : Db) (p : DeviceKey → Bool) :
    Table TrustedDevice DeviceKey (·.deviceKey) :=
  db.trustedDevices.updateMany (fun d => p d.deviceKey && d.revokedAt.isNone)
    (fun d => { d with revokedAt := some db.now }) (fun _ => rfl)

/-- The recoveries under way, as `requestRecoveryLocked` counts them. -/
def activeRecoveries (db : Db) : Nat :=
  db.challenges.count fun r => r.recoveryAvailableAt.isSome && r.live && db.now < r.expiresAt

/-- The failures of the last day, as `verifySecurityCodeFallback` sums them: by
the creation time of the challenge they were made on. -/
def recentFailures (db : Db) : Int :=
  ((db.challenges.select fun r => db.now < r.createdAt + loginChallengeRetentionMs).map
    (·.attempts)).sum

/-- The recovery `claimMaturedRecovery` finds for a device. -/
def maturedRecovery (db : Db) (k : DeviceKey) (now : Time) : Option LoginChallenge :=
  db.challenges.findFirst
    (fun r => r.deviceKey = k && r.live && r.recoveryAvailableAt.any (· ≤ now) &&
      now < r.expiresAt && r.attempts < loginChallengeMaxAttempts)
    (fun a b => a.recoveryAvailableAt.getD 0 < b.recoveryAvailableAt.getD 0)

/-- The challenge `evaluateLogin` reuses for a device. -/
def reusable (db : Db) (k : DeviceKey) (now : Time) : Option LoginChallenge :=
  db.challenges.findFirst (fun r => r.deviceKey = k && r.live && now < r.expiresAt)
    (fun a b => b.createdAt < a.createdAt)

/-- The row `createChallenge` inserts. -/
def newChallenge (db : Db) (k : DeviceKey) (context : SessionContext) : LoginChallenge where
  id := db.nextId
  deviceKey := k
  deviceName := truncate context.deviceName maxDeviceNameLength
  ip := truncate context.ip maxIpLength
  userAgent := truncate context.userAgent maxUserAgentLength
  status := .pending
  codeHash := none
  codeExpiresAt := none
  attempts := 0
  expiresAt := db.now + loginChallengeDecisionMs
  decidedAt := none
  createdAt := db.now
  recoveryRequestedAt := none
  recoveryAvailableAt := none

/-- `createChallenge`; `none` is the rate limit. `uuid()` is the next unused
number. -/
def createChallenge (db : Db) (k : DeviceKey) (context : SessionContext) : Option Db :=
  let recent (r : LoginChallenge) : Bool := db.now < r.createdAt + loginChallengeRateWindowMs
  let ip := truncate context.ip maxIpLength
  if db.challenges.count (fun r => r.ip = ip && recent r) ≥ loginChallengeRateLimit ∨
      db.challenges.count recent ≥ loginChallengeAccountRateLimit then none
  else (db.challenges.insert (db.newChallenge k context)).map fun challenges =>
    { db with
      challenges := challenges
      nextId := db.nextId + 1 }

/-- The two clean-ups, by the clock they read: all expired challenges, or one
batch of them. -/
def cleanup (db : Db) (reading : Time) (candidates : Option (List ChallengeId)) : Db :=
  { db with
    challenges := db.challenges.deleteMany fun r =>
      r.expiresAt + loginChallengeRetentionMs < reading && candidates.all (r.id ∈ ·) }

end Db

end CircleBackend.Challenge
