import CircleBackend.Challenge.Model

/-!
# Calls on login challenges

A call under the account lock is a sequence of statements. `Call` is where it
stands, `Call.action` the next thing it does, and between two actions anything
outside the lock may happen: the clock moves, an `approve` runs, a clean-up
runs. At most one call holds the lock; any number of approvals are in flight.
-/

namespace CircleBackend.Challenge

open Library
open Session (DeviceKey SessionContext)

/-- What a caller is told. -/
inductive Reply
  | trusted
  | challenge (id : ChallengeId) (expiresAt : Time) (recoveryAvailableAt : Option Time)
  | created
  | recovered (id : ChallengeId)
  | verified (id : ChallengeId)
  | wrong
  | completed
  | approved (code : JsString) (codeExpiresAt : Time)
  | failed (error : TrustError)
  deriving DecidableEq, Repr

/-- The steps of `completeRecoveryLogin` that write here, in order. The sessions
it issues and revokes before them are not kept in this model. -/
inductive Completion
  | revokeOtherDevices
  | invalidateChallenges
  | trust
  deriving DecidableEq, Repr

/-- Where the call that holds the account lock stands. -/
inductive Call
  | login (context : SessionContext) (bypass : Bool) (liveSessions : Nat)
  | cancelRecoveries (deviceKey : DeviceKey)
  | claimMaturedRecovery (deviceKey : DeviceKey) (context : SessionContext) (now : Time)
  | claim (id : ChallengeId) (deviceKey : DeviceKey) (context : SessionContext) (now : Time)
  | findReusable (deviceKey : DeviceKey) (context : SessionContext) (now : Time)
  | reopenIfCodeExpired (read : LoginChallenge) (now : Time)
  | createChallenge (deviceKey : DeviceKey) (context : SessionContext)
  | completeRecoveryLogin (id : ChallengeId) (deviceKey : DeviceKey) (stage : Completion)
  | releaseRecoveryClaim (id : ChallengeId)
  | resend (id : ChallengeId) (deviceKey : Option DeviceKey)
  | resendLocked (read : LoginChallenge)
  | requestRecovery (id : ChallengeId) (deviceKey : Option DeviceKey)
  | requestRecoveryLocked (read : LoginChallenge) (deviceKey : Option DeviceKey)
  | extendForRecovery (id : ChallengeId) (deviceKey : Option DeviceKey) (now : Time)
  | consumeWithCode (id : ChallengeId) (deviceKey : Option DeviceKey) (code : JsString)
  | checkApproved (read : LoginChallenge) (code : JsString)
  | reserve (id : ChallengeId) (deviceKey : DeviceKey) (codeHash : JsString) (now : Time)
      (code : JsString) (attempts : Int)
  | compareCode (id : ChallengeId) (deviceKey : DeviceKey) (codeHash : JsString) (now : Time)
      (code : JsString) (attempts : Int)
  | verifySecurityCodeFallback (id : ChallengeId) (deviceKey : Option DeviceKey) (correct : Bool)
  | checkFallback (read : LoginChallenge) (correct : Bool)
  | checkBudget (read : LoginChallenge) (correct : Bool)
  | compareSecurityCode (read : LoginChallenge) (correct : Bool)
  | trust (deviceKey : DeviceKey) (reply : Reply)
  | reject (approver : Option DeviceKey) (id : ChallengeId)
  | rejectTrusted (id : ChallengeId)
  | refresh (deviceKey : Option DeviceKey) (context : SessionContext) (trustFails : Bool)
      (cancelFails : Bool)
  | revokeDevice (deviceKey : DeviceKey)
  | revokeOtherDevices (keep : Option DeviceKey)
  | invalidateChallenges
  deriving DecidableEq, Repr

/-- Where a call goes on: further on under the lock, or back to its caller. -/
inductive Next
  | call (c : Call)
  | reply (r : Reply)
  deriving DecidableEq, Repr

/-- What a call does next: read and decide, perhaps after a write to the trusted
devices; one update of challenges, which goes on by the number of rows it
matched; or insert a challenge. -/
inductive Action
  | proceed (devices : Table TrustedDevice DeviceKey (·.deviceKey)) (next : Next)
  | update (u : Update) (devices : Table TrustedDevice DeviceKey (·.deviceKey))
      (next : Nat → Next)
  | insert (deviceKey : DeviceKey) (context : SessionContext)

namespace Call

/-- `challengeId` and the row it was read as, or the refusal. -/
def afterRead (db : Db) (id : ChallengeId) (deviceKey : Option DeviceKey)
    (next : LoginChallenge → Call) : Action :=
  .proceed db.trustedDevices <|
    match db.findForDevice id deviceKey with
    | none => .reply (.failed .challengeInvalid)
    | some read => .call (next read)

/-- `evaluateLogin` up to its first write or claim, and the bypass of `login`. -/
def startLogin (db : Db) (context : SessionContext) (bypass : Bool) (liveSessions : Nat) :
    Action :=
  match context.deviceKey.filter (· ≠ []) with
  | none =>
    .proceed db.trustedDevices <|
      if bypass then .reply .trusted
      else if db.isFirstDevice liveSessions then .reply .trusted
      else .reply (.failed .deviceIdRequired)
  | some k =>
    if bypass then .proceed (db.trust k) (.call (.cancelRecoveries k))
    else if db.isTrusted (some k) then .proceed db.trustedDevices (.call (.cancelRecoveries k))
    else if (db.trustedDevices.find k).isNone &&
        db.trustedDevices.rows.any (fun d => d.stableDeviceKey = some k && d.revokedAt.isNone) then
      .proceed (db.trust k) (.call (.cancelRecoveries k))
    else if db.isFirstDevice liveSessions then .proceed (db.trust k) (.reply .trusted)
    else .proceed db.trustedDevices (.call (.claimMaturedRecovery k context db.now))

/-- `resendLocked` after it has read the challenge. -/
def resendRead (db : Db) (read : LoginChallenge) : Action :=
  .proceed db.trustedDevices <|
    match (read.publicStatus db.now).decided with
    | some e => .reply (.failed e)
    | none =>
      if read.publicStatus db.now = .expired then
        .call (.createChallenge read.deviceKey
          ⟨read.deviceName, read.ip, read.userAgent, none, none⟩)
      else .call (.reopenIfCodeExpired read db.now)

/-- `requestRecoveryLocked` after it has read the challenge. A second request
answers with the first one's time. -/
def requestRead (db : Db) (read : LoginChallenge) (deviceKey : Option DeviceKey) : Action :=
  .proceed db.trustedDevices <|
    match read.refusal db.now with
    | some e => .reply (.failed e)
    | none =>
      if read.recoveryAvailableAt.isSome then
        .reply (.challenge read.id read.expiresAt read.recoveryAvailableAt)
      else if db.activeRecoveries ≥ loginRecoveryMaxActive then .reply (.failed .recoveryLimited)
      else .call (.extendForRecovery read.id deviceKey db.now)

/-- `consumeWithCode` after it has read the challenge. -/
def approvedRead (db : Db) (read : LoginChallenge) (code : JsString) : Next :=
  if read.status = .rejected then .reply (.failed .challengeRejected)
  else if read.status = .consumed then .reply (.failed .challengeInvalid)
  else if read.attempts ≥ loginChallengeMaxAttempts then .reply (.failed .challengeLocked)
  else
    match read.codeHash.filter (· ≠ []) with
    | some codeHash =>
      if read.status = .approved && read.codeExpiresAt.any (db.now < ·) then
        .call (.reserve read.id read.deviceKey codeHash db.now code read.attempts)
      else refused
    | none => refused
where
  /-- A challenge nobody has approved yet has no code to enter. -/
  refused : Next :=
    if read.status = .pending && db.now < read.expiresAt then .reply (.failed .codeInvalid)
    else .reply (.failed .challengeExpired)

/-- One more failure uses up the attempts. -/
def reachesLimit (r : LoginChallenge) : Bool := r.attempts + 1 ≥ loginChallengeMaxAttempts

/-- An update that must match its row. -/
def orElse (found : Next) (refusal : TrustError) (count : Nat) : Next :=
  if count = 1 then found else .reply (.failed refusal)

def action (argon2 : Argon2) (db : Db) : Call → Action
  | login context bypass liveSessions => startLogin db context bypass liveSessions
  | cancelRecoveries k =>
    .update (.cancelRecoveries k db.now) db.trustedDevices fun _ => .reply .trusted
  | claimMaturedRecovery k context now =>
    .proceed db.trustedDevices <|
      match db.maturedRecovery k now with
      | some matured => .call (.claim matured.id k context now)
      | none => .call (.findReusable k context now)
  | claim id k context now =>
    .update (.claimRecovery id k now) db.trustedDevices fun count =>
      if count = 1 then .call (.completeRecoveryLogin id k .revokeOtherDevices)
      else .call (.findReusable k context now)
  | findReusable k context now =>
    .proceed db.trustedDevices <|
      match db.reusable k now with
      | some read => .call (.reopenIfCodeExpired read now)
      | none => .call (.createChallenge k context)
  | reopenIfCodeExpired read now =>
    let view := .reply (.challenge read.id read.expiresAt read.recoveryAvailableAt)
    if read.status = .approved && read.codeExpiresAt.any (· ≤ now) && now < read.expiresAt then
      .update (.reopenIfCodeExpired read.id now) db.trustedDevices fun _ => view
    else .proceed db.trustedDevices view
  | createChallenge k context => .insert k context
  | completeRecoveryLogin id k .revokeOtherDevices =>
    .proceed (db.revokeDevices (· ≠ k)) (.call (.completeRecoveryLogin id k .invalidateChallenges))
  | completeRecoveryLogin id k .invalidateChallenges =>
    .update (.invalidateChallenges (some id) db.now) db.trustedDevices fun _ =>
      .call (.completeRecoveryLogin id k .trust)
  | completeRecoveryLogin id k .trust => .proceed (db.trust k) (.reply (.recovered id))
  | releaseRecoveryClaim id =>
    .update (.releaseRecoveryClaim id) db.trustedDevices fun _ => .reply .completed
  | resend id deviceKey => afterRead db id deviceKey .resendLocked
  | resendLocked read => resendRead db read
  | requestRecovery id deviceKey => afterRead db id deviceKey (.requestRecoveryLocked · deviceKey)
  | requestRecoveryLocked read deviceKey => requestRead db read deviceKey
  | extendForRecovery id deviceKey now =>
    .update (.requestRecovery id deviceKey now) db.trustedDevices <|
      orElse (.reply (.challenge id (now + loginRecoveryDelayMs + loginRecoveryCompletionWindowMs)
        (some (now + loginRecoveryDelayMs)))) .challengeExpired
  | consumeWithCode id deviceKey code => afterRead db id deviceKey (.checkApproved · code)
  | checkApproved read code => .proceed db.trustedDevices (approvedRead db read code)
  | reserve id k codeHash now code attempts =>
    .update (.reserve id codeHash now) db.trustedDevices <|
      orElse (.call (.compareCode id k codeHash now code attempts)) .challengeLocked
  | compareCode id k codeHash now code attempts =>
    if argon2.verify codeHash (id, code) then
      .update (.consumeCode id codeHash now code) db.trustedDevices <|
        orElse (.call (.trust k (.verified id))) .challengeExpired
    else .proceed db.trustedDevices <| .reply <| .failed <|
      if attempts + 1 ≥ loginChallengeMaxAttempts then .challengeLocked else .codeInvalid
  | verifySecurityCodeFallback id deviceKey correct =>
    afterRead db id deviceKey (.checkFallback · correct)
  | checkFallback read correct =>
    .proceed db.trustedDevices <|
      match read.refusal db.now with
      | some e => .reply (.failed e)
      | none => .call (.checkBudget read correct)
  | checkBudget read correct =>
    .proceed db.trustedDevices <|
      if db.recentFailures ≥ loginChallengeSecurityCodeDailyFailures then
        .reply (.failed .challengeLocked)
      else .call (.compareSecurityCode read correct)
  | compareSecurityCode read correct =>
    if correct then
      .update (.consumeFallback read.id) db.trustedDevices <|
        orElse (.call (.trust read.deviceKey (.verified read.id))) .challengeInvalid
    else
      .update (.countFailure read) db.trustedDevices fun count =>
        if count ≠ 1 || (db.find read.id).any reachesLimit then
          .reply (.failed .challengeLocked)
        else .reply .wrong
  | trust k reply => .proceed (db.trust k) (.reply reply)
  | reject approver id =>
    .proceed db.trustedDevices <|
      if db.isTrusted approver then .call (.rejectTrusted id)
      else .reply (.failed .deviceNotTrusted)
  | rejectTrusted id => .update (.reject id db.now) db.trustedDevices fun _ => .reply .completed
  | refresh deviceKey context trustFails cancelFails =>
    match deviceKey.filter (· ≠ []) with
    | none => .proceed db.trustedDevices (.reply .completed)
    | some k =>
      let (trusted, devices) :=
        if trustFails then (db.isTrusted (some k), db.trustedDevices)
        else db.recordTrustOnRefresh k context
      -- Both writes are part of the refresh transaction and commit with it.
      if trusted && !cancelFails then
        .update (.cancelRecoveries k db.now) devices fun _ => .reply .completed
      else .proceed devices (.reply .completed)
  | revokeDevice k => .proceed (db.revokeDevices (· = k)) (.call .invalidateChallenges)
  | revokeOtherDevices keep =>
    .proceed (db.revokeDevices fun k => keep.all (k ≠ ·)) (.call .invalidateChallenges)
  | invalidateChallenges =>
    .update (.invalidateChallenges none db.now) db.trustedDevices fun _ => .reply .completed

/-- Where an exception thrown by the next statement leads. Only `login` catches:
a recovery whose completion fails is released. -/
def thrown : Call → Next
  | completeRecoveryLogin id _ _ => .call (.releaseRecoveryClaim id)
  | _ => .reply .completed

end Call

/-- A call as its caller makes it. -/
inductive Request
  | login (context : SessionContext) (bypass : Bool) (liveSessions : Nat)
  | resend (id : ChallengeId) (deviceKey : Option DeviceKey)
  | requestRecovery (id : ChallengeId) (deviceKey : Option DeviceKey)
  | consumeWithCode (id : ChallengeId) (deviceKey : Option DeviceKey) (code : JsString)
  | verifySecurityCodeFallback (id : ChallengeId) (deviceKey : Option DeviceKey) (correct : Bool)
  | reject (approver : Option DeviceKey) (id : ChallengeId)
  | refresh (deviceKey : Option DeviceKey) (context : SessionContext) (trustFails : Bool)
      (cancelFails : Bool)
  | revokeDevice (deviceKey : DeviceKey)
  | revokeOtherDevices (keep : Option DeviceKey)
  deriving DecidableEq, Repr

def Request.call : Request → Call
  | login context bypass liveSessions => .login context bypass liveSessions
  | resend id deviceKey => .resend id deviceKey
  | requestRecovery id deviceKey => .requestRecovery id deviceKey
  | consumeWithCode id deviceKey code => .consumeWithCode id deviceKey code
  | verifySecurityCodeFallback id deviceKey correct =>
    .verifySecurityCodeFallback id deviceKey correct
  | reject approver id => .reject approver id
  | refresh deviceKey context trustFails cancelFails =>
    .refresh deviceKey context trustFails cancelFails
  | revokeDevice deviceKey => .revokeDevice deviceKey
  | revokeOtherDevices keep => .revokeOtherDevices keep

/-- An `approve` past its check of the approver, and one that has read the clock
and found the challenge open. -/
inductive Approval
  | trusted (id : ChallengeId)
  | found (id : ChallengeId) (now : Time)
  deriving DecidableEq, Repr

structure Account where
  db : Db
  holder : Option Call
  approvals : List Approval
  replies : List Reply

namespace Account

def follow (a : Account) (db : Db) : Next → Account
  | .call c => { a with db := db, holder := some c }
  | .reply r => { a with db := db, holder := none, replies := r :: a.replies }

/-- The holder's next action. -/
def advance (argon2 : Argon2) (a : Account) (c : Call) : Account :=
  match c.action argon2 a.db with
  | .proceed devices next => a.follow { a.db with trustedDevices := devices } next
  | .update u devices next =>
    a.follow { a.db.exec u with trustedDevices := devices }
      (next (a.db.challenges.count u.selects))
  | .insert k context =>
    match a.db.createChallenge k context with
    | none => a.follow a.db (.reply (.failed .rateLimited))
    | some db => a.follow db (.reply .created)

/-- The next step of an approval. -/
def approveNext (argon2 : Argon2) (db : Db) (drawn : Fin 1000000) :
    Approval → (Approval ⊕ Reply) × Db
  | .trusted id =>
    if (db.find id).any fun r => r.live && db.now < r.expiresAt then
      (.inl (.found id db.now), db)
    else (.inr (.failed .challengeExpired), db)
  | .found id now =>
    let code := sixDigits drawn
    let u := Update.approve id now code (argon2.hash db.salts (id, code))
    (.inr (if db.challenges.count u.selects = 1 then
        .approved code (now + loginChallengeCodeTtlMs)
      else .failed .challengeExpired),
      { db.exec u with salts := db.salts + 1 })

end Account

/-- What happens next to the account. -/
inductive Event
  | tick (ms : Nat)
  | request (r : Request)
  | advance
  | throw
  | approve (approver : Option DeviceKey) (id : ChallengeId)
  | approveNext (i : Nat) (drawn : Fin 1000000)
  | cleanup (reading : Time) (candidates : Option (List ChallengeId))
  deriving DecidableEq, Repr

/-- A request made while the lock is held waits, and so changes nothing yet. -/
def Account.after (argon2 : Argon2) (a : Account) : Event → Account
  | .tick ms => { a with db := { a.db with now := a.db.now + ms } }
  | .request r => if a.holder.isSome then a else { a with holder := some r.call }
  | .advance =>
    match a.holder with
    | none => a
    | some c => a.advance argon2 c
  | .throw =>
    match a.holder with
    | none => a
    | some c => a.follow a.db c.thrown
  | .approve approver id =>
    if a.db.isTrusted approver then { a with approvals := a.approvals ++ [.trusted id] }
    else { a with replies := .failed .deviceNotTrusted :: a.replies }
  | .approveNext i drawn =>
    match a.approvals[i]? with
    | none => a
    | some approval =>
      let (next, db) := Account.approveNext argon2 a.db drawn approval
      { a with
        db := db
        approvals := next.getLeft?.toList ++ a.approvals.eraseIdx i
        replies := next.getRight?.toList ++ a.replies }
  | .cleanup reading candidates =>
    -- The cut-off was computed from a clock reading of the past.
    { a with db := a.db.cleanup (min reading a.db.now) candidates }

def Step (argon2 : Argon2) (a : Account) (e : Event) (b : Account) : Prop := b = a.after argon2 e

/-- An account that no unfamiliar device has tried to enter yet. -/
structure Initial (a : Account) : Prop where
  challenges : a.db.challenges.rows = []
  log : a.db.log = []
  holder : a.holder = none
  approvals : a.approvals = []

def Reachable (argon2 : Argon2) : Account → Prop := Library.Reachable Initial (Step argon2)

/-! ## Concrete runs -/

def Account.play (argon2 : Argon2) : Account → List Event → Account :=
  Run.play (Account.after argon2)

/-- A hash that only spells out its salt and its text. -/
def Argon2.plain : Argon2 where
  hash salt text := List.replicate salt 0 ++ 1 :: (List.replicate text.1 0 ++ 1 :: text.2)
  verify encoded text :=
    encoded.dropWhile (· = 0) = 1 :: (List.replicate text.1 0 ++ 1 :: text.2)

/-- An account with one trusted device, `[1]`. -/
def Account.oneDevice : Account where
  db := ⟨0, Table.empty, ⟨[⟨[1], none, none⟩], by simp⟩, 0, 0, []⟩
  holder := none
  approvals := []
  replies := []

def fromDevice (k : DeviceKey) : SessionContext := ⟨none, none, none, some k, none⟩

/-- A request and the actions it takes. -/
def Request.run (r : Request) (actions : Nat) : List Event :=
  .request r :: List.replicate actions .advance

theorem padded_inj {a b : Nat} {x y : JsString}
    (h : List.replicate a 0 ++ 1 :: x = List.replicate b 0 ++ 1 :: y) : a = b ∧ x = y := by
  induction a generalizing b with
  | zero =>
    cases b with
    | zero => simpa using h
    | succ b => simp [List.replicate_succ] at h
  | succ a ih =>
    cases b with
    | zero => simp [List.replicate_succ] at h
    | succ b =>
      simp only [List.replicate_succ, List.cons_append, List.cons.injEq, true_and] at h
      obtain ⟨rfl, rfl⟩ := ih h
      exact ⟨rfl, rfl⟩

theorem plain_lawful : Argon2.plain.Lawful := by
  refine ⟨?_, ?_⟩
  · intro salt text other
    have stripped : ∀ x : JsString, (List.replicate salt 0 ++ 1 :: x).dropWhile (· = 0) = 1 :: x := by
      intro x
      induction salt with
      | zero => simp
      | succ salt ih => simp [List.replicate_succ, ih]
    simp only [Argon2.plain, stripped, decide_eq_true_eq, List.cons.injEq, true_and]
    constructor
    · intro h
      obtain ⟨ids, codes⟩ := padded_inj h
      exact Prod.ext ids codes
    · rintro rfl
      rfl
  · intro salt salt' text text' h
    exact (padded_inj h).1

theorem run_play (argon2 : Argon2) (a : Account) (events : List Event) :
    Run (Step argon2) a events (a.play argon2 events) := by
  induction events generalizing a with
  | nil => exact .nil a
  | cons e events ih => exact .cons rfl (ih _)

theorem reachable_play (argon2 : Argon2) (events : List Event) :
    Reachable argon2 (Account.oneDevice.play argon2 events) :=
  ⟨Account.oneDevice, events, ⟨rfl, rfl, rfl, rfl⟩, run_play argon2 _ events⟩

end CircleBackend.Challenge
