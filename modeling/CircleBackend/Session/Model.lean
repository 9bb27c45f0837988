import CircleBackend.Js
import CircleBackend.Library.Table
import CircleBackend.Library.Transition

/-!
# Refresh tokens and scope generations

The rows `RefreshTokenService` reads and writes and its operations, each one
database transaction. A raw token enters the code only through `hashToken`, so a
token is named by its hash. `randomUUID` and `randomBytes` are arguments: what
one call mints is a `Minted`.
-/

namespace CircleBackend.Session

open Library

abbrev UserId := Nat
abbrev SessionId := Nat
abbrev FamilyId := Nat
abbrev TokenHash := Nat
abbrev DeviceKey := JsString

inductive Audience
  | app
  | admin
  deriving DecidableEq, Repr

inductive RevocationReason
  | rotated
  | singleDeviceReplaced
  | logout
  | logoutAll
  | sessionRevoked
  | otherSessionsRevoked
  | tokenFamilyReuse
  deriving DecidableEq, Repr

/-- The reasons `revokeSessionFamily` accepts. -/
inductive FamilyReason
  | sessionRevoked
  | logout
  deriving DecidableEq, Repr

def FamilyReason.toReason : FamilyReason → RevocationReason
  | .sessionRevoked => .sessionRevoked
  | .logout => .logout

inductive UserStatus
  | active
  | banned
  | deleted
  deriving DecidableEq, Repr

/-- The `scope` and `scopeKey` columns together; the account key is `'*'`. -/
inductive ScopeKey
  | account
  | audience (a : Audience)
  | device (k : DeviceKey)
  | family (f : FamilyId)
  deriving DecidableEq, Repr

structure User where
  id : UserId
  status : UserStatus
  singleDeviceLoginEnabled : Bool
  accessTokensRevokedAt : Option Time
  deriving DecidableEq, Repr

structure RefreshToken where
  id : SessionId
  userId : UserId
  token : TokenHash
  familyId : FamilyId
  accountGeneration : Nat
  audienceGeneration : Nat
  deviceGeneration : Nat
  familyGeneration : Nat
  audience : Audience
  deviceName : Option JsString
  ip : Option JsString
  userAgent : Option JsString
  deviceKey : Option DeviceKey
  expiredAt : Time
  accessTokenExpiresAt : Option Time
  accessRevokedAt : Option Time
  revokedAt : Option Time
  revocationReason : Option RevocationReason
  lastUsedAt : Time
  deriving DecidableEq, Repr

structure SessionScopeGeneration where
  userId : UserId
  scopeKey : ScopeKey
  generation : Nat
  exemptFamilyId : Option FamilyId
  notificationPending : Bool
  updatedAt : Time
  deriving DecidableEq, Repr

/-- The scopes a session falls under. An empty device key names no scope, as in
`deviceKey ? … : []`. -/
def deviceScope (deviceKey : Option DeviceKey) : Option ScopeKey :=
  (deviceKey.filter (· ≠ [])).map .device

def RefreshToken.scopes (r : RefreshToken) : List ScopeKey :=
  [.account, .audience r.audience] ++ (deviceScope r.deviceKey).toList ++ [.family r.familyId]

/-- The generation a session was created at in the scope a key names. -/
def RefreshToken.snapshot (r : RefreshToken) : ScopeKey → Nat
  | .account => r.accountGeneration
  | .audience _ => r.audienceGeneration
  | .device _ => r.deviceGeneration
  | .family _ => r.familyGeneration

/-- A row after a revocation. -/
def RefreshToken.revoke (r : RefreshToken) (now : Time) (reason : RevocationReason) : RefreshToken :=
  { r with revokedAt := some now, revocationReason := some reason }

structure Db where
  users : Table User UserId (·.id)
  refreshTokens : Table RefreshToken SessionId (·.id)
  scopeGenerations :
    Table SessionScopeGeneration (UserId × ScopeKey) (fun g => (g.userId, g.scopeKey))

structure SessionContext where
  deviceName : Option JsString
  ip : Option JsString
  userAgent : Option JsString
  deviceKey : Option DeviceKey
  stableDeviceKey : Option DeviceKey
  deriving DecidableEq, Repr

def SessionContext.empty : SessionContext := ⟨none, none, none, none, none⟩

def maxDeviceNameLength : Nat := 64
def maxUserAgentLength : Nat := 256
def maxIpLength : Nat := 64

def normalizeContext (context : SessionContext) : SessionContext where
  deviceName := truncate context.deviceName maxDeviceNameLength
  ip := truncate context.ip maxIpLength
  userAgent := truncate context.userAgent maxUserAgentLength
  deviceKey := context.deviceKey
  stableDeviceKey := none

/-- The lifetimes the constructor computes; the admin one is capped by the
user's. -/
structure Ttl where
  ttlMs : Nat
  adminTtlMs : Nat
  admin_le : adminTtlMs ≤ ttlMs

def Ttl.ttlMsFor (ttl : Ttl) : Audience → Nat
  | .admin => ttl.adminTtlMs
  | .app => ttl.ttlMs

/-- The random values of one call. -/
structure Minted where
  sessionId : SessionId
  token : TokenHash
  familyId : FamilyId
  deriving DecidableEq, Repr

inductive SessionError
  | invalidRefreshToken
  | inactiveAccount
  | refreshTokenReuse
  | recordNotFound
  | uniqueViolation
  | foreignKeyViolation
  deriving DecidableEq, Repr

/-- The text of the exceptions the service throws itself; the others are the
database's. -/
def SessionError.message : SessionError → Option String
  | .invalidRefreshToken => some "Invalid or expired refresh token"
  | .inactiveAccount => some "Invalid or inactive account"
  | .refreshTokenReuse => some "Refresh token reuse detected; token family revoked"
  | .recordNotFound | .uniqueViolation | .foreignKeyViolation => none

structure CreatedSession where
  token : TokenHash
  sessionId : SessionId
  deriving DecidableEq, Repr

/-- The event of one scope advance, as handed to the notifier. -/
structure ScopeRevocation where
  userId : UserId
  scopeKey : ScopeKey
  exemptFamilyId : Option FamilyId
  generation : Nat
  deriving DecidableEq, Repr

structure RotatedSession where
  token : TokenHash
  userId : UserId
  sessionId : SessionId
  deviceKey : Option DeviceKey
  deviceName : Option JsString
  deriving DecidableEq, Repr

inductive RotationOutcome
  | rotated (session : RotatedSession)
  | reuse (userId : UserId) (familyId : FamilyId) (generation : Nat)
  deriving DecidableEq, Repr

namespace Db

/-- The generation a scope has now: 0 until it is first advanced. -/
def generation (db : Db) (userId : UserId) (k : ScopeKey) : Nat :=
  (db.scopeGenerations.find (userId, k)).elim 0 (·.generation)

/-- The family the last advance of a scope spared. -/
def exemptFamily (db : Db) (userId : UserId) (k : ScopeKey) : Option FamilyId :=
  (db.scopeGenerations.find (userId, k)).elim none (·.exemptFamilyId)

/-- `advanceScopeGenerationWithClient` -/
def advanceScopeGeneration (db : Db) (now : Time) (userId : UserId) (k : ScopeKey)
    (exemptFamilyId : Option FamilyId) : Db :=
  { db with
    scopeGenerations := db.scopeGenerations.upsert
      ⟨userId, k, 1, exemptFamilyId, true, now⟩
      (fun g => { g with
        generation := g.generation + 1
        exemptFamilyId := exemptFamilyId
        notificationPending := true
        updatedAt := now })
      (fun _ => rfl) }

/-- `updateMany` of the live rows selected by `p`. -/
def revokeWhere (db : Db) (now : Time) (reason : RevocationReason) (p : RefreshToken → Bool) : Db :=
  { db with
    refreshTokens := db.refreshTokens.updateMany (fun r => p r && r.revokedAt.isNone)
      (fun r => r.revoke now reason) (fun _ => rfl) }

def updateUser (db : Db) (userId : UserId) (f : User → User) (hf : ∀ u, (f u).id = u.id) : Db :=
  { db with users := db.users.updateMany (fun u => u.id = userId) f hf }

def findToken (db : Db) (tokenHash : TokenHash) : Option RefreshToken :=
  db.refreshTokens.rows.find? (fun r => r.token = tokenHash)

/-- `findFirst({ id, userId })` -/
def findSession (db : Db) (userId : UserId) (sessionId : SessionId) : Option RefreshToken :=
  (db.refreshTokens.find sessionId).filter (fun r => r.userId = userId)

/-- The row `createWithClient` inserts: the four snapshots are the current
generations of the scopes the session falls under. -/
def newSession (db : Db) (ttl : Ttl) (now : Time) (minted : Minted) (userId : UserId)
    (context : SessionContext) (audience : Audience) (familyId : FamilyId) : RefreshToken :=
  let safe := normalizeContext context
  { id := minted.sessionId
    userId := userId
    token := minted.token
    familyId := familyId
    accountGeneration := db.generation userId .account
    audienceGeneration := db.generation userId (.audience audience)
    deviceGeneration := (deviceScope safe.deviceKey).elim 0 (db.generation userId)
    familyGeneration := db.generation userId (.family familyId)
    audience := audience
    deviceName := safe.deviceName
    ip := safe.ip
    userAgent := safe.userAgent
    deviceKey := safe.deviceKey
    expiredAt := now + ttl.ttlMsFor audience
    accessTokenExpiresAt := none
    accessRevokedAt := none
    revokedAt := none
    revocationReason := none
    lastUsedAt := now }

def addSession (db : Db) (row : RefreshToken) : Except SessionError Db :=
  if (db.users.find row.userId).isNone then .error .foreignKeyViolation
  else if (db.findToken row.token).isSome then .error .uniqueViolation
  else match db.refreshTokens.insert row with
    | none => .error .uniqueViolation
    | some table => .ok { db with refreshTokens := table }

def createWithClient (db : Db) (ttl : Ttl) (now : Time) (minted : Minted) (userId : UserId)
    (context : SessionContext) (audience : Audience) (familyId : FamilyId) :
    Except SessionError (CreatedSession × Db) := do
  let created ← db.addSession (db.newSession ttl now minted userId context audience familyId)
  return (⟨minted.token, minted.sessionId⟩, created)

/-- The event the caller of an advance announces. -/
def scopeRevocation (db : Db) (userId : UserId) (k : ScopeKey) : ScopeRevocation :=
  ⟨userId, k, db.exemptFamily userId k, db.generation userId k⟩

def replaceForSingleDeviceWithClient (db : Db) (ttl : Ttl) (now : Time) (minted : Minted)
    (userId : UserId) (context : SessionContext) (audience : Audience) :
    Except SessionError (CreatedSession × ScopeRevocation × Db) := do
  let advanced := db.advanceScopeGeneration now userId (.audience audience) (some minted.familyId)
  let revoked := advanced.revokeWhere now .singleDeviceReplaced
    (fun r => r.userId = userId && r.audience = audience)
  let (session, created) ←
    revoked.createWithClient ttl now minted userId context audience minted.familyId
  return (session, advanced.scopeRevocation userId (.audience audience), created)

/-- What a call leaves behind: the state, what the caller gets, and the scope
advance to announce after the commit. A rolled back transaction leaves the state
it started from. -/
structure Effect (ρ : Type) where
  db : Db
  result : Except SessionError ρ
  scopeRevocation : Option ScopeRevocation

def rollback {ρ : Type} (db : Db) (e : SessionError) : Effect ρ := ⟨db, .error e, none⟩

def createSessionForCurrentSingleDeviceSetting (db : Db) (ttl : Ttl) (now : Time)
    (minted : Minted) (userId : UserId) (context : SessionContext) (audience : Audience) :
    Effect CreatedSession :=
  match db.users.find userId with
  | none => db.rollback .inactiveAccount
  | some user =>
    if user.singleDeviceLoginEnabled then
      match db.replaceForSingleDeviceWithClient ttl now minted userId context audience with
      | .error e => db.rollback e
      | .ok (session, revocation, created) => ⟨created, .ok session, some revocation⟩
    else
      match db.createWithClient ttl now minted userId context audience minted.familyId with
      | .error e => db.rollback e
      | .ok (session, created) => ⟨created, .ok session, none⟩

def createAppSession (db : Db) (ttl : Ttl) (now : Time) (minted : Minted) (userId : UserId)
    (context : SessionContext) : Effect CreatedSession :=
  db.createSessionForCurrentSingleDeviceSetting ttl now minted userId context .app

def replaceForSingleDevice (db : Db) (ttl : Ttl) (now : Time) (minted : Minted) (userId : UserId)
    (context : SessionContext) (audience : Audience) : Effect CreatedSession :=
  match db.replaceForSingleDeviceWithClient ttl now minted userId context audience with
  | .error e => db.rollback e
  | .ok (session, revocation, created) => ⟨created, .ok session, some revocation⟩

/-- The rows a call spares: the family of its own session, or the bare session
id when that session is not one of the user's. -/
def preserved (current : Option RefreshToken) (currentSessionId : Option SessionId)
    (r : RefreshToken) : Bool :=
  match current, currentSessionId with
  | some c, _ => r.familyId = c.familyId
  | none, some sid => r.id = sid
  | none, none => false

def setSingleDeviceLogin (db : Db) (now : Time) (userId : UserId) (enabled : Bool)
    (currentSessionId : Option SessionId) : Effect Unit :=
  if (db.users.find userId).isNone then db.rollback .recordNotFound
  else
    let set := db.updateUser userId (fun u => { u with singleDeviceLoginEnabled := enabled })
      (fun _ => rfl)
    if !enabled then ⟨set, .ok (), none⟩
    else
      let current := currentSessionId.bind (set.findSession userId)
      let advanced := set.advanceScopeGeneration now userId .account (current.map (·.familyId))
      let revoked := advanced.revokeWhere now .otherSessionsRevoked
        (fun r => r.userId = userId && !preserved current currentSessionId r)
      ⟨revoked, .ok (), some (advanced.scopeRevocation userId .account)⟩

/-- `rotateLocked`, after the auth-user lock is taken. -/
def rotateLocked (db : Db) (ttl : Ttl) (now : Time) (minted : Minted) (tokenHash : TokenHash)
    (owner : UserId) (context : SessionContext) (audience : Audience) :
    Except SessionError (RotationOutcome × Db) :=
  match db.findToken tokenHash with
  | none => .error .invalidRefreshToken
  | some record =>
    if record.audience ≠ audience ∨ record.userId ≠ owner then .error .invalidRefreshToken
    else if record.expiredAt ≤ now then .error .invalidRefreshToken
    else if record.revokedAt.isSome then
      if record.revocationReason ≠ some .rotated ∧ record.revocationReason ≠ none then
        .error .invalidRefreshToken
      else
        let advanced := db.advanceScopeGeneration now record.userId (.family record.familyId) none
        let revoked := advanced.revokeWhere now .tokenFamilyReuse
          (fun r => r.userId = record.userId && r.familyId = record.familyId)
        .ok (.reuse record.userId record.familyId
          (advanced.generation record.userId (.family record.familyId)), revoked)
    else
      let presented (r : RefreshToken) : Bool :=
        r.token = tokenHash && now < r.expiredAt && r.audience = audience
      if db.refreshTokens.count (fun r => presented r && r.revokedAt.isNone) ≠ 1 then
        .error .invalidRefreshToken
      else
        let marked := db.revokeWhere now .rotated presented
        let deviceKey := nullish record.deviceKey context.deviceKey
        match marked.createWithClient ttl now minted record.userId
            ⟨nullish context.deviceName record.deviceName, nullish context.ip record.ip,
              nullish context.userAgent record.userAgent, deviceKey, none⟩
            record.audience record.familyId with
        | .error e => .error e
        | .ok (session, created) =>
          .ok (.rotated ⟨session.token, record.userId, session.sessionId, deviceKey,
            nullish context.deviceName record.deviceName⟩, created)

/-- A replay commits the revocation of its family and is then refused by
`rejectReplayedRotation`. -/
def settleRotation (db : Db) :
    Except SessionError (RotationOutcome × Db) → Effect RotatedSession
  | .error e => db.rollback e
  | .ok (.rotated session, rotated) => ⟨rotated, .ok session, none⟩
  | .ok (.reuse userId familyId generation, revoked) =>
    ⟨revoked, .error .refreshTokenReuse, some ⟨userId, .family familyId, none, generation⟩⟩

def rotate (db : Db) (ttl : Ttl) (now : Time) (minted : Minted) (tokenHash : TokenHash)
    (context : SessionContext) (audience : Audience) : Effect RotatedSession :=
  match db.findToken tokenHash with
  | none => db.rollback .invalidRefreshToken
  | some initial =>
    if initial.audience ≠ audience then db.rollback .invalidRefreshToken
    else db.settleRotation (db.rotateLocked ttl now minted tokenHash initial.userId context audience)

def rotateInTransaction (db : Db) (ttl : Ttl) (now : Time) (minted : Minted)
    (tokenHash : TokenHash) (owner : UserId) (context : SessionContext) (audience : Audience) :
    Effect RotatedSession :=
  db.settleRotation (db.rotateLocked ttl now minted tokenHash owner context audience)

/-- Returns whether a live row was revoked; a session of another user is left
alone. A logout passes over expired rows. -/
def revokeSessionFamily (db : Db) (now : Time) (userId : UserId) (sessionId : SessionId)
    (reason : FamilyReason) : Effect Bool :=
  match db.findSession userId sessionId with
  | none => ⟨db, .ok false, none⟩
  | some session =>
    let advanced := db.advanceScopeGeneration now userId (.family session.familyId) none
    let target (r : RefreshToken) : Bool :=
      r.userId = userId && r.familyId = session.familyId &&
        (reason ≠ .logout || now < r.expiredAt)
    let revoked := advanced.revokeWhere now reason.toReason target
    ⟨revoked, .ok (0 < advanced.refreshTokens.count (fun r => target r && r.revokedAt.isNone)),
      some (advanced.scopeRevocation userId (.family session.familyId))⟩

def revokeDeviceSessions (db : Db) (now : Time) (userId : UserId) (deviceKey : DeviceKey) :
    Effect Unit :=
  if (db.users.find userId).isNone then db.rollback .foreignKeyViolation
  else
    let advanced := db.advanceScopeGeneration now userId (.device deviceKey) none
    let revoked := advanced.revokeWhere now .sessionRevoked
      (fun r => r.userId = userId && r.deviceKey = some deviceKey)
    ⟨revoked, .ok (), some (advanced.scopeRevocation userId (.device deviceKey))⟩

def revokeOtherSessions (db : Db) (now : Time) (userId : UserId)
    (currentSessionId : Option SessionId) : Effect Unit :=
  match currentSessionId with
  | none => ⟨db, .ok (), none⟩
  | some sid =>
    if (db.users.find userId).isNone then db.rollback .foreignKeyViolation
    else
      let current := db.findSession userId sid
      let advanced := db.advanceScopeGeneration now userId .account (current.map (·.familyId))
      let revoked := advanced.revokeWhere now .otherSessionsRevoked
        (fun r => r.userId = userId && !preserved current (some sid) r)
      ⟨revoked, .ok (), some (advanced.scopeRevocation userId .account)⟩

def revokeAll (db : Db) (now : Time) (userId : UserId) : Effect Unit :=
  if (db.users.find userId).isNone then db.rollback .recordNotFound
  else
    let revoked := db.revokeWhere now .logoutAll (fun r => r.userId = userId)
    ⟨revoked.updateUser userId (fun u => { u with accessTokensRevokedAt := some now })
      (fun _ => rfl), .ok (), none⟩

end Db

inductive Op
  | createSessionForCurrentSingleDeviceSetting (userId : UserId) (context : SessionContext)
      (audience : Audience)
  | replaceForSingleDevice (userId : UserId) (context : SessionContext) (audience : Audience)
  | setSingleDeviceLogin (userId : UserId) (enabled : Bool) (currentSessionId : Option SessionId)
  | rotate (token : TokenHash) (context : SessionContext) (audience : Audience)
  | rotateInTransaction (token : TokenHash) (owner : UserId) (context : SessionContext)
      (audience : Audience)
  | revokeSessionFamily (userId : UserId) (sessionId : SessionId) (reason : FamilyReason)
  | revokeDeviceSessions (userId : UserId) (deviceKey : DeviceKey)
  | revokeOtherSessions (userId : UserId) (currentSessionId : Option SessionId)
  | revokeAll (userId : UserId)

/-- One transaction of the service: the clock it reads, what it mints and the
lifetimes its process is configured with. -/
structure Call where
  now : Time
  minted : Minted
  ttl : Ttl
  op : Op

def Db.Effect.outcome {ρ : Type} (e : Db.Effect ρ) : Db.Effect Unit :=
  ⟨e.db, e.result.map fun _ => (), e.scopeRevocation⟩

def Call.effect (c : Call) (db : Db) : Db.Effect Unit :=
  match c.op with
  | .createSessionForCurrentSingleDeviceSetting userId context audience =>
    (db.createSessionForCurrentSingleDeviceSetting c.ttl c.now c.minted userId context
      audience).outcome
  | .replaceForSingleDevice userId context audience =>
    (db.replaceForSingleDevice c.ttl c.now c.minted userId context audience).outcome
  | .setSingleDeviceLogin userId enabled currentSessionId =>
    db.setSingleDeviceLogin c.now userId enabled currentSessionId
  | .rotate token context audience =>
    (db.rotate c.ttl c.now c.minted token context audience).outcome
  | .rotateInTransaction token owner context audience =>
    (db.rotateInTransaction c.ttl c.now c.minted token owner context audience).outcome
  | .revokeSessionFamily userId sessionId reason =>
    (db.revokeSessionFamily c.now userId sessionId reason).outcome
  | .revokeDeviceSessions userId deviceKey => db.revokeDeviceSessions c.now userId deviceKey
  | .revokeOtherSessions userId currentSessionId =>
    db.revokeOtherSessions c.now userId currentSessionId
  | .revokeAll userId => db.revokeAll c.now userId

/-- `randomUUID` never repeats a family id. -/
def Call.Fresh (c : Call) (db : Db) : Prop :=
  ∀ r ∈ db.refreshTokens.rows, r.familyId ≠ c.minted.familyId

instance (c : Call) (db : Db) : Decidable (c.Fresh db) :=
  inferInstanceAs (Decidable (∀ r ∈ db.refreshTokens.rows, _))

/-- The state a call leaves behind. -/
def Db.after (db : Db) (c : Call) : Db := (c.effect db).db

def Step (db : Db) (c : Call) (db' : Db) : Prop :=
  c.Fresh db ∧ db' = db.after c

/-- The tables right after the migration that adds the generations: every older
session is its own family at generation zero, and no scope was ever advanced. -/
structure Initial (db : Db) : Prop where
  families : (db.refreshTokens.rows.map (·.familyId)).Nodup
  snapshots : ∀ r ∈ db.refreshTokens.rows, ∀ k, r.snapshot k = 0
  scopes : db.scopeGenerations.rows = []

def Reachable : Db → Prop := Library.Reachable Initial Step

/-- A deployment nobody has logged in to. -/
def Db.ofUsers (users : Table User UserId (·.id)) : Db := ⟨users, Table.empty, Table.empty⟩

theorem initial_ofUsers (users : Table User UserId (·.id)) : Initial (.ofUsers users) :=
  ⟨List.nodup_nil, fun _ hr => absurd hr List.not_mem_nil, rfl⟩

def Db.play : Db → List Call → Db := Run.play Db.after

theorem run_play {db : Db} {cs : List Call}
    (fresh : Run.Along (fun db c => c.Fresh db) Db.after db cs) : Run Step db cs (db.play cs) :=
  Run.of_along (fun _ _ h => ⟨h, rfl⟩) fresh

theorem run_play_where {ok : Db → Call → Prop} {db : Db} {cs : List Call}
    (along : Run.Along (fun db c => c.Fresh db ∧ ok db c) Db.after db cs) :
    Run (Run.Where Step ok) db cs (db.play cs) :=
  Run.of_along (fun _ _ h => ⟨⟨h.1, rfl⟩, h.2⟩) along

theorem reachable_play {users : Table User UserId (·.id)} {cs : List Call}
    (fresh : Run.Along (fun db c => c.Fresh db) Db.after (.ofUsers users) cs) :
    Reachable ((Db.ofUsers users).play cs) :=
  ⟨_, _, initial_ofUsers users, run_play fresh⟩

/-- One account, and the `n`-th call of a script over it: its clock and
everything it mints are `n`. -/
def oneUser : Table User UserId (·.id) := ⟨[⟨1, .active, false, none⟩], by simp⟩

theorem eightHours_le : 28800000 ≤ 2592000000 := by decide

def scripted (n : Nat) (op : Op) : Call := ⟨n, ⟨n, n, n⟩, ⟨2592000000, 28800000, eightHours_le⟩, op⟩

end CircleBackend.Session
