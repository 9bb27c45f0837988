import CircleBackend.Session.Model

/-!
# The verdict on an access token

`SessionVerifier.verifyInDatabase` over the one-statement lookup, and the
equation every later proof uses: for a session of an active user the verdict is
`revoked` exactly when the token predates the account-wide stamp, the row was
revoked otherwise than by rotation, or one of its scopes has moved past it
without exempting its family (`verdict_revoked`).
-/

namespace CircleBackend.Session

open Library

/-- `unavailable` when the database cannot answer. -/
inductive SessionVerdict
  | active
  | revoked
  | unavailable
  deriving DecidableEq, Repr

/-- The claims the check reads. `sub` and `sid` are `none` when they are not
strings; an empty `sid` names no row, as an unknown one. -/
structure VerifiableToken where
  sub : Option UserId
  sid : Option SessionId
  iat : Option Nat
  issuedAtMs : Option Time
  deriving DecidableEq, Repr

def VerifiableToken.issuedAt (token : VerifiableToken) : Option Time :=
  nullish token.issuedAtMs (token.iat.map (· * 1000))

structure VerifiedSessionIdentity where
  sessionId : SessionId
  familyId : FamilyId
  audience : Audience
  deviceKey : Option DeviceKey
  issuedAtMs : Option Time
  deriving DecidableEq, Repr

structure SessionVerification where
  verdict : SessionVerdict
  identity : Option VerifiedSessionIdentity
  deriving DecidableEq, Repr

/-- What `sessionVerificationQuery` returns. -/
structure SessionVerificationLookup where
  user : Option User
  session : Option RefreshToken
  generations : List SessionScopeGeneration

/-- The `OR` list of the lateral join. -/
def scopeMatches (s : RefreshToken) : ScopeKey → Bool
  | .account => true
  | .audience a => a = s.audience
  | .device k => s.deviceKey.filter (· ≠ []) = some k
  | .family f => f = s.familyId

/-- The session is looked up by its primary key alone, whoever owns it. -/
def Db.sessionVerificationQuery (db : Db) (userId : UserId) (sessionId : Option SessionId) :
    SessionVerificationLookup where
  user := db.users.find userId
  session := sessionId.bind db.refreshTokens.find
  generations := match sessionId.bind db.refreshTokens.find with
    | none => []
    | some s => db.scopeGenerations.select fun g => g.userId = userId && scopeMatches s g.scopeKey

/-- The account-wide stamp is at or after the token's issuance. -/
def User.stamped (user : User) (token : VerifiableToken) : Bool :=
  user.accessTokensRevokedAt.any fun stamp => token.issuedAt.elim true (· ≤ stamp)

/-- `stale`: some scope has left the session's snapshot without exempting its
family. -/
def RefreshToken.outdated (s : RefreshToken) (generations : List SessionScopeGeneration) : Bool :=
  generations.any fun g =>
    g.generation ≠ s.snapshot g.scopeKey && g.exemptFamilyId ≠ some s.familyId

/-- `answer` is the lookup for a token, absent when the query fails. -/
def verifyInDatabase (answer : UserId → Option SessionId → Option SessionVerificationLookup)
    (token : VerifiableToken) : SessionVerification :=
  match token.sub with
  | none => ⟨.revoked, none⟩
  | some userId =>
    match answer userId token.sid with
    | none => ⟨.unavailable, none⟩
    | some lookup =>
      match lookup.user with
      | none => ⟨.revoked, none⟩
      | some user =>
        if user.status ≠ .active then ⟨.revoked, none⟩
        else if user.stamped token then ⟨.revoked, none⟩
        else match lookup.session, token.sid with
          | some session, some sessionId =>
            if session.userId ≠ userId ∨ session.accessRevokedAt.isSome ∨
                session.revokedAt.isSome ∧ session.revocationReason ≠ some .rotated then
              ⟨.revoked, none⟩
            else if session.outdated lookup.generations then ⟨.revoked, none⟩
            else ⟨.active, some ⟨sessionId, session.familyId, session.audience,
              session.deviceKey, token.issuedAt⟩⟩
          | _, _ => ⟨.active, none⟩

/-- The verification while the database answers. -/
def Db.verify (db : Db) (token : VerifiableToken) : SessionVerification :=
  verifyInDatabase (fun userId sid => some (db.sessionVerificationQuery userId sid)) token

def Db.verdict (db : Db) (token : VerifiableToken) : SessionVerdict := (db.verify token).verdict

/-- An access token signed for a session row. -/
def RefreshToken.accessToken (r : RefreshToken) (issuedAtMs : Time) : VerifiableToken :=
  ⟨some r.userId, some r.id, none, some issuedAtMs⟩

theorem scopeMatches_iff (s : RefreshToken) (k : ScopeKey) : scopeMatches s k = true ↔ k ∈ s.scopes := by
  cases k <;>
    simp only [scopeMatches, RefreshToken.scopes, deviceScope, List.cons_append, List.nil_append,
      List.mem_cons, List.mem_append, Option.mem_toList, Option.map_eq_some_iff, decide_eq_true_eq,
      reduceCtorEq, List.not_mem_nil, ScopeKey.audience.injEq, ScopeKey.device.injEq,
      ScopeKey.family.injEq, false_or, or_false, and_false, exists_false, exists_eq_right,
      or_self]

/-- The row itself refuses its access tokens. -/
def RefreshToken.closed (r : RefreshToken) : Prop :=
  r.accessRevokedAt.isSome ∨ r.revokedAt.isSome ∧ r.revocationReason ≠ some .rotated

/-- A scope has moved past the row's snapshot and did not spare its family. -/
def Db.stale (db : Db) (r : RefreshToken) (k : ScopeKey) : Prop :=
  ∃ g ∈ db.scopeGenerations.find (r.userId, k),
    g.generation ≠ r.snapshot k ∧ g.exemptFamilyId ≠ some r.familyId

instance (r : RefreshToken) : Decidable r.closed :=
  inferInstanceAs (Decidable (_ ∨ _))

instance (db : Db) (r : RefreshToken) (k : ScopeKey) : Decidable (db.stale r k) :=
  inferInstanceAs (Decidable (∃ g ∈ db.scopeGenerations.find (r.userId, k), _))

theorem stamped_iff (u : User) (token : VerifiableToken) :
    u.stamped token = true ↔
      ∃ stamp, u.accessTokensRevokedAt = some stamp ∧ ∀ t, token.issuedAt = some t → t ≤ stamp := by
  unfold User.stamped
  cases u.accessTokensRevokedAt <;> cases token.issuedAt <;> simp

theorem outdated_iff (db : Db) (r : RefreshToken) :
    r.outdated (db.scopeGenerations.select fun g =>
        g.userId = r.userId && scopeMatches r g.scopeKey) = true ↔
      ∃ k ∈ r.scopes, db.stale r k := by
  simp only [RefreshToken.outdated, List.any_eq_true, Table.select, List.mem_filter,
    Bool.and_eq_true, decide_eq_true_eq, scopeMatches_iff]
  constructor
  · rintro ⟨g, ⟨hg, hu, hk⟩, hgen, hex⟩
    exact ⟨g.scopeKey, hk, g, Table.find_eq_some.mpr ⟨hg, by rw [hu]⟩, hgen, hex⟩
  · rintro ⟨k, hk, g, hf, hgen, hex⟩
    obtain ⟨hg, hkey⟩ := Table.find_eq_some.mp hf
    obtain ⟨hu, rfl⟩ := Prod.mk.inj hkey
    exact ⟨g, ⟨hg, hu, hk⟩, hgen, hex⟩

theorem verdict_answered (db : Db) (token : VerifiableToken) : db.verdict token ≠ .unavailable := by
  simp only [Db.verdict, Db.verify, verifyInDatabase]
  repeat' split
  all_goals exact SessionVerdict.noConfusion

variable {db : Db} {r : RefreshToken} {token : VerifiableToken}

/-- The verdict for a session row of an active user. -/
theorem verdict_revoked {u : User} (hu : db.users.find r.userId = some u)
    (hactive : u.status = .active) (hr : db.refreshTokens.find r.id = some r)
    (hsub : token.sub = some r.userId) (hsid : token.sid = some r.id) :
    db.verdict token = .revoked ↔
      u.stamped token = true ∨ r.closed ∨ ∃ k ∈ r.scopes, db.stale r k := by
  rw [← outdated_iff]
  simp only [Db.verdict, Db.verify, verifyInDatabase, Db.sessionVerificationQuery, hsub, hsid,
    Option.bind_some, hr, hu, hactive, RefreshToken.closed]
  by_cases hc : u.stamped token = true
  · simp [hc]
  · by_cases hx : r.accessRevokedAt.isSome ∨
        r.revokedAt.isSome ∧ r.revocationReason ≠ some .rotated
    · simp [hc, hx]
    · by_cases hs : r.outdated (db.scopeGenerations.select fun g =>
          g.userId = r.userId && scopeMatches r g.scopeKey) = true
      · simp [hs]
      · simp [hc, hx, hs]

/-- The grounds to refuse a token of a row: its user is not active, it predates
the account-wide stamp, its row was revoked otherwise than by rotation, or a
scope has moved past the row. -/
def Db.refuses (db : Db) (r : RefreshToken) (token : VerifiableToken) : Prop :=
  (∀ v ∈ db.users.find r.userId, v.status = .active → v.stamped token = true) ∨ r.closed ∨
    ∃ k ∈ r.scopes, db.stale r k

theorem verdict_refuses (hr : r ∈ db.refreshTokens.rows) (hsub : token.sub = some r.userId)
    (hsid : token.sid = some r.id) : db.verdict token = .revoked ↔ db.refuses r token := by
  by_cases admitted : ∃ v ∈ db.users.find r.userId, v.status = .active
  · obtain ⟨v, hv, active⟩ := admitted
    rw [verdict_revoked hv active (Table.mem_find hr) hsub hsid, Db.refuses, Option.mem_def.mp hv]
    simp [active]
  · have refused : db.refuses r token :=
      Or.inl fun v hv active => absurd ⟨v, hv, active⟩ admitted
    refine ⟨fun _ => refused, fun _ => ?_⟩
    simp only [Db.verdict, Db.verify, verifyInDatabase, Db.sessionVerificationQuery, hsub]
    cases found : db.users.find r.userId with
    | none => rfl
    | some v =>
      have inactive : v.status ≠ .active := fun active => admitted ⟨v, found, active⟩
      simp only [ne_eq, inactive, not_false_eq_true, ↓reduceIte]

/-- A row that is refused on its own grounds is refused to any bearer. -/
theorem verdict_refused (hr : r ∈ db.refreshTokens.rows) (hsid : token.sid = some r.id)
    (refused : r.closed ∨ ∃ k ∈ r.scopes, db.stale r k) : db.verdict token = .revoked := by
  cases hsub : token.sub with
  | none => simp [Db.verdict, Db.verify, verifyInDatabase, hsub]
  | some u =>
    cases hu : db.users.find u with
    | none => simp [Db.verdict, Db.verify, verifyInDatabase, Db.sessionVerificationQuery, hsub, hu]
    | some v =>
      by_cases hactive : v.status = .active
      · by_cases own : r.userId = u
        · subst own
          exact (verdict_revoked hu hactive (Table.mem_find hr) hsub hsid).mpr (Or.inr refused)
        · have found : db.refreshTokens.find r.id = some r := Table.mem_find hr
          simp only [Db.verdict, Db.verify, verifyInDatabase, Db.sessionVerificationQuery, hsub, hu,
            hsid, Option.bind_some, found, hactive, own, ne_eq, not_true_eq_false, ↓reduceIte,
            not_false_eq_true, true_or, ite_self]
      · simp [Db.verdict, Db.verify, verifyInDatabase, Db.sessionVerificationQuery, hsub, hu,
          hactive]

end CircleBackend.Session
