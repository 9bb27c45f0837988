import CircleBackend.Session.Invariant
import Mathlib.Data.List.Sort

/-!
# The refresh token clean-up

An access token outlives the transaction that signs it, and a session row that is
gone no longer refuses it. `signAccessToken` writes down when the token expires,
if it can; `sweepOnce` deletes a dead row once that time, or the row's own expiry
where nothing is written, has passed. A run in which what is written is never
short of a token's expiry loses no verdict to the clean-up.
-/

namespace CircleBackend.Session

open Library

/-! ## Signing -/

/-- A signed token; `exp` is what the signer put, in seconds. -/
structure AccessToken where
  claims : VerifiableToken
  exp : Nat
  deriving DecidableEq, Repr

def AccessToken.expired (token : AccessToken) (now : Time) : Bool := token.exp ≤ now / 1000

/-- `JWT_EXPIRES_IN` and `ADMIN_JWT_EXPIRES_IN` in seconds. -/
structure AccessTtl where
  globalSeconds : Nat
  adminSeconds : Nat

def AccessTtl.expiresIn (ttl : AccessTtl) : Audience → Nat
  | .admin => min ttl.adminSeconds ttl.globalSeconds
  | .app => ttl.globalSeconds

structure Signing where
  userId : UserId
  sessionId : SessionId
  audience : Audience
  ttl : AccessTtl
  issuedAtMs : Time
  iat : Nat
  exp : Nat

def Signing.token (g : Signing) : AccessToken :=
  ⟨⟨some g.userId, some g.sessionId, some g.iat, some g.issuedAtMs⟩, g.exp⟩

def Signing.expiresAt (g : Signing) : Time := g.issuedAtMs + g.ttl.expiresIn g.audience * 1000

/-- `none`: the session is no longer there. -/
def Db.recordAccessTokenIssued (db : Db) (userId : UserId) (sessionId : SessionId)
    (expiresAt : Time) : Option Db :=
  let own (r : RefreshToken) : Bool := r.id = sessionId && r.userId = userId
  if db.refreshTokens.count own ≠ 1 then none
  else some { db with
    refreshTokens := db.refreshTokens.updateMany own
      (fun r => { r with accessTokenExpiresAt := some expiresAt }) (fun _ => rfl) }

/-- `answered` is whether the database took the write; the token is issued all the
same. -/
def Db.signAccessToken (db : Db) (g : Signing) (answered : Bool) : Db :=
  if answered then (db.recordAccessTokenIssued g.userId g.sessionId g.expiresAt).getD db else db

/-! ## Sweeping -/

/-- `REVOKED_RETENTION_DAYS` in milliseconds. -/
def revokedRetention : Nat := 30 * 24 * 60 * 60 * 1000
def batchSize : Nat := 1000
def maxBatchesPerRun : Nat := 20

/-- Until when the row is kept for the sake of its access tokens. -/
def RefreshToken.cover (r : RefreshToken) : Time := r.accessTokenExpiresAt.getD r.expiredAt

/-- `staleWhere` -/
def RefreshToken.stale (r : RefreshToken) (now : Time) : Bool :=
  (r.expiredAt < now || r.revokedAt.any (· < now - revokedRetention)) &&
    (r.accessTokenExpiresAt.any (· ≤ now) || r.accessTokenExpiresAt.isNone && r.expiredAt ≤ now)

def Db.staleSessions (db : Db) (now : Time) : List SessionId :=
  (((db.refreshTokens.select (·.stale now)).map (·.id)).insertionSort (· ≤ ·)).take batchSize

def Db.deleteStale (db : Db) (now : Time) (ids : List SessionId) : Db :=
  { db with refreshTokens := db.refreshTokens.deleteMany fun r => r.stale now && ids.contains r.id }

/-- A run of `sweepOnce` under way: the time it took for its own, the batches it
may still begin, and what it has read for the present one. -/
structure Sweep where
  now : Time
  batches : Nat
  candidates : Option (List SessionId)
  deriving DecidableEq, Repr

/-- The deployment: the sessions, the access tokens issued so far, the clock and
the clean-ups under way. -/
structure Deployment where
  db : Db
  issued : List AccessToken
  now : Time
  sweeps : List Sweep

inductive Act
  | call (c : Call)
  | sign (g : Signing) (answered : Bool)
  | tick (later : Time)
  | sweep
  /-- `findMany`, once the lease is found current. -/
  | read (n : Nat)
  /-- `deleteMany`, likewise. -/
  | delete (n : Nat)

namespace Deployment

def readSweep (d : Deployment) (n : Nat) (w : Sweep) : Deployment :=
  { d with
    sweeps := d.sweeps.set n
      (match d.db.staleSessions w.now with
        | [] => { w with batches := 0 }
        | ids => { w with candidates := some ids }) }

def deleteSweep (d : Deployment) (n : Nat) (w : Sweep) (ids : List SessionId) : Deployment :=
  { d with
    db := d.db.deleteStale w.now ids
    sweeps := d.sweeps.set n
      ⟨w.now, if ids.length < batchSize then 0 else w.batches - 1, none⟩ }

/-- A clean-up may stop before any of its statements, as when its lease is lost. -/
def next (d : Deployment) : Act → Option Deployment
  | .call c => some { d with db := d.db.after c }
  | .sign g answered =>
    some { d with db := d.db.signAccessToken g answered, issued := g.token :: d.issued }
  | .tick later => if d.now ≤ later then some { d with now := later } else none
  | .sweep => some { d with sweeps := d.sweeps ++ [⟨d.now, maxBatchesPerRun, none⟩] }
  | .read n =>
    match d.sweeps[n]? with
    | some w => if w.batches = 0 ∨ w.candidates.isSome then none else some (d.readSweep n w)
    | none => none
  | .delete n =>
    match d.sweeps[n]? with
    | some ⟨now, batches, some ids⟩ => some (d.deleteSweep n ⟨now, batches, some ids⟩ ids)
    | _ => none

/-- The ids that `randomUUID` gives are new, and a caller signs for a session of
the user's own. -/
def Fresh (d : Deployment) : Act → Prop
  | .call c => c.Fresh d.db ∧ ∀ token ∈ d.issued, token.claims.sid ≠ some c.minted.sessionId
  | .sign g _ => ∀ r, d.db.refreshTokens.find g.sessionId = some r → r.userId = g.userId
  | _ => True

def Step (d : Deployment) (act : Act) (d' : Deployment) : Prop :=
  d.Fresh act ∧ d.next act = some d'

/-- What is written down reaches to the expiry of the tokens: of the new one and of
the session's earlier ones when it is written, of the new one by what stood there
when it is not. -/
def Covers (d : Deployment) : Act → Prop
  | .sign g answered => ∀ r, d.db.refreshTokens.find g.sessionId = some r →
    if answered then
      g.exp * 1000 ≤ g.expiresAt ∧
        ∀ token ∈ d.issued, token.claims.sid = some r.id → token.exp * 1000 ≤ g.expiresAt
    else g.exp * 1000 ≤ r.cover
  | _ => True

end Deployment

/-! ## The frame of a step -/

theorem Evolves.cover {r s : RefreshToken} (h : Evolves r s) : s.cover = r.cover := by
  cases h <;> rfl

theorem stale_cover {r : RefreshToken} {now : Time} (h : r.stale now = true) : r.cover ≤ now := by
  have passed := (Bool.and_eq_true_iff.mp h).2
  unfold RefreshToken.cover
  cases recorded : r.accessTokenExpiresAt with
  | none => simpa [recorded] using passed
  | some e => simpa [recorded] using passed

theorem verdict_deleteStale {db : Db} {now : Time} {ids : List SessionId} {token : VerifiableToken}
    (same : ∀ sid, token.sid = some sid →
      (db.deleteStale now ids).refreshTokens.find sid = db.refreshTokens.find sid) :
    (db.deleteStale now ids).verdict token = db.verdict token := by
  have query : ∀ u, (db.deleteStale now ids).sessionVerificationQuery u token.sid =
      db.sessionVerificationQuery u token.sid := by
    intro u
    cases sid : token.sid with
    | none => rfl
    | some sid =>
      simp only [Db.sessionVerificationQuery, Option.bind_some, same _ ‹_›]
      rfl
  simp only [Db.verdict, Db.verify, verifyInDatabase, query]

/-! ## Runs -/

namespace Deployment

/-- Every row is kept until its tokens have expired. -/
structure Kept (d : Deployment) : Prop where
  covered : ∀ token ∈ d.issued, ∀ r ∈ d.db.refreshTokens.rows, token.claims.sid = some r.id →
    token.exp * 1000 ≤ r.cover
  begun : ∀ w ∈ d.sweeps, w.now ≤ d.now

variable {d : Deployment}

theorem Kept.call (kept : d.Kept) {c : Call} (fresh : d.Fresh (.call c)) :
    { d with db := d.db.after c }.Kept where
  covered := by
    intro token issued s hs names
    rcases committed_origin (step_committed ⟨fresh.1, rfl⟩) hs with ⟨r, hr, evolved⟩ | ⟨minted, -⟩
    · rw [evolved.cover]
      exact kept.covered token issued r hr (evolved.id_eq ▸ names)
    · exact absurd (minted ▸ names) (fresh.2 token issued)
  begun := kept.begun

theorem mem_recorded {db db' : Db} {u : UserId} {sid : SessionId} {expiresAt : Time}
    (h : db.recordAccessTokenIssued u sid expiresAt = some db') {s : RefreshToken}
    (hs : s ∈ db'.refreshTokens.rows) :
    s ∈ db.refreshTokens.rows ∧ ¬(s.id = sid ∧ s.userId = u) ∨
      ∃ r ∈ db.refreshTokens.rows, (r.id = sid ∧ r.userId = u) ∧
        s = { r with accessTokenExpiresAt := some expiresAt } := by
  unfold Db.recordAccessTokenIssued at h
  dsimp only at h
  split at h
  · cases h
  · cases h
    obtain ⟨r, hr, rfl⟩ := (Table.mem_updateMany db.refreshTokens _
      (fun r => { r with accessTokenExpiresAt := some expiresAt }) (fun _ => rfl)).mp hs
    by_cases own : r.id = sid ∧ r.userId = u
    · exact Or.inr ⟨r, hr, own, by simp [own]⟩
    · have kept : (decide (r.id = sid) && decide (r.userId = u)) = false := by
        simpa using own
      left
      rw [kept]
      exact ⟨hr, own⟩

theorem Kept.sign (kept : d.Kept) {g : Signing} {answered : Bool}
    (fresh : d.Fresh (.sign g answered)) (covers : d.Covers (.sign g answered)) :
    { d with db := d.db.signAccessToken g answered, issued := g.token :: d.issued }.Kept where
  covered := by
    -- a row that the signing leaves as it was: the new token is not its own, or is covered
    have left : ∀ r ∈ d.db.refreshTokens.rows, (r.id = g.sessionId → g.exp * 1000 ≤ r.cover) →
        ∀ token ∈ g.token :: d.issued, token.claims.sid = some r.id →
          token.exp * 1000 ≤ r.cover := by
      intro r hr new token issued names
      rcases List.mem_cons.mp issued with rfl | before
      · exact new (Option.some.inj names).symm
      · exact kept.covered token before r hr names
    intro token issued s hs names
    have own : s ∈ d.db.refreshTokens.rows → s.id = g.sessionId →
        d.db.refreshTokens.find g.sessionId = some s := by
      intro hr key
      rw [← key]
      exact Table.mem_find hr
    cases answered with
    | false =>
      have hr : s ∈ d.db.refreshTokens.rows := hs
      apply left s hr _ token issued names
      intro key
      exact covers s (own hr key)
    | true =>
      cases recorded : d.db.recordAccessTokenIssued g.userId g.sessionId g.expiresAt with
      | none =>
        have hr : s ∈ d.db.refreshTokens.rows := by
          simpa [Db.signAccessToken, recorded] using hs
        apply left s hr _ token issued names
        intro key
        -- a row of the user's own is written
        have count : d.db.refreshTokens.count
            (fun r => decide (r.id = g.sessionId) && decide (r.userId = g.userId)) = 1 := by
          have owner := fresh s (own hr key)
          have at' : ∀ r ∈ d.db.refreshTokens.rows,
              (decide (r.id = g.sessionId) && decide (r.userId = g.userId)) =
                decide (r.id = g.sessionId) := by
            intro r member
            by_cases same : r.id = g.sessionId
            · have one : r = s := Table.row_unique _ member hr (same.trans key.symm)
              simp [one, owner]
            · simp [same]
          have keyed := Table.select_key d.db.refreshTokens g.sessionId
          rw [own hr key] at keyed
          rw [Table.count, List.countP_congr (fun r member => by rw [at' r member]),
            List.countP_eq_length_filter]
          simpa [Table.select] using congrArg List.length keyed
        simp [Db.recordAccessTokenIssued, count] at recorded
      | some db' =>
        have hr : s ∈ db'.refreshTokens.rows := by
          simpa [Db.signAccessToken, recorded] using hs
        rcases mem_recorded recorded hr with ⟨was, other⟩ | ⟨r, was, mine, rfl⟩
        · apply left s was _ token issued names
          intro key
          exact absurd ⟨key, fresh s (own was key)⟩ other
        · have found : d.db.refreshTokens.find g.sessionId = some r := by
            rw [← mine.1]
            exact Table.mem_find was
          have short := covers r found
          simp only [↓reduceIte] at short
          rcases List.mem_cons.mp issued with rfl | before
          · exact short.1
          · exact short.2 token before names
  begun := kept.begun

theorem Kept.sweeps (kept : d.Kept) {n : Nat} {w w' : Sweep} (found : d.sweeps[n]? = some w)
    (same : w'.now = w.now) : ∀ x ∈ d.sweeps.set n w', x.now ≤ d.now := by
  intro x member
  rcases List.mem_or_eq_of_mem_set member with before | rfl
  · exact kept.begun x before
  · rw [same]
    exact kept.begun w (List.mem_of_getElem? found)

theorem Kept.step {d' : Deployment} {act : Act} (kept : d.Kept) (step : d.Step act d')
    (covers : d.Covers act) : d'.Kept := by
  obtain ⟨fresh, next⟩ := step
  cases act with
  | call c =>
    cases next
    exact kept.call fresh
  | sign g answered =>
    cases next
    exact kept.sign fresh covers
  | tick later =>
    simp only [Deployment.next] at next
    split at next
    · rename_i le
      cases next
      exact ⟨kept.covered, fun w member => Nat.le_trans (kept.begun w member) le⟩
    · cases next
  | sweep =>
    cases next
    refine ⟨kept.covered, fun w member => ?_⟩
    rcases List.mem_append.mp member with before | last
    · exact kept.begun w before
    · cases List.mem_singleton.mp last
      exact Nat.le_refl _
  | read n =>
    simp only [Deployment.next] at next
    split at next
    · rename_i w found
      split at next
      · cases next
      · cases next
        refine ⟨kept.covered, kept.sweeps found ?_⟩
        split <;> rfl
    · cases next
  | delete n =>
    simp only [Deployment.next] at next
    split at next
    · rename_i found
      cases next
      refine ⟨?_, kept.sweeps found rfl⟩
      intro token issued r hr
      exact kept.covered token issued r (Table.mem_deleteMany.mp hr).1
    · cases next

/-- A clean-up changes no verdict on a token that can still be presented. -/
theorem Kept.verdict {d' : Deployment} (kept : d.Kept) {n : Nat} (step : d.Step (.delete n) d')
    {token : AccessToken} (issued : token ∈ d.issued) (live : token.expired d.now = false) :
    d'.db.verdict token.claims = d.db.verdict token.claims := by
  have next := step.2
  simp only [Deployment.next] at next
  split at next
  · rename_i now batches ids found
    cases next
    apply verdict_deleteStale
    intro sid names
    rw [Db.deleteStale, Table.find_deleteMany]
    cases row : d.db.refreshTokens.find sid with
    | none => rfl
    | some r =>
      have key : r.id = sid := Table.find_key row
      have spared : r.stale now = false := by
        by_contra stale
        have short := stale_cover (Bool.of_not_eq_false stale)
        have covered := kept.covered token issued r (Table.find_mem row) (key ▸ names)
        have begun : now ≤ d.now := kept.begun _ (List.mem_of_getElem? found)
        have ended : token.exp * 1000 ≤ d.now := Nat.le_trans covered (Nat.le_trans short begun)
        have valid : ¬token.exp ≤ d.now / 1000 := by simpa [AccessToken.expired] using live
        omega
      simp [spared]
  · cases next

def start (db : Db) (now : Time) : Deployment := ⟨db, [], now, []⟩

theorem kept_run {db : Db} {now : Time} {acts : List Act}
    (run : Run (Run.Where Step Covers) (start db now) acts d) : d.Kept := by
  refine run.preserves (P := Kept) (fun _ _ _ step kept => kept.step step.1 step.2) ⟨?_, ?_⟩
  · intro token issued
    cases issued
  · intro w member
    cases member

/-- No clean-up lets a token in that was refused. -/
theorem cleanup_keeps_refusals {db : Db} {now : Time} {acts : List Act} {d d' : Deployment}
    (run : Run (Run.Where Step Covers) (start db now) acts d) {n : Nat}
    (deleted : d.Step (.delete n) d') {token : AccessToken} (issued : token ∈ d.issued)
    (live : token.expired d.now = false) :
    ¬(d.db.verdict token.claims = .revoked ∧ d'.db.verdict token.claims = .active) := by
  rintro ⟨refused, admitted⟩
  rw [(kept_run run).verdict deleted issued live, refused] at admitted
  cases admitted

/-- Sessions and access tokens of one hour. -/
def hourCall (n : Nat) (now : Time) (op : Op) : Call :=
  ⟨now, ⟨n, n, n⟩, ⟨3600000, 3600000, by decide⟩, op⟩

def hourSigning (sid : SessionId) (issuedAtMs : Time) : Signing :=
  ⟨1, sid, .app, ⟨3600, 900⟩, issuedAtMs, issuedAtMs / 1000, issuedAtMs / 1000 + 3600⟩

/-- The first session is swept while the second, revoked, has a token left. -/
theorem cleanup_keeps_refusals_second :
    ∃ acts d d' token, Run (Run.Where Step Covers) (start (.ofUsers oneUser) 0) acts d ∧
      d.Step (.delete 0) d' ∧ token ∈ d.issued ∧ d.db.verdict token.claims = .revoked ∧
        d'.db.refreshTokens.find 1 = none ∧ ¬d'.db.verdict token.claims = .active := by
  have run : Run (Run.Where Step Covers) (start (.ofUsers oneUser) 0)
      [.call (hourCall 1 0 (.createSessionForCurrentSingleDeviceSetting 1 .empty .app)),
        .sign (hourSigning 1 0) true, .tick 3600001,
        .call (hourCall 2 3600001 (.createSessionForCurrentSingleDeviceSetting 1 .empty .app)),
        .sign (hourSigning 2 3600001) true,
        .call (hourCall 3 3600001 (.revokeSessionFamily 1 2 .sessionRevoked)),
        .sweep, .read 0] _ :=
    .cons ⟨⟨⟨by decide, by decide⟩, rfl⟩, trivial⟩ <|
    .cons ⟨⟨by rintro r ⟨⟩; rfl, rfl⟩, by rintro r ⟨⟩; decide⟩ <|
    .cons ⟨⟨trivial, rfl⟩, trivial⟩ <|
    .cons ⟨⟨⟨by decide, by decide⟩, rfl⟩, trivial⟩ <|
    .cons ⟨⟨by rintro r ⟨⟩; rfl, rfl⟩, by rintro r ⟨⟩; decide⟩ <|
    .cons ⟨⟨⟨by decide, by decide⟩, rfl⟩, trivial⟩ <|
    .cons ⟨⟨trivial, rfl⟩, trivial⟩ <| .cons ⟨⟨trivial, rfl⟩, trivial⟩ <| .nil _
  refine ⟨_, _, _, (hourSigning 2 3600001).token, run, ⟨trivial, rfl⟩, by decide, by decide,
    by decide, ?_⟩
  intro admitted
  refine cleanup_keeps_refusals (n := 0) run ?_ ?_ ?_ ⟨?_, admitted⟩
  · exact ⟨trivial, rfl⟩
  · decide
  · decide
  · decide

/-- The expiry is not written; the session is logged out; its row is swept before
the token expires. -/
theorem unwritten_expiry_resurrects :
    ∃ acts d d' token, Run Step (start (.ofUsers oneUser) 0) acts d ∧ d.Step (.delete 0) d' ∧
      token ∈ d.issued ∧ token.expired d.now = false ∧ d.db.verdict token.claims = .revoked ∧
        d'.db.verdict token.claims = .active := by
  have run : Run Step (start (.ofUsers oneUser) 0)
      [.call (hourCall 1 0 (.createSessionForCurrentSingleDeviceSetting 1 .empty .app)),
        .sign (hourSigning 1 2000) false,
        .call (hourCall 2 5000 (.revokeSessionFamily 1 1 .sessionRevoked)),
        .tick 3600001, .sweep, .read 0] _ :=
    .cons ⟨⟨by decide, by decide⟩, rfl⟩ <|
    .cons ⟨by rintro r ⟨⟩; rfl, rfl⟩ <|
    .cons ⟨⟨by decide, by decide⟩, rfl⟩ <|
    .cons ⟨trivial, rfl⟩ <| .cons ⟨trivial, rfl⟩ <| .cons ⟨trivial, rfl⟩ <| .nil _
  exact ⟨_, _, _, (hourSigning 1 2000).token, run, ⟨trivial, rfl⟩, by decide, by decide,
    by decide, by decide⟩

end Deployment

end CircleBackend.Session
