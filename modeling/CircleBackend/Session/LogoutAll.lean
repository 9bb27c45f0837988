import CircleBackend.Library.ReadCommitted
import CircleBackend.Session.Invariant

/-!
# One rotation against one logout of everything

`rotate` works under the auth-user lock, `revokeAll` takes none, so their
statements interleave under READ COMMITTED. The `UPDATE` of `revokeAll` visits the
rows its snapshot saw; it waits for the rotated row and then leaves it alone, and
it never visits the successor if the snapshot is older than the commit of the
rotation (`logout_all_iff`).
-/

namespace CircleBackend.Session

open Library Library.ReadCommitted

inductive Txn
  | rotate
  | revokeAll
  deriving DecidableEq, Repr

/-- A rotation and a logout of one user over the state `base`. The token column is
unique and the id of the new row is new. -/
structure LogoutRace where
  base : Db
  ttl : Ttl
  rotateNow : Time
  revokeNow : Time
  minted : Minted
  token : TokenHash
  userId : UserId
  context : SessionContext
  audience : Audience
  tokens : (base.refreshTokens.rows.map (·.token)).Nodup
  fresh : base.refreshTokens.find minted.sessionId = none

/-- Where `rotateLocked` stands: `updating` is the marking of the presented row, or
of its family when the row it read is revoked. -/
inductive RotateStage
  | waiting
  | read (record : RefreshToken)
  | updating (record : RefreshToken) (statement : Update SessionId)
  | inserted (record : RefreshToken)
  | committed (rotated : Bool)
  | aborted

inductive RevokeAllStage
  | waiting
  | updating (statement : Update SessionId)
  | stamped
  | committed
  | aborted

def RotateStage.isCommitted : RotateStage → Bool
  | .committed _ => true
  | _ => false

/-- The rotation may hold locks. -/
def RotateStage.active : RotateStage → Prop
  | .updating _ _ | .inserted _ => True
  | _ => False

def RevokeAllStage.active : RevokeAllStage → Prop
  | .updating _ | .stamped => True
  | _ => False

/-- The logout took its snapshot and was not aborted. -/
def RevokeAllStage.began : RevokeAllStage → Prop
  | .updating _ | .stamped | .committed => True
  | _ => False

/-- The rows the logout has yet to visit. -/
def RevokeAllStage.remaining : RevokeAllStage → SessionId → Bool
  | .updating u, id => u.targets id
  | _, _ => false

namespace LogoutRace

variable (race : LogoutRace)

/-- The condition of the rotation's `UPDATE`, given the row it read. -/
def rotateWhere (record r : RefreshToken) : Bool :=
  if record.revokedAt.isSome then
    r.userId = record.userId && r.familyId = record.familyId && r.revokedAt.isNone
  else
    r.token = race.token && r.revokedAt.isNone && race.rotateNow < r.expiredAt &&
      r.audience = race.audience

def rotateSet (record r : RefreshToken) : RefreshToken :=
  r.revoke race.rotateNow (if record.revokedAt.isSome then .tokenFamilyReuse else .rotated)

/-- The row `createWithClient` inserts for a rotation. -/
def successor (record : RefreshToken) : RefreshToken :=
  race.base.newSession race.ttl race.rotateNow race.minted record.userId
    ⟨nullish race.context.deviceName record.deviceName, nullish race.context.ip record.ip,
      nullish race.context.userAgent record.userAgent,
      nullish record.deviceKey race.context.deviceKey, none⟩ record.audience record.familyId

def revokeAllWhere (r : RefreshToken) : Bool := r.userId = race.userId && r.revokedAt.isNone

def revokeAllSet (r : RefreshToken) : RefreshToken := r.revoke race.revokeNow .logoutAll

/-- `overtaken` records whether the rotation had yet to commit when the `UPDATE` of
the logout took its snapshot. -/
structure State where
  db : Store SessionId Txn RefreshToken
  user : Cell Txn User
  rotate : RotateStage
  revokeAll : RevokeAllStage
  overtaken : Bool

def start : State where
  db := fun id => ⟨race.base.refreshTokens.find id, none⟩
  user := ⟨race.base.users.find race.userId, none⟩
  rotate := .waiting
  revokeAll := .waiting
  overtaken := false

inductive Action
  | rotateRead
  | rotateUpdate
  | rotateVisit (id : SessionId)
  | rotateInsert
  | rotateCommit
  | rotateAbort
  | revokeAllUpdate
  | revokeAllVisit (id : SessionId)
  | revokeAllStamp
  | revokeAllCommit
  | revokeAllAbort
  deriving DecidableEq, Repr

/-- The statements of the two transactions, a row of an `UPDATE` at a time. A
rotation that finds its token spent or does not mark exactly one row throws, and
either transaction may be aborted at any time. -/
inductive Step : State → Action → State → Prop
  | rotateRead (s : State) (id : SessionId) (record : RefreshToken) (stage : s.rotate = .waiting)
      (seen : (s.db id).view .rotate = some record) (hash : record.token = race.token)
      (own : record.audience = race.audience ∧ record.userId = race.userId)
      (unexpired : race.rotateNow < record.expiredAt) :
    Step s .rotateRead { s with rotate := .read record }
  | rotateUpdate (s : State) (record : RefreshToken) (stage : s.rotate = .read record)
      (known : record.revokedAt.isSome →
        record.revocationReason = some .rotated ∨ record.revocationReason = none) :
    Step s .rotateUpdate { s with
      rotate := .updating record (s.db.beginUpdate .rotate (race.rotateWhere record)) }
  | rotateVisit (s : State) (record : RefreshToken) (u : Update SessionId) (id : SessionId)
      (stage : s.rotate = .updating record u) (target : u.targets id = true)
      (free : (s.db id).Free .rotate) :
    Step s (.rotateVisit id) { s with
      db := s.db.visit .rotate (race.rotateWhere record) (race.rotateSet record) id
      rotate := .updating record
        (u.visited id (((s.db id).view .rotate).any (race.rotateWhere record))) }
  | rotateInsert (s : State) (record : RefreshToken) (u : Update SessionId)
      (stage : s.rotate = .updating record u) (live : record.revokedAt = none)
      (finished : u.Finished) (single : u.count = 1) :
    Step s .rotateInsert { s with
      db := s.db.insert .rotate race.minted.sessionId (race.successor record)
      rotate := .inserted record }
  | rotateCommit (s : State) (record : RefreshToken) (stage : s.rotate = .inserted record) :
    Step s .rotateCommit { s with
      db := s.db.commit .rotate
      rotate := .committed true }
  | replayCommit (s : State) (record : RefreshToken) (u : Update SessionId)
      (stage : s.rotate = .updating record u) (spent : record.revokedAt.isSome)
      (finished : u.Finished) :
    Step s .rotateCommit { s with
      db := s.db.commit .rotate
      rotate := .committed false }
  | rotateAbort (s : State) (stage : s.rotate.isCommitted = false) :
    Step s .rotateAbort { s with
      db := s.db.abort .rotate
      rotate := .aborted }
  | revokeAllUpdate (s : State) (stage : s.revokeAll = .waiting) :
    Step s .revokeAllUpdate { s with
      revokeAll := .updating (s.db.beginUpdate .revokeAll race.revokeAllWhere)
      overtaken := !s.rotate.isCommitted }
  | revokeAllVisit (s : State) (u : Update SessionId) (id : SessionId)
      (stage : s.revokeAll = .updating u) (target : u.targets id = true)
      (free : (s.db id).Free .revokeAll) :
    Step s (.revokeAllVisit id) { s with
      db := s.db.visit .revokeAll race.revokeAllWhere race.revokeAllSet id
      revokeAll := .updating
        (u.visited id (((s.db id).view .revokeAll).any race.revokeAllWhere)) }
  | revokeAllStamp (s : State) (u : Update SessionId) (v : User)
      (stage : s.revokeAll = .updating u) (finished : u.Finished)
      (seen : s.user.view .revokeAll = some v) (free : s.user.Free .revokeAll) :
    Step s .revokeAllStamp { s with
      user := s.user.write .revokeAll { v with accessTokensRevokedAt := some race.revokeNow }
      revokeAll := .stamped }
  | revokeAllCommit (s : State) (stage : s.revokeAll = .stamped) :
    Step s .revokeAllCommit { s with
      db := s.db.commit .revokeAll
      user := s.user.commit .revokeAll
      revokeAll := .committed }
  | revokeAllAbort (s : State) (stage : s.revokeAll ≠ .committed) :
    Step s .revokeAllAbort { s with
      db := s.db.abort .revokeAll
      user := s.user.abort .revokeAll
      revokeAll := .aborted }

/-- The row of the presented token before the race. -/
def Presents (r : RefreshToken) : Prop :=
  r ∈ race.base.refreshTokens.rows ∧ r.token = race.token

/-- Until the rotation commits, a row is as it was or logged out. -/
def Version (r₀ r : RefreshToken) : Prop :=
  r = r₀ ∨ r₀.revokedAt = none ∧ r = race.revokeAllSet r₀

/-- The successor's row at each stage of the rotation. -/
def SuccessorAt (overtaken : Bool) (c : Cell Txn RefreshToken) : RotateStage → Prop
  | .inserted record =>
    c = ⟨none, some (.rotate, race.successor record)⟩ ∧ record.userId = race.userId
  | .committed true => overtaken = true →
    ∃ r, c = ⟨some r, none⟩ ∧ r.revokedAt = none ∧ r.userId = race.userId
  | _ => c = ⟨none, none⟩

/-- What the rotation has read says about the row before the race. -/
def Reads : RotateStage → Prop
  | .read record => record.userId = race.userId ∧ ∃ r₀, race.Presents r₀ ∧ race.Version r₀ record
  | .updating record _ => record.userId = race.userId ∧
    ∃ r₀, race.Presents r₀ ∧ (record.revokedAt = none ↔ r₀.revokedAt = none)
  | .inserted _ => ∃ r₀, race.Presents r₀ ∧ r₀.revokedAt = none
  | .committed rotated => ∃ r₀, race.Presents r₀ ∧ (r₀.revokedAt = none ↔ rotated = true)
  | _ => True

structure Inv (s : State) : Prop where
  byRotate : ∀ id r, (s.db id).pending = some (.rotate, r) → s.rotate.active ∧
    (id ≠ race.minted.sessionId → r.revokedAt.isSome)
  byRevokeAll : ∀ id r, (s.db id).pending = some (.revokeAll, r) → s.revokeAll.active ∧
    ∃ r₁, (s.db id).committed = some r₁ ∧ r₁.revokedAt = none ∧ r = race.revokeAllSet r₁
  versions : s.rotate.isCommitted = false → ∀ id r, (s.db id).committed = some r →
    ∃ r₀, race.base.refreshTokens.find id = some r₀ ∧ race.Version r₀ r
  successor : race.SuccessorAt s.overtaken (s.db race.minted.sessionId) s.rotate
  reads : race.Reads s.rotate
  swept : s.revokeAll.began → ∀ id r, (s.db id).view .revokeAll = some r →
    race.revokeAllWhere r = true →
      s.revokeAll.remaining id = true ∨ s.overtaken = true ∧ id = race.minted.sessionId
  missed : s.overtaken = true → s.revokeAll.remaining race.minted.sessionId = false
  timely : s.overtaken = false → s.revokeAll.began → s.rotate.isCommitted = true

section
variable {race} {s s' : State} {act : Action}

theorem start_inv : race.Inv race.start := by
  refine ⟨?_, ?_, ?_, ?_, trivial, ?_, ?_, ?_⟩
  · intro id r held
    cases held
  · intro id r held
    cases held
  · intro _ id r found
    exact ⟨r, found, Or.inl rfl⟩
  · simp only [start, SuccessorAt, race.fresh]
  · intro began
    exact began.elim
  · intro overtaken
    cases overtaken
  · intro _ began
    exact began.elim

/-- A visit of the rotation to a row other than the successor's revokes it. -/
theorem byRotate_step (h : race.Step s act s') (hi : race.Inv s) :
    ∀ id r, (s'.db id).pending = some (.rotate, r) → s'.rotate.active ∧
      (id ≠ race.minted.sessionId → r.revokedAt.isSome) := by
  intro id r held
  cases h with
  | rotateRead _ record stage | rotateUpdate record stage =>
    exact absurd (hi.byRotate id r held).1 (by simp [stage, RotateStage.active])
  | rotateVisit record u k stage target free =>
    obtain before | ⟨-, -, a, -, -, rfl⟩ := Store.pending_visit held
    · exact ⟨trivial, (hi.byRotate id r before).2⟩
    · exact ⟨trivial, fun _ => rfl⟩
  | rotateInsert record u stage live finished single =>
    obtain ⟨-, before⟩ | ⟨own, -⟩ := Store.pending_insert held
    · exact ⟨trivial, (hi.byRotate id r before).2⟩
    · exact ⟨trivial, fun other => absurd own other⟩
  | rotateCommit | replayCommit => exact absurd rfl (Cell.pending_commit held).2
  | rotateAbort => exact absurd rfl (Cell.pending_abort held).2
  | revokeAllVisit u k stage target free =>
    obtain before | ⟨other, -⟩ := Store.pending_visit held
    · exact hi.byRotate id r before
    · cases other
  | revokeAllUpdate | revokeAllStamp => exact hi.byRotate id r held
  | revokeAllCommit => exact hi.byRotate id r (Cell.pending_commit held).1
  | revokeAllAbort => exact hi.byRotate id r (Cell.pending_abort held).1

variable {r : RefreshToken}

/-- What the logout sees live is committed. -/
theorem seen_live (hi : race.Inv s) {id : SessionId} (seen : (s.db id).view .revokeAll = some r)
    (live : r.revokedAt = none) : (s.db id).committed = some r := by
  obtain ⟨a, held, view⟩ | ⟨-, view⟩ := Cell.view_cases (s.db id) .revokeAll
  · rw [seen] at view
    cases view
    obtain ⟨-, r₁, -, -, rfl⟩ := hi.byRevokeAll id r held
    cases live
  · exact view.symm.trans seen

theorem revokeAllWhere_iff :
    race.revokeAllWhere r = true ↔ r.userId = race.userId ∧ r.revokedAt = none := by
  simp [revokeAllWhere]

theorem byRevokeAll_step (h : race.Step s act s') (hi : race.Inv s) :
    ∀ id r, (s'.db id).pending = some (.revokeAll, r) → s'.revokeAll.active ∧
      ∃ r₁, (s'.db id).committed = some r₁ ∧ r₁.revokedAt = none ∧ r = race.revokeAllSet r₁ := by
  intro id r held
  cases h with
  | rotateRead | rotateUpdate => exact hi.byRevokeAll id r held
  | rotateVisit record u k stage target free =>
    obtain before | ⟨other, -⟩ := Store.pending_visit held
    · obtain ⟨active, r₁, committed, rest⟩ := hi.byRevokeAll id r before
      exact ⟨active, r₁, Store.committed_visit.trans committed, rest⟩
    · cases other
  | rotateInsert record u stage live finished single =>
    obtain ⟨-, before⟩ | ⟨-, other, -⟩ := Store.pending_insert held
    · obtain ⟨active, r₁, committed, rest⟩ := hi.byRevokeAll id r before
      exact ⟨active, r₁, Store.committed_insert.trans committed, rest⟩
    · cases other
  | rotateCommit | replayCommit =>
    have before := (Cell.pending_commit held).1
    obtain ⟨active, r₁, committed, rest⟩ := hi.byRevokeAll id r before
    refine ⟨active, r₁, ?_, rest⟩
    obtain same | ⟨a, mine, -⟩ := Cell.committed_commit (c := s.db id) (t := .rotate)
    · exact same.trans committed
    · rw [before] at mine
      cases mine
  | rotateAbort => exact hi.byRevokeAll id r (Cell.pending_abort held).1
  | revokeAllUpdate stage =>
    exact absurd (hi.byRevokeAll id r held).1 (by simp [stage, RevokeAllStage.active])
  | revokeAllVisit u k stage target free =>
    obtain before | ⟨-, rfl, a, seen, matched, rfl⟩ := Store.pending_visit held
    · obtain ⟨-, r₁, committed, rest⟩ := hi.byRevokeAll id r before
      exact ⟨trivial, r₁, Store.committed_visit.trans committed, rest⟩
    · have live := (revokeAllWhere_iff.mp matched).2
      exact ⟨trivial, a, Store.committed_visit.trans (seen_live hi seen live), live, rfl⟩
  | revokeAllStamp u v stage => exact ⟨trivial, (hi.byRevokeAll id r held).2⟩
  | revokeAllCommit => exact absurd rfl (Cell.pending_commit held).2
  | revokeAllAbort => exact absurd rfl (Cell.pending_abort held).2

theorem versions_step (h : race.Step s act s') (hi : race.Inv s) :
    s'.rotate.isCommitted = false → ∀ id r, (s'.db id).committed = some r →
      ∃ r₀, race.base.refreshTokens.find id = some r₀ ∧ race.Version r₀ r := by
  intro running id r found
  cases h with
  | rotateRead _ record stage | rotateUpdate record stage =>
    exact hi.versions (by rw [stage]; rfl) id r found
  | rotateVisit record u k stage target free =>
    exact hi.versions (by rw [stage]; rfl) id r (Store.committed_visit.symm.trans found)
  | rotateInsert record u stage live finished single =>
    exact hi.versions (by rw [stage]; rfl) id r (Store.committed_insert.symm.trans found)
  | rotateCommit | replayCommit => cases running
  | rotateAbort stage => exact hi.versions stage id r found
  | revokeAllVisit u k stage target free =>
    exact hi.versions running id r (Store.committed_visit.symm.trans found)
  | revokeAllUpdate | revokeAllStamp | revokeAllAbort => exact hi.versions running id r found
  | revokeAllCommit =>
    obtain same | ⟨a, held, committed⟩ := Cell.committed_commit (c := s.db id) (t := .revokeAll)
    · exact hi.versions running id r (same.symm.trans found)
    · obtain ⟨-, r₁, before, live, rfl⟩ := hi.byRevokeAll id a held
      obtain ⟨r₀, initial, rfl | ⟨-, rfl⟩⟩ := hi.versions running id r₁ before
      · refine ⟨r₁, initial, Or.inr ⟨live, ?_⟩⟩
        exact Option.some.inj (found.symm.trans committed)
      · cases live

/-- The logout holds no lock on the successor, unless its snapshot saw it. -/
theorem successor_apart (hi : race.Inv s)
    (early : ¬ (s.rotate = .committed true ∧ s.overtaken = false)) :
    ∀ a, (s.db race.minted.sessionId).pending ≠ some (.revokeAll, a) := by
  intro a held
  have cell := hi.successor
  cases stage : s.rotate with
  | waiting | read | updating | aborted =>
    simp only [stage, SuccessorAt] at cell
    simp [cell] at held
  | inserted record =>
    simp only [stage, SuccessorAt] at cell
    simp [cell.1] at held
  | committed rotated =>
    cases rotated with
    | false =>
      simp only [stage, SuccessorAt] at cell
      simp [cell] at held
    | true =>
      have overtaken : s.overtaken = true := by simpa [stage] using early
      simp only [stage, SuccessorAt] at cell
      obtain ⟨r, stored, -⟩ := cell overtaken
      simp [stored] at held

/-- The logout does not write the successor, unless its snapshot saw it. -/
theorem successor_unvisited (hi : race.Inv s)
    (early : ¬ (s.rotate = .committed true ∧ s.overtaken = false)) {u : Update SessionId}
    (updating : s.revokeAll = .updating u) {k : SessionId} (target : u.targets k = true) :
    s.db.visit .revokeAll race.revokeAllWhere race.revokeAllSet k race.minted.sessionId =
      s.db race.minted.sessionId := by
  by_cases own : k = race.minted.sessionId
  · subst own
    have overtaken : s.overtaken ≠ true := by
      intro overtaken
      have missed := hi.missed overtaken
      simp only [updating, RevokeAllStage.remaining, target] at missed
      cases missed
    apply Store.visit_unseen
    obtain ⟨a, held, -⟩ | ⟨-, view⟩ := Cell.view_cases (s.db race.minted.sessionId) .revokeAll
    · exact absurd held (successor_apart hi early a)
    · have committed : s.rotate.isCommitted = true := by
        refine hi.timely (by simpa using overtaken) ?_
        rw [updating]
        trivial
      have cell := hi.successor
      rw [view]
      cases stage : s.rotate with
      | waiting | read | updating | aborted | inserted => simp [stage, RotateStage.isCommitted] at committed
      | committed rotated =>
        cases rotated with
        | false =>
          simp only [stage, SuccessorAt] at cell
          rw [cell]
        | true => exact absurd ⟨stage, by simpa using overtaken⟩ early
  · exact Store.visit_other (fun same => own same.symm)

theorem successor_step (h : race.Step s act s') (hi : race.Inv s) :
    race.SuccessorAt s'.overtaken (s'.db race.minted.sessionId) s'.rotate := by
  have cell := hi.successor
  cases h with
  | rotateRead _ record stage | rotateUpdate record stage =>
    rw [stage] at cell
    exact cell
  | rotateVisit record u k stage target free =>
    rw [stage] at cell
    exact (Store.visit_unseen (by rw [cell]; rfl)).trans cell
  | rotateInsert record u stage live finished single =>
    rw [stage] at cell
    have reads := hi.reads
    rw [stage] at reads
    refine ⟨?_, reads.1⟩
    simp only [SuccessorAt] at cell
    simp only [Store.insert, Function.update_self, cell, Cell.write]
  | rotateCommit record stage =>
    rw [stage] at cell
    obtain ⟨cell, owner⟩ := cell
    intro _
    refine ⟨race.successor record, ?_, rfl, owner⟩
    simp only [Store.commit, cell, Cell.commit, ↓reduceIte]
  | replayCommit record u stage spent finished =>
    rw [stage] at cell
    simp only [SuccessorAt] at cell
    simp only [SuccessorAt, Store.commit, cell, Cell.commit]
  | rotateAbort stage =>
    cases before : s.rotate with
    | waiting | read | updating | aborted =>
      simp only [before, SuccessorAt] at cell
      simp only [SuccessorAt, Store.abort, cell, Cell.abort, Option.filter]
    | inserted record =>
      simp only [before, SuccessorAt] at cell
      simp [SuccessorAt, Store.abort, cell.1, Cell.abort, Option.filter]
    | committed => simp [before, RotateStage.isCommitted] at stage
  | revokeAllUpdate stage =>
    cases before : s.rotate with
    | waiting | read | updating | aborted | inserted =>
      simp only [before, SuccessorAt] at cell ⊢
      exact cell
    | committed rotated =>
      cases rotated with
      | false =>
        simp only [before, SuccessorAt] at cell ⊢
        exact cell
      | true => simp [SuccessorAt, RotateStage.isCommitted]
  | revokeAllStamp => exact cell
  | revokeAllVisit u k stage target free =>
    by_cases late : s.rotate = .committed true ∧ s.overtaken = false
    · simp [late.1, late.2, SuccessorAt]
    · have same := successor_unvisited hi late stage target
      simpa only [same] using cell
  | revokeAllCommit stage =>
    by_cases late : s.rotate = .committed true ∧ s.overtaken = false
    · simp [late.1, late.2, SuccessorAt]
    · simpa only [Store.commit, Cell.commit_apart (successor_apart hi late)] using cell
  | revokeAllAbort stage =>
    by_cases late : s.rotate = .committed true ∧ s.overtaken = false
    · simp [late.1, late.2, SuccessorAt]
    · simpa only [Store.abort, Cell.abort_apart (successor_apart hi late)] using cell

theorem version_token {r₀ : RefreshToken} (h : race.Version r₀ r) : r.token = r₀.token := by
  obtain rfl | ⟨-, rfl⟩ := h <;> rfl

theorem reads_step (h : race.Step s act s') (hi : race.Inv s) : race.Reads s'.rotate := by
  have reads := hi.reads
  cases h with
  | rotateRead id record stage seen hash own unexpired =>
    refine ⟨own.2, ?_⟩
    obtain ⟨a, held, -⟩ | ⟨-, view⟩ := Cell.view_cases (s.db id) .rotate
    · have active := (hi.byRotate id a held).1
      rw [stage] at active
      exact active.elim
    · rw [view] at seen
      obtain ⟨r₀, initial, version⟩ := hi.versions (by rw [stage]; rfl) id record seen
      exact ⟨r₀, ⟨Table.find_mem initial, (version_token version).symm.trans hash⟩, version⟩
  | rotateUpdate record stage known =>
    rw [stage] at reads
    obtain ⟨owner, r₀, presents, rfl | ⟨live, rfl⟩⟩ := reads
    · exact ⟨owner, record, presents, Iff.rfl⟩
    · obtain reason | reason := known rfl <;> cases reason
  | rotateVisit record u k stage =>
    rw [stage] at reads
    exact reads
  | rotateInsert record u stage live =>
    rw [stage] at reads
    obtain ⟨-, r₀, presents, same⟩ := reads
    exact ⟨r₀, presents, same.mp live⟩
  | rotateCommit record stage =>
    rw [stage] at reads
    obtain ⟨r₀, presents, live⟩ := reads
    exact ⟨r₀, presents, by simp [live]⟩
  | replayCommit record u stage spent =>
    rw [stage] at reads
    obtain ⟨-, r₀, presents, same⟩ := reads
    refine ⟨r₀, presents, ?_⟩
    rw [← same]
    simpa using Option.isSome_iff_ne_none.mp spent
  | rotateAbort => trivial
  | revokeAllUpdate | revokeAllVisit | revokeAllStamp | revokeAllCommit | revokeAllAbort =>
    exact reads

theorem timely_step (h : race.Step s act s') (hi : race.Inv s) :
    s'.overtaken = false → s'.revokeAll.began → s'.rotate.isCommitted = true := by
  intro late began
  cases h with
  | rotateCommit | replayCommit => rfl
  | rotateRead _ record stage | rotateUpdate record stage =>
    have committed := hi.timely late began
    simp [stage, RotateStage.isCommitted] at committed
  | rotateVisit record u _ stage | rotateInsert record u stage =>
    have committed := hi.timely late began
    simp [stage, RotateStage.isCommitted] at committed
  | rotateAbort stage =>
    have committed := hi.timely late began
    rw [stage] at committed
    cases committed
  | revokeAllUpdate => simpa using late
  | revokeAllVisit u k stage | revokeAllStamp u v stage | revokeAllCommit stage =>
    exact hi.timely late (by rw [stage]; trivial)
  | revokeAllAbort => exact began.elim

theorem missed_step (h : race.Step s act s') (hi : race.Inv s) :
    s'.overtaken = true → s'.revokeAll.remaining race.minted.sessionId = false := by
  intro overtaken
  cases h with
  | rotateRead | rotateUpdate | rotateVisit | rotateInsert => exact hi.missed overtaken
  | rotateCommit | replayCommit | rotateAbort => exact hi.missed overtaken
  | revokeAllStamp | revokeAllCommit | revokeAllAbort => rfl
  | revokeAllVisit u k stage =>
    have missed := hi.missed overtaken
    rw [stage] at missed
    simp only [RevokeAllStage.remaining, Update.visited] at missed ⊢
    by_cases own : race.minted.sessionId = k
    · rw [own, Function.update_self]
    · rw [Function.update_of_ne own]
      exact missed
  | revokeAllUpdate stage =>
    -- An uncommitted successor is invisible to the snapshot.
    have cell := hi.successor
    simp only [RevokeAllStage.remaining, Store.beginUpdate]
    cases before : s.rotate with
    | committed => simp [before, RotateStage.isCommitted] at overtaken
    | inserted record =>
      simp only [before, SuccessorAt] at cell
      simp [cell.1, Cell.view, Option.filter]
    | waiting | read | updating | aborted =>
      simp only [before, SuccessorAt] at cell
      simp [cell, Cell.view, Option.filter]

/-- The rotation's commit shows the logout nothing live but the successor. -/
theorem swept_commit (hi : race.Inv s) (began : s.revokeAll.began)
    (running : s.rotate.isCommitted = false) {id : SessionId}
    (seen : ((s.db.commit .rotate) id).view .revokeAll = some r)
    (matched : race.revokeAllWhere r = true) :
    s.revokeAll.remaining id = true ∨ s.overtaken = true ∧ id = race.minted.sessionId := by
  obtain same | ⟨a, held, committed⟩ :=
    Cell.view_commit_other (c := s.db id) (t := .rotate) (w := .revokeAll) (by decide)
  · exact hi.swept began id r (same.symm.trans seen) matched
  · have version : r = a := Option.some.inj (seen.symm.trans committed)
    subst version
    have live := (revokeAllWhere_iff.mp matched).2
    by_cases own : id = race.minted.sessionId
    · refine Or.inr ⟨?_, own⟩
      by_contra late
      rw [hi.timely (by simpa using late) began] at running
      cases running
    · have revoked := (hi.byRotate id r held).2 own
      simp [live] at revoked

theorem swept_step (h : race.Step s act s') (hi : race.Inv s) :
    s'.revokeAll.began → ∀ id r, (s'.db id).view .revokeAll = some r →
      race.revokeAllWhere r = true →
        s'.revokeAll.remaining id = true ∨ s'.overtaken = true ∧ id = race.minted.sessionId := by
  intro began id r seen matched
  cases h with
  | rotateRead | rotateUpdate => exact hi.swept began id r seen matched
  | rotateVisit record u k stage target free =>
    have view := Store.view_visit_other (p := race.rotateWhere record) (f := race.rotateSet record)
      free (show Txn.revokeAll ≠ .rotate by decide) id
    exact hi.swept began id r (view.symm.trans seen) matched
  | rotateInsert record u stage live finished single =>
    have cell := hi.successor
    rw [stage] at cell
    simp only [SuccessorAt] at cell
    have free : (s.db race.minted.sessionId).Free .rotate := by simp [Cell.Free, cell]
    have view := Store.view_insert_other (a := race.successor record) free
      (show Txn.revokeAll ≠ .rotate by decide) id
    exact hi.swept began id r (view.symm.trans seen) matched
  | rotateCommit record stage =>
    exact swept_commit hi began (by rw [stage]; rfl) seen matched
  | replayCommit record u stage =>
    exact swept_commit hi began (by rw [stage]; rfl) seen matched
  | rotateAbort =>
    have view := Cell.view_abort_other (c := s.db id) (show Txn.revokeAll ≠ .rotate by decide)
    exact hi.swept began id r (view.symm.trans seen) matched
  | revokeAllUpdate stage =>
    left
    have view : (s.db id).view .revokeAll = some r := seen
    simp [RevokeAllStage.remaining, Store.beginUpdate, view, matched]
  | revokeAllVisit u k stage target free =>
    have swept := hi.swept (by rw [stage]; trivial) id r
    rw [stage] at swept
    simp only [RevokeAllStage.remaining, Update.visited] at swept ⊢
    by_cases visited : id = k
    · subst visited
      have settled := Store.view_visit (fun a => by simp [revokeAllWhere, revokeAllSet,
        RefreshToken.revoke]) seen
      rw [matched] at settled
      cases settled
    · rw [Function.update_of_ne visited]
      exact swept ((Store.view_visit_apart visited).symm.trans seen) matched
  | revokeAllStamp u v stage finished =>
    obtain left | overtaken := hi.swept (by rw [stage]; trivial) id r seen matched
    · rw [stage] at left
      simp [RevokeAllStage.remaining, finished id] at left
    · exact Or.inr overtaken
  | revokeAllCommit stage =>
    have view := Cell.view_commit_self (c := s.db id) (t := .revokeAll)
    obtain left | overtaken :=
      hi.swept (by rw [stage]; trivial) id r (view.symm.trans seen) matched
    · rw [stage] at left
      cases left
    · exact Or.inr overtaken
  | revokeAllAbort => exact began.elim

theorem inv_step (h : race.Step s act s') (hi : race.Inv s) : race.Inv s' :=
  ⟨byRotate_step h hi, byRevokeAll_step h hi, versions_step h hi, successor_step h hi,
    reads_step h hi, swept_step h hi, missed_step h hi, timely_step h hi⟩

end

/-- The logout takes its snapshot before the rotation commits. -/
def Overtakes (acts : List Action) : Prop := [.revokeAllUpdate, .rotateCommit].Sublist acts

instance (acts : List Action) : Decidable (Overtakes acts) :=
  inferInstanceAs (Decidable (List.Sublist _ acts))

/-- The bookkeeping of a run: what its labels say about the stages. -/
structure Traced (acts : List Action) (s : State) : Prop where
  inv : race.Inv s
  updated : .revokeAllUpdate ∈ acts → s.revokeAll ≠ .waiting
  began : s.revokeAll.began → .revokeAllUpdate ∈ acts
  overtaken : s.rotate.isCommitted = true → s.revokeAll.began →
    (s.overtaken = true ↔ Overtakes acts)

section
variable {race} {s s' : State} {act : Action} {acts : List Action}

/-- The other statements change nothing of this. -/
theorem Traced.other (h : race.Step s act s') (traced : race.Traced acts s)
    (update : act ≠ .revokeAllUpdate) (commit : act ≠ .rotateCommit)
    (committed : s'.rotate.isCommitted = true → s.rotate.isCommitted = true)
    (waited : s.revokeAll ≠ .waiting → s'.revokeAll ≠ .waiting)
    (began : s'.revokeAll.began → s.revokeAll.began) (same : s'.overtaken = s.overtaken) :
    race.Traced (acts ++ [act]) s' := by
  refine ⟨inv_step h traced.inv, ?_, ?_, ?_⟩
  · intro member
    obtain earlier | now := List.mem_append.mp member
    · exact waited (traced.updated earlier)
    · exact absurd (List.mem_singleton.mp now).symm update
  · intro h
    exact List.mem_append_left _ (traced.began (began h))
  · intro hc hb
    rw [same, Overtakes, Run.pair_sublist_concat]
    have before := traced.overtaken (committed hc) (began hb)
    rw [Overtakes] at before
    simp only [before, commit, false_and, or_false]

/-- The commit of the rotation decides the order. -/
theorem Traced.commit (h : race.Step s .rotateCommit s') (traced : race.Traced acts s)
    (running : s.rotate.isCommitted = false) (same : s'.revokeAll = s.revokeAll)
    (overtaken : s'.overtaken = s.overtaken) : race.Traced (acts ++ [.rotateCommit]) s' := by
  refine ⟨inv_step h traced.inv, ?_, ?_, ?_⟩
  · intro member
    rw [same]
    exact traced.updated (by simpa using member)
  · intro began
    rw [same] at began
    exact List.mem_append_left _ (traced.began began)
  · intro _ began
    rw [same] at began
    have first := traced.began began
    rw [overtaken, Overtakes, Run.pair_sublist_concat]
    refine ⟨fun _ => Or.inr ⟨rfl, first⟩, fun _ => ?_⟩
    by_contra late
    rw [traced.inv.timely (by simpa using late) began] at running
    cases running

theorem traced_step (h : race.Step s act s') (traced : race.Traced acts s) :
    race.Traced (acts ++ [act]) s' := by
  have next := h
  cases h with
  | rotateRead | rotateUpdate | rotateVisit | rotateInsert | rotateAbort =>
    refine traced.other next (by simp) (by simp) ?_ (fun h => h) (fun h => h) rfl
    intro committed
    cases committed
  | rotateCommit record stage => exact traced.commit next (by rw [stage]; rfl) rfl rfl
  | replayCommit record u stage => exact traced.commit next (by rw [stage]; rfl) rfl rfl
  | revokeAllUpdate stage =>
    refine ⟨inv_step next traced.inv, ?_, ?_, ?_⟩
    · intro _ waiting
      cases waiting
    · intro _
      exact List.mem_append_right _ (List.mem_singleton.mpr rfl)
    · intro committed _
      have committed : s.rotate.isCommitted = true := committed
      rw [Overtakes, Run.pair_sublist_concat]
      have first : .revokeAllUpdate ∉ acts := fun member => traced.updated member stage
      simp only [committed, Bool.not_true, Bool.false_eq_true, reduceCtorEq, false_and, or_false,
        false_iff]
      exact fun earlier => first (earlier.subset (List.mem_cons_self ..))
  | revokeAllVisit u k stage | revokeAllStamp u v stage | revokeAllCommit stage =>
    refine traced.other next (by simp) (by simp) (fun h => h) ?_ ?_ rfl
    · intro _ waiting
      cases waiting
    · intro _
      rw [stage]
      trivial
  | revokeAllAbort =>
    refine traced.other next (by simp) (by simp) (fun h => h) ?_ ?_ rfl
    · intro _ waiting
      cases waiting
    · intro began
      exact began.elim

theorem run_traced (run : Run race.Step race.start acts s) : race.Traced acts s := by
  refine run.history ?_ ⟨start_inv, by simp, ?_, ?_⟩
  · intro _ _ _ _ step traced
    exact traced_step step traced
  · intro began
    exact began.elim
  · intro committed
    cases committed

/-- Once the logout has ended, it has nothing uncommitted. -/
theorem ended_view (hi : race.Inv s) (logged : s.revokeAll = .committed) (id : SessionId) :
    (s.db id).view .revokeAll = (s.db id).committed := by
  obtain ⟨a, held, -⟩ | ⟨-, view⟩ := Cell.view_cases (s.db id) .revokeAll
  · have active := (hi.byRevokeAll id a held).1
    rw [logged] at active
    exact active.elim
  · exact view

/-- The presented token belongs to one row. -/
theorem presents_unique {r r' : RefreshToken} (h : race.Presents r) (h' : race.Presents r') :
    r = r' :=
  List.inj_on_of_nodup_map race.tokens h.1 h'.1 (h.2.trans h'.2.symm)

end

end LogoutRace

open LogoutRace in
/-- After both transactions have committed the user has no live refresh token,
exactly when the rotation presented a token that was already revoked, so that it
inserted nothing, or the logout took its snapshot after the rotation's commit. -/
theorem logout_all_iff (race : LogoutRace) {acts : List Action} {s : State}
    (run : Run race.Step race.start acts s) (rotated : s.rotate.isCommitted = true)
    (logged : s.revokeAll = .committed) :
    (∀ id r, (s.db id).committed = some r → r.userId = race.userId → r.revokedAt.isSome) ↔
      (∃ r, race.Presents r ∧ r.revokedAt.isSome) ∨ ¬ Overtakes acts := by
  have traced := run_traced run
  have hi := traced.inv
  have began : s.revokeAll.began := by rw [logged]; trivial
  have overtaken := traced.overtaken rotated began
  have swept : ∀ id r, (s.db id).committed = some r → r.userId = race.userId →
      r.revokedAt = none → s.overtaken = true ∧ id = race.minted.sessionId := by
    intro id r stored owner live
    have left := hi.swept began id r ((ended_view hi logged id).trans stored)
      (revokeAllWhere_iff.mpr ⟨owner, live⟩)
    rw [logged] at left
    exact left.resolve_left (by simp [RevokeAllStage.remaining])
  have reads := hi.reads
  have cell := hi.successor
  cases stage : s.rotate with
  | waiting | read | updating | inserted | aborted => simp [stage, RotateStage.isCommitted] at rotated
  | committed inserted =>
    rw [stage] at reads cell
    obtain ⟨r₀, presents, live⟩ := reads
    cases inserted with
    | false =>
      have spent : r₀.revokedAt.isSome := by
        rw [Option.isSome_iff_ne_none]
        exact fun none => Bool.noConfusion (live.mp none)
      refine ⟨fun _ => Or.inl ⟨r₀, presents, spent⟩, fun _ id r stored owner => ?_⟩
      by_contra alive
      obtain ⟨-, rfl⟩ := swept id r stored owner (by simpa using alive)
      simp only [SuccessorAt] at cell
      simp [cell] at stored
    | true =>
      have unspent : ¬ ∃ r, race.Presents r ∧ r.revokedAt.isSome := by
        rintro ⟨r, presented, spent⟩
        rw [presents_unique presented presents, live.mpr rfl] at spent
        cases spent
      constructor
      · intro dead
        refine Or.inr fun early => ?_
        obtain ⟨r, stored, alive, owner⟩ := cell (overtaken.mpr early)
        have revoked := dead race.minted.sessionId r (by rw [stored]) owner
        simp [alive] at revoked
      · rintro (spent | late)
        · exact absurd spent unspent
        · intro id r stored owner
          by_contra alive
          exact late (overtaken.mp (swept id r stored owner (by simpa using alive)).1)

/-- One session, created by the first call of a script. -/
def soloRace : LogoutRace where
  base := (Db.ofUsers oneUser).play
    [scripted 1 (.createSessionForCurrentSingleDeviceSetting 1 .empty .app)]
  ttl := ⟨2592000000, 28800000, eightHours_le⟩
  rotateNow := 2
  revokeNow := 3
  minted := ⟨2, 2, 2⟩
  token := 1
  userId := 1
  context := .empty
  audience := .app
  tokens := by decide
  fresh := by decide

def soloRow : RefreshToken :=
  ⟨1, 1, 1, 1, 0, 0, 0, 0, .app, none, none, none, none, 2592000001, none, none, none, none, 1⟩

open LogoutRace

variable {k : SessionId}

theorem solo_target {t : Txn} {p : RefreshToken → Bool}
    (target : (soloRace.start.db.beginUpdate t p).targets k = true) : k = 1 := by
  cases found : soloRace.base.refreshTokens.find k with
  | none => simp [Store.beginUpdate, start, Cell.view, found] at target
  | some r =>
    have only : ∀ r ∈ soloRace.base.refreshTokens.rows, r.id = 1 := by decide
    obtain ⟨member, rfl⟩ := Table.find_eq_some.mp found
    exact only r member

/-- The rotation has marked the row. -/
def soloMarked : State where
  db := soloRace.start.db.visit .rotate (soloRace.rotateWhere soloRow) (soloRace.rotateSet soloRow) 1
  user := soloRace.start.user
  rotate := .updating soloRow
    ((soloRace.start.db.beginUpdate .rotate (soloRace.rotateWhere soloRow)).visited 1 true)
  revokeAll := .waiting
  overtaken := false

theorem run_soloMarked :
    Run soloRace.Step soloRace.start [.rotateRead, .rotateUpdate, .rotateVisit 1] soloMarked := by
  refine .cons (.rotateRead _ 1 soloRow rfl (by decide) rfl ⟨rfl, rfl⟩ (by decide))
    (.cons (.rotateUpdate _ soloRow rfl (by decide)) (.single ?_))
  exact .rotateVisit _ soloRow _ 1 rfl (by decide) (by simp [Cell.Free, start])

theorem marked_target {p : RefreshToken → Bool}
    (target : (soloMarked.db.beginUpdate .revokeAll p).targets k = true) : k = 1 := by
  have free : (soloRace.start.db 1).Free .rotate := by simp [Cell.Free, start]
  have view := Store.view_visit_other (p := soloRace.rotateWhere soloRow)
    (f := soloRace.rotateSet soloRow) free (show Txn.revokeAll ≠ .rotate by decide) k
  refine solo_target (t := .revokeAll) (p := p) ?_
  simpa only [Store.beginUpdate, soloMarked, view] using target

/-- The snapshot of the logout falls between the marking of the row and the commit
of its successor. -/
def overtakingActs : List Action :=
  [.rotateRead, .rotateUpdate, .rotateVisit 1] ++
    [.revokeAllUpdate, .rotateInsert, .rotateCommit, .revokeAllVisit 1, .revokeAllStamp,
      .revokeAllCommit]

theorem run_overtaking : ∃ s, Run soloRace.Step soloRace.start overtakingActs s ∧
    s.rotate = .committed true ∧ s.revokeAll = .committed := by
  have finished := Update.finished_visited (u := soloMarked.db.beginUpdate .revokeAll
    soloRace.revokeAllWhere) (fun k target => marked_target target) false
  refine ⟨_, run_soloMarked.append
    (.cons (.revokeAllUpdate _ rfl) (.cons (.rotateInsert _ soloRow _ rfl rfl
      (Update.finished_visited (fun k target => solo_target target) _) rfl)
        (.cons (.rotateCommit _ soloRow rfl) (.cons (.revokeAllVisit _ _ 1 rfl (by decide)
          (by decide)) (.cons (.revokeAllStamp _ _ ⟨1, .active, false, none⟩ rfl finished
            (by decide) (by decide)) (.single (.revokeAllCommit _ rfl))))))), rfl, rfl⟩

/-- The successor of the rotated token survives the logout. -/
theorem logout_all_overtaken :
    ¬ ∀ (race : LogoutRace) acts (s : State), Run race.Step race.start acts s →
      s.rotate.isCommitted = true → s.revokeAll = .committed →
      ∀ id r, (s.db id).committed = some r → r.userId = race.userId → r.revokedAt.isSome := by
  intro dead
  obtain ⟨s, run, rotated, logged⟩ := run_overtaking
  have traced := run_traced run
  have committed : s.rotate.isCommitted = true := by rw [rotated]; rfl
  have cell := traced.inv.successor
  rw [rotated] at cell
  obtain ⟨r, stored, live, owner⟩ :=
    cell ((traced.overtaken committed (by rw [logged]; trivial)).mpr (by decide))
  have revoked := dead soloRace _ s run committed logged _ r (by rw [stored]) owner
  simp [live] at revoked

/-- The rotation has committed. -/
def soloRotated : State where
  db := (soloMarked.db.insert .rotate 2 (soloRace.successor soloRow)).commit .rotate
  user := soloMarked.user
  rotate := .committed true
  revokeAll := .waiting
  overtaken := false

theorem run_soloRotated : Run soloRace.Step soloRace.start
    ([.rotateRead, .rotateUpdate, .rotateVisit 1] ++ [.rotateInsert, .rotateCommit])
      soloRotated := by
  refine run_soloMarked.append (.cons (.rotateInsert _ soloRow _ rfl rfl ?_ rfl)
    (.single (.rotateCommit _ soloRow rfl)))
  exact Update.finished_visited (fun k target => solo_target target) _

theorem rotated_target (target : (soloRotated.db.beginUpdate .revokeAll
    soloRace.revokeAllWhere).targets k = true) : k = 2 := by
  by_contra other
  by_cases marked : k = 1
  · subst marked
    revert target
    decide
  · refine marked (solo_target (t := .revokeAll) (p := soloRace.revokeAllWhere) ?_)
    have kept : soloRotated.db k = soloRace.start.db k := by
      simp only [soloRotated, Store.commit, Store.insert, Function.update_of_ne other, soloMarked,
        Store.visit_other marked]
      rfl
    simpa only [Store.beginUpdate, kept] using target

theorem logout_all_iff_late : ∃ acts s, Run soloRace.Step soloRace.start acts s ∧
    s.rotate.isCommitted = true ∧
      ∀ id r, (s.db id).committed = some r → r.userId = soloRace.userId → r.revokedAt.isSome := by
  have finished := Update.finished_visited (u := soloRotated.db.beginUpdate .revokeAll
    soloRace.revokeAllWhere) (fun k target => rotated_target target) true
  have run := run_soloRotated.append (.cons (.revokeAllUpdate _ rfl)
    (.cons (.revokeAllVisit _ _ 2 rfl (by decide) (by decide))
      (.cons (.revokeAllStamp _ _ ⟨1, .active, false, none⟩ rfl finished (by decide) (by decide))
        (.single (.revokeAllCommit _ rfl)))))
  exact ⟨_, _, run, rfl, (logout_all_iff soloRace run rfl rfl).mpr (Or.inr (by decide))⟩

end CircleBackend.Session
