import CircleBackend.Session.Invariant

/-!
# Refresh-token families

A replayed token advances the scope of its family and revokes its live row, and
no later call brings the family back (`Dead`). Only a token presented for its
own audience, and inside a caller's transaction by its own owner, counts as
replayed: `rotateLocked` turns the others away before it looks at the row's state.
-/

namespace CircleBackend.Session

open Library

/-- The refresh token a call presents. -/
def Op.presented : Op → Option TokenHash
  | .rotate token _ _ => some token
  | .rotateInTransaction token _ _ _ => some token
  | _ => none

/-- The call presents a token on behalf of the session it was issued for. -/
def Op.matching (op : Op) (record : RefreshToken) : Prop :=
  match op with
  | .rotate _ _ audience => audience = record.audience
  | .rotateInTransaction _ owner _ audience => audience = record.audience ∧ owner = record.userId
  | _ => False

/-- The token is unexpired and has been exchanged before. -/
def RefreshToken.spent (record : RefreshToken) (now : Time) : Prop :=
  now < record.expiredAt ∧ record.revokedAt.isSome ∧
    (record.revocationReason = some .rotated ∨ record.revocationReason = none)

/-- The call replays the token of `record`. -/
def Call.replays (c : Call) (db : Db) (record : RefreshToken) : Prop :=
  (∃ t ∈ c.op.presented, db.findToken t = some record) ∧ c.op.matching record ∧
    record.spent c.now

/-- The family has no live row, and its scope is ahead of all its rows. -/
structure Dead (db : Db) (u : UserId) (f : FamilyId) : Prop where
  known : ∃ r ∈ db.refreshTokens.rows, r.familyId = f
  revoked : ∀ r ∈ db.refreshTokens.rows, r.familyId = f → r.revokedAt.isSome ∧ r.userId = u
  behind : ∀ r ∈ db.refreshTokens.rows, r.familyId = f →
    r.familyGeneration < db.generation u (.family f)

/-- What the death of a family means for its tokens. -/
structure Killed (db : Db) (u : UserId) (f : FamilyId) : Prop where
  unrotatable : ∀ (c : Call) (t : TokenHash) (r : RefreshToken), c.op.presented = some t →
    db.findToken t = some r → r.familyId = f → ∃ e, (c.effect db).result = .error e
  rejected : ∀ r ∈ db.refreshTokens.rows, r.familyId = f → ∀ token : VerifiableToken,
    token.sid = some r.id → db.verdict token = .revoked
  unexempted : db.exemptFamily u (.family f) = none

/-- The other families keep their rows and the scopes of their families. -/
structure Unaffected (db db' : Db) (f : FamilyId) : Prop where
  rows : ∀ r, r.familyId ≠ f → (r ∈ db'.refreshTokens.rows ↔ r ∈ db.refreshTokens.rows)
  generations : ∀ u f', f' ≠ f → db'.scopeGenerations.find (u, .family f') =
    db.scopeGenerations.find (u, .family f')

section
variable {db db' : Db} {c : Call} {u : UserId} {f : FamilyId}

/-- A revoked token is never exchanged, whoever presents it. -/
theorem settle_revoked {ttl : Ttl} {now : Time} {minted : Minted} {t : TokenHash} {owner : UserId}
    {context : SessionContext} {audience : Audience} {r : RefreshToken}
    (found : db.findToken t = some r) (revoked : r.revokedAt.isSome) :
    ∃ e, (db.settleRotation (db.rotateLocked ttl now minted t owner context audience)).result =
      .error e := by
  simp only [Db.rotateLocked, found, revoked, ↓reduceIte]
  split
  · exact ⟨_, rfl⟩
  · split
    · exact ⟨_, rfl⟩
    · split <;> exact ⟨_, rfl⟩

theorem presented_revoked {t : TokenHash} {r : RefreshToken} (presented : c.op.presented = some t)
    (found : db.findToken t = some r) (revoked : r.revokedAt.isSome) :
    ∃ e, (c.effect db).result = .error e := by
  unfold Op.presented at presented
  split at presented
  · rename_i token context audience op
    cases presented
    simp only [Call.effect, op, Db.Effect.outcome, Db.rotate, found]
    split
    · exact ⟨_, rfl⟩
    · obtain ⟨e, he⟩ := settle_revoked found revoked
      exact ⟨e, by rw [he]; rfl⟩
  · rename_i token owner context audience op
    cases presented
    simp only [Call.effect, op, Db.Effect.outcome, Db.rotateInTransaction]
    obtain ⟨e, he⟩ := settle_revoked found revoked
    exact ⟨e, by rw [he]; rfl⟩
  · cases presented

theorem Dead.killed (dead : Dead db u f) (hi : Inv db) : Killed db u f := by
  have exempt : db.exemptFamily u (.family f) = none := hi.exempt u _ (Or.inr ⟨f, rfl⟩)
  refine ⟨?_, ?_, exempt⟩
  · intro c t r presented found family
    have member : r ∈ db.refreshTokens.rows := List.mem_of_find?_eq_some found
    exact presented_revoked presented found (dead.revoked r member family).1
  · intro r hr family token hsid
    refine verdict_refused hr hsid (Or.inr ⟨.family f, mem_scopes.mpr (by simp [family]), ?_⟩)
    have behind := dead.behind r hr family
    unfold Db.stale
    rw [(dead.revoked r hr family).2]
    unfold Db.generation at behind
    unfold Db.exemptFamily at exempt
    cases found : db.scopeGenerations.find (u, .family f) with
    | none =>
      simp only [found, Option.elim_none] at behind
      omega
    | some g =>
      simp only [found, Option.elim_some] at behind exempt
      refine ⟨g, rfl, ?_, ?_⟩
      · simp only [RefreshToken.snapshot]
        omega
      · simp [exempt]

/-- No call revives a family: a new row joins a fresh family or one that has a
live row. -/
theorem dead_step (h : Committed c db db') (fresh : c.Fresh db) (dead : Dead db u f) :
    Dead db' u f := by
  have origin : ∀ s ∈ db'.refreshTokens.rows, s.familyId = f → s ∈ db.refreshTokens.rows := by
    intro s hs family
    obtain ⟨r, hr, evolved⟩ | ⟨-, minted | ⟨r, hr, live, same⟩⟩ := committed_origin h hs
    · rw [evolved.familyId] at family
      rw [evolved.settled (dead.revoked r hr family).1]
      exact hr
    · obtain ⟨r, hr, known⟩ := dead.known
      exact absurd (known.trans (family.symm.trans minted)) (fresh r hr)
    · have revoked := (dead.revoked r hr (same.symm.trans family)).1
      simp [live] at revoked
  refine ⟨?_, ?_, ?_⟩
  · obtain ⟨r, hr, known⟩ := dead.known
    obtain ⟨s, hs, evolved⟩ := committed_row h hr
    exact ⟨s, hs, evolved.familyId.trans known⟩
  · intro s hs family
    exact dead.revoked s (origin s hs family) family
  · intro s hs family
    exact Nat.lt_of_lt_of_le (dead.behind s (origin s hs family) family)
      (generation_mono h u (.family f))

/-- The transaction of a replay. -/
theorem after_replay {record : RefreshToken} (replay : c.replays db record) :
    db.after c = (db.advanceScopeGeneration c.now record.userId (.family record.familyId)
      none).revokeWhere c.now .tokenFamilyReuse
        (fun r => r.userId = record.userId && r.familyId = record.familyId) := by
  obtain ⟨⟨t, presented, found⟩, matching, unexpired, revoked, reason⟩ := replay
  have locked (context : SessionContext) :
      db.rotateLocked c.ttl c.now c.minted t record.userId context record.audience =
        .ok (.reuse record.userId record.familyId ((db.advanceScopeGeneration c.now record.userId
          (.family record.familyId) none).generation record.userId (.family record.familyId)),
          (db.advanceScopeGeneration c.now record.userId (.family record.familyId)
            none).revokeWhere c.now .tokenFamilyReuse
              (fun r => r.userId = record.userId && r.familyId = record.familyId)) := by
    have known : ¬ (record.revocationReason ≠ some .rotated ∧ record.revocationReason ≠ none) := by
      rintro ⟨other, given⟩
      obtain rotated | absent := reason
      · exact other rotated
      · exact given absent
    simp only [Db.rotateLocked, found, ne_eq, not_true_eq_false, or_self, ↓reduceIte,
      Nat.not_le.mpr unexpired, revoked]
    rw [if_neg known]
  unfold Op.presented at presented
  split at presented
  · rename_i token context audience op
    cases presented
    simp only [Op.matching, op] at matching
    subst matching
    simp only [Db.after, Call.effect, op, Db.Effect.outcome, Db.rotate, found, ne_eq,
      not_true_eq_false, ↓reduceIte, locked, Db.settleRotation]
  · rename_i token owner context audience op
    cases presented
    simp only [Op.matching, op] at matching
    obtain ⟨rfl, rfl⟩ := matching
    simp only [Db.after, Call.effect, op, Db.Effect.outcome, Db.rotateInTransaction, locked,
      Db.settleRotation]
  · cases presented

theorem replay_dead {record : RefreshToken} (hi : Inv db) (replay : c.replays db record) :
    Dead (db.after c) record.userId record.familyId := by
  rw [after_replay replay]
  obtain ⟨⟨t, -, found⟩, -⟩ := replay
  have member : record ∈ db.refreshTokens.rows := List.mem_of_find?_eq_some found
  refine ⟨?_, ?_, ?_⟩
  · obtain ⟨s, hs, evolved⟩ := revoked_row (db.advanceScopeGeneration c.now record.userId
      (.family record.familyId) none) member
    exact ⟨s, hs, evolved.familyId⟩
  · intro s hs family
    obtain ⟨r, hr, evolved⟩ := Db.evolved_revokeWhere hs
    have owner : s.userId = record.userId := evolved.userId.trans
      (hi.owner r hr record member (evolved.familyId.symm.trans family)).1
    refine ⟨?_, owner⟩
    by_contra alive
    have spared := (Db.live_revokeWhere hs (by simpa using alive)).2
    simp [owner, family] at spared
  · intro s hs family
    obtain ⟨r, hr, evolved⟩ := Db.evolved_revokeWhere hs
    have sameFamily : r.familyId = record.familyId := evolved.familyId.symm.trans family
    have owner := (hi.owner r hr record member sameFamily).1
    have behind := hi.snapshots r hr (.family record.familyId) (mem_scopes.mpr (by simp [sameFamily]))
    have snapshot : s.familyGeneration = r.familyGeneration := evolved.snapshot (.family 0)
    rw [Db.generation_revokeWhere, Db.generation_advance, if_pos rfl, snapshot]
    rw [owner] at behind
    simp only [RefreshToken.snapshot] at behind
    omega

theorem replay_unaffected {record : RefreshToken} (replay : c.replays db record) :
    Unaffected db (db.after c) record.familyId := by
  rw [after_replay replay]
  refine ⟨?_, ?_⟩
  · intro r other
    rw [Db.mem_revokeWhere]
    constructor
    · rintro ⟨r₀, hr₀, rfl⟩
      have same := (Db.evolves_revoke r₀ c.now .tokenFamilyReuse
        (decide (r₀.userId = record.userId) && decide (r₀.familyId = record.familyId))).familyId
      rw [same] at other
      simpa [other] using hr₀
    · intro hr
      exact ⟨r, hr, by simp [other]⟩
  · intro v f' other
    rw [Db.revokeWhere_scopes, Db.find_advance, if_neg]
    intro same
    cases same
    exact other rfl

end

/-- Families are linear, no snapshot is ahead of its scope, and a replayed token
kills its family for good without touching the others. -/
theorem replay_kills_family {db : Db} (h : Reachable db) :
    (∀ r ∈ db.refreshTokens.rows, ∀ s ∈ db.refreshTokens.rows,
      r.revokedAt = none → s.revokedAt = none → r.familyId = s.familyId → r = s) ∧
    (∀ r ∈ db.refreshTokens.rows, (∀ k ∈ r.scopes, r.snapshot k ≤ db.generation r.userId k) ∧
      (deviceScope r.deviceKey = none → r.deviceGeneration = 0)) ∧
    ∀ (c : Call) record, c.Fresh db → c.replays db record →
      Unaffected db (db.after c) record.familyId ∧
      ∀ db' cs, Run Step (db.after c) cs db' → Killed db' record.userId record.familyId := by
  have hi := reachable_inv h
  refine ⟨hi.live, fun r hr => ⟨hi.snapshots r hr, hi.unbound r hr⟩, ?_⟩
  intro c record fresh replay
  refine ⟨replay_unaffected replay, ?_⟩
  intro db' cs run
  have both : Inv db' ∧ Dead db' record.userId record.familyId := by
    refine run.preserves (P := fun db => Inv db ∧ Dead db record.userId record.familyId) ?_
      ⟨step_inv ⟨fresh, rfl⟩ hi, replay_dead hi replay⟩
    intro s c t step kept
    exact ⟨step_inv step kept.1, dead_step (step_committed step) step.1 kept.2⟩
  exact both.2.killed both.1

/-- One login, rotated once; its first token is then replayed. -/
def rotatedScript : List Call :=
  [scripted 1 (.createSessionForCurrentSingleDeviceSetting 1 .empty .app),
   scripted 2 (.rotate 1 .empty .app)]

/-- What the bearers of the family's tokens do next. -/
def survivingScript : List Call :=
  [scripted 4 (.rotate 2 .empty .app),
   scripted 5 (.createSessionForCurrentSingleDeviceSetting 1 .empty .app)]

theorem replay_kills_family_rotated :
    Killed ((((Db.ofUsers oneUser).play rotatedScript).after
      (scripted 3 (.rotate 1 .empty .app))).play survivingScript) 1 1 := by
  obtain ⟨record, found, matching, spent, owner, family⟩ : ∃ record ∈
      ((Db.ofUsers oneUser).play rotatedScript).findToken 1, .app = record.audience ∧
        record.spent 3 ∧ record.userId = 1 ∧ record.familyId = 1 := by
    simp only [RefreshToken.spent]
    decide
  have reached : Reachable ((Db.ofUsers oneUser).play rotatedScript) := reachable_play (by decide)
  have killed := ((replay_kills_family reached).2.2 (scripted 3 (.rotate 1 .empty .app)) record
    (by decide) ⟨⟨1, rfl, found⟩, matching, spent⟩).2 _ survivingScript (run_play (by decide))
  rwa [owner, family] at killed

/-- Presented for the wrong audience, a spent token is refused without touching its
family. -/
theorem misdirected_replay_spares :
    ¬ ∀ (db : Db) (c : Call) t record db', Reachable db → Step db c db' →
      c.op.presented = some t → db.findToken t = some record → record.spent c.now →
      Killed db' record.userId record.familyId := by
  intro kills
  obtain ⟨record, found, spent, family⟩ : ∃ record ∈
      ((Db.ofUsers oneUser).play rotatedScript).findToken 1, record.spent 3 ∧
        record.familyId = 1 := by
    simp only [RefreshToken.spent]
    decide
  have killed := kills _ (scripted 3 (.rotate 1 .empty .admin)) 1 record _
    (reachable_play (by decide)) ⟨by decide, rfl⟩ rfl found spent
  rw [family] at killed
  obtain ⟨r, hr, successor, same⟩ : ∃ r ∈ (((Db.ofUsers oneUser).play rotatedScript).after
      (scripted 3 (.rotate 1 .empty .admin))).refreshTokens.rows, r.id = 2 ∧ r.familyId = 1 := by
    decide
  have rejected := killed.rejected r hr same ⟨some 1, some 2, none, some 2⟩ (by rw [successor])
  revert rejected
  decide

end CircleBackend.Session
