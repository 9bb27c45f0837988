import CircleBackend.Session.Invariant

/-!
# Removing a device

`revokeDeviceSessions` works row by row: it advances the DEVICE scope, which the
verifier consults only for rows that carry the key, and revokes the live rows
that carry it. A family may have started without a key and been bound by a later
rotation; the rows from before the binding are out of its reach
(`removed_device_iff`).
-/

namespace CircleBackend.Session

open Library

/-- Some session of the family was bound to the device. -/
def Db.bindsFamily (db : Db) (u : UserId) (k : DeviceKey) (f : FamilyId) : Prop :=
  ∃ s ∈ db.refreshTokens.rows, s.userId = u ∧ s.familyId = f ∧ s.deviceKey = some k

/-- The removal of the device reaches the row: it carries the key, and it is live
or the key names a scope. -/
def RefreshToken.boundTo (r : RefreshToken) (k : DeviceKey) : Prop :=
  r.deviceKey = some k ∧ (k ≠ [] ∨ r.revokedAt = none)

section
variable {db : Db} {c : Call} {u : UserId} {k : DeviceKey} {r : RefreshToken}
variable {token : VerifiableToken}

theorem after_removal {v : User} (hv : db.users.find u = some v)
    (call : c.op = .revokeDeviceSessions u k) :
    db.after c = (db.advanceScopeGeneration c.now u (.device k) none).revokeWhere c.now
      .sessionRevoked (fun r => r.userId = u && r.deviceKey = some k) := by
  simp only [Db.after, Call.effect, call, Db.revokeDeviceSessions, hv, Option.isNone_some,
    Bool.false_eq_true, ↓reduceIte]

theorem device_mem_scopes : .device k ∈ r.scopes ↔ r.deviceKey = some k ∧ k ≠ [] := by
  rw [← scopeMatches_iff]
  simp only [scopeMatches, decide_eq_true_eq, Option.filter_eq_some_iff]

theorem removal_committed {v : User} (hv : db.users.find u = some v)
    (call : c.op = .revokeDeviceSessions u k) : Committed c db (db.after c) := by
  rw [after_removal hv call]
  exact .closed u (.device k) _ _ (Or.inl ⟨k, rfl⟩) (by decide)

/-- The removal refuses the rows it reaches. -/
theorem removal_reaches (hi : Inv db) {v : User} (hv : db.users.find u = some v)
    (call : c.op = .revokeDeviceSessions u k) (hr : r ∈ db.refreshTokens.rows)
    (owner : r.userId = u) (bound : r.boundTo k) (hsid : token.sid = some r.id) :
    (db.after c).verdict token = .revoked := by
  obtain ⟨key, named⟩ := bound
  obtain ⟨s, hs, evolved⟩ := committed_row (removal_committed hv call) hr
  refine verdict_refused hs (evolved.id_eq.symm ▸ hsid) ?_
  rw [after_removal hv call] at hs ⊢
  by_cases live : r.revokedAt = none
  · left
    rw [Db.selected_revokeWhere hr (by simp [owner, key]) live hs evolved.id_eq]
    exact Or.inr ⟨rfl, by simp [RefreshToken.revoke]⟩
  · have scope : .device k ∈ r.scopes := device_mem_scopes.mpr ⟨key, named.resolve_right live⟩
    have behind := hi.snapshots r hr _ scope
    refine Or.inr ⟨.device k, evolved.scopes ▸ scope, ?_⟩
    unfold Db.stale
    rw [Db.revokeWhere_scopes, evolved.userId, owner, Db.find_advance, if_pos rfl]
    refine ⟨_, rfl, ?_, fun exempt => by cases exempt⟩
    rw [evolved.snapshot]
    rw [owner] at behind
    simp only
    omega

/-- The other rows, and what refuses them, are left as they were. -/
theorem removal_misses {v : User} (hv : db.users.find u = some v)
    (call : c.op = .revokeDeviceSessions u k) (hr : r ∈ db.refreshTokens.rows)
    (unbound : ¬ r.boundTo k) :
    r ∈ (db.after c).refreshTokens.rows ∧ ((db.after c).refuses r token ↔ db.refuses r token) := by
  rw [after_removal hv call]
  constructor
  · refine Db.mem_revokeWhere.mpr ⟨r, hr, (if_neg ?_).symm⟩
    intro chosen
    simp only [Bool.and_eq_true, decide_eq_true_eq, Option.isNone_iff_eq_none] at chosen
    exact unbound ⟨chosen.1.2, Or.inr chosen.2⟩
  · have same : ∀ k' ∈ r.scopes, ((db.advanceScopeGeneration c.now u (.device k) none).revokeWhere
        c.now .sessionRevoked (fun r => r.userId = u && r.deviceKey = some k)).scopeGenerations.find
          (r.userId, k') = db.scopeGenerations.find (r.userId, k') := by
      intro k' hk'
      rw [Db.revokeWhere_scopes, Db.find_advance, if_neg]
      intro same
      obtain ⟨-, rfl⟩ := Prod.mk.inj same
      obtain ⟨key, named⟩ := device_mem_scopes.mp hk'
      exact unbound ⟨key, Or.inl named⟩
    simp only [Db.refuses, Db.stale, Db.revokeWhere_users, Db.advance_users]
    refine or_congr Iff.rfl (or_congr Iff.rfl (exists_congr fun k' => and_congr_right fun hk' => ?_))
    rw [same k' hk']

end

/-- After a device is removed, a token of a family bound to it is refused exactly
when the token's own row carries the key, or it was refused before. -/
theorem removed_device_iff {db : Db} (h : Reachable db) {c : Call} {u : UserId} {k : DeviceKey}
    (call : c.op = .revokeDeviceSessions u k) {r : RefreshToken}
    (hr : r ∈ db.refreshTokens.rows) (family : db.bindsFamily u k r.familyId)
    {token : VerifiableToken} (hsub : token.sub = some r.userId) (hsid : token.sid = some r.id) :
    (db.after c).verdict token = .revoked ↔ r.boundTo k ∨ db.refuses r token := by
  have hi := reachable_inv h
  have owner : r.userId = u := by
    obtain ⟨s, hs, owner, same, -⟩ := family
    exact (hi.owner r hr s hs same.symm).1.trans owner
  cases hv : db.users.find u with
  | none =>
    have unchanged : db.after c = db := by
      simp only [Db.after, Call.effect, call, Db.revokeDeviceSessions, hv, Option.isNone_none,
        ↓reduceIte, Db.rollback]
    have refused : db.refuses r token := Or.inl fun v hv' => by simp [owner, hv] at hv'
    rw [unchanged, verdict_refuses hr hsub hsid]
    exact ⟨Or.inr, fun _ => refused⟩
  | some v =>
    by_cases bound : r.boundTo k
    · exact ⟨fun _ => Or.inl bound, fun _ => removal_reaches hi hv call hr owner bound hsid⟩
    · obtain ⟨kept, same⟩ := removal_misses hv call hr bound
      rw [verdict_refuses kept hsub hsid, same]
      exact ⟨Or.inr, fun refused => refused.resolve_left bound⟩

/-- A login without a device key, bound to a device by its first rotation. -/
def lateBoundScript : List Call :=
  [scripted 1 (.createSessionForCurrentSingleDeviceSetting 1 .empty .app),
   scripted 2 (.rotate 1 { SessionContext.empty with deviceKey := some [65] } .app)]

theorem removed_device_iff_bound :
    (((Db.ofUsers oneUser).play lateBoundScript).after
      (scripted 3 (.revokeDeviceSessions 1 [65]))).verdict ⟨some 1, some 2, none, some 2⟩ =
        .revoked := by
  obtain ⟨r, hr, family, owner, id, key⟩ : ∃ r ∈
      ((Db.ofUsers oneUser).play lateBoundScript).refreshTokens.rows,
        r.familyId = 1 ∧ r.userId = 1 ∧ r.id = 2 ∧ r.deviceKey = some [65] := by decide
  exact (removed_device_iff (reachable_play (by decide)) rfl hr ⟨r, hr, owner, rfl, key⟩
    (by rw [owner]) (by rw [id])).mpr (Or.inl ⟨key, Or.inl (by decide)⟩)

/-- The row from before the binding keeps the device's access tokens alive. -/
theorem removed_device_keeps_ancestor :
    ¬ ∀ (db : Db) (c : Call) u k r token, Reachable db → c.op = .revokeDeviceSessions u k →
      r ∈ db.refreshTokens.rows → db.bindsFamily u k r.familyId → token.sub = some r.userId →
      token.sid = some r.id → (db.after c).verdict token = .revoked := by
  intro rejects
  obtain ⟨r, hr, family, owner, id⟩ : ∃ r ∈
      ((Db.ofUsers oneUser).play lateBoundScript).refreshTokens.rows,
        r.familyId = 1 ∧ r.userId = 1 ∧ r.id = 1 := by decide
  have binds : ((Db.ofUsers oneUser).play lateBoundScript).bindsFamily 1 [65] r.familyId := by
    rw [family]
    unfold Db.bindsFamily
    decide
  have rejected := rejects _ (scripted 3 (.revokeDeviceSessions 1 [65])) 1 [65] r
    ⟨some 1, some 1, none, some 1⟩ (reachable_play (by decide)) rfl hr binds
    (by rw [owner]) (by rw [id])
  revert rejected
  decide

end CircleBackend.Session
