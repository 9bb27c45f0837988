import CircleBackend.Session.Verifier

/-!
# What one transaction writes

Every operation is made of four writes: a scope advance, a conditional
revocation of live rows, an inserted session and a change of the user row. Each
write has its effect on rows and scopes here, and `step_committed` says once
which writes a call can commit; invariants are proved write by write.
-/

namespace CircleBackend.Session

open Library

namespace Db

variable (db : Db) (now : Time) (u : UserId) (k : ScopeKey) (e : Option FamilyId)
variable (reason : RevocationReason) (p : RefreshToken → Bool)

@[simp] theorem advance_users : (db.advanceScopeGeneration now u k e).users = db.users := rfl

@[simp] theorem advance_refreshTokens :
    (db.advanceScopeGeneration now u k e).refreshTokens = db.refreshTokens := rfl

@[simp] theorem revokeWhere_users : (db.revokeWhere now reason p).users = db.users := rfl

@[simp] theorem revokeWhere_scopes :
    (db.revokeWhere now reason p).scopeGenerations = db.scopeGenerations := rfl

theorem find_advance (key : UserId × ScopeKey) :
    (db.advanceScopeGeneration now u k e).scopeGenerations.find key =
      if (u, k) = key then some ⟨u, k, db.generation u k + 1, e, true, now⟩
      else db.scopeGenerations.find key := by
  simp only [advanceScopeGeneration, Table.find_upsert, generation]
  split
  · rename_i hk
    subst hk
    cases h : db.scopeGenerations.find (u, k) with
    | none => rfl
    | some g =>
      have hkey : (g.userId, g.scopeKey) = (u, k) := (Table.find_eq_some.mp h).2
      obtain ⟨rfl, rfl⟩ := Prod.mk.inj hkey
      rfl
  · rfl

theorem generation_advance (u' : UserId) (k' : ScopeKey) :
    (db.advanceScopeGeneration now u k e).generation u' k' =
      if (u, k) = (u', k') then db.generation u k + 1 else db.generation u' k' := by
  rw [generation, find_advance]
  split <;> rfl

theorem generation_le_advance (u' : UserId) (k' : ScopeKey) :
    db.generation u' k' ≤ (db.advanceScopeGeneration now u k e).generation u' k' := by
  rw [generation_advance]
  split
  · rename_i h
    obtain ⟨rfl, rfl⟩ := Prod.mk.inj h
    exact Nat.le_succ _
  · exact Nat.le_refl _

@[simp] theorem generation_revokeWhere (u' : UserId) (k' : ScopeKey) :
    (db.revokeWhere now reason p).generation u' k' = db.generation u' k' := rfl

theorem find_updateUser (f : User → User) (hf : ∀ v, (f v).id = v.id) (u' : UserId) :
    (db.updateUser u f hf).users.find u' =
      (db.users.find u').map fun v => if u' = u then f v else v := by
  rw [updateUser, Table.find_updateMany]
  cases h : db.users.find u' with
  | none => rfl
  | some v => simp [Table.find_key h]

end Db

/-- What a transaction may do to a row that exists. -/
inductive Evolves (r : RefreshToken) : RefreshToken → Prop
  | kept : Evolves r r
  | revoked (now : Time) (reason : RevocationReason) (live : r.revokedAt = none) :
    Evolves r (r.revoke now reason)

namespace Evolves

variable {r s : RefreshToken}

theorem id_eq (h : Evolves r s) : s.id = r.id := by cases h <;> rfl

theorem userId (h : Evolves r s) : s.userId = r.userId := by cases h <;> rfl

theorem familyId (h : Evolves r s) : s.familyId = r.familyId := by cases h <;> rfl

theorem audience (h : Evolves r s) : s.audience = r.audience := by cases h <;> rfl

theorem deviceKey (h : Evolves r s) : s.deviceKey = r.deviceKey := by cases h <;> rfl

theorem scopes (h : Evolves r s) : s.scopes = r.scopes := by cases h <;> rfl

theorem snapshot (h : Evolves r s) (k : ScopeKey) : s.snapshot k = r.snapshot k := by
  cases h with
  | kept => rfl
  | revoked => cases k <;> rfl

theorem settled (h : Evolves r s) (hr : r.revokedAt.isSome) : s = r := by
  cases h with
  | kept => rfl
  | revoked _ _ live => simp [live] at hr

/-- A row that was refused stays refused. -/
theorem closed (h : Evolves r s) (hr : r.closed) : s.closed := by
  cases h with
  | kept => exact hr
  | revoked _ _ live =>
    obtain access | ⟨revoked, -⟩ := hr
    · exact Or.inl access
    · simp [live] at revoked

end Evolves

namespace Db

variable {db : Db} {now : Time} {p : RefreshToken → Bool} {reason : RevocationReason}
variable {s : RefreshToken}

theorem mem_revokeWhere :
    s ∈ (db.revokeWhere now reason p).refreshTokens.rows ↔
      ∃ r ∈ db.refreshTokens.rows,
        s = if (p r && r.revokedAt.isNone) = true then r.revoke now reason else r :=
  Table.mem_updateMany db.refreshTokens _ (fun r => r.revoke now reason) (fun _ => rfl)

theorem evolves_revoke (r : RefreshToken) (now : Time) (reason : RevocationReason) (b : Bool) :
    Evolves r (if (b && r.revokedAt.isNone) = true then r.revoke now reason else r) := by
  split
  · rename_i chosen
    exact .revoked now reason (by simpa using (Bool.and_eq_true_iff.mp chosen).2)
  · exact .kept

theorem evolved_revokeWhere (hs : s ∈ (db.revokeWhere now reason p).refreshTokens.rows) :
    ∃ r ∈ db.refreshTokens.rows, Evolves r s := by
  obtain ⟨r, hr, rfl⟩ := mem_revokeWhere.mp hs
  exact ⟨r, hr, evolves_revoke ..⟩

/-- A row of the updated table is live only if it was live and not selected. -/
theorem live_revokeWhere (hs : s ∈ (db.revokeWhere now reason p).refreshTokens.rows)
    (live : s.revokedAt = none) : s ∈ db.refreshTokens.rows ∧ p s = false := by
  obtain ⟨r, hr, rfl⟩ := mem_revokeWhere.mp hs
  split at live
  · cases live
  · rename_i kept
    rw [if_neg kept]
    exact ⟨hr, by simpa [live] using kept⟩

/-- A live row that is selected is revoked. -/
theorem selected_revokeWhere {r : RefreshToken} (hr : r ∈ db.refreshTokens.rows)
    (chosen : p r = true) (live : r.revokedAt = none)
    (hs : s ∈ (db.revokeWhere now reason p).refreshTokens.rows) (same : s.id = r.id) :
    s = r.revoke now reason := by
  have image : r.revoke now reason ∈ (db.revokeWhere now reason p).refreshTokens.rows :=
    mem_revokeWhere.mpr ⟨r, hr, by simp [chosen, live]⟩
  exact Table.row_unique _ hs image same

/-- What an inserted session leaves behind. -/
theorem addSession_ok {db' : Db} {row : RefreshToken} (h : db.addSession row = .ok db') :
    db'.users = db.users ∧ db'.scopeGenerations = db.scopeGenerations ∧
      db.refreshTokens.insert row = some db'.refreshTokens ∧ (db.findToken row.token) = none := by
  unfold addSession at h
  split at h
  · cases h
  · split at h
    · cases h
    · rename_i unused
      split at h
      · cases h
      · rename_i table inserted
        cases h
        exact ⟨rfl, rfl, inserted, by simpa using unused⟩

theorem createWithClient_ok {db' : Db} {ttl : Ttl} {minted : Minted} {u : UserId}
    {context : SessionContext} {audience : Audience} {f : FamilyId} {session : CreatedSession}
    (h : db.createWithClient ttl now minted u context audience f = .ok (session, db')) :
    db.addSession (db.newSession ttl now minted u context audience f) = .ok db' := by
  unfold createWithClient at h
  cases added : db.addSession (db.newSession ttl now minted u context audience f) with
  | error e => simp [added, bind, Except.bind] at h
  | ok created =>
    simp only [added, bind, Except.bind, pure, Except.pure, Except.ok.injEq, Prod.mk.injEq] at h
    rw [h.2]

end Db

/-- The calls that leave only the family of their own session logged in. -/
def Call.narrows (c : Call) (u : UserId) (sid : Option SessionId) : Prop :=
  c.op = .setSingleDeviceLogin u true sid ∨ c.op = .revokeOtherSessions u sid

/-- The writes a call can commit. The device and family scopes are advanced
without an exemption; a revocation other than by rotation names another reason. -/
inductive Committed (c : Call) (db : Db) : Db → Prop
  | idle : Committed c db db
  | flagged (u : UserId) (enabled : Bool) : Committed c db
      (db.updateUser u (fun v => { v with singleDeviceLoginEnabled := enabled }) (fun _ => rfl))
  | created (u : UserId) (context : SessionContext) (audience : Audience) (db' : Db)
      (added : db.addSession
        (db.newSession c.ttl c.now c.minted u context audience c.minted.familyId) = .ok db') :
      Committed c db db'
  | replaced (u : UserId) (context : SessionContext) (audience : Audience) (base db' : Db)
      (writes : base =
        (db.advanceScopeGeneration c.now u (.audience audience) (some c.minted.familyId)).revokeWhere
          c.now .singleDeviceReplaced (fun r => r.userId = u && r.audience = audience))
      (added : base.addSession
        (base.newSession c.ttl c.now c.minted u context audience c.minted.familyId) = .ok db') :
      Committed c db db'
  | narrowed (u : UserId) (sid : Option SessionId) (base : Db) (call : c.narrows u sid)
      (writes : base = db ∨ base = db.updateUser u
        (fun v => { v with singleDeviceLoginEnabled := true }) (fun _ => rfl)) :
      Committed c db
        ((base.advanceScopeGeneration c.now u .account
          ((sid.bind (db.findSession u)).map (·.familyId))).revokeWhere c.now .otherSessionsRevoked
          (fun r => r.userId = u && !Db.preserved (sid.bind (db.findSession u)) sid r))
  | closed (u : UserId) (k : ScopeKey) (reason : RevocationReason) (p : RefreshToken → Bool)
      (scope : (∃ d, k = .device d) ∨ ∃ f, k = .family f) (other : reason ≠ .rotated) :
      Committed c db ((db.advanceScopeGeneration c.now u k none).revokeWhere c.now reason p)
  | rotated (record : RefreshToken) (context : SessionContext) (base db' : Db)
      (found : record ∈ db.refreshTokens.rows) (live : record.revokedAt = none)
      (presented : RefreshToken → Bool) (single : ∀ r ∈ db.refreshTokens.rows,
        (presented r && r.revokedAt.isNone) = true → r = record)
      (chosen : presented record = true)
      (writes : base = db.revokeWhere c.now .rotated presented)
      (added : base.addSession (base.newSession c.ttl c.now c.minted record.userId context
        record.audience record.familyId) = .ok db')
      (bound : ∀ key, record.deviceKey = some key → context.deviceKey = some key) :
      Committed c db db'
  | stamped (u : UserId) (call : c.op = .revokeAll u) : Committed c db
      ((db.revokeWhere c.now .logoutAll (fun r => r.userId = u)).updateUser u
        (fun v => { v with accessTokensRevokedAt := some c.now }) (fun _ => rfl))

section
variable {c : Call} {db : Db}

variable {audience : Audience} {context : SessionContext}

variable {db' : Db} {u : UserId}

theorem committed_replace {session : CreatedSession} {revocation : ScopeRevocation}
    (h : db.replaceForSingleDeviceWithClient c.ttl c.now c.minted u context audience =
      .ok (session, revocation, db')) : Committed c db db' := by
  unfold Db.replaceForSingleDeviceWithClient at h
  dsimp only at h
  generalize writes : (db.advanceScopeGeneration c.now u (.audience audience)
    (some c.minted.familyId)).revokeWhere c.now .singleDeviceReplaced
      (fun r => r.userId = u && r.audience = audience) = base at h
  cases made : base.createWithClient c.ttl c.now c.minted u context audience c.minted.familyId with
  | error e => simp [made, bind, Except.bind] at h
  | ok result =>
    obtain ⟨s, created⟩ := result
    simp only [made, bind, Except.bind, pure, Except.pure, Except.ok.injEq, Prod.mk.injEq] at h
    rw [← h.2.2]
    exact .replaced u context audience base created writes.symm (Db.createWithClient_ok made)

theorem committed_rotateLocked {token : TokenHash} {owner : UserId} {outcome : RotationOutcome}
    (h : db.rotateLocked c.ttl c.now c.minted token owner context audience = .ok (outcome, db')) :
    Committed c db db' := by
  unfold Db.rotateLocked at h
  cases found : db.findToken token with
  | none => simp [found] at h
  | some record =>
    have member : record ∈ db.refreshTokens.rows := List.mem_of_find?_eq_some found
    have hash : record.token = token := by simpa using List.find?_some found
    simp only [found] at h
    split at h
    · cases h
    · rename_i own
      split at h
      · cases h
      · rename_i unexpired
        split at h
        · split at h
          · cases h
          · cases h
            exact .closed _ _ _ _ (Or.inr ⟨_, rfl⟩) (by decide)
        · rename_i live
          have live : record.revokedAt = none := by simpa using live
          split at h
          · cases h
          · rename_i single
            have own : record.audience = audience ∧ record.userId = owner := by
              simpa only [not_or, ne_eq, not_not] using own
            have chosen : (decide (record.token = token) && decide (c.now < record.expiredAt) &&
                decide (record.audience = audience)) = true := by
              simp [hash, own.1, Nat.lt_of_not_le unexpired]
            split at h
            · cases h
            · rename_i session created made
              cases h
              refine .rotated record _ _ db' member live _ (fun r hr hp => ?_) chosen rfl
                (Db.createWithClient_ok made) (fun key hk => by simp [hk])
              exact Table.unique_match (by simpa using single) hr hp member (by simp [chosen, live])

theorem committed_settle {token : TokenHash} {owner : UserId} : Committed c db
      (db.settleRotation
        (db.rotateLocked c.ttl c.now c.minted token owner context audience)).db := by
  cases h : db.rotateLocked c.ttl c.now c.minted token owner context audience with
  | error e => exact .idle
  | ok result =>
    obtain ⟨outcome, db'⟩ := result
    cases outcome <;> exact committed_rotateLocked h

theorem committed_create :
    Committed c db (db.createSessionForCurrentSingleDeviceSetting c.ttl c.now c.minted u context
      audience).db := by
  unfold Db.createSessionForCurrentSingleDeviceSetting
  split
  · exact .idle
  · split
    · split
      · exact .idle
      · exact committed_replace (by assumption)
    · split
      · exact .idle
      · rename_i made
        exact .created _ _ _ _ (Db.createWithClient_ok made)

theorem committed_setSingleDeviceLogin {enabled : Bool} {sid : Option SessionId}
    (call : c.op = .setSingleDeviceLogin u enabled sid) :
    Committed c db (db.setSingleDeviceLogin c.now u enabled sid).db := by
  unfold Db.setSingleDeviceLogin
  split
  · exact .idle
  · cases enabled with
    | false => exact .flagged u false
    | true => exact .narrowed u sid _ (Or.inl call) (Or.inr rfl)

/-- A call commits one of these writes, whatever it returns. -/
theorem step_committed (h : Step db c db') : Committed c db db' := by
  obtain ⟨_, rfl⟩ := h
  unfold Db.after Call.effect
  split <;> rename_i call
  · exact committed_create
  · dsimp only [Db.Effect.outcome, Db.replaceForSingleDevice]
    split
    · exact .idle
    · exact committed_replace (by assumption)
  · exact committed_setSingleDeviceLogin call
  · dsimp only [Db.Effect.outcome, Db.rotate]
    split
    · exact .idle
    · split
      · exact .idle
      · exact committed_settle
  · exact committed_settle
  · rename_i reason
    dsimp only [Db.Effect.outcome, Db.revokeSessionFamily]
    split
    · exact .idle
    · exact .closed _ _ _ _ (Or.inr ⟨_, rfl⟩) (by cases reason <;> decide)
  · unfold Db.revokeDeviceSessions
    split
    · exact .idle
    · exact .closed _ _ _ _ (Or.inl ⟨_, rfl⟩) (by decide)
  · unfold Db.revokeOtherSessions
    split
    · exact .idle
    · split
      · exact .idle
      · exact .narrowed _ (some _) db (Or.inr call) (Or.inl rfl)
  · unfold Db.revokeAll
    split
    · exact .idle
    · exact .stamped _ call

end

end CircleBackend.Session
