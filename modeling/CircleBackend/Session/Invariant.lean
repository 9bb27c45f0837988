import CircleBackend.Session.Transactions

/-!
# What every transaction keeps

`Inv` is the invariant of the reachable states, proved write by write. The
second half is the frame of one call: what it can do to a row, a scope and a
user (`Evolves`, `committed_scope`, `committed_user`).
-/

namespace CircleBackend.Session

open Library

/-- A family belongs to one user and audience and has at most one live row; no
snapshot is ahead of its scope; only account and audience advances spare a
family. -/
structure Inv (db : Db) : Prop where
  live : ∀ r ∈ db.refreshTokens.rows, ∀ s ∈ db.refreshTokens.rows,
    r.revokedAt = none → s.revokedAt = none → r.familyId = s.familyId → r = s
  owner : ∀ r ∈ db.refreshTokens.rows, ∀ s ∈ db.refreshTokens.rows,
    r.familyId = s.familyId → r.userId = s.userId ∧ r.audience = s.audience
  snapshots : ∀ r ∈ db.refreshTokens.rows, ∀ k ∈ r.scopes, r.snapshot k ≤ db.generation r.userId k
  unbound : ∀ r ∈ db.refreshTokens.rows, deviceScope r.deviceKey = none → r.deviceGeneration = 0
  exempt : ∀ u k, (∃ d, k = .device d) ∨ (∃ f, k = .family f) → db.exemptFamily u k = none

variable {k : ScopeKey}

theorem mem_scopes {r : RefreshToken} :
    k ∈ r.scopes ↔ k = .account ∨ k = .audience r.audience ∨ deviceScope r.deviceKey = some k ∨
      k = .family r.familyId := by
  simp [RefreshToken.scopes]

theorem deviceScope_device {key : Option DeviceKey}
    (h : deviceScope key = some k) : ∃ d, k = .device d := by
  unfold deviceScope at h
  obtain ⟨d, _, rfl⟩ := Option.map_eq_some_iff.mp h
  exact ⟨d, rfl⟩

/-- A new session starts at the current generation of each of its scopes. -/
theorem newSession_snapshot (db : Db) (ttl : Ttl) (now : Time) (minted : Minted) (u : UserId)
    (context : SessionContext) (audience : Audience) (f : FamilyId)
    (hk : k ∈ (db.newSession ttl now minted u context audience f).scopes) :
    (db.newSession ttl now minted u context audience f).snapshot k = db.generation u k := by
  obtain rfl | rfl | hd | rfl := mem_scopes.mp hk
  · rfl
  · rfl
  · obtain ⟨d, rfl⟩ := deviceScope_device hd
    simp only [RefreshToken.snapshot, Db.newSession] at hd ⊢
    rw [hd]
    rfl
  · rfl

section
variable {db db' : Db}

theorem Inv.updateUser (hi : Inv db) (u : UserId) (f : User → User) (hf : ∀ v, (f v).id = v.id) :
    Inv (db.updateUser u f hf) :=
  ⟨hi.live, hi.owner, hi.snapshots, hi.unbound, hi.exempt⟩

theorem exemptFamily_advance (db : Db) (now : Time) (u : UserId) (k : ScopeKey)
    (e : Option FamilyId) (u' : UserId) (k' : ScopeKey) :
    (db.advanceScopeGeneration now u k e).exemptFamily u' k' =
      if (u, k) = (u', k') then e else db.exemptFamily u' k' := by
  rw [Db.exemptFamily, Db.find_advance]
  split <;> rfl

theorem Inv.advance (hi : Inv db) (now : Time) (u : UserId) (k : ScopeKey) (e : Option FamilyId)
    (he : (∃ d, k = .device d) ∨ (∃ f, k = .family f) → e = none) :
    Inv (db.advanceScopeGeneration now u k e) := by
  refine ⟨hi.live, hi.owner, ?_, hi.unbound, ?_⟩
  · intro r hr k' hk'
    exact Nat.le_trans (hi.snapshots r hr k' hk') (db.generation_le_advance now u k e r.userId k')
  · intro u' k' hk'
    rw [exemptFamily_advance]
    split
    · rename_i same
      obtain ⟨rfl, rfl⟩ := Prod.mk.inj same
      exact he hk'
    · exact hi.exempt u' k' hk'

theorem Inv.revokeWhere (hi : Inv db) (now : Time) (reason : RevocationReason)
    (p : RefreshToken → Bool) : Inv (db.revokeWhere now reason p) := by
  refine ⟨?_, ?_, ?_, ?_, hi.exempt⟩
  · intro r hr s hs lr ls hf
    exact hi.live r (Db.live_revokeWhere hr lr).1 s (Db.live_revokeWhere hs ls).1 lr ls hf
  · intro r hr s hs hf
    obtain ⟨r₀, hr₀, er⟩ := Db.evolved_revokeWhere hr
    obtain ⟨s₀, hs₀, es⟩ := Db.evolved_revokeWhere hs
    rw [er.familyId, es.familyId] at hf
    rw [er.userId, es.userId, er.audience, es.audience]
    exact hi.owner r₀ hr₀ s₀ hs₀ hf
  · intro r hr k hk
    obtain ⟨r₀, hr₀, er⟩ := Db.evolved_revokeWhere hr
    rw [er.scopes] at hk
    rw [er.snapshot, er.userId]
    exact hi.snapshots r₀ hr₀ k hk
  · intro r hr hd
    obtain ⟨r₀, hr₀, er⟩ := Db.evolved_revokeWhere hr
    rw [er.deviceKey] at hd
    exact (er.snapshot (.device [])).trans (hi.unbound r₀ hr₀ hd)

/-- A session may be added to a family without a live row whose owner and
audience it shares. -/
theorem Inv.addSession (hi : Inv db) {row : RefreshToken} (added : db.addSession row = .ok db')
    (family : ∀ r ∈ db.refreshTokens.rows, r.familyId = row.familyId →
      r.revokedAt.isSome ∧ r.userId = row.userId ∧ r.audience = row.audience)
    (snapshot : ∀ k ∈ row.scopes, row.snapshot k ≤ db.generation row.userId k)
    (unbound : deviceScope row.deviceKey = none → row.deviceGeneration = 0) : Inv db' := by
  obtain ⟨-, scopes, inserted, -⟩ := Db.addSession_ok added
  have generation (u : UserId) (k : ScopeKey) : db'.generation u k = db.generation u k := by
    simp only [Db.generation, scopes]
  refine ⟨?_, ?_, ?_, ?_, ?_⟩
  · intro r hr s hs lr ls hf
    obtain hr | rfl := (Table.mem_insert inserted).mp hr <;>
      obtain hs | rfl := (Table.mem_insert inserted).mp hs
    · exact hi.live r hr s hs lr ls hf
    · simpa [lr] using (family r hr hf).1
    · simpa [ls] using (family s hs hf.symm).1
    · rfl
  · intro r hr s hs hf
    obtain hr | rfl := (Table.mem_insert inserted).mp hr <;>
      obtain hs | rfl := (Table.mem_insert inserted).mp hs
    · exact hi.owner r hr s hs hf
    · exact (family r hr hf).2
    · obtain ⟨-, hu, ha⟩ := family s hs hf.symm
      exact ⟨hu.symm, ha.symm⟩
    · exact ⟨rfl, rfl⟩
  · intro r hr k hk
    rw [generation]
    obtain hr | rfl := (Table.mem_insert inserted).mp hr
    · exact hi.snapshots r hr k hk
    · exact snapshot k hk
  · intro r hr
    obtain hr | rfl := (Table.mem_insert inserted).mp hr
    · exact hi.unbound r hr
    · exact unbound
  · intro u k hk
    simp only [Db.exemptFamily, scopes]
    exact hi.exempt u k hk

theorem Inv.newSession (hi : Inv db) {ttl : Ttl} {now : Time} {minted : Minted} {u : UserId}
    {context : SessionContext} {audience : Audience} {f : FamilyId}
    (added : db.addSession (db.newSession ttl now minted u context audience f) = .ok db')
    (family : ∀ r ∈ db.refreshTokens.rows, r.familyId = f →
      r.revokedAt.isSome ∧ r.userId = u ∧ r.audience = audience) : Inv db' := by
  refine hi.addSession added family (fun k hk => ?_) (fun unbound => ?_)
  · exact Nat.le_of_eq (newSession_snapshot db ttl now minted u context audience f hk)
  · simp only [Db.newSession] at unbound ⊢
    rw [unbound]
    rfl

variable {c : Call} {r : RefreshToken}

theorem committed_inv (h : Committed c db db') (fresh : c.Fresh db) (hi : Inv db) : Inv db' := by
  cases h with
  | idle => exact hi
  | flagged u enabled => exact hi.updateUser ..
  | created u context audience _ added =>
    exact hi.newSession added fun r hr hf => absurd hf (fresh r hr)
  | replaced u context audience base _ writes added =>
    have advanced := hi.advance c.now u (.audience audience) (some c.minted.familyId) (by simp)
    subst writes
    refine (advanced.revokeWhere ..).newSession added fun r hr hf => ?_
    obtain ⟨r₀, hr₀, er⟩ := Db.evolved_revokeWhere hr
    exact absurd (er.familyId.symm.trans hf) (fresh r₀ hr₀)
  | narrowed u sid base call writes =>
    have start : Inv base := by
      obtain rfl | rfl := writes
      · exact hi
      · exact hi.updateUser ..
    exact (start.advance _ _ _ _ (by simp)).revokeWhere ..
  | closed u k reason p scope other => exact (hi.advance _ _ _ _ fun _ => rfl).revokeWhere ..
  | rotated record context base _ found live presented single chosen writes added bound =>
    subst writes
    refine (hi.revokeWhere ..).newSession added fun r hr hf => ?_
    constructor
    · -- A live row of the family would be the presented row, which is marked.
      by_contra alive
      have alive : r.revokedAt = none := by simpa using alive
      obtain ⟨member, spared⟩ := Db.live_revokeWhere hr alive
      rw [hi.live r member record found alive live hf, chosen] at spared
      cases spared
    · obtain ⟨r₀, hr₀, er⟩ := Db.evolved_revokeWhere hr
      rw [er.userId, er.audience]
      exact hi.owner r₀ hr₀ record found (er.familyId.symm.trans hf)
  | stamped u call => exact (hi.revokeWhere ..).updateUser ..

theorem initial_inv (h : Initial db) : Inv db := by
  have single : ∀ r ∈ db.refreshTokens.rows, ∀ s ∈ db.refreshTokens.rows,
      r.familyId = s.familyId → r = s := fun r hr s hs hf =>
    List.inj_on_of_nodup_map h.families hr hs hf
  refine ⟨fun r hr s hs _ _ hf => single r hr s hs hf, ?_, ?_, ?_, ?_⟩
  · intro r hr s hs hf
    rw [single r hr s hs hf]
    exact ⟨rfl, rfl⟩
  · intro r hr k _
    rw [h.snapshots r hr k]
    exact Nat.zero_le _
  · intro r hr _
    exact h.snapshots r hr (.device [])
  · intro u k _
    simp [Db.exemptFamily, Table.find, h.scopes]

theorem step_inv (h : Step db c db') (hi : Inv db) : Inv db' :=
  committed_inv (step_committed h) h.1 hi

theorem reachable_inv (h : Reachable db) : Inv db := by
  refine Library.Reachable.invariant ?_ ?_ h
  · exact fun _ => initial_inv
  · exact fun _ _ _ => step_inv

/-! ## The frame of one call -/

theorem added_row {row : RefreshToken} (added : db.addSession row = .ok db')
    (hr : r ∈ db.refreshTokens.rows) : r ∈ db'.refreshTokens.rows :=
  (Table.mem_insert (Db.addSession_ok added).2.2.1).mpr (Or.inl hr)

theorem revoked_row (db : Db) {now : Time} {reason : RevocationReason} {p : RefreshToken → Bool}
    (hr : r ∈ db.refreshTokens.rows) :
    ∃ s ∈ (db.revokeWhere now reason p).refreshTokens.rows, Evolves r s :=
  ⟨_, Db.mem_revokeWhere.mpr ⟨r, hr, rfl⟩, Db.evolves_revoke ..⟩

/-- No call deletes a session row or rewrites its identity. -/
theorem committed_row (h : Committed c db db')
    (hr : r ∈ db.refreshTokens.rows) : ∃ s ∈ db'.refreshTokens.rows, Evolves r s := by
  cases h with
  | idle => exact ⟨r, hr, .kept⟩
  | flagged => exact ⟨r, hr, .kept⟩
  | created u context audience _ added => exact ⟨r, added_row added hr, .kept⟩
  | replaced u context audience base _ writes added =>
    subst writes
    obtain ⟨s, hs, evolved⟩ := revoked_row (db.advanceScopeGeneration ..) hr
    exact ⟨s, added_row added hs, evolved⟩
  | narrowed u sid base call writes =>
    have hb : r ∈ base.refreshTokens.rows := by obtain rfl | rfl := writes <;> exact hr
    exact revoked_row (base.advanceScopeGeneration ..) hb
  | closed => exact revoked_row (db.advanceScopeGeneration ..) hr
  | rotated record context base _ found live presented single chosen writes added =>
    subst writes
    obtain ⟨s, hs, evolved⟩ := revoked_row db hr
    exact ⟨s, added_row added hs, evolved⟩
  | stamped => exact revoked_row db hr

/-- A row a call adds is the one it mints, of the family it mints or of one with a live row. -/
theorem committed_origin (h : Committed c db db') {s : RefreshToken}
    (hs : s ∈ db'.refreshTokens.rows) :
    (∃ r ∈ db.refreshTokens.rows, Evolves r s) ∨ s.id = c.minted.sessionId ∧
      (s.familyId = c.minted.familyId ∨
        ∃ r ∈ db.refreshTokens.rows, r.revokedAt = none ∧ s.familyId = r.familyId) := by
  cases h with
  | idle => exact Or.inl ⟨s, hs, .kept⟩
  | flagged => exact Or.inl ⟨s, hs, .kept⟩
  | created u context audience _ added =>
    obtain hs | rfl := (Table.mem_insert (Db.addSession_ok added).2.2.1).mp hs
    · exact Or.inl ⟨s, hs, .kept⟩
    · exact Or.inr ⟨rfl, Or.inl rfl⟩
  | replaced u context audience base _ writes added =>
    subst writes
    obtain hs | rfl := (Table.mem_insert (Db.addSession_ok added).2.2.1).mp hs
    · exact Or.inl (Db.evolved_revokeWhere hs)
    · exact Or.inr ⟨rfl, Or.inl rfl⟩
  | narrowed u sid base call writes =>
    obtain ⟨r, hr, evolved⟩ := Db.evolved_revokeWhere hs
    have hr : r ∈ db.refreshTokens.rows := by obtain rfl | rfl := writes <;> exact hr
    exact Or.inl ⟨r, hr, evolved⟩
  | closed => exact Or.inl (Db.evolved_revokeWhere hs)
  | rotated record context base _ found live presented single chosen writes added =>
    subst writes
    obtain hs | rfl := (Table.mem_insert (Db.addSession_ok added).2.2.1).mp hs
    · exact Or.inl (Db.evolved_revokeWhere hs)
    · exact Or.inr ⟨rfl, Or.inr ⟨record, found, live, rfl⟩⟩
  | stamped => exact Or.inl (Db.evolved_revokeWhere hs)

theorem find_advance_cases (db : Db) (now : Time) (u : UserId) (k : ScopeKey)
    (e : Option FamilyId) (u' : UserId) (k' : ScopeKey) :
    (db.advanceScopeGeneration now u k e).scopeGenerations.find (u', k') =
        db.scopeGenerations.find (u', k') ∨
      (u = u' ∧ k = k') ∧ (db.advanceScopeGeneration now u k e).scopeGenerations.find (u', k') =
        some ⟨u', k', db.generation u' k' + 1, e, true, now⟩ := by
  rw [Db.find_advance]
  split
  · rename_i same
    obtain ⟨rfl, rfl⟩ := Prod.mk.inj same
    exact Or.inr ⟨⟨rfl, rfl⟩, rfl⟩
  · exact Or.inl rfl

/-- A call leaves a scope alone or advances it by one. It can spare only the
family it mints, or, in the account scope, the family of the session it is
called with. -/
theorem committed_scope (h : Committed c db db') (u : UserId) (k : ScopeKey) :
    db'.scopeGenerations.find (u, k) = db.scopeGenerations.find (u, k) ∨
      ∃ e, db'.scopeGenerations.find (u, k) =
          some ⟨u, k, db.generation u k + 1, e, true, c.now⟩ ∧
        ∀ f, e = some f → f = c.minted.familyId ∨
          k = .account ∧ ∃ sid cur, c.narrows u sid ∧
            sid.bind (db.findSession u) = some cur ∧ cur.familyId = f := by
  cases h with
  | idle => exact Or.inl rfl
  | flagged => exact Or.inl rfl
  | created v context audience _ added => rw [(Db.addSession_ok added).2.1]; exact Or.inl rfl
  | replaced v context audience base _ writes added =>
    rw [(Db.addSession_ok added).2.1]
    subst writes
    obtain same | ⟨_, found⟩ :=
      find_advance_cases db c.now v (.audience audience) (some c.minted.familyId) u k
    · exact Or.inl same
    · exact Or.inr ⟨_, found, fun f hf => Or.inl (Option.some.inj hf).symm⟩
  | narrowed v sid base call writes =>
    have scopes : base.scopeGenerations = db.scopeGenerations := by
      obtain rfl | rfl := writes <;> rfl
    have generation : base.generation u k = db.generation u k := by
      simp only [Db.generation, scopes]
    obtain same | ⟨⟨rfl, rfl⟩, found⟩ := find_advance_cases base c.now v .account
      ((sid.bind (db.findSession v)).map (·.familyId)) u k
    · exact Or.inl (same.trans (by rw [scopes]))
    · refine Or.inr ⟨_, found.trans (by rw [generation]), fun f hf => Or.inr ⟨rfl, sid, ?_⟩⟩
      obtain ⟨cur, hc, family⟩ := Option.map_eq_some_iff.mp hf
      exact ⟨cur, call, hc, family⟩
  | closed v k' reason p =>
    obtain same | ⟨_, found⟩ := find_advance_cases db c.now v k' none u k
    · exact Or.inl same
    · exact Or.inr ⟨none, found, fun f hf => by cases hf⟩
  | rotated record context base _ found live presented single chosen writes added =>
    rw [(Db.addSession_ok added).2.1]
    subst writes
    exact Or.inl rfl
  | stamped => exact Or.inl rfl

theorem generation_mono (h : Committed c db db') (u : UserId) (k : ScopeKey) :
    db.generation u k ≤ db'.generation u k := by
  obtain same | ⟨e, found, -⟩ := committed_scope h u k
  · exact Nat.le_of_eq (by simp only [Db.generation, same])
  · simp only [Db.generation, found, Option.elim_some]
    exact Nat.le_succ _

/-- No call deletes a user or changes a status; only `revokeAll` stamps, and it
revokes the user's live rows with it. -/
theorem committed_user (h : Committed c db db') {u : UserId} {v : User}
    (hv : db.users.find u = some v) :
    ∃ w, db'.users.find u = some w ∧ w.status = v.status ∧
      (w.accessTokensRevokedAt = v.accessTokensRevokedAt ∨
        c.op = .revokeAll u ∧ w.accessTokensRevokedAt = some c.now ∧
          db'.refreshTokens =
            (db.revokeWhere c.now .logoutAll (fun r => r.userId = u)).refreshTokens) := by
  cases h with
  | idle => exact ⟨v, hv, rfl, Or.inl rfl⟩
  | flagged u' enabled =>
    rw [Db.find_updateUser, hv]
    refine ⟨_, rfl, ?_⟩
    split <;> exact ⟨rfl, Or.inl rfl⟩
  | created _ _ _ _ added =>
    rw [(Db.addSession_ok added).1]
    exact ⟨v, hv, rfl, Or.inl rfl⟩
  | replaced _ _ _ base _ writes added =>
    rw [(Db.addSession_ok added).1]
    subst writes
    exact ⟨v, hv, rfl, Or.inl rfl⟩
  | narrowed u' sid base call writes =>
    obtain rfl | rfl := writes
    · exact ⟨v, hv, rfl, Or.inl rfl⟩
    · rw [Db.revokeWhere_users, Db.advance_users, Db.find_updateUser, hv]
      refine ⟨_, rfl, ?_⟩
      split <;> exact ⟨rfl, Or.inl rfl⟩
  | closed => exact ⟨v, hv, rfl, Or.inl rfl⟩
  | rotated _ _ base _ _ _ _ _ _ writes added =>
    rw [(Db.addSession_ok added).1]
    subst writes
    exact ⟨v, hv, rfl, Or.inl rfl⟩
  | stamped u' call =>
    rw [Db.find_updateUser, Db.revokeWhere_users, hv]
    refine ⟨_, rfl, ?_⟩
    split
    · rename_i same
      subst same
      exact ⟨rfl, Or.inr ⟨call, rfl, rfl⟩⟩
    · exact ⟨rfl, Or.inl rfl⟩

end

end CircleBackend.Session
