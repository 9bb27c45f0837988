import CircleBackend.Session.Invariant

/-!
# Revocation across calls

Every scope keeps a single exempt family, which the next advance overwrites. The
exemptions of audience advances are harmless, since the family is minted by the
same call; an account advance exempts the family of the session it is called
with, whose ROTATED rows an earlier advance may have killed. `Call.readmits`
singles out those calls, and clocks that take the account-wide stamp back; a run
without them never re-admits a token (`revocation_monotone`).
-/

namespace CircleBackend.Session

open Library

/-- Tokens of the row are refused on the ground of its ACCOUNT scope alone. -/
def Db.accountOnly (db : Db) (r : RefreshToken) : Prop :=
  db.stale r .account ∧ ¬ r.closed ∧ ∀ k ∈ r.scopes, k ≠ .account → ¬ db.stale r k

instance (db : Db) (r : RefreshToken) : Decidable (db.accountOnly r) :=
  inferInstanceAs (Decidable (_ ∧ _ ∧ _))

/-- An account advance for the session `sid` would exempt a family with a row
that only the account scope refuses. -/
def Db.unexempts (db : Db) (u : UserId) (sid : Option SessionId) : Prop :=
  ∃ v ∈ db.users.find u, v.status = .active ∧ ∃ cur ∈ sid.bind (db.findSession u),
    ∃ r ∈ db.refreshTokens.rows, r.familyId = cur.familyId ∧ db.accountOnly r

/-- Stamping the account at `now` would move an earlier stamp back over a ROTATED
row that nothing else refuses. -/
def Db.unstamps (db : Db) (now : Time) (u : UserId) : Prop :=
  ∃ v ∈ db.users.find u, v.status = .active ∧ ∃ stamp ∈ v.accessTokensRevokedAt, now < stamp ∧
    ∃ r ∈ db.refreshTokens.rows, r.userId = u ∧ r.revokedAt.isSome ∧ ¬ r.closed ∧
      ∀ k ∈ r.scopes, ¬ db.stale r k

def Call.readmits (c : Call) (db : Db) : Prop :=
  match c.op with
  | .setSingleDeviceLogin u true sid => db.unexempts u sid
  | .revokeOtherSessions u sid => db.unexempts u sid
  | .revokeAll u => db.unstamps c.now u
  | _ => False

instance (db : Db) (u : UserId) (sid : Option SessionId) : Decidable (db.unexempts u sid) :=
  inferInstanceAs (Decidable (∃ v ∈ db.users.find u, _ ∧ ∃ cur ∈ sid.bind (db.findSession u), _))

instance (db : Db) (now : Time) (u : UserId) : Decidable (db.unstamps now u) :=
  inferInstanceAs (Decidable (∃ v ∈ db.users.find u, _))

instance (c : Call) (db : Db) : Decidable (c.readmits db) := by
  unfold Call.readmits
  split <;> infer_instance

/-- An access token issued for a session row of an active user. -/
def Db.Issued (db : Db) (token : VerifiableToken) : Prop :=
  ∃ r ∈ db.refreshTokens.rows, token.sub = some r.userId ∧ token.sid = some r.id ∧
    ∃ v ∈ db.users.find r.userId, v.status = .active

instance (db : Db) (token : VerifiableToken) : Decidable (db.Issued token) :=
  inferInstanceAs (Decidable (∃ r ∈ db.refreshTokens.rows, _ ∧ _ ∧
    ∃ v ∈ db.users.find r.userId, v.status = .active))

section
variable {db db' : Db} {c : Call} {r s : RefreshToken}

/-- A scope that refuses a row goes on refusing it until an advance exempts the
row's family. -/
theorem stale_step (hi : Inv db) (fresh : c.Fresh db) (h : Committed c db db')
    (hr : r ∈ db.refreshTokens.rows) (evolved : Evolves r s) {k : ScopeKey} (hk : k ∈ r.scopes)
    (spared : k = .account → ∀ sid cur, c.narrows r.userId sid →
      sid.bind (db.findSession r.userId) = some cur → cur.familyId ≠ r.familyId)
    (stale : db.stale r k) : db'.stale s k := by
  obtain ⟨g, hg, moved, other⟩ := stale
  unfold Db.stale
  rw [evolved.userId, evolved.snapshot, evolved.familyId]
  obtain same | ⟨e, found, exempt⟩ := committed_scope h r.userId k
  · exact ⟨g, by rw [same]; exact hg, moved, other⟩
  · refine ⟨_, found, ?_, ?_⟩
    · have behind := hi.snapshots r hr k hk
      simp only
      omega
    · intro he
      obtain minted | ⟨account, sid, cur, narrows, found, family⟩ := exempt r.familyId he
      · exact fresh r hr minted
      · exact spared account sid cur narrows found family

variable {v : User} {token : VerifiableToken} {u : UserId}

/-- The calls that are not singled out keep a row refused in some scope. -/
theorem any_stale_step (hi : Inv db) (fresh : c.Fresh db) (h : Committed c db db')
    (keep : ¬ c.readmits db) (hr : r ∈ db.refreshTokens.rows) (evolved : Evolves r s)
    (hv : db.users.find r.userId = some v) (active : v.status = .active)
    (open_ : ¬ r.closed) (stale : ∃ k ∈ r.scopes, db.stale r k) : ∃ k ∈ s.scopes, db'.stale s k := by
  rw [evolved.scopes]
  by_cases beyond : ∃ k ∈ r.scopes, k ≠ .account ∧ db.stale r k
  · obtain ⟨k, hk, other, stale⟩ := beyond
    exact ⟨k, hk, stale_step hi fresh h hr evolved hk (fun account => absurd account other) stale⟩
  · obtain ⟨k, hk, stale⟩ := stale
    have account : k = .account := by
      by_contra other
      exact beyond ⟨k, hk, other, stale⟩
    subst account
    refine ⟨.account, hk, stale_step hi fresh h hr evolved hk (fun _ sid cur narrows found family => ?_)
      stale⟩
    have only : db.accountOnly r :=
      ⟨stale, open_, fun k hk other stale => beyond ⟨k, hk, other, stale⟩⟩
    have unexempts : db.unexempts r.userId sid :=
      ⟨v, hv, active, cur, found, r, hr, family.symm, only⟩
    obtain op | op := narrows <;> exact keep (by simpa only [Call.readmits, op] using unexempts)

/-- A stamped token stays refused: a later stamp is no earlier, or the row has
been revoked with it. -/
theorem stamped_step (hi : Inv db) (fresh : c.Fresh db) (h : Committed c db db')
    (keep : ¬ c.readmits db) (hr : r ∈ db.refreshTokens.rows) (hs : s ∈ db'.refreshTokens.rows)
    (evolved : Evolves r s) {w : User} (hv : db.users.find r.userId = some v)
    (active : v.status = .active) (hw : db'.users.find r.userId = some w)
    (stamped : v.stamped token = true) :
    w.stamped token = true ∨ s.closed ∨ ∃ k ∈ s.scopes, db'.stale s k := by
  obtain ⟨w', hw', -, same | ⟨op, stamp, rows⟩⟩ := committed_user h hv
  · rw [hw] at hw'
    cases hw'
    left
    simpa only [User.stamped, same] using stamped
  · rw [hw] at hw'
    cases hw'
    obtain ⟨t, ht, covered⟩ := (stamped_iff v token).mp stamped
    by_cases later : t ≤ c.now
    · left
      exact (stamped_iff w token).mpr
        ⟨c.now, stamp, fun at' issued => Nat.le_trans (covered at' issued) later⟩
    · right
      by_cases live : r.revokedAt = none
      · -- The row itself is revoked by the same transaction.
        left
        rw [rows] at hs
        rw [Db.selected_revokeWhere hr (by simp) live hs evolved.id_eq]
        exact Or.inr ⟨rfl, by simp [RefreshToken.revoke]⟩
      · by_cases closed : r.closed
        · exact Or.inl (evolved.closed closed)
        · right
          have stale : ∃ k ∈ r.scopes, db.stale r k := by
            by_contra none_stale
            have none_stale : ∀ k ∈ r.scopes, ¬ db.stale r k := fun k hk stale =>
              none_stale ⟨k, hk, stale⟩
            refine keep ?_
            simp only [Call.readmits, op]
            exact ⟨v, hv, active, t, ht, Nat.lt_of_not_le later, r, hr, rfl,
              by simpa [Option.isSome_iff_ne_none] using live, closed, none_stale⟩
          exact any_stale_step hi fresh h keep hr evolved hv active closed stale

/-- A call that is not singled out re-admits no token. -/
theorem revoked_step (h : Step db c db') (hi : Inv db) (keep : ¬ c.readmits db)
    (issued : db.Issued token) (revoked : db.verdict token = .revoked) :
    db'.Issued token ∧ db'.verdict token = .revoked := by
  have committed := step_committed h
  obtain ⟨r, hr, sub, sid, v, hv, active⟩ := issued
  obtain ⟨s, hs, evolved⟩ := committed_row committed hr
  obtain ⟨w, hw, status, -⟩ := committed_user committed hv
  have hactive : w.status = .active := status.trans active
  have hsub : token.sub = some s.userId := by rw [evolved.userId]; exact sub
  have hsid : token.sid = some s.id := by rw [evolved.id_eq]; exact sid
  have hws : db'.users.find s.userId = some w := by rw [evolved.userId]; exact hw
  refine ⟨⟨s, hs, hsub, hsid, w, hws, hactive⟩, ?_⟩
  rw [verdict_revoked hv active (Table.mem_find hr) sub sid] at revoked
  rw [verdict_revoked hws hactive (Table.mem_find hs) hsub hsid]
  by_cases closed : r.closed
  · exact Or.inr (Or.inl (evolved.closed closed))
  · obtain stamped | closed' | stale := revoked
    · exact stamped_step hi h.1 committed keep hr hs evolved hv active hw stamped
    · exact absurd closed' closed
    · exact Or.inr (Or.inr
        (any_stale_step hi h.1 committed keep hr evolved hv active closed stale))

/-! ## The calls that are singled out do re-admit one -/

theorem verdict_active {u : User} (hu : db.users.find r.userId = some u)
    (active : u.status = .active) (hr : r ∈ db.refreshTokens.rows) (hsub : token.sub = some r.userId)
    (hsid : token.sid = some r.id) (unstamped : ¬ u.stamped token = true) (opened : ¬ r.closed)
    (fresh : ∀ k ∈ r.scopes, ¬ db.stale r k) : db.verdict token = .active := by
  have admitted : db.verdict token ≠ .revoked := by
    rw [ne_eq, verdict_revoked hu active (Table.mem_find hr) hsub hsid]
    rintro (stamped | closed | ⟨k, hk, stale⟩)
    · exact unstamped stamped
    · exact opened closed
    · exact fresh k hk stale
  cases answer : db.verdict token with
  | active => rfl
  | revoked => exact absurd answer admitted
  | unavailable => exact absurd answer (verdict_answered db token)

theorem after_narrows {sid : Option SessionId} {cur : RefreshToken}
    (hv : db.users.find u = some v) (call : c.narrows u sid)
    (hc : sid.bind (db.findSession u) = some cur) :
    ∃ base : Db, (base = db ∨ base = db.updateUser u
        (fun v => { v with singleDeviceLoginEnabled := true }) (fun _ => rfl)) ∧
      db.after c = (base.advanceScopeGeneration c.now u .account (some cur.familyId)).revokeWhere
        c.now .otherSessionsRevoked (fun r => r.userId = u && !decide (r.familyId = cur.familyId)) := by
  obtain op | op := call
  · refine ⟨_, Or.inr rfl, ?_⟩
    have hset : sid.bind ((db.updateUser u
        (fun v => { v with singleDeviceLoginEnabled := true }) (fun _ => rfl)).findSession u) =
        some cur := hc
    simp only [Db.after, Call.effect, op, Db.setSingleDeviceLogin, hv, hset, Option.isNone_some,
      Bool.false_eq_true, ↓reduceIte, Bool.not_true, Option.map_some, Db.preserved]
  · refine ⟨db, Or.inl rfl, ?_⟩
    cases sid with
    | none => cases hc
    | some id =>
      have hid : db.findSession u id = some cur := hc
      simp only [Db.after, Call.effect, op, Db.revokeOtherSessions, hv, hid, Option.isNone_some,
        Bool.false_eq_true, ↓reduceIte, Option.map_some, Db.preserved]

theorem unexempts_readmits (hi : Inv db) {sid : Option SessionId}
    (call : c.narrows u sid) (hit : db.unexempts u sid) :
    ∃ token, db.Issued token ∧ db.verdict token = .revoked ∧ (db.after c).verdict token = .active := by
  obtain ⟨v, hv, active, cur, hc, r, hr, family, stale, opened, only⟩ := hit
  have member : cur ∈ db.refreshTokens.rows ∧ cur.userId = u := by
    obtain ⟨id, -, found⟩ := Option.bind_eq_some_iff.mp hc
    obtain ⟨found, owner⟩ := Option.filter_eq_some_iff.mp found
    exact ⟨Table.find_mem found, by simpa using owner⟩
  have owner : r.userId = u := (hi.owner r hr cur member.1 family).1.trans member.2
  subst owner
  obtain ⟨base, writes, after⟩ := after_narrows hv call hc
  have rows : base.refreshTokens = db.refreshTokens := by obtain rfl | rfl := writes <;> rfl
  have scopes : base.scopeGenerations = db.scopeGenerations := by
    obtain rfl | rfl := writes <;> rfl
  -- Issued after the last account-wide stamp.
  let token := r.accessToken (v.accessTokensRevokedAt.elim 0 (· + 1))
  have unstamped (w : User) (same : w.accessTokensRevokedAt = v.accessTokensRevokedAt) :
      ¬ w.stamped token = true := by
    rw [stamped_iff, same]
    rintro ⟨stamp, hstamp, covered⟩
    have late := covered _ rfl
    simp only [hstamp, Option.elim_some] at late
    exact absurd late (Nat.not_succ_le_self stamp)
  have user : ∃ w, base.users.find r.userId = some w ∧ w.status = .active ∧
      w.accessTokensRevokedAt = v.accessTokensRevokedAt := by
    obtain rfl | rfl := writes
    · exact ⟨v, hv, active, rfl⟩
    · exact ⟨{ v with singleDeviceLoginEnabled := true },
        by rw [Db.find_updateUser, Option.mem_def.mp hv]; simp, active, rfl⟩
  obtain ⟨w, hw, hactive, same⟩ := user
  refine ⟨token, ⟨r, hr, rfl, rfl, v, hv, active⟩, ?_, ?_⟩
  · refine (verdict_revoked hv active (Table.mem_find hr) rfl rfl).mpr ?_
    exact Or.inr (Or.inr ⟨.account, by simp [RefreshToken.scopes], stale⟩)
  · rw [after]
    refine verdict_active hw hactive ?_ rfl rfl (unstamped w same) opened ?_
    · exact Db.mem_revokeWhere.mpr ⟨r, by rw [Db.advance_refreshTokens, rows]; exact hr,
        by simp [family]⟩
    · intro k hk stale'
      obtain ⟨g, hg, moved, other⟩ := stale'
      rw [Db.revokeWhere_scopes, Db.find_advance, scopes] at hg
      split at hg
      · cases hg
        exact other (by rw [family])
      · rename_i kept
        exact only k hk (fun account => kept (by rw [account])) ⟨g, hg, moved, other⟩

theorem unstamps_readmits (call : c.op = .revokeAll u) (hit : db.unstamps c.now u) :
    ∃ token, db.Issued token ∧ db.verdict token = .revoked ∧ (db.after c).verdict token = .active := by
  obtain ⟨v, hv, active, stamp, hstamp, earlier, r, hr, owner, marked, opened, fresh⟩ := hit
  subst owner
  have found : db.users.find r.userId = some v := hv
  have after : db.after c = (db.revokeWhere c.now .logoutAll
      (fun r' => r'.userId = r.userId)).updateUser r.userId
        (fun v => { v with accessTokensRevokedAt := some c.now }) (fun _ => rfl) := by
    simp only [Db.after, Call.effect, call, Db.revokeAll, found, Option.isNone_some,
      Bool.false_eq_true, ↓reduceIte]
  let token := r.accessToken stamp
  refine ⟨token, ⟨r, hr, rfl, rfl, v, hv, active⟩, ?_, ?_⟩
  · refine (verdict_revoked hv active (Table.mem_find hr) rfl rfl).mpr ?_
    left
    refine (stamped_iff v token).mpr ⟨stamp, hstamp, fun t issued => ?_⟩
    cases issued
    exact Nat.le_refl _
  · rw [after]
    refine verdict_active (u := { v with accessTokensRevokedAt := some c.now }) ?_ active ?_ rfl rfl
      ?_ opened ?_
    · rw [Db.find_updateUser, Db.revokeWhere_users, found]
      simp
    · exact Db.mem_revokeWhere.mpr ⟨r, hr, by simp [Option.isSome_iff_ne_none.mp marked]⟩
    · rw [stamped_iff]
      rintro ⟨t, ht, covered⟩
      cases ht
      exact absurd (covered stamp rfl) (Nat.not_le_of_lt earlier)
    · exact fresh

theorem readmits_step (h : Step db c db') (hi : Inv db) (hit : c.readmits db) :
    ∃ token, db.Issued token ∧ db.verdict token = .revoked ∧ db'.verdict token = .active := by
  rw [h.2]
  unfold Call.readmits at hit
  split at hit
  · rename_i call
    exact unexempts_readmits hi (Or.inl call) hit
  · rename_i call
    exact unexempts_readmits hi (Or.inr call) hit
  · rename_i call
    exact unstamps_readmits call hit
  · exact hit.elim

end

/-- Along a run whose calls neither exempt a family that only the account scope
refuses nor take the account-wide stamp back, a refused token stays refused; a
call that does either re-admits a token. -/
theorem revocation_monotone {db : Db} (h : Reachable db) :
    (∀ db' cs token, Run (Run.Where Step fun db c => ¬ c.readmits db) db cs db' →
      db.Issued token → db.verdict token = .revoked → db'.verdict token = .revoked) ∧
    ∀ c db', Step db c db' → c.readmits db →
      ∃ token, db.Issued token ∧ db.verdict token = .revoked ∧ db'.verdict token = .active := by
  constructor
  · intro db' cs token run issued revoked
    have kept : db'.Issued token ∧ db'.verdict token = .revoked := by
      refine run.preserves_where (I := Inv) (P := fun db => db.Issued token ∧ db.verdict token = .revoked)
        (fun _ _ _ step hi => step_inv step hi) ?_ (reachable_inv h) ⟨issued, revoked⟩
      intro s c t step keep hi kept
      exact revoked_step step hi keep kept.1 kept.2
    exact kept.2
  · intro c db' step hit
    exact readmits_step step (reachable_inv h) hit

/-- Two logins, the second one rotated; the first then logs the others out. -/
def narrowedScript : List Call :=
  [scripted 1 (.createSessionForCurrentSingleDeviceSetting 1 .empty .app),
   scripted 2 (.createSessionForCurrentSingleDeviceSetting 1 .empty .app),
   scripted 3 (.rotate 2 .empty .app),
   scripted 4 (.revokeOtherSessions 1 (some 1))]

/-- The rotated session asks for the same while its own row is being revoked: its
advance exempts its family, and the ancestor's token is accepted again. -/
theorem revocation_not_monotone :
    ¬ ∀ db db' cs token, Reachable db → Run Step db cs db' → db.Issued token →
      db.verdict token = .revoked → db'.verdict token = .revoked := by
  intro monotone
  have readmitted := monotone ((Db.ofUsers oneUser).play narrowedScript) _
    [scripted 5 (.revokeOtherSessions 1 (some 3))] ⟨some 1, some 2, none, some 2⟩
    (reachable_play (by decide)) (run_play (by decide)) (by decide) (by decide)
  revert readmitted
  decide

/-- Asked again by the session it spared, the logout keeps the ancestor out, also
past a logout of everything. -/
theorem revocation_monotone_spared :
    (((Db.ofUsers oneUser).play narrowedScript).play
        [scripted 5 (.revokeOtherSessions 1 (some 1)), scripted 6 (.revokeAll 1)]).verdict
        ⟨some 1, some 2, none, some 2⟩ = .revoked ∧
      ∃ token, ((Db.ofUsers oneUser).play narrowedScript).verdict token = .revoked ∧
        (((Db.ofUsers oneUser).play narrowedScript).play
          [scripted 5 (.revokeOtherSessions 1 (some 3))]).verdict token = .active := by
  have reached : Reachable ((Db.ofUsers oneUser).play narrowedScript) := reachable_play (by decide)
  constructor
  · exact (revocation_monotone reached).1 _ _ _ (run_play_where (by decide)) (by decide) (by decide)
  · obtain ⟨token, -, revoked, active⟩ := (revocation_monotone reached).2
      (scripted 5 (.revokeOtherSessions 1 (some 3))) _ ⟨by decide, rfl⟩ (by decide)
    exact ⟨token, revoked, active⟩

end CircleBackend.Session
