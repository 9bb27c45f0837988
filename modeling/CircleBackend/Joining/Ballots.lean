import CircleBackend.Joining.Removal

/-!
# Open invitations and their votes

One row of an applicant is open at a time, and while it is pending its count is that
of its approved votes, short of what it needs. Both hold in the runs in which nobody
applies beside an offer, and nobody with an offer that needs more votes scans the code
of somebody else; what a row becomes is by rule in every run.
-/

namespace CircleBackend.Joining

open Library Memberships
open CircleBackend.Circle (CircleMemberRole CircleMemberStatus)
open Session (UserId)

namespace Db

variable {db db' mid : Db} {act : Act}

def hasVote (db : Db) (id : InvitationId) (v : UserId) : Bool :=
  (db.verifiers.find (id, v)).any (·.status = .approved)

/-- The `APPROVED` rows of the verifiers. -/
def approvals (db : Db) (id : InvitationId) : Nat :=
  db.verifiers.count fun v => v.invitationID = id && v.status = .approved

theorem vote_at (id : InvitationId) (k : InvitationId × UserId) :
    ((db.verifiers.find k).any fun v => v.invitationID = id && v.status = .approved) =
      (decide (k.1 = id) && db.hasVote k.1 k.2) := by
  obtain ⟨i, v⟩ := k
  rw [hasVote]
  cases row : db.verifiers.find (i, v) with
  | none => simp
  | some r =>
    have key := Table.find_key row
    obtain ⟨rfl, rfl⟩ := Prod.mk.inj key
    simp

variable {id : InvitationId} {v : UserId} {late : InvitationId → Prop} {i : CircleInvitation}

theorem approvals_same (same : ∀ v, db'.hasVote id v = db.hasVote id v) :
    db'.approvals id = db.approvals id := by
  apply Table.count_same
  intro k
  rw [vote_at, vote_at]
  by_cases here : k.1 = id
  · rw [here, same]
  · simp [here]

theorem approvals_gain (before : db.hasVote id v = false)
    (after : db'.hasVote id v = true) (same : ∀ w, w ≠ v → db'.hasVote id w = db.hasVote id w) :
    db'.approvals id = db.approvals id + 1 := by
  refine Table.count_gain (List.nodup_singleton (id, v)) ?_ ?_
  · intro k hk
    obtain rfl := List.mem_singleton.mp hk
    rw [vote_at, vote_at, before, after]
    simp
  · intro k hk
    rw [vote_at, vote_at]
    by_cases here : k.1 = id
    · have apart : k.2 ≠ v := by
        rintro rfl
        exact hk (List.mem_singleton.mpr (by rw [← here]))
      rw [here, same k.2 apart]
    · simp [here]

theorem approvals_none (none : ∀ v, db.verifiers.find (id, v) = none) : db.approvals id = 0 := by
  rw [approvals, Table.count, List.countP_eq_zero]
  intro row member voted
  simp only [Bool.and_eq_true, decide_eq_true_eq] at voted
  have absent := none row.verifierID
  rw [← voted.1, Table.mem_find member] at absent
  cases absent

theorem approvals_one (own : db.hasVote id v = true)
    (only : ∀ w, w ≠ v → db.hasVote id w = false) : db.approvals id = 1 := by
  have before : Db.empty.hasVote id v = false := rfl
  have gained := approvals_gain before own only
  have empty : Db.empty.approvals id = 0 := approvals_none fun _ => rfl
  rwa [empty] at gained

/-! ## The invariant -/

/-- The rows and their votes, but for the row that is being finalized. -/
structure Polled (late : InvitationId → Prop) (db : Db) : Prop where
  single : ∀ i j, db.invitations.find i.id = some i → db.invitations.find j.id = some j →
    i.status.isOpen = true → j.status.isOpen = true → i.circleID = j.circleID →
    i.applicantID = j.applicantID → i = j
  counted : ∀ i, db.invitations.find i.id = some i → i.status.isOpen = true → ¬ late i.id →
    i.approvedCount = db.approvals i.id
  short : ∀ i, db.invitations.find i.id = some i → i.status = .pending → ¬ late i.id →
    i.approvedCount < i.requiredCount
  offers : ∀ i, db.invitations.find i.id = some i → i.status = .invited →
    ∀ v row, db.verifiers.find (i.id, v) = some row → v = i.inviterID
  voters : ∀ id v row, db.verifiers.find (id, v) = some row → (db.invitations.find id).isSome
  loaded : ∀ seen ∈ db.loaded, ∃ i, db.invitations.find seen.id = some i ∧
    (i.status = .invited → i.inviterID = seen.inviterID)

def Sound (db : Db) : Prop := Polled (fun _ => False) db

/-- Open rows are as they were, and so are their votes. -/
theorem Polled.fewer {late' : InvitationId → Prop} (polled : Polled late db)
    (rows : ∀ id j, db'.invitations.find id = some j → j.status.isOpen = true →
      db.invitations.find id = some j ∧ (late id → late' id)) (follow : RowsFollow db db')
    (votes : ∀ id v, db'.hasVote id v = db.hasVote id v)
    (voters : ∀ id v row, db'.verifiers.find (id, v) = some row →
      (db.verifiers.find (id, v)).isSome ∨
        ∃ i, db.invitations.find id = some i ∧ i.status = .pending)
    (loaded : ∀ seen ∈ db'.loaded, seen ∈ db.loaded ∨ db.invitations.find seen.id = some seen) :
    Polled late' db' := by
  constructor
  case single =>
    intro i j hi hj openI openJ
    exact polled.single i j (rows _ i hi openI).1 (rows _ j hj openJ).1 openI openJ
  case counted =>
    intro i hi isOpen timely
    obtain ⟨before, kept⟩ := rows _ i hi isOpen
    rw [approvals_same (votes i.id)]
    exact polled.counted i before isOpen fun is_late => timely (kept is_late)
  case short =>
    intro i hi pending timely
    obtain ⟨before, kept⟩ := rows _ i hi (isOpen_pending pending)
    exact polled.short i before pending fun is_late => timely (kept is_late)
  case offers =>
    intro i hi invited v row found
    obtain ⟨before, -⟩ := rows _ i hi (by rw [invited]; rfl)
    rcases voters i.id v row found with old | ⟨j, there, pending⟩
    · obtain ⟨old, there⟩ := Option.isSome_iff_exists.mp old
      exact polled.offers i before invited v old there
    · rw [before] at there
      cases there
      rw [invited] at pending
      cases pending
  case voters =>
    intro id v row found
    have there : (db.invitations.find id).isSome = true := by
      rcases voters id v row found with old | ⟨j, there, -⟩
      · obtain ⟨old, there⟩ := Option.isSome_iff_exists.mp old
        exact polled.voters id v old there
      · exact Option.isSome_of_eq_some there
    obtain ⟨i, there⟩ := Option.isSome_iff_exists.mp there
    obtain ⟨i', kept, -⟩ := follow id i there
    exact Option.isSome_of_eq_some kept
  case loaded =>
    intro seen member
    have before : ∃ i, db.invitations.find seen.id = some i ∧
        (i.status = .invited → i.inviterID = seen.inviterID) := by
      rcases loaded seen member with old | here
      · exact polled.loaded seen old
      · exact ⟨seen, here, fun _ => rfl⟩
    obtain ⟨i, there, own⟩ := before
    obtain ⟨i', kept, follows⟩ := follow seen.id i there
    refine ⟨i', kept, fun invited => ?_⟩
    obtain rfl := follows.invited invited
    exact own invited

theorem Closing.polled (h : Closing db db') (polled : Polled late db) : Polled late db' := by
  apply polled.fewer
  case rows =>
    intro id j found isOpen
    refine ⟨?_, fun is_late => is_late⟩
    rcases h.rows id with same | ⟨i, s, -, -, closed, after⟩
    · exact same ▸ found
    · rw [after] at found
      cases found
      rcases closed with rfl | rfl <;> cases isOpen
  case follow => exact fun id i found => withdrawn_follows (h.rows id) found
  case votes =>
    intro id v
    apply Bool.eq_iff_iff.mpr
    simp only [hasVote, Option.any_eq_true, decide_eq_true_eq]
    constructor
    · rintro ⟨row, found, approved⟩
      exact ⟨row, h.votes _ row found approved, approved⟩
    · rintro ⟨row, found, approved⟩
      exact ⟨row, h.kept _ row found approved, approved⟩
  case voters => exact h.voters
  case loaded => exact fun seen member => Or.inl (h.loaded ▸ member)

theorem Finalizing.polled {status : CircleInvitationStatus}
    (h : Finalizing mid i status db') (polled : Polled late mid)
    (own : ∀ id, late id → id = i.id) (here : mid.invitations.find i.id = some i)
    (isOpen : i.status.isOpen = true) (closed : status.isOpen = false) : Sound db' := by
  apply polled.fewer
  case rows =>
    intro id j found open_now
    have apart : id ≠ i.id := by
      rintro rfl
      rw [h.own] at found
      cases found
      rw [closed] at open_now
      cases open_now
    refine ⟨?_, fun is_late => apart (own id is_late)⟩
    rcases h.others id apart with same | ⟨k, s, -, -, withdrawn, after⟩
    · exact same ▸ found
    · rw [after] at found
      cases found
      rcases withdrawn with rfl | rfl <;> cases open_now
  case follow => exact h.rowsFollow here isOpen closed
  case votes => exact fun id v => by rw [hasVote, h.verifiers, hasVote]
  case voters => exact fun id v row found => Or.inl (Option.isSome_of_eq_some (h.verifiers ▸ found))
  case loaded => exact fun seen member => Or.inl (h.loaded ▸ member)

/-- One row is written, that is alone, with at most one vote for it. -/
theorem Polled.put {created : CircleInvitation} (sound : Sound db)
    (rows : mid.invitations.find = Function.update db.invitations.find created.id (some created))
    (votes : ∀ k, k ≠ (created.id, v) → mid.verifiers.find k = db.verifiers.find k)
    (loaded : mid.loaded = db.loaded)
    (alone : ∀ j, db.invitations.find j.id = some j → j.id ≠ created.id → j.status.isOpen = true →
      j.circleID = created.circleID → j.applicantID = created.applicantID → False)
    (counted : ¬ late created.id → created.approvedCount = mid.approvals created.id)
    (short : created.status = .pending → ¬ late created.id →
      created.approvedCount < created.requiredCount) (invited : created.status = .invited →
      db.invitations.find created.id = none ∧ v = created.inviterID) : Polled late mid := by
  have row_cases : ∀ i, mid.invitations.find i.id = some i →
      i = created ∨ i.id ≠ created.id ∧ db.invitations.find i.id = some i := by
    intro i found
    rw [rows] at found
    by_cases here : i.id = created.id
    · rw [here, Function.update_self] at found
      exact Or.inl (Option.some.inj found).symm
    · rw [Function.update_of_ne here] at found
      exact Or.inr ⟨here, found⟩
  constructor
  case single =>
    intro i j hi hj openI openJ circle applicant
    rcases row_cases i hi with rfl | ⟨apartI, hi⟩
    · rcases row_cases j hj with rfl | ⟨apartJ, hj⟩
      · rfl
      · exact (alone j hj apartJ openJ circle.symm applicant.symm).elim
    · rcases row_cases j hj with rfl | ⟨apartJ, hj⟩
      · exact (alone i hi apartI openI circle applicant).elim
      · exact sound.single i j hi hj openI openJ circle applicant
  case counted =>
    intro i hi isOpen timely
    rcases row_cases i hi with rfl | ⟨apart, hi⟩
    · exact counted timely
    · rw [sound.counted i hi isOpen id]
      refine (approvals_same fun w => ?_).symm
      rw [hasVote, votes (i.id, w) fun same => apart (Prod.mk.inj same).1, hasVote]
  case short =>
    intro i hi pending timely
    rcases row_cases i hi with rfl | ⟨apart, hi⟩
    · exact short pending timely
    · exact sound.short i hi pending id
  case offers =>
    intro i hi is_invited w row found
    rcases row_cases i hi with rfl | ⟨apart, hi⟩
    · obtain ⟨absent, by_inviter⟩ := invited is_invited
      by_cases own : w = v
      · exact own.trans by_inviter
      · rw [votes (i.id, w) fun same => own (Prod.mk.inj same).2] at found
        have there := sound.voters i.id w row found
        rw [absent] at there
        cases there
    · rw [votes (i.id, w) fun same => apart (Prod.mk.inj same).1] at found
      exact sound.offers i hi is_invited w row found
  case voters =>
    intro id w row found
    rw [rows]
    by_cases here : id = created.id
    · rw [here, Function.update_self]
      rfl
    · rw [Function.update_of_ne here]
      rw [votes (id, w) fun same => here (Prod.mk.inj same).1] at found
      exact sound.voters id w row found
  case loaded =>
    intro seen member
    obtain ⟨i, there, own⟩ := sound.loaded seen (loaded ▸ member)
    rw [rows]
    by_cases here : seen.id = created.id
    · rw [here, Function.update_self]
      refine ⟨created, rfl, fun is_invited => ?_⟩
      rw [here, (invited is_invited).1] at there
      cases there
    · rw [Function.update_of_ne here]
      exact ⟨i, there, own⟩

theorem Polled.sound (polled : Polled late db) (never : ∀ id, ¬ late id) : Sound db := by
  have same : late = fun _ => False := funext fun id => eq_false (never id)
  rw [same] at polled
  exact polled

/-- There is no other row than the one that `openInvitation` finds. -/
theorem openInvitation_only {circleId : CircleId} {applicantId : UserId} {scan : InvitationId → Nat}
    (sound : Sound db) (found : db.invitations.find i.id = some i) (isOpen : i.status.isOpen = true)
    (circle : i.circleID = circleId) (applicant : i.applicantID = applicantId) :
    db.openInvitation circleId applicantId scan = some i := by
  cases h : db.openInvitation circleId applicantId scan with
  | none =>
    have absent := Table.findFirst_none h (Table.find_mem found)
    simp [circle, applicant, isOpen] at absent
  | some j =>
    obtain ⟨there, circle', applicant', isOpen'⟩ := openInvitation_some h
    rw [sound.single i j found there isOpen isOpen' (circle.trans circle'.symm)
      (applicant.trans applicant'.symm)]

/-- The rows that a transaction has still to finalize when it has written or voted. -/
def Due (created : CircleInvitation) (id : InvitationId) : Prop :=
  id = created.id ∧ created.status = .pending ∧ created.requiredCount.val ≤ created.approvedCount

theorem hasVote_update {row : CircleInvitationVerifier}
    (votes : mid.verifiers.find = Function.update db.verifiers.find (id, v) (some row))
    (approved : row.status = .approved) : mid.hasVote id v = true := by
  rw [hasVote, votes, Function.update_self, Option.any_some]
  exact decide_eq_true approved

theorem hasVote_others {w : UserId} {row : CircleInvitationVerifier}
    (votes : mid.verifiers.find = Function.update db.verifiers.find (id, v) (some row))
    (apart : w ≠ v) : mid.hasVote id w = db.hasVote id w := by
  rw [hasVote, votes, Function.update_of_ne fun same => apart (Prod.mk.inj same).2, hasVote]

theorem votes_absent (sound : Sound db) (absent : db.invitations.find id = none)
    (w : UserId) : db.verifiers.find (id, w) = none := by
  cases found : db.verifiers.find (id, w) with
  | none => rfl
  | some row =>
    have there := sound.voters id w row found
    rw [absent] at there
    cases there

/-- The inviter's vote is the only one, unless an offer of another inviter is taken over
that needs more than one. -/
theorem Written.polled {existing : Option CircleInvitation} {inviterId applicantId : UserId}
    {circle : Circle} {opts : InviteOptions} {call : Call} {created : CircleInvitation}
    (h : Written db existing inviterId applicantId circle opts call created mid) (sound : Sound db)
    (own : ∀ i, existing = some i → i.status = .invited →
      i.inviterID = inviterId ∨ i.requiredCount.val ≤ 1) : Polled (Due created) mid := by
  have one : created.approvedCount = 1 := by rw [h.data, invitationData]
  have by_inviter : created.inviterID = inviterId := by rw [h.data, invitationData]
  have voted := hasVote_update h.votes rfl
  refine Polled.put sound h.rows (v := inviterId) ?votes h.ballots.loaded ?alone ?counted ?short ?invited
  case votes =>
    intro k apart
    rw [h.votes, Function.update_of_ne apart]
  case alone =>
    intro j found apart isOpen here applicant
    rw [h.circle_eq] at here
    rw [h.applicant] at applicant
    have only : existing = some j :=
      h.found.symm.trans (openInvitation_only sound found isOpen here applicant)
    apply apart
    rw [h.data, invitationData, only, Option.map_some, Option.getD_some]
  case counted =>
    intro timely
    rw [one]
    cases existing with
    | none =>
      have absent := votes_absent sound (h.fresh rfl)
      refine (approvals_one voted fun w apart => ?_).symm
      rw [hasVote_others h.votes apart, hasVote, absent, Option.any_none]
    | some i =>
      obtain ⟨there, -, -, isOpen⟩ := openInvitation_some h.found
      have same : created.id = i.id := by
        rw [h.data, invitationData, Option.map_some, Option.getD_some]
      have needs : created.requiredCount = i.requiredCount := by
        rw [h.data]
        rfl
      obtain ⟨consented, fit⟩ := h.fit i rfl
      rcases fit with offer | repair
      · rcases own i rfl offer with own | few
        · refine (approvals_one voted fun w apart => ?_).symm
          rw [hasVote_others h.votes apart, hasVote]
          cases row : db.verifiers.find (created.id, w) with
          | none => rfl
          | some r =>
            rw [same] at row
            exact absurd ((sound.offers i there offer w r row).trans own) apart
        · exact absurd ⟨rfl, h.created_status consented, by rw [one, needs]; exact few⟩ timely
      · simp only [repairPendingInviter, Bool.and_eq_true, decide_eq_true_eq,
          Option.isNone_iff_eq_none] at repair
        obtain ⟨⟨⟨⟨pending, zero⟩, -⟩, -⟩, unvoted⟩ := repair
        have none_yet := sound.counted i there isOpen id
        have fresh : db.hasVote created.id inviterId = false := by
          rw [hasVote, same, unvoted, Option.any_none]
        rw [approvals_gain fresh voted fun w apart => hasVote_others h.votes apart, same,
          ← none_yet, zero]
  case short =>
    intro pending timely
    by_contra enough
    exact timely ⟨rfl, pending, Nat.not_lt.mp enough⟩
  case invited =>
    intro offer
    refine ⟨?_, by_inviter.symm⟩
    cases existing with
    | none => exact h.fresh rfl
    | some i =>
      rw [h.created_status (h.fit i rfl).1] at offer
      cases offer

theorem Offer.sound (h : Offer db db') (sound : Sound db) : Sound db' := by
  obtain ⟨inviterId, applicantId, circle, call, created, written⟩ := h
  have offer : created.status = .invited := by
    rw [written.data]
    rfl
  refine (written.polled sound nofun).sound ?_
  rintro id ⟨-, pending, -⟩
  rw [offer] at pending
  cases pending

theorem offers_sound (h : Relation.ReflTransGen Offer db db') (sound : Sound db) : Sound db' := by
  induction h with
  | refl => exact sound
  | tail _ last ih => exact last.sound ih

theorem Voted.polled {verifierId : UserId} (h : Voted db i verifierId mid)
    (sound : Sound db) : Polled (Due { i with approvedCount := i.approvedCount + 1 }) mid := by
  obtain ⟨row, waiting, not_yet, votes⟩ := h.open_vote
  have isOpen := isOpen_pending h.pending
  let written : CircleInvitation := { i with approvedCount := i.approvedCount + 1 }
  have rows : mid.invitations.find =
      Function.update db.invitations.find written.id (some written) := h.rows
  refine Polled.put sound (v := verifierId) rows ?votes h.ballots.loaded ?alone ?counted ?short
    ?invited
  case votes =>
    intro k apart
    rw [votes, Function.update_of_ne apart]
  case alone =>
    intro j found apart isOpen' circle applicant
    obtain rfl := sound.single j i found h.found isOpen' isOpen circle applicant
    exact apart rfl
  case counted =>
    intro timely
    have before : db.hasVote i.id verifierId = false := by
      rw [hasVote, waiting, Option.any_some, not_yet]
      rfl
    rw [approvals_gain before (hasVote_update votes rfl) fun w apart => hasVote_others votes apart,
      ← sound.counted i h.found isOpen id]
  case short =>
    intro pending timely
    by_contra enough
    exact timely ⟨rfl, pending, Nat.not_lt.mp enough⟩
  case invited =>
    intro offer
    rw [h.pending] at offer
    cases offer

/-! ## Runs -/

/-- Nobody applies beside an offer, and an offer that needs more than one vote is not
taken over by the code of another inviter. -/
def orderly (db : Db) : Act → Bool
  | .joinCircle userId circleId _ => !db.offered userId circleId
  | .joinByToken issuerId viewerId circleId _ => db.invitations.rows.all fun i =>
    !(i.circleID = circleId && i.applicantID = viewerId && i.status = .invited) ||
      i.inviterID = issuerId || i.requiredCount.val ≤ 1
  | _ => true

theorem Turns.sound (h : Turns db act db') (orderly : db.orderly act = true) (sound : Sound db) :
    Sound db' := by
  cases h with
  | closes h idle => exact h.polled sound
  | loads i found same =>
    subst same
    refine sound.fewer (fun _ _ found _ => ⟨found, False.elim⟩) (rowsFollow_of_same rfl)
      (fun _ _ => rfl) (fun _ _ _ found => Or.inl (Option.isSome_of_eq_some found)) ?_
    intro seen member
    rcases List.mem_cons.mp member with rfl | old
    · exact Or.inr found
    · exact Or.inl old
  | applies i call own fresh pending none_yet alone rows verifiers loaded idle =>
    refine Polled.put sound rows (v := i.applicantID) (fun _ _ => by rw [verifiers]) loaded ?alone
      ?counted ?short ?invited
    case alone =>
      intro j found apart isOpen circle applicant
      rw [own, Db.orderly, offered, Bool.not_eq_true', List.any_eq_false] at orderly
      have not_invited := orderly j (Table.find_mem found)
      have not_pending := alone j found circle applicant
      simp only [circle, applicant, decide_true, Bool.true_and, decide_eq_true_eq] at not_invited
      cases status : j.status with
      | invited => exact not_invited status
      | pending => exact not_pending status
      | approved | rejected | adminApproved | cancelled =>
        rw [status] at isOpen
        cases isOpen
    case counted =>
      intro _
      rw [none_yet]
      refine (approvals_none fun w => ?_).symm
      rw [verifiers, votes_absent sound fresh]
    case short =>
      intro _ _
      rw [none_yet]
      exact i.requiredCount.property.1
    case invited =>
      intro offer
      rw [pending] at offer
      cases offer
  | offers h => exact offers_sound h sound
  | accepts existing inviterId applicantId circle opts call created mid consented own scanned
      written ends =>
    have polled := written.polled sound fun i found offer => by
      rcases scanned with rfl | ⟨seen, -, read, by_inviter, j, here, same⟩
      · obtain ⟨there, circle_eq, applicant, -⟩ :=
          openInvitation_some (written.found.trans found)
        have fit := List.all_eq_true.mp orderly i (Table.find_mem there)
        simpa [circle_eq, applicant, offer] using fit
      · obtain ⟨i', there, own⟩ := sound.loaded seen read
        rw [found] at here
        cases here
        rw [← same, (openInvitation_some (written.found.trans found)).1] at there
        cases there
        exact Or.inl ((own offer).trans by_inviter)
    rcases ends with ⟨rfl, short⟩ | ⟨-, finalizing⟩
    · exact polled.sound fun id due => Nat.not_lt.mpr due.2.2 short
    · exact finalizing.polled polled (fun id due => due.1) written.created_row
        (isOpen_pending (written.created_status consented)) rfl
  | votes i verifierId mid voted ends =>
    have polled := voted.polled sound
    rcases ends with ⟨rfl, short⟩ | ⟨-, finalizing⟩
    · exact polled.sound fun id due => Nat.not_lt.mpr due.2.2 short
    · exact finalizing.polled polled (fun id due => due.1) voted.voted_row
        (isOpen_pending voted.pending) rfl
  | overrides i adminId call m by_admin found pending admin manages ends =>
    exact ends.polled sound (fun _ => False.elim) found (isOpen_pending pending) rfl
  | reconciles i found pending enough ends =>
    exact ends.polled sound (fun _ => False.elim) found (isOpen_pending pending) rfl

/-- At one of the acts the row came to `PENDING`, and that act was of the user's own. -/
def CameBy (acts : List Act) (id : InvitationId) (u : UserId) : Prop :=
  ∃ before act after, acts = before ++ act :: after ∧ act.ownOf u = true ∧
    ∃ s s', Run Step Db.empty before s ∧ Step s act s' ∧
      (∀ old, s.invitations.find id = some old → old.status ≠ .pending) ∧
      ∃ i, s'.invitations.find id = some i ∧ i.status = .pending

theorem CameBy.later {acts : List Act} {u : UserId} (h : CameBy acts id u)
    (act : Act) : CameBy (acts ++ [act]) id u := by
  obtain ⟨before, own, after, rfl, rest⟩ := h
  exact ⟨before, own, after ++ [act], by simp, rest⟩

theorem pending_by_own {acts : List Act} (run : Run Step Db.empty acts db)
    (found : db.invitations.find i.id = some i) (pending : i.status = .pending) :
    CameBy acts i.id i.applicantID := by
  induction run generalizing i with
  | nil => cases found
  | @snoc t db acts act run step ih =>
    have old_or_new : (∃ old, t.invitations.find i.id = some old ∧ old.status = .pending) ∨
        ∀ old, t.invitations.find i.id = some old → old.status ≠ .pending := by
      by_cases old : ∃ old, t.invitations.find i.id = some old ∧ old.status = .pending
      · exact Or.inl old
      · exact Or.inr fun row there waiting => old ⟨row, there, waiting⟩
    rcases old_or_new with ⟨old, there, waiting⟩ | fresh
    · have key : old.id = i.id := Table.find_key there
      obtain ⟨i', here, follows⟩ := (commit_turns step).rowsFollow i.id old there
      rw [found] at here
      cases here
      rw [← key, follows.applicant]
      exact (ih (key ▸ there) waiting).later act
    · have changed : Changed t i := fun old there => by
        rw [pending]
        exact fresh old there
      have grounds := (commit_turns step).grounds found changed
      rw [Grounds, pending] at grounds
      exact ⟨acts, act, [], rfl, grounds, t, db, run, step, fresh, i, found, pending⟩

end Db

/-- In the runs of the orderly one row of an applicant is open at a time, and while it is
pending its count is that of its votes and short. In every run the voters are members
when they vote, a row is approved by its count or by an active owner or admin, members come
in on a row that was pending by their own act, and a closed row stays as it is. -/
theorem invitations_polled {acts : List Act} {db : Db} (run : Run Step Db.empty acts db) :
    (Run (Run.Where Step fun db act => db.orderly act = true) Db.empty acts db →
      (∀ i j, db.invitations.find i.id = some i → db.invitations.find j.id = some j →
        i.status.isOpen = true → j.status.isOpen = true → i.circleID = j.circleID →
        i.applicantID = j.applicantID → i = j) ∧
      ∀ i, db.invitations.find i.id = some i → i.status = .pending →
        i.approvedCount = db.approvals i.id ∧ i.approvedCount < i.requiredCount) ∧
    ∀ act db', Step db act db' →
      (∀ id v row, db'.verifiers.find (id, v) = some row → row.status = .approved →
        (∀ old, db.verifiers.find (id, v) = some old → old.status ≠ .approved) →
        ∃ i, db'.invitations.find id = some i ∧ db.isActive v i.circleID = true) ∧
      (∀ i, db'.invitations.find i.id = some i → Db.Changed db i →
        (i.status = .approved → i.requiredCount.val ≤ i.approvedCount) ∧
        (i.status = .adminApproved → ∃ adminId call m, act = .adminApprove adminId i.id call ∧
          db.memberOf adminId i.circleID = some m ∧ m.manages = true)) ∧
      (∀ u c, db.isActive u c = false → db'.isActive u c = true →
        (∃ dto now, act = .createCircle u dto c now) ∨
          ∃ i, Db.Admits db db' u c i ∧ (act.ownOf u = true ∨ Db.CameBy acts i.id u)) ∧
      ∀ i, db.invitations.find i.id = some i → i.status.isOpen = false →
        db'.invitations.find i.id = some i := by
  constructor
  · intro orderly
    have sound : db.Sound := by
      apply orderly.preserves (P := Db.Sound)
      · exact fun _ _ _ step sound => (Db.commit_turns step.1).sound step.2 sound
      · exact ⟨nofun, nofun, nofun, nofun, nofun, nofun⟩
    exact ⟨sound.single, fun i found pending =>
      ⟨sound.counted i found (Db.isOpen_pending pending) id, sound.short i found pending id⟩⟩
  · intro act db' step
    have turns := Db.commit_turns step
    refine ⟨fun id v row => turns.voters, ?_, ?_, ?_⟩
    · intro i found changed
      have grounds := turns.grounds found changed
      unfold Db.Grounds at grounds
      constructor
      · intro approved
        rw [approved] at grounds
        exact grounds.1
      · intro approved
        rw [approved] at grounds
        exact grounds.2
    · intro u c outside inside
      rcases turns.admits outside inside with founder | ⟨i, admits⟩
      · exact Or.inl founder
      · refine Or.inr ⟨i, admits, ?_⟩
        have grounds := turns.grounds admits.found admits.changed
        have waiting : (∃ old, db.invitations.find i.id = some old ∧ old.status = .pending) ∨
            act.ownOf i.applicantID = true := by
          unfold Db.Grounds at grounds
          rcases admits.approved with approved | approved <;> rw [approved] at grounds
          · exact grounds.2
          · exact Or.inl grounds.1
        rcases waiting with ⟨old, there, pending⟩ | own
        · have key : old.id = i.id := Table.find_key there
          obtain ⟨i', here, follows⟩ := turns.rowsFollow i.id old there
          rw [admits.found] at here
          cases here
          right
          rw [← admits.applicant, follows.applicant, ← key]
          exact Db.pending_by_own run (key ▸ there) pending
        · exact Or.inl (admits.applicant ▸ own)
    · intro i found closed
      obtain ⟨i', there, follows⟩ := turns.rowsFollow i.id i found
      rw [there, follows.closed closed]

/-- User 2 has applied, and has one row. -/
theorem invitations_polled_applied :
    (∀ i, applied.invitations.find i.id = some i → i.status = .pending →
      i.approvedCount = applied.approvals i.id ∧ i.approvedCount < i.requiredCount) ∧
    ∃ i, Db.Admits applied admitted 2 10 i ∧ Db.CameBy applyingActs i.id 2 := by
  have run : Run Step Db.empty applyingActs applied := run_of_after rfl
  have polled := invitations_polled run
  constructor
  · have orderly : applyingActs.foldlM
        (Run.whenever Db.orderly fun db act => (db.commit act).toOption) Db.empty = some applied :=
      rfl
    exact (polled.1 ((Run.where_of_foldlM orderly).mono fun _ _ _ step =>
      ⟨toOption_some step.1, step.2⟩)).2
  · rcases (polled.2 (.adminApprove 1 0 (callAt 2 0)) admitted rfl).2.2.1 2 10 (by decide)
      (by decide) with ⟨_, _, founder⟩ | ⟨i, admits, own | came⟩
    · cases founder
    · cases own
    · exact ⟨i, admits, came⟩

/-! ## Two that are not orderly -/

/-- User 2 applies beside an offer. -/
def doublingActs : List Act :=
  foundingActs ++ [.invite 1 2 10 (callAt 1 0), .joinCircle 2 10 (callAt 2 1)]

def doubled : Db := (Db.empty.after doublingActs).getD Db.empty

/-- User 3 is a member too; user 2 has an offer of user 1, and scans the code of user 3. -/
def rescanningActs : List Act :=
  [.setUser (.regular 1), .setUser (.regular 2), .setUser (.regular 3),
    .createCircle 1 ⟨none, none, none, false, some ⟨3, by decide⟩⟩ 10 0,
    .joinCircle 3 10 (callAt 1 0), .adminApprove 1 0 (callAt 2 0),
    .invite 1 2 10 (callAt 3 1), .joinByToken 3 2 10 (callAt 4 2)]

def rescanned : Db := (Db.empty.after rescanningActs).getD Db.empty

/-- Two rows of a user are open at a time, and a row counts one vote of two. -/
theorem ballots_disagree :
    (Run Step Db.empty doublingActs doubled ∧
      ∃ i j, doubled.invitations.find i.id = some i ∧ doubled.invitations.find j.id = some j ∧
        i.status.isOpen = true ∧ j.status.isOpen = true ∧ i.circleID = j.circleID ∧
        i.applicantID = j.applicantID ∧ i ≠ j) ∧
    Run Step Db.empty rescanningActs rescanned ∧
      ∃ i, rescanned.invitations.find i.id = some i ∧ i.status = .pending ∧
        i.approvedCount = 1 ∧ rescanned.approvals i.id = 2 := by
  refine ⟨⟨run_of_after rfl, ?_⟩, run_of_after rfl, ?_⟩
  · exact ⟨(doubled.invitations.find 0).get rfl, (doubled.invitations.find 1).get rfl, rfl, rfl,
      rfl, rfl, rfl, rfl, by decide⟩
  · exact ⟨(rescanned.invitations.find 1).get rfl, rfl, rfl, rfl, by decide⟩

end CircleBackend.Joining
