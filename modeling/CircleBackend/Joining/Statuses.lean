import CircleBackend.Joining.Invitations

/-!
# How a row goes on

A closed row is never changed again, a row comes to `PENDING` by an act of its
applicant, and a member comes from a row that is approved in the same transaction.
-/

namespace CircleBackend.Joining

open Library Memberships
open CircleBackend.Circle (CircleMemberRole CircleMemberStatus)
open Session (UserId)

/-- `after` is a later state of the row `before`. -/
structure CircleInvitation.Follows (before after : CircleInvitation) : Prop where
  circle : after.circleID = before.circleID
  applicant : after.applicantID = before.applicantID
  closed : before.status.isOpen = false → after = before
  invited : after.status = .invited → after = before

namespace CircleInvitation.Follows

theorem refl (i : CircleInvitation) : i.Follows i := ⟨rfl, rfl, fun _ => rfl, fun _ => rfl⟩

theorem trans {i j k : CircleInvitation} (first : i.Follows j) (second : j.Follows k) :
    i.Follows k where
  circle := second.circle.trans first.circle
  applicant := second.applicant.trans first.applicant
  closed h := by
    obtain rfl := first.closed h
    exact second.closed h
  invited h := by
    obtain rfl := second.invited h
    exact first.invited h

end CircleInvitation.Follows

namespace Db

variable {db db' mid : Db} {act : Act}

def RowsFollow (db db' : Db) : Prop :=
  ∀ id i, db.invitations.find id = some i →
    ∃ i', db'.invitations.find id = some i' ∧ i.Follows i'

theorem RowsFollow.trans (first : RowsFollow db mid) (second : RowsFollow mid db') :
    RowsFollow db db' := by
  intro id i found
  obtain ⟨j, there, follows⟩ := first id i found
  obtain ⟨k, there', follows'⟩ := second id j there
  exact ⟨k, there', follows.trans follows'⟩

variable {i created : CircleInvitation} {applicantId inviterId : UserId} {call : Call}
variable {circle : Circle} {existing : Option CircleInvitation} {opts : InviteOptions}

theorem withdrawn_follows {before after : Option CircleInvitation} (h : Withdrawn before after)
    (found : before = some i) : ∃ i', after = some i' ∧ i.Follows i' := by
  rcases h with rfl | ⟨j, s, rfl, isOpen, closed, rfl⟩
  · exact ⟨i, found, .refl i⟩
  · cases found
    refine ⟨_, rfl, rfl, rfl, fun h => ?_, fun h => ?_⟩
    · rw [isOpen] at h
      cases h
    · rcases closed with rfl | rfl <;> cases h

theorem rowsFollow_of_same (rows : db'.invitations.find = db.invitations.find) :
    RowsFollow db db' :=
  fun _ i found => ⟨i, rows ▸ found, .refl i⟩

theorem rowsFollow_update {id : InvitationId}
    (rows : db'.invitations.find = Function.update db.invitations.find id (some created))
    (own : ∀ i, db.invitations.find id = some i → i.Follows created) : RowsFollow db db' := by
  intro other i found
  by_cases here : other = id
  · subst here
    exact ⟨created, by rw [rows, Function.update_self], own i found⟩
  · exact ⟨i, by rw [rows, Function.update_of_ne here, found], .refl i⟩

theorem Finalizing.rowsFollow {status : CircleInvitationStatus}
    (h : Finalizing mid i status db') (here : mid.invitations.find i.id = some i)
    (isOpen : i.status.isOpen = true) (closed : status.isOpen = false) : RowsFollow mid db' := by
  intro id j found
  by_cases own : id = i.id
  · subst own
    rw [here] at found
    cases found
    refine ⟨_, h.own, rfl, rfl, fun h => ?_, ?_⟩
    · rw [isOpen] at h
      cases h
    · rintro rfl
      cases closed
  · exact withdrawn_follows (h.others id own) found

theorem Offers.rowsFollow (h : Offers db db') : RowsFollow db db' := by
  intro id i found
  rcases h.rows id with same | ⟨absent, -⟩
  · exact ⟨i, same ▸ found, .refl i⟩
  · rw [absent] at found
    cases found

/-- What the row that is written was before. -/
theorem Written.existing_row
    (h : Written db existing inviterId applicantId circle opts call created mid)
    (found : db.invitations.find created.id = some i) : existing = some i := by
  cases existing with
  | none =>
    rw [h.fresh rfl] at found
    cases found
  | some j =>
    obtain ⟨held, -, -, -⟩ := openInvitation_some h.found
    have own : created.id = j.id := by
      rw [h.data, invitationData, Option.map_some, Option.getD_some]
    rw [own, held] at found
    exact found

theorem Written.rowsFollow
    (h : Written db existing inviterId applicantId circle opts call created mid)
    (consented : opts.applicantConsented = true) : RowsFollow db mid := by
  refine rowsFollow_update h.rows fun i found => ?_
  have existing_row := h.existing_row found
  obtain ⟨-, circle_eq, applicant, isOpen⟩ :=
    openInvitation_some (h.found.trans existing_row)
  have status : created.status = .pending := by
    rw [h.data, invitationData, consented, if_pos rfl]
  constructor
  case circle => rw [h.data, circle_eq, invitationData]
  case applicant => rw [h.data, applicant, invitationData]
  case closed =>
    intro closed
    rw [isOpen] at closed
    cases closed
  case invited =>
    intro invited
    rw [status] at invited
    cases invited

theorem Voted.rowsFollow {verifierId : UserId}
    (h : Voted db i verifierId mid) : RowsFollow db mid := by
  refine rowsFollow_update h.rows fun j found => ?_
  rw [h.found] at found
  cases found
  refine ⟨rfl, rfl, fun closed => ?_, fun invited => ?_⟩
  · rw [isOpen_pending h.pending] at closed
    cases closed
  · rw [h.pending] at invited
    cases invited

theorem Written.created_row
    (h : Written db existing inviterId applicantId circle opts call created mid) :
    mid.invitations.find created.id = some created := by
  rw [h.rows, Function.update_self]

theorem Voted.voted_row {verifierId : UserId} (h : Voted db i verifierId mid) :
    mid.invitations.find i.id = some { i with approvedCount := i.approvedCount + 1 } := by
  rw [h.rows, Function.update_self]

theorem Written.created_status
    (h : Written db existing inviterId applicantId circle opts call created mid)
    (consented : opts.applicantConsented = true) : created.status = .pending := by
  rw [h.data, invitationData, consented, if_pos rfl]

theorem Turns.rowsFollow (h : Turns db act db') : RowsFollow db db' := by
  cases h with
  | closes h idle => exact fun id i found => withdrawn_follows (h.rows id) found
  | loads i found same =>
    rw [same]
    exact rowsFollow_of_same rfl
  | applies i call own fresh pending none_yet alone rows verifiers loaded idle =>
    refine rowsFollow_update rows fun j found => ?_
    rw [fresh] at found
    cases found
  | offers h => exact (Offers.of_offers h).rowsFollow
  | accepts existing inviterId applicantId circle opts call created mid consented own scanned
      written ends =>
    rcases ends with ⟨rfl, -⟩ | ⟨-, finalizing⟩
    · exact written.rowsFollow consented
    · exact (written.rowsFollow consented).trans (finalizing.rowsFollow written.created_row
        (isOpen_pending (written.created_status consented)) rfl)
  | votes i verifierId mid voted ends =>
    rcases ends with ⟨rfl, -⟩ | ⟨-, finalizing⟩
    · exact voted.rowsFollow
    · exact voted.rowsFollow.trans (finalizing.rowsFollow voted.voted_row
        (isOpen_pending voted.pending) rfl)
  | overrides i adminId call m by_admin found pending admin manages ends =>
    exact ends.rowsFollow found (isOpen_pending pending) rfl
  | reconciles i found pending enough ends =>
    exact ends.rowsFollow found (isOpen_pending pending) rfl

/-! ## Why a row has its status -/

/-- What a transaction that gives the row its status had to find. -/
def Grounds (db : Db) (act : Act) (i : CircleInvitation) : Prop :=
  match i.status with
  | .pending => act.ownOf i.applicantID = true
  | .approved => i.requiredCount.val ≤ i.approvedCount ∧
      ((∃ old, db.invitations.find i.id = some old ∧ old.status = .pending) ∨
        act.ownOf i.applicantID = true)
  | .adminApproved => (∃ old, db.invitations.find i.id = some old ∧ old.status = .pending) ∧
      ∃ adminId call m, act = .adminApprove adminId i.id call ∧
        db.memberOf adminId i.circleID = some m ∧ m.manages = true
  | _ => True

/-- The row has a status that it did not have. -/
def Changed (db : Db) (i : CircleInvitation) : Prop :=
  ∀ old, db.invitations.find i.id = some old → old.status ≠ i.status

theorem not_changed (found : db.invitations.find i.id = some i) : ¬ Changed db i :=
  fun changed => changed i found rfl

theorem grounds_of_withdrawn (changed : Changed db i)
    (h : Withdrawn (db.invitations.find i.id) (some i)) : Grounds db act i := by
  rcases h with same | ⟨j, s, before, -, closed, after⟩
  · exact absurd changed (not_changed same.symm)
  · have status : i.status = s := by rw [Option.some.inj after]
    unfold Grounds
    rcases closed with rfl | rfl <;> simp only [status]

theorem Written.applicant
    (h : Written db existing inviterId applicantId circle opts call created mid) :
    created.applicantID = applicantId := by
  rw [h.data, invitationData]

theorem Written.circle_eq
    (h : Written db existing inviterId applicantId circle opts call created mid) :
    created.circleID = circle.id := by
  rw [h.data, invitationData]

theorem Turns.grounds (h : Turns db act db')
    (found : db'.invitations.find i.id = some i) (changed : Changed db i) : Grounds db act i := by
  cases h with
  | closes h idle => exact grounds_of_withdrawn changed (found ▸ h.rows i.id)
  | loads j here same =>
    subst same
    exact absurd changed (not_changed found)
  | applies j call own fresh pending none_yet alone rows verifiers loaded idle =>
    rw [rows] at found
    by_cases here : i.id = j.id
    · rw [here, Function.update_self] at found
      cases found
      unfold Grounds
      rw [pending]
      simp [own, Act.ownOf]
    · rw [Function.update_of_ne here] at found
      exact absurd changed (not_changed found)
  | offers h =>
    rcases (Offers.of_offers h).rows i.id with same | ⟨-, j, there, invited⟩
    · rw [same] at found
      exact absurd changed (not_changed found)
    · rw [there] at found
      cases found
      unfold Grounds
      rw [invited]
      trivial
  | accepts existing inviterId applicantId circle opts call created mid consented own scanned
      written ends =>
    rw [← written.applicant] at own
    rcases ends with ⟨rfl, -⟩ | ⟨enough, finalizing⟩
    · rw [written.rows] at found
      by_cases here : i.id = created.id
      · rw [here, Function.update_self] at found
        cases found
        unfold Grounds
        rw [written.created_status consented]
        exact own
      · rw [Function.update_of_ne here] at found
        exact absurd changed (not_changed found)
    · by_cases here : i.id = created.id
      · rw [here, finalizing.own] at found
        cases found
        exact ⟨enough, Or.inr own⟩
      · have others := finalizing.others i.id here
        rw [written.rows, Function.update_of_ne here, found] at others
        exact grounds_of_withdrawn changed others
  | votes j verifierId mid voted ends =>
    rcases ends with ⟨rfl, -⟩ | ⟨enough, finalizing⟩
    · rw [voted.rows] at found
      by_cases here : i.id = j.id
      · rw [here, Function.update_self] at found
        cases found
        exact absurd rfl (changed j voted.found)
      · rw [Function.update_of_ne here] at found
        exact absurd changed (not_changed found)
    · by_cases here : i.id = j.id
      · rw [here, finalizing.own] at found
        cases found
        exact ⟨enough, Or.inl ⟨j, voted.found, voted.pending⟩⟩
      · have others := finalizing.others i.id here
        rw [voted.rows, Function.update_of_ne here, found] at others
        exact grounds_of_withdrawn changed others
  | overrides j adminId call m by_admin there pending admin manages ends =>
    by_cases here : i.id = j.id
    · rw [here, ends.own] at found
      cases found
      exact ⟨⟨j, there, pending⟩, adminId, call, m, by_admin, admin, manages⟩
    · exact grounds_of_withdrawn changed (found ▸ ends.others i.id here)
  | reconciles j there pending enough ends =>
    by_cases here : i.id = j.id
    · rw [here, ends.own] at found
      cases found
      exact ⟨enough, Or.inl ⟨j, there, pending⟩⟩
    · exact grounds_of_withdrawn changed (found ▸ ends.others i.id here)

/-- The row that has brought the user in, in the same transaction. -/
structure Admits (db db' : Db) (u : UserId) (c : CircleId) (i : CircleInvitation) : Prop where
  found : db'.invitations.find i.id = some i
  circle : i.circleID = c
  applicant : i.applicantID = u
  approved : i.status = .approved ∨ i.status = .adminApproved
  changed : Changed db i

theorem Finalizing.admits {status : CircleInvitationStatus} {u : UserId}
    {c : CircleId} (h : Finalizing mid i status db')
    (members : mid.members = db.members) (approved : status = .approved ∨ status = .adminApproved)
    (was : ∀ old, db.invitations.find i.id = some old → old.status.isOpen = true)
    (outside : db.isActive u c = false) (inside : db'.isActive u c = true) :
    Admits db db' u c { i with status := status } := by
  have same : mid.isActive u c = db.isActive u c := by
    rw [isActive, memberOf, members, isActive, memberOf]
  obtain ⟨rfl, rfl⟩ := h.gained u c (same.trans outside) inside
  refine ⟨h.own, rfl, rfl, approved, fun old found same => ?_⟩
  have isOpen := was old found
  rw [same] at isOpen
  rcases approved with rfl | rfl <;> cases isOpen

theorem Turns.admits {u : UserId} {c : CircleId} (h : Turns db act db')
    (outside : db.isActive u c = false) (inside : db'.isActive u c = true) :
    (∃ dto now, act = .createCircle u dto c now) ∨ ∃ i, Admits db db' u c i := by
  have absurd_of : db'.isActive u c = db.isActive u c → False := by
    intro same
    rw [same, outside] at inside
    cases inside
  cases h with
  | closes h idle =>
    rcases idle u c inside with active | founder
    · rw [active] at outside
      cases outside
    · exact Or.inl founder
  | loads j here same =>
    subst same
    exact (absurd_of rfl).elim
  | applies j call own fresh pending none_yet alone rows verifiers loaded idle =>
    exact (absurd_of (idle u c)).elim
  | offers h =>
    have members := (Offers.of_offers h).members
    exact (absurd_of (by rw [isActive, memberOf, members, isActive, memberOf])).elim
  | accepts existing inviterId applicantId circle opts call created mid consented own scanned
      written ends =>
    have members := written.ballots.members
    rcases ends with ⟨rfl, -⟩ | ⟨-, finalizing⟩
    · exact (absurd_of (by rw [isActive, memberOf, members, isActive, memberOf])).elim
    · refine Or.inr ⟨_, finalizing.admits members (Or.inl rfl) (fun old found => ?_) outside inside⟩
      exact (openInvitation_some (written.found.trans (written.existing_row found))).2.2.2
  | votes j verifierId mid voted ends =>
    have members := voted.ballots.members
    rcases ends with ⟨rfl, -⟩ | ⟨-, finalizing⟩
    · exact (absurd_of (by rw [isActive, memberOf, members, isActive, memberOf])).elim
    · refine Or.inr ⟨_, finalizing.admits members (Or.inl rfl) (fun old found => ?_) outside inside⟩
      rw [voted.found] at found
      cases found
      exact isOpen_pending voted.pending
  | overrides j adminId call m by_admin there pending admin manages ends =>
    refine Or.inr ⟨_, ends.admits rfl (Or.inr rfl) (fun old found => ?_) outside inside⟩
    rw [there] at found
    cases found
    exact isOpen_pending pending
  | reconciles j there pending enough ends =>
    refine Or.inr ⟨_, ends.admits rfl (Or.inl rfl) (fun old found => ?_) outside inside⟩
    rw [there] at found
    cases found
    exact isOpen_pending pending

/-- Who votes is a member. -/
theorem Turns.voters {id : InvitationId} {v : UserId} {row : CircleInvitationVerifier}
    (h : Turns db act db') (found : db'.verifiers.find (id, v) = some row)
    (approved : row.status = .approved)
    (new : ∀ old, db.verifiers.find (id, v) = some old → old.status ≠ .approved) :
    ∃ i, db'.invitations.find id = some i ∧ db.isActive v i.circleID = true := by
  have not_new : db.verifiers.find (id, v) ≠ some row := fun old => new row old approved
  cases h with
  | closes h idle => exact absurd (h.votes _ row found approved) not_new
  | loads j here same =>
    subst same
    exact absurd found not_new
  | applies j call own fresh pending none_yet alone rows verifiers loaded idle =>
    rw [verifiers] at found
    exact absurd found not_new
  | offers h =>
    rcases (Offers.of_offers h).votes id v row found with old | voter
    · exact absurd old not_new
    · exact voter
  | accepts existing inviterId applicantId circle opts call created mid consented own scanned
      written ends =>
    have votes : db'.verifiers = mid.verifiers := by
      rcases ends with ⟨rfl, -⟩ | ⟨-, finalizing⟩
      · rfl
      · exact finalizing.verifiers
    rw [votes, written.votes] at found
    by_cases here : (id, v) = (created.id, inviterId)
    · obtain ⟨rfl, rfl⟩ := Prod.mk.inj here
      rcases ends with ⟨rfl, -⟩ | ⟨-, finalizing⟩
      · exact ⟨created, written.created_row, written.circle_eq ▸ written.inviter⟩
      · exact ⟨_, finalizing.own, written.circle_eq ▸ written.inviter⟩
    · rw [Function.update_of_ne here] at found
      exact absurd found not_new
  | votes j verifierId mid voted ends =>
    obtain ⟨record, -, -, votes⟩ := voted.open_vote
    have kept : db'.verifiers = mid.verifiers := by
      rcases ends with ⟨rfl, -⟩ | ⟨-, finalizing⟩
      · rfl
      · exact finalizing.verifiers
    rw [kept, votes] at found
    by_cases here : (id, v) = (j.id, verifierId)
    · obtain ⟨rfl, rfl⟩ := Prod.mk.inj here
      rcases ends with ⟨rfl, -⟩ | ⟨-, finalizing⟩
      · exact ⟨_, voted.voted_row, voted.voter⟩
      · exact ⟨_, finalizing.own, voted.voter⟩
    · rw [Function.update_of_ne here] at found
      exact absurd found not_new
  | overrides j adminId call m by_admin there pending admin manages ends =>
    rw [ends.verifiers] at found
    exact absurd found not_new
  | reconciles j there pending enough ends =>
    rw [ends.verifiers] at found
    exact absurd found not_new

end Db

end CircleBackend.Joining
