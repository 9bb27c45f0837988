import CircleBackend.Joining.Effects
import Mathlib.Logic.Relation

/-!
# What the transactions do to the invitations

A row is written by its applicant's own act or by a member's offer, voted on, and
closed; a closed row stays as it is. Every transaction is one of the `Turns`.
-/

namespace CircleBackend.Joining

open Library Memberships
open CircleBackend.Circle (CircleMemberRole CircleMemberStatus)
open Session (UserId)

/-- An act of the applicant's own. -/
def Act.ownOf (applicant : UserId) : Act → Bool
  | .joinCircle userId _ _ => userId = applicant
  | .joinByToken _ viewerId _ _ => viewerId = applicant
  | .respondToInvitation userId _ accept _ => userId = applicant && accept
  | _ => false

namespace Db

variable {db db' : Db}

/-- The row is as before, or it was open and has been cancelled or rejected. -/
def Withdrawn (before after : Option CircleInvitation) : Prop :=
  after = before ∨ ∃ i s, before = some i ∧ i.status.isOpen = true ∧
    (s = .cancelled ∨ s = .rejected) ∧ after = some { i with status := s }

/-- Rows are withdrawn, and no vote is cast for one. -/
structure Closing (db db' : Db) : Prop where
  rows : ∀ id, Withdrawn (db.invitations.find id) (db'.invitations.find id)
  votes : ∀ k row, db'.verifiers.find k = some row → row.status = .approved →
    db.verifiers.find k = some row
  kept : ∀ k row, db.verifiers.find k = some row → row.status = .approved →
    db'.verifiers.find k = some row
  voters : ∀ id v row, db'.verifiers.find (id, v) = some row →
    (db.verifiers.find (id, v)).isSome ∨ ∃ i, db.invitations.find id = some i ∧ i.status = .pending
  loaded : db'.loaded = db.loaded

/-- The row ends in `status`, with others of its applicant cancelled. -/
structure Finalizing (mid : Db) (i : CircleInvitation) (status : CircleInvitationStatus)
    (db' : Db) : Prop where
  own : db'.invitations.find i.id = some { i with status := status }
  others : ∀ id, id ≠ i.id → Withdrawn (mid.invitations.find id) (db'.invitations.find id)
  verifiers : db'.verifiers = mid.verifiers
  loaded : db'.loaded = mid.loaded
  gained : ∀ u c, mid.isActive u c = false → db'.isActive u c = true →
    u = i.applicantID ∧ c = i.circleID

/-- The inviter's vote on the row that an invitation writes. -/
structure Written (db : Db) (existing : Option CircleInvitation) (inviterId applicantId : UserId)
    (circle : Circle) (opts : InviteOptions) (call : Call) (created : CircleInvitation) (mid : Db) :
    Prop where
  found : db.openInvitation circle.id applicantId call.scan = existing
  fit : ∀ i, existing = some i → opts.applicantConsented = true ∧
    (i.status = .invited ∨ db.repairPendingInviter i inviterId applicantId = true)
  data : created = invitationData existing inviterId applicantId circle opts call
  inviter : db.isActive inviterId circle.id = true
  outside : db.isActive applicantId circle.id = false
  fresh : existing = none → db.invitations.find created.id = none
  unvoted : existing = none → db.verifiers.find (created.id, inviterId) = none
  rows : mid.invitations.find = Function.update db.invitations.find created.id (some created)
  votes : mid.verifiers.find = Function.update db.verifiers.find (created.id, inviterId)
    (some ⟨created.id, inviterId, inviterId, .approved⟩)
  ballots : Ballots db mid

/-- A member's offer writes a new row. -/
def Offer (db db' : Db) : Prop :=
  ∃ inviterId applicantId circle call created,
    Written db none inviterId applicantId circle .offered call created db'

/-- Offers of members: new rows, each with the vote of its inviter. -/
structure Offers (db db' : Db) : Prop where
  members : db'.members = db.members
  rows : ∀ id, db'.invitations.find id = db.invitations.find id ∨
    db.invitations.find id = none ∧ ∃ i, db'.invitations.find id = some i ∧ i.status = .invited
  votes : ∀ id v row, db'.verifiers.find (id, v) = some row → db.verifiers.find (id, v) = some row ∨
    ∃ i, db'.invitations.find id = some i ∧ db.isActive v i.circleID = true
  loaded : db'.loaded = db.loaded

/-- A verifier's vote for a row. -/
structure Voted (db : Db) (i : CircleInvitation) (verifierId : UserId) (mid : Db) : Prop where
  found : db.invitations.find i.id = some i
  pending : i.status = .pending
  voter : db.isActive verifierId i.circleID = true
  open_vote : ∃ row, db.verifiers.find (i.id, verifierId) = some row ∧ row.status = .pending ∧
    mid.verifiers.find = Function.update db.verifiers.find (i.id, verifierId)
      (some { row with status := .approved })
  rows : mid.invitations.find = Function.update db.invitations.find i.id
    (some { i with approvedCount := i.approvedCount + 1 })
  ballots : Ballots db mid

inductive Turns (db : Db) (act : Act) (db' : Db) : Prop
  | closes (h : Closing db db')
      (idle : ∀ u c, db'.isActive u c = true → db.isActive u c = true ∨
        ∃ dto now, act = .createCircle u dto c now)
  | loads (i : CircleInvitation) (found : db.invitations.find i.id = some i)
      (same : db' = { db with loaded := i :: db.loaded })
  | applies (i : CircleInvitation) (call : Call)
      (own : act = .joinCircle i.applicantID i.circleID call)
      (fresh : db.invitations.find i.id = none) (pending : i.status = .pending)
      (none_yet : i.approvedCount = 0)
      (alone : ∀ j, db.invitations.find j.id = some j → j.circleID = i.circleID →
        j.applicantID = i.applicantID → j.status ≠ .pending)
      (rows : db'.invitations.find = Function.update db.invitations.find i.id (some i))
      (verifiers : db'.verifiers = db.verifiers) (loaded : db'.loaded = db.loaded)
      (idle : ∀ u c, db'.isActive u c = db.isActive u c)
  | offers (h : Relation.ReflTransGen Offer db db')
  | accepts (existing : Option CircleInvitation) (inviterId applicantId : UserId) (circle : Circle)
      (opts : InviteOptions) (call : Call) (created : CircleInvitation) (mid : Db)
      (consented : opts.applicantConsented = true) (own : act.ownOf applicantId = true)
      (scanned : act = .joinByToken inviterId applicantId circle.id call ∨
        ∃ seen, act = .respondToInvitation applicantId seen true call ∧ seen ∈ db.loaded ∧
          seen.inviterID = inviterId ∧ ∃ i, existing = some i ∧ i.id = seen.id)
      (written : Written db existing inviterId applicantId circle opts call created mid)
      (ends : db' = mid ∧ created.approvedCount < created.requiredCount ∨
        created.requiredCount ≤ created.approvedCount ∧ Finalizing mid created .approved db')
  | votes (i : CircleInvitation) (verifierId : UserId) (mid : Db) (voted : Voted db i verifierId mid)
      (ends : db' = mid ∧ i.approvedCount + 1 < i.requiredCount ∨
        i.requiredCount ≤ i.approvedCount + 1 ∧
          Finalizing mid { i with approvedCount := i.approvedCount + 1 } .approved db')
  | overrides (i : CircleInvitation) (adminId : UserId) (call : Call) (m : CircleMember)
      (by_admin : act = .adminApprove adminId i.id call)
      (found : db.invitations.find i.id = some i) (pending : i.status = .pending)
      (admin : db.memberOf adminId i.circleID = some m) (manages : m.manages = true)
      (ends : Finalizing db i .adminApproved db')
  | reconciles (i : CircleInvitation) (found : db.invitations.find i.id = some i)
      (pending : i.status = .pending) (enough : i.requiredCount.val ≤ i.approvedCount)
      (ends : Finalizing db i .approved db')

variable {act : Act} {i : CircleInvitation} {mid : Db} {inviterId : UserId} {m : CircleMember}

/-- Nobody becomes a member. -/
theorem Turns.of_closing (h : Closing db db')
    (idle : ∀ u c, db'.isActive u c = true → db.isActive u c = true) : Turns db act db' :=
  .closes h fun u c active => Or.inl (idle u c active)

/-! ## The parts -/

theorem Withdrawn.refl (row : Option CircleInvitation) : Withdrawn row row := Or.inl rfl

theorem Closing.refl (db : Db) : Closing db db :=
  ⟨fun _ => .refl _, fun _ _ h _ => h, fun _ _ h _ => h,
    fun _ _ _ h => Or.inl (Option.isSome_of_eq_some h), rfl⟩

/-- Only the invitations have changed. -/
theorem Closing.of_rows (rows : ∀ id, Withdrawn (db.invitations.find id) (db'.invitations.find id))
    (verifiers : db'.verifiers = db.verifiers) (loaded : db'.loaded = db.loaded) :
    Closing db db' where
  rows := rows
  votes _ _ h _ := verifiers ▸ h
  kept _ _ h _ := verifiers ▸ h
  voters _ _ _ h := Or.inl (Option.isSome_of_eq_some (verifiers ▸ h))
  loaded := loaded

theorem withdrawn_map {row : Option CircleInvitation} {p : CircleInvitation → Prop}
    [DecidablePred p] {s : CircleInvitationStatus} (closed : s = .cancelled ∨ s = .rejected)
    (chosen : ∀ i, row = some i → p i → i.status.isOpen = true) :
    Withdrawn row (row.map fun i => if p i then { i with status := s } else i) := by
  cases row with
  | none => exact .refl none
  | some i =>
    by_cases hp : p i
    · refine Or.inr ⟨i, s, rfl, chosen i rfl hp, closed, ?_⟩
      rw [Option.map_some, if_pos hp]
    · rw [Option.map_some, if_neg hp]
      exact .refl _

theorem isOpen_pending (h : i.status = .pending) : i.status.isOpen = true := by
  rw [h]
  rfl

theorem cancelPendingInvitations_closing (circleId : CircleId) (userIds : List UserId) :
    Closing db (db.cancelPendingInvitations circleId userIds) := by
  refine .of_rows (fun id => ?_) rfl rfl
  rw [cancelPendingInvitations_find]
  exact withdrawn_map (Or.inl rfl) fun i _ chosen => isOpen_pending chosen.2.2

theorem Finalizing.of_ok {held : CircleInvitation} {status : CircleInvitationStatus}
    {actor : Actor} {now : Time} {gained : List UserId}
    (held_here : mid.invitations.find i.id = some held) (closed : status.isOpen = false)
    (h : mid.finalize i status actor now = .ok (db', gained)) : Finalizing mid i status db' := by
  have activated := activateMembers_ok h
  have put : ({ mid with invitations := mid.invitations.put { i with status := status } } :
      Db).invitations.find = Function.update mid.invitations.find i.id
        (some { i with status := status }) :=
    Table.put_update (a := { i with status := status }) held_here
  have idle : status ≠ .pending := by
    rintro rfl
    cases closed
  constructor
  case own =>
    rw [activated.invitations, put, Function.update_self, Option.map_some, if_neg]
    exact fun chosen => idle chosen.2.2
  case others =>
    intro id apart
    rw [activated.invitations, put, Function.update_of_ne apart]
    exact withdrawn_map (Or.inl rfl) fun j _ chosen => isOpen_pending chosen.2.2
  case verifiers => exact activated.rest.2.1
  case loaded => exact activated.rest.2.2.2
  case gained =>
    intro u c outside inside
    rw [activated.isActive] at inside
    rcases inside with ⟨rfl, chosen⟩ | inside
    · exact ⟨List.mem_singleton.mp (activated.requested u chosen), rfl⟩
    · rw [show mid.isActive u c = true from inside] at outside
      cases outside

variable {applicantId userId : UserId} {circleId : CircleId} {call : Call}
variable {invitationId : InvitationId}

theorem openInvitation_some {scan : InvitationId → Nat}
    (h : db.openInvitation circleId applicantId scan = some i) :
    db.invitations.find i.id = some i ∧ i.circleID = circleId ∧ i.applicantID = applicantId ∧
      i.status.isOpen = true := by
  obtain ⟨member, chosen⟩ := Table.findFirst_some h
  simp only [Bool.and_eq_true, decide_eq_true_eq] at chosen
  exact ⟨Table.mem_find member, chosen.1.1, chosen.1.2, chosen.2⟩

theorem Written.of_ok {existing : Option CircleInvitation} {circle : Circle} {opts : InviteOptions}
    {created : CircleInvitation} (inviter : db.isActive inviterId circle.id = true)
    (outside : db.isActive applicantId circle.id = false)
    (found : db.openInvitation circle.id applicantId call.scan = existing)
    (fit : ∀ i, existing = some i → opts.applicantConsented = true ∧
      (i.status = .invited ∨ db.repairPendingInviter i inviterId applicantId = true))
    (data : created = invitationData existing inviterId applicantId circle opts call)
    (wrote : db.writeInvitation existing created opts.applicantConsented = .ok mid) :
    Written db existing inviterId applicantId circle opts call created mid := by
  have by_inviter : created.inviterID = inviterId := by rw [data, invitationData]
  obtain ⟨invitations, verifiers, saved, voted, rfl⟩ := writeInvitation_ok wrote
  rw [by_inviter] at voted
  cases existing with
  | none =>
    rw [Option.isSome_none, if_neg Bool.false_ne_true] at saved
    rw [castFirstVote, Option.isNone_none, if_pos rfl] at voted
    exact ⟨found, fit, data, inviter, outside, fun _ => Table.insert_fresh saved,
      fun _ => Table.insert_fresh voted, Table.insert_update saved, Table.insert_update voted,
      rfl, rfl, rfl, rfl, rfl⟩
  | some i =>
    obtain ⟨held, -, -, -⟩ := openInvitation_some found
    have own : created.id = i.id := by rw [data, invitationData, Option.map_some, Option.getD_some]
    rw [Option.isSome_some, if_pos rfl] at saved
    cases saved
    rw [castFirstVote, Option.isNone_some, if_neg Bool.false_ne_true, (fit i rfl).1,
      if_pos rfl] at voted
    refine ⟨found, fit, data, inviter, outside, nofun, nofun,
      Table.put_update (a := created) (own ▸ held), ?_, rfl, rfl, rfl, rfl, rfl⟩
    rw [Table.insert_update voted]
    funext k
    by_cases here : k = (created.id, inviterId)
    · rw [here, Function.update_self, Function.update_self]
    · rw [Function.update_of_ne here, Function.update_of_ne here, Table.find_deleteMany]
      cases row : db.verifiers.find k with
      | none => rfl
      | some v =>
        have key := Table.find_key row
        rw [Option.filter_some, if_pos]
        rw [← key] at here
        simpa [-not_and, not_and_or] using here

/-! ## The transactions -/

theorem deleteMember_ballots (h : db.deleteMember m = .ok db') :
    db'.invitations = db.invitations ∧ db'.verifiers = db.verifiers ∧ db'.loaded = db.loaded := by
  unfold deleteMember at h
  dsimp only at h
  split at h
  · obtain ⟨circles, -, h⟩ := bind_ok h
    cases h
    exact ⟨rfl, rfl, rfl⟩
  · cases h
    exact ⟨rfl, rfl, rfl⟩

theorem deleteMember_idle (h : db.deleteMember m = .ok db') (u : UserId)
    (c : CircleId) (active : db'.isActive u c = true) : db.isActive u c = true := by
  have left : ∀ left : Db, left.members = (db.members.deleteMany fun o =>
      o.userID = m.userID && o.circleID = m.circleID) → left.isActive u c = true →
        db.isActive u c = true := by
    intro left members active
    obtain ⟨held, member, active⟩ := isActive_iff.mp active
    rw [memberOf, members, Table.find_deleteMany] at member
    exact isActive_iff.mpr ⟨held, (Option.filter_eq_some_iff.mp member).1, active⟩
  unfold deleteMember at h
  dsimp only at h
  split at h
  · obtain ⟨circles, -, h⟩ := bind_ok h
    cases h
    exact left _ rfl active
  · cases h
    exact left _ rfl active

theorem deleteMember_closing
    (h : (db.cancelPendingInvitations circleId [userId]).deleteMember m = .ok db') :
    Closing db db' := by
  obtain ⟨invitations, verifiers, loaded⟩ := deleteMember_ballots h
  refine .of_rows (fun id => ?_) verifiers loaded
  rw [invitations]
  exact (cancelPendingInvitations_closing circleId [userId]).rows id

theorem Drops.turns {act : Act} (drops : Drops db userId circleId db') : Turns db act db' := by
  cases drops with
  | absent cancelled =>
    subst cancelled
    exact .of_closing (cancelPendingInvitations_closing circleId [userId]) fun _ _ active => active
  | deleted m member h =>
    exact .of_closing (deleteMember_closing h) fun u c active => deleteMember_idle h u c active

theorem joinCircle_turns (h : db.joinCircle userId circleId call = .ok db') :
    Turns db (.joinCircle userId circleId call) db' := by
  have still := joinCircle_still h
  obtain ⟨_, -, h⟩ := bind_ok h
  obtain ⟨_, -, h⟩ := bind_ok h
  dsimp only at h
  split at h
  · cases h
    exact .of_closing (.of_rows (fun _ => .refl _) rfl rfl) fun u c active => still.active u c ▸ active
  · rename_i none_pending
    obtain ⟨policy, -, h⟩ := bind_ok h
    obtain ⟨invitations, inserted, h⟩ := bind_ok h
    cases h
    have alone : ∀ j, db.invitations.find j.id = some j → j.circleID = circleId →
        j.applicantID = userId → j.status ≠ .pending := by
      intro j found here own pending
      apply none_pending
      rw [List.any_eq_true]
      exact ⟨j, Table.find_mem found, by simp [here, own, pending]⟩
    exact .applies _ call rfl (Table.insert_fresh (orThrow_ok inserted)) rfl rfl alone
      (Table.insert_update (orThrow_ok inserted)) rfl rfl still.active

theorem updateMany_closing {p : CircleInvitation → Bool} (rows : ∀ id, db'.invitations.find id =
      (db.invitations.find id).map fun i => if p i then { i with status := .cancelled } else i)
    (chosen : ∀ i, p i = true → i.status.isOpen = true) (verifiers : db'.verifiers = db.verifiers)
    (loaded : db'.loaded = db.loaded) : Closing db db' := by
  refine .of_rows (fun id => ?_) verifiers loaded
  rw [rows]
  exact withdrawn_map (Or.inl rfl) fun i _ hp => chosen i hp

/-- `status := .cancelled` -/
theorem find_cancelled (p : CircleInvitation → Bool) (id : InvitationId) :
    (db.invitations.updateMany p (fun i => { i with status := .cancelled }) fun _ => rfl).find id =
      (db.invitations.find id).map fun i => if p i then { i with status := .cancelled } else i :=
  Table.find_updateMany ..

theorem dissolveCircle_closing
    (h : db.dissolveCircle userId circleId = .ok db') : Closing db db' := by
  obtain ⟨circle, -, h⟩ := bind_ok h
  obtain ⟨_, -, h⟩ := bind_ok h
  obtain ⟨_, -, h⟩ := bind_ok h
  cases h
  refine updateMany_closing (find_cancelled _) ?_ rfl rfl
  intro i chosen
  simp only [Bool.and_eq_true] at chosen
  exact chosen.2

theorem withdrawOffer_closing (id : InvitationId) : Closing db (db.withdrawOffer id) := by
  refine updateMany_closing (find_cancelled _) ?_ rfl rfl
  intro i chosen
  simp only [Bool.and_eq_true, decide_eq_true_eq] at chosen
  rw [chosen.2]
  rfl

theorem addVerifier_closing {callerId verifierId : UserId}
    (h : db.addVerifier callerId invitationId verifierId call = .ok db') : Closing db db' := by
  obtain ⟨invitation, found, h⟩ := bind_ok h
  obtain ⟨_, -, h⟩ := bind_ok h
  obtain ⟨_, pending, h⟩ := bind_ok h
  obtain ⟨_, -, h⟩ := bind_ok h
  obtain ⟨_, -, h⟩ := bind_ok h
  obtain ⟨_, -, h⟩ := bind_ok h
  obtain ⟨_, -, h⟩ := bind_ok h
  obtain ⟨verifiers, inserted, h⟩ := bind_ok h
  cases h
  have rows := Table.find_insert (orThrow_ok inserted)
  have fresh := Table.insert_fresh (orThrow_ok inserted)
  have pending : invitation.status = .pending := by simpa using throwIf_ok pending
  constructor
  case rows => exact fun _ => .refl _
  case loaded => rfl
  case votes =>
    intro k row found' approved
    rw [rows] at found'
    split at found'
    · cases found'
      cases approved
    · exact found'
  case kept =>
    intro k row found' approved
    rw [rows, if_neg]
    · exact found'
    · rintro rfl
      rw [fresh] at found'
      cases found'
  case voters =>
    intro id v row found'
    rw [rows] at found'
    split at found'
    · rename_i here
      cases here
      exact Or.inr ⟨invitation, orThrow_ok found, pending⟩
    · exact Or.inl (Option.isSome_of_eq_some found')

theorem respond_turns {verifierId : UserId} {approve : Bool}
    (h : db.respond verifierId invitationId approve call = .ok db') :
    Turns db (.respond verifierId invitationId approve call) db' := by
  obtain ⟨invitation, found, rest⟩ := bind_ok h
  obtain rfl : invitation.id = invitationId := Table.find_key (orThrow_ok found)
  obtain ⟨record, waiting, rest⟩ := bind_ok rest
  obtain ⟨_, pending, h⟩ := bind_ok rest
  obtain ⟨held, waiting⟩ := Option.filter_eq_some_iff.mp (orThrow_ok waiting)
  have waiting : record.status = .pending := by simpa using waiting
  have pending : invitation.status = .pending := by simpa using throwIf_ok pending
  have key := Table.find_key held
  split at h
  · cases h
    have rows := Table.put_update (t := db.verifiers)
      (a := { record with status := .rejected }) (key ▸ held)
    refine Turns.of_closing ?_ fun _ _ active => active
    constructor
    case rows => exact fun _ => .refl _
    case loaded => rfl
    case votes =>
      intro k row found' approved
      rw [rows] at found'
      by_cases here : k = (record.invitationID, record.verifierID)
      · rw [here, Function.update_self] at found'
        cases found'
        cases approved
      · rwa [Function.update_of_ne here] at found'
    case kept =>
      intro k row found' approved
      rw [rows, Function.update_of_ne]
      · exact found'
      · rintro rfl
        rw [key, held] at found'
        cases found'
        rw [waiting] at approved
        cases approved
    case voters =>
      intro id v row found'
      rw [rows] at found'
      by_cases here : (id, v) = (record.invitationID, record.verifierID)
      · rw [here, key]
        exact Or.inl (Option.isSome_of_eq_some held)
      · rw [Function.update_of_ne here] at found'
        exact Or.inl (Option.isSome_of_eq_some found')
  · obtain ⟨_, active, h⟩ := bind_ok h
    obtain ⟨_, -, h⟩ := bind_ok h
    have active : db.isActive verifierId invitation.circleID = true := by
      simpa using throwIf_ok active
    have voted : Voted db invitation verifierId
        { db with
          verifiers := db.verifiers.put { record with status := .approved }
          invitations := db.invitations.put
            { invitation with approvedCount := invitation.approvedCount + 1 } } := by
      constructor
      case found => exact orThrow_ok found
      case pending => exact pending
      case voter => exact active
      case open_vote =>
        refine ⟨record, held, waiting, ?_⟩
        rw [← key]
        exact Table.put_update (a := { record with status := .approved }) (key ▸ held)
      case rows =>
        exact Table.put_update (t := db.invitations)
          (a := { invitation with approvedCount := invitation.approvedCount + 1 })
          (orThrow_ok found)
      case ballots => exact ⟨rfl, rfl, rfl, rfl, rfl⟩
    dsimp only at h
    split at h
    · rename_i short
      cases h
      exact .votes invitation verifierId _ voted (Or.inl ⟨rfl, short⟩)
    · rename_i enough
      obtain ⟨⟨_, admitted⟩, finalized, rfl⟩ := map_ok h
      refine .votes invitation verifierId _ voted (Or.inr ⟨Nat.not_lt.mp enough, ?_⟩)
      apply Finalizing.of_ok (i := { invitation with approvedCount := invitation.approvedCount + 1 })
        _ rfl finalized
      · exact { invitation with approvedCount := invitation.approvedCount + 1 }
      · rw [voted.rows, Function.update_self]

theorem adminReject_closing {adminId : UserId} {blacklist : Bool}
    (h : db.adminReject adminId invitationId blacklist = .ok db') : Closing db db' := by
  obtain ⟨request, found, rest⟩ := bind_ok h
  obtain rfl : request.id = invitationId := Table.find_key (orThrow_ok found)
  obtain ⟨_, -, rest⟩ := bind_ok rest
  obtain ⟨_, -, h⟩ := bind_ok rest
  dsimp only at h
  split at h
  · cases h
    exact .refl db
  · obtain ⟨_, reviewed, h⟩ := bind_ok h
    obtain ⟨_, -, h⟩ := bind_ok h
    cases h
    refine .of_rows (fun id => ?_) rfl rfl
    have put := Table.put_update (t := db.invitations) (a := { request with status := .rejected })
      (orThrow_ok found)
    rw [put]
    by_cases here : id = request.id
    · rw [here, Function.update_self, orThrow_ok found]
      by_cases already : request.status = .rejected
      · left
        rw [← already]
      · right
        refine ⟨request, .rejected, rfl, ?_, Or.inr rfl, rfl⟩
        have reviewed := throwIf_ok reviewed
        simp only [ne_eq, already, not_false_eq_true, decide_true, Bool.true_and,
          decide_eq_false_iff_not, not_not] at reviewed
        exact isOpen_pending reviewed
    · rw [Function.update_of_ne here]
      exact .refl _

theorem adminApprove_turns {adminId : UserId}
    (h : db.adminApprove adminId invitationId call = .ok db') :
    Turns db (.adminApprove adminId invitationId call) db' := by
  obtain ⟨invitation, found, h⟩ := bind_ok h
  obtain ⟨_, pending, h⟩ := bind_ok h
  obtain ⟨_, manages, h⟩ := bind_ok h
  obtain ⟨⟨_, admitted⟩, finalized, rfl⟩ := map_ok h
  obtain rfl : invitation.id = invitationId := Table.find_key (orThrow_ok found)
  have managed : (db.memberOf adminId invitation.circleID).any (·.manages) = true := by
    simpa using throwIf_ok manages
  obtain ⟨m, admin, manages⟩ := (Option.any_eq_true _ _).mp managed
  exact .overrides invitation adminId call m rfl (orThrow_ok found)
    (by simpa using throwIf_ok pending) admin manages
    (.of_ok (orThrow_ok found) rfl finalized)

theorem reconcile_turns (h : db.reconcile invitationId call = .ok db') :
    Turns db (.reconcile invitationId call) db' := by
  unfold reconcile at h
  split at h
  · cases h
    exact .of_closing (.refl db) fun _ _ active => active
  · rename_i invitation found
    obtain ⟨⟨_, admitted⟩, finalized, rfl⟩ := map_ok h
    obtain ⟨found, ready⟩ := Option.filter_eq_some_iff.mp found
    simp only [Bool.and_eq_true, decide_eq_true_eq] at ready
    obtain rfl : invitation.id = invitationId := Table.find_key found
    exact .reconciles invitation found ready.1 ready.2 (.of_ok found rfl finalized)

/-! ## Invitations of others, and the answers to them -/

theorem Offers.refl (db : Db) : Offers db db :=
  ⟨rfl, fun _ => Or.inl rfl, fun _ _ _ h => Or.inl h, rfl⟩

theorem Offers.trans (first : Offers db mid) (second : Offers mid db') :
    Offers db db' where
  members := second.members.trans first.members
  loaded := second.loaded.trans first.loaded
  rows id := by
    rcases second.rows id with same | ⟨absent, fresh⟩
    · rw [same]
      exact first.rows id
    · rcases first.rows id with same | ⟨absent', i, there, -⟩
      · exact Or.inr ⟨same ▸ absent, fresh⟩
      · rw [absent] at there
        cases there
  votes id v row h := by
    have active : ∀ u c, mid.isActive u c = db.isActive u c := by
      intro u c
      rw [isActive, memberOf, first.members, isActive, memberOf]
    rcases second.votes id v row h with old | ⟨i, there, member⟩
    · rcases first.votes id v row old with old | ⟨i, there, member⟩
      · exact Or.inl old
      · right
        refine ⟨i, ?_, member⟩
        rcases second.rows id with same | ⟨absent, -⟩
        · rw [same, there]
        · rw [there] at absent
          cases absent
    · exact Or.inr ⟨i, there, active v i.circleID ▸ member⟩

theorem Offer.offers (h : Offer db db') : Offers db db' := by
  obtain ⟨inviterId, applicantId, circle, call, created, written⟩ := h
  have invited : created.status = .invited := by rw [written.data]; rfl
  have here : created.circleID = circle.id := by rw [written.data]; rfl
  constructor
  case members => exact written.ballots.members
  case loaded => exact written.ballots.loaded
  case rows =>
    intro id
    rw [written.rows]
    by_cases own : id = created.id
    · rw [own, Function.update_self]
      exact Or.inr ⟨written.fresh rfl, created, rfl, invited⟩
    · rw [Function.update_of_ne own]
      exact Or.inl rfl
  case votes =>
    intro id v row found
    rw [written.votes] at found
    by_cases own : (id, v) = (created.id, inviterId)
    · obtain ⟨rfl, rfl⟩ := Prod.mk.inj own
      right
      refine ⟨created, ?_, ?_⟩
      · rw [written.rows, Function.update_self]
      · rw [here]
        exact written.inviter
    · rw [Function.update_of_ne own] at found
      exact Or.inl found

theorem Offers.of_offers (h : Relation.ReflTransGen Offer db db') : Offers db db' := by
  induction h with
  | refl => exact .refl db
  | tail _ last ih => exact ih.trans last.offers

/-- What is found is left as it is. -/
theorem invite_offers {result : Invited}
    (h : db.inviteInTransaction inviterId applicantId circleId .offered call = .ok (db', result)) :
    Relation.ReflTransGen Offer db db' := by
  obtain ⟨inviter, outside, -, circle, -, rfl, inviting⟩ := inviteInTransaction_ok h
  cases inviting with
  | reused i found same =>
    rw [same]
  | saved existing created found fit data short wrote =>
    have new : existing = none := by
      cases existing with
      | none => rfl
      | some i => cases (fit i rfl).1
    subst new
    exact .single ⟨inviterId, applicantId, circle, call, created,
      .of_ok inviter outside found fit data wrote⟩
  | completed existing created written admitted found fit data consented enough wrote finalized =>
    cases consented

theorem Inviting.accepts {circle : Circle} {opts : InviteOptions}
    (h : Inviting db inviterId applicantId circle opts call db')
    (inviter : db.isActive inviterId circle.id = true)
    (outside : db.isActive applicantId circle.id = false)
    (consented : opts.applicantConsented = true) (own : act.ownOf applicantId = true)
    (scanned : act = .joinByToken inviterId applicantId circle.id call ∨
      ∃ seen, act = .respondToInvitation applicantId seen true call ∧ seen ∈ db.loaded ∧
        seen.inviterID = inviterId ∧
        ∃ i, db.openInvitation circle.id applicantId call.scan = some i ∧ i.id = seen.id) :
    Turns db act db' := by
  cases h with
  | reused i found same =>
    rw [same]
    exact .of_closing (.refl db) fun _ _ active => active
  | saved existing created found fit data short wrote =>
    rw [found] at scanned
    exact .accepts existing inviterId applicantId circle opts call created db' consented own scanned
      (.of_ok inviter outside found fit data wrote) (Or.inl ⟨rfl, short consented⟩)
  | completed existing created mid admitted found fit data _ enough wrote finalized =>
    rw [found] at scanned
    rw [← consented] at wrote
    have written := Written.of_ok inviter outside found (fun i hi => ⟨consented, fit i hi⟩) data wrote
    have here : mid.invitations.find created.id = some created := by
      rw [written.rows, Function.update_self]
    exact .accepts existing inviterId applicantId circle opts call created mid consented own
      scanned written (Or.inr ⟨enough, .of_ok here rfl finalized⟩)

theorem joinByToken_turns {issuerId viewerId : UserId}
    (h : db.joinByToken issuerId viewerId circleId call = .ok db') :
    Turns db (.joinByToken issuerId viewerId circleId call) db' := by
  obtain ⟨⟨_, result⟩, invited, rfl⟩ := map_ok h
  obtain ⟨_, -, invited⟩ := bind_ok invited
  obtain ⟨inviter, outside, -, circle, -, rfl, inviting⟩ := inviteInTransaction_ok invited
  exact inviting.accepts inviter outside rfl (by simp [Act.ownOf]) (Or.inl rfl)

theorem respondToInvitation_turns {invitation : CircleInvitation} {accept : Bool}
    (read : invitation ∈ db.loaded)
    (h : db.respondToInvitation userId invitation accept call = .ok db') :
    Turns db (.respondToInvitation userId invitation accept call) db' := by
  obtain ⟨_, -, h⟩ := bind_ok h
  split at h
  · cases h
    exact .of_closing (.refl db) fun _ _ active => active
  · split at h
    · cases h
      refine Turns.of_closing ?_ fun _ _ active => active
      refine updateMany_closing (find_cancelled _) ?_ rfl rfl
      intro i chosen
      simp only [Bool.and_eq_true, decide_eq_true_eq] at chosen
      rw [chosen.2]
      rfl
    · rename_i accepted
      obtain ⟨_, -, h⟩ := bind_ok h
      obtain ⟨⟨_, result⟩, invited, rfl⟩ := map_ok h
      obtain ⟨_, -, invited⟩ := bind_ok invited
      obtain ⟨inviter, outside, found, circle, -, here, inviting⟩ := inviteInTransaction_ok invited
      have accepted : accept = true := by simpa using accepted
      subst accepted
      rw [← here] at inviter outside found
      exact inviting.accepts inviter outside rfl (by simp [Act.ownOf])
        (Or.inr ⟨invitation, rfl, read, rfl, found _ rfl⟩)

theorem commit_turns (h : Step db act db') : Turns db act db' := by
  cases act with
  | createCircle userId dto id now =>
    obtain ⟨_, -, h⟩ := bind_ok h
    obtain ⟨_, -, h⟩ := bind_ok h
    obtain ⟨_, -, h⟩ := bind_ok h
    obtain ⟨_, -, h⟩ := bind_ok h
    obtain ⟨_, -, h⟩ := bind_ok h
    obtain ⟨_, -, h⟩ := bind_ok h
    obtain ⟨members, seated, h⟩ := bind_ok h
    cases h
    refine .closes (.of_rows (fun _ => .refl _) rfl rfl) fun u c active => ?_
    obtain ⟨m, member, active⟩ := isActive_iff.mp active
    rw [memberOf, Table.find_insert (orThrow_ok seated)] at member
    split at member
    · rename_i here
      obtain ⟨rfl, rfl⟩ := Prod.mk.inj here
      exact Or.inr ⟨dto, now, rfl⟩
    · exact Or.inl (isActive_iff.mpr ⟨m, member, active⟩)
  | joinCircle userId circleId call => exact joinCircle_turns h
  | leaveCircle userId circleId => exact (leaveCircle_drops h).turns
  | leaveGroup userId circleId => exact (leaveGroup_drops h).turns
  | removeGroupMember actorId circleId targetUserId console =>
    exact (removeGroupMember_drops h).turns
  | dissolveCircle userId circleId =>
    exact .of_closing (dissolveCircle_closing h) fun u c active =>
      (dissolveCircle_still h).active u c ▸ active
  | invite inviterId applicantId circleId call =>
    obtain ⟨⟨_, result⟩, invited, rfl⟩ := map_ok h
    obtain ⟨_, -, invited⟩ := bind_ok invited
    exact .offers (invite_offers invited)
  | inviteBatch inviterId applicantIds circleId call =>
    apply Turns.offers
    apply inviteBatch_preserves (P := fun after => Relation.ReflTransGen Offer db after) _ h .refl
    intro applicantId before after result invited reached
    exact reached.trans (invite_offers invited)
  | joinByToken issuerId viewerId circleId call => exact joinByToken_turns h
  | loadInvitation id =>
    obtain ⟨invitation, found, h⟩ := bind_ok h
    cases h
    obtain rfl : invitation.id = id := Table.find_key (orThrow_ok found)
    exact .loads invitation (orThrow_ok found) rfl
  | respondToInvitation userId invitation accept call =>
    obtain ⟨_, read, h⟩ := bind_ok h
    exact respondToInvitation_turns (by simpa using throwIf_ok read) h
  | withdrawOffer id =>
    cases h
    exact .of_closing (withdrawOffer_closing id) fun _ _ active => active
  | addVerifier callerId invitationId verifierId call => 
    exact .of_closing (addVerifier_closing h) fun u c active =>
      (addVerifier_still h).active u c ▸ active
  | respond verifierId invitationId approve call => exact respond_turns h
  | adminReject adminId invitationId blacklist => 
    exact .of_closing (adminReject_closing h) fun u c active =>
      (adminReject_still h).active u c ▸ active
  | adminApprove adminId invitationId call => exact adminApprove_turns h
  | reconcile invitationId call => exact reconcile_turns h
  | setManager circleId userId manager =>
    cases h
    exact .of_closing (.of_rows (fun _ => .refl _) rfl rfl) fun u c active =>
      (setManager_still circleId userId manager).active u c ▸ active
  | configure | setUser | setConversation | liftBan | enableProgram =>
    cases h
    exact .of_closing (.of_rows (fun _ => .refl _) rfl rfl) fun _ _ active => active

end Db

end CircleBackend.Joining
