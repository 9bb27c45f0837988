import CircleBackend.Joining.Requests
import Mathlib.Data.List.Dedup

/-!
# What the transactions do to the members

`activateMembers` is the only way into a circle that exists, and `deleteMember` the
only way out. Every transaction is one of the `Moves`.
-/

namespace CircleBackend.Joining

open Library Memberships
open CircleBackend.Circle (CircleMemberRole CircleMemberStatus)
open Session (UserId)

namespace Db

variable {db db' : Db}

variable {u userId applicantId inviterId : UserId} {circleId : CircleId} {now : Time}
variable {call : Call} {opts : InviteOptions} {invitationId : InvitationId}

variable {c : CircleId} {actor : Actor} {circle : Circle} {gained : List UserId}

theorem memberOf_key {m : CircleMember} (h : db.memberOf u c = some m) :
    m.userID = u ∧ m.circleID = c := by
  have key := Table.find_key h
  simpa using key

theorem isActive_iff :
    db.isActive u c = true ↔ ∃ m, db.memberOf u c = some m ∧ m.status = .active := by
  rw [isActive, Option.any_eq_true]
  simp only [decide_eq_true_eq]

theorem isActive_congr (h : db'.memberOf u c = db.memberOf u c) :
    db'.isActive u c = db.isActive u c := by
  unfold isActive
  rw [h]

/-! ## Activations -/

/-- What an activation does: the users `gained`, all of them `asked` for, become members
of a circle that has the seats. -/
structure Activated (db : Db) (circleId : CircleId) (asked : List UserId) (now : Time) (db' : Db)
    (gained : List UserId) : Prop where
  distinct : gained.Nodup
  requested : ∀ u ∈ gained, u ∈ asked
  outside : ∀ u ∈ gained, db.isActive u circleId = false
  members : ∀ u c, db'.memberOf u c =
    if c = circleId ∧ u ∈ gained then some ⟨u, circleId, .member, .active⟩ else db.memberOf u c
  seats : gained = [] ∧ db'.circles = db.circles ∨
    ∃ circle, db.circles.find circleId = some circle ∧ circle.deleted = false ∧
      (∀ max, circle.maxMembers = some max → circle.memberCount + gained.length ≤ max) ∧
      circle.memberCount + gained.length ≤ db.ownerCapacity circle now ∧
      db'.circles.find = Function.update db.circles.find circleId
        (some { circle with memberCount := circle.memberCount + gained.length })
  quota : ∀ u ∈ gained, ∃ user, db.users.find u = some user ∧
    db.joinedCount u < (db.tierOf user.membership now).joinedCircles
  invitations : ∀ id, db'.invitations.find id = (db.invitations.find id).map fun i =>
    if i.circleID = circleId ∧ i.applicantID ∈ asked ∧ i.status = .pending then
      { i with status := .cancelled } else i
  rest : db'.users = db.users ∧ db'.verifiers = db.verifiers ∧
    db'.programEnabled = db.programEnabled ∧ db'.loaded = db.loaded

theorem cancelPendingInvitations_find (circleId : CircleId) (userIds : List UserId)
    (id : InvitationId) :
    (db.cancelPendingInvitations circleId userIds).invitations.find id =
      (db.invitations.find id).map fun i =>
        if i.circleID = circleId ∧ i.applicantID ∈ userIds ∧ i.status = .pending then
          { i with status := .cancelled } else i := by
  unfold cancelPendingInvitations
  rw [Table.find_updateMany]
  simp only [Bool.and_eq_true, decide_eq_true_eq, List.contains_iff_mem, and_assoc]

theorem seatMembers_ok {activating : List UserId}
    {members : Table CircleMember (UserId × CircleId) fun m => (m.userID, m.circleID)}
    (outside : ∀ u ∈ activating, db.isActive u circleId = false)
    (h : db.seatMembers circleId activating = .ok members) (u : UserId) (c : CircleId) :
    members.find (u, c) =
      if c = circleId ∧ u ∈ activating then some ⟨u, circleId, .member, .active⟩
      else db.memberOf u c := by
  have rows := Table.find_insertMany (orThrow_ok h) (u, c)
  simp only [List.mem_filter, Prod.mk.injEq, Table.find_updateMany] at rows
  obtain ⟨v, ⟨chosen, _⟩, ⟨rfl, rfl⟩, found, _⟩ | ⟨others, same⟩ := rows
  · rw [found, if_pos ⟨rfl, chosen⟩]
  · rw [same]
    by_cases inside : c = circleId ∧ u ∈ activating
    · obtain ⟨rfl, chosen⟩ := inside
      rw [if_pos ⟨rfl, chosen⟩]
      cases existing : db.memberOf u c with
      | none => exact absurd rfl (others u ⟨chosen, by simp [existing]⟩)
      | some m =>
        obtain ⟨rfl, rfl⟩ := memberOf_key existing
        have idle : m.status ≠ .active := by
          intro active
          have := outside m.userID chosen
          rw [isActive_iff.mpr ⟨m, existing, active⟩] at this
          cases this
        rw [show db.members.find (m.userID, m.circleID) = some m from existing]
        simp [chosen, idle]
    · rw [if_neg inside]
      cases existing : db.memberOf u c with
      | none =>
        rw [show db.members.find (u, c) = none from existing]
        rfl
      | some m =>
        obtain ⟨rfl, rfl⟩ := memberOf_key existing
        rw [show db.members.find (m.userID, m.circleID) = some m from existing, Option.map_some,
          if_neg]
        simp only [Bool.and_eq_true, decide_eq_true_eq, List.contains_iff_mem]
        exact fun both => inside both.1

theorem reserveCircleSeats_ok {k capacity : Nat} {circles : Table Circle CircleId (·.id)}
    (some_seats : k ≠ 0) (h : db.reserveCircleSeats circleId k capacity = some circles) :
    ∃ circle, db.circles.find circleId = some circle ∧
      (∀ max, circle.maxMembers = some max → circle.memberCount + k ≤ max) ∧
      circle.memberCount + k ≤ capacity ∧
      circles.find = Function.update db.circles.find circleId
        (some { circle with memberCount := circle.memberCount + k }) := by
  unfold reserveCircleSeats at h
  rw [if_neg some_seats] at h
  obtain ⟨circle, found, free, rows⟩ := Table.updateOne_update h fun _ => rfl
  simp only [Bool.and_eq_true, Bool.not_eq_true', Option.all_eq_true, decide_eq_true_eq] at free
  exact ⟨circle, found, free.1.2, free.2, rows⟩

theorem assertCandidate_ok {done : Unit} (h : db.assertCandidate circle actor now u = .ok done) :
    ∃ user, db.users.find u = some user ∧
      db.joinedCount u < (db.tierOf user.membership now).joinedCircles := by
  obtain ⟨user, found, h⟩ := bind_ok h
  obtain ⟨_, below, -⟩ := bind_ok h
  have free := throwIf_ok below
  exact ⟨user, orThrow_ok found, by simpa using free⟩

theorem forM_ok {α ε : Type} {f : α → Except ε Unit} {as : List α} {done : Unit}
    (h : as.forM f = .ok done) : ∀ a ∈ as, ∃ u, f a = .ok u := by
  induction as with
  | nil => nofun
  | cons a as ih =>
    obtain ⟨u, first, rest⟩ := bind_ok h
    intro b hb
    obtain rfl | hb := List.mem_cons.mp hb
    · exact ⟨u, first⟩
    · exact ih rest b hb

theorem activateMembers_ok {asked : List UserId}
    (h : db.activateMembers circleId asked actor now = .ok (db', gained)) :
    Activated db circleId asked now db' gained := by
  have sorted : ∀ u, u ∈ asked.dedup.insertionSort (· ≤ ·) ↔ u ∈ asked := by
    intro u
    rw [List.mem_insertionSort, List.mem_dedup]
  have cancelled : ∀ (old : Db) (id : InvitationId),
      (old.cancelPendingInvitations circleId (asked.dedup.insertionSort (· ≤ ·))).invitations.find id =
        (old.invitations.find id).map fun i =>
          if i.circleID = circleId ∧ i.applicantID ∈ asked ∧ i.status = .pending then
            { i with status := .cancelled } else i := by
    intro old id
    simp only [cancelPendingInvitations_find, sorted]
  unfold activateMembers at h
  dsimp only at h
  split at h
  · cases h
    exact ⟨List.nodup_nil, by intros; contradiction, by intros; contradiction,
      fun u c => by simp [memberOf, cancelPendingInvitations], Or.inl ⟨rfl, rfl⟩, by intros; contradiction, cancelled db, rfl, rfl, rfl, rfl⟩
  · rename_i some_one
    obtain ⟨_, -, h⟩ := bind_ok h
    obtain ⟨circle, found, h⟩ := bind_ok h
    obtain ⟨_, candidates, h⟩ := bind_ok h
    obtain ⟨circles, reserved, h⟩ := bind_ok h
    obtain ⟨members, seated, h⟩ := bind_ok h
    cases h
    obtain ⟨found, alive⟩ := Option.filter_eq_some_iff.mp (orThrow_ok found)
    have counted : (List.filter (fun u => !db.isActive u circleId)
        (asked.dedup.insertionSort (· ≤ ·))).length ≠ 0 := by
      intro none
      exact some_one (List.isEmpty_iff.mpr (List.length_eq_zero_iff.mp none))
    have outside : ∀ u ∈ List.filter (fun u => !db.isActive u circleId)
        (asked.dedup.insertionSort (· ≤ ·)), db.isActive u circleId = false := by
      intro u hu
      simpa using (List.mem_filter.mp hu).2
    obtain ⟨held, heldHere, max, capacity, rows⟩ :=
      reserveCircleSeats_ok counted (orThrow_ok reserved)
    obtain rfl : held = circle := Option.some.inj (heldHere.symm.trans found)
    constructor
    case distinct =>
      apply List.Nodup.filter
      exact (List.perm_insertionSort _ _).nodup_iff.mpr (List.nodup_dedup _)
    case requested => exact fun u hu => (sorted u).mp (List.mem_filter.mp hu).1
    case outside => exact outside
    case members => exact seatMembers_ok outside seated
    case seats => exact Or.inr ⟨held, found, by simpa using alive, max, capacity, rows⟩
    case quota =>
      intro u hu
      obtain ⟨_, passed⟩ := forM_ok candidates u hu
      exact assertCandidate_ok passed
    case invitations => exact cancelled _
    case rest => exact ⟨rfl, rfl, rfl, rfl⟩

theorem Activated.isActive {asked : List UserId}
    (h : Activated db circleId asked now db' gained) (u : UserId) (c : CircleId) :
    db'.isActive u c = true ↔ c = circleId ∧ u ∈ gained ∨ db.isActive u c = true := by
  rw [Db.isActive, h.members]
  split
  · rename_i here
    simp [here]
  · rename_i apart
    rw [or_iff_right apart]
    rfl

/-! ## The moves -/

/-- Nobody becomes a member or ceases to be one. -/
structure Still (db db' : Db) : Prop where
  active : ∀ u c, db'.isActive u c = db.isActive u c
  counts : ∀ c, (db'.circles.find c).map (·.memberCount) = (db.circles.find c).map (·.memberCount)
  housed : ∀ u c, (db'.memberOf u c).isSome → (db.memberOf u c).isSome ∨ (db.circles.find c).isSome

theorem Still.refl (db : Db) : Still db db :=
  ⟨fun _ _ => rfl, fun _ => rfl, fun _ _ h => Or.inl h⟩

theorem Still.of_tables (members : db'.members = db.members) (circles : db'.circles = db.circles) :
    Still db db' :=
  ⟨fun _ _ => by rw [isActive, memberOf, members, isActive, memberOf], fun _ => by rw [circles],
    fun _ _ h => Or.inl (by rwa [memberOf, members] at h)⟩

theorem Still.trans {mid : Db} (first : Still db mid) (second : Still mid db') : Still db db' where
  active u c := (second.active u c).trans (first.active u c)
  counts c := (second.counts c).trans (first.counts c)
  housed u c h := by
    have kept : (mid.circles.find c).isSome → (db.circles.find c).isSome := by
      intro there
      have same := congrArg Option.isSome (first.counts c)
      rw [Option.isSome_map, Option.isSome_map] at same
      rwa [← same]
    rcases second.housed u c h with member | circle
    · exact first.housed u c member
    · exact Or.inr (kept circle)

inductive Moves (db : Db) (now : Time) (db' : Db) : Prop
  | still (h : Still db db')
  | activates {circleId : CircleId} {asked gained : List UserId} (before : Db)
      (members : before.members = db.members) (circles : before.circles = db.circles)
      (users : before.users = db.users) (program : before.programEnabled = db.programEnabled)
      (h : Activated before circleId asked now db' gained)
  | founds (circle : Circle) (fresh : db.circles.find circle.id = none)
      (alive : circle.deleted = false) (one : circle.memberCount = 1)
      (max : ∀ max, circle.maxMembers = some max → 1 ≤ max)
      (members : ∀ u c, db'.memberOf u c = if u = circle.ownerID ∧ c = circle.id then
        some ⟨u, c, .owner, .active⟩ else db.memberOf u c)
      (circles : db'.circles.find = Function.update db.circles.find circle.id (some circle))
  | loses (m : CircleMember) (circle : Circle) (member : db.memberOf m.userID m.circleID = some m)
      (active : m.status = .active) (found : db.circles.find m.circleID = some circle)
      (members : ∀ u c, db'.memberOf u c =
        if u = m.userID ∧ c = m.circleID then none else db.memberOf u c)
      (circles : db'.circles.find = Function.update db.circles.find m.circleID
        (some { circle with memberCount := circle.memberCount - 1 }))

theorem createCircle_moves {dto : CreateCircleDto} {id : CircleId}
    (h : db.createCircle userId dto id now = .ok db') : Moves db now db' := by
  obtain ⟨user, -, h⟩ := bind_ok h
  obtain ⟨_, -, h⟩ := bind_ok h
  obtain ⟨_, -, h⟩ := bind_ok h
  obtain ⟨_, -, h⟩ := bind_ok h
  obtain ⟨vip, -, h⟩ := bind_ok h
  obtain ⟨circles, inserted, h⟩ := bind_ok h
  obtain ⟨members, seated, h⟩ := bind_ok h
  cases h
  apply Moves.founds _ (Table.insert_fresh (orThrow_ok inserted)) rfl rfl
  case members =>
    intro u c
    have rows := Table.find_insert (orThrow_ok seated) (u, c)
    simp only [Prod.mk.injEq] at rows
    rw [memberOf, rows]
    split
    · rename_i here
      obtain ⟨rfl, rfl⟩ := here
      rw [if_pos ⟨rfl, rfl⟩]
    · rename_i apart
      rw [if_neg fun both => apart ⟨both.1.symm, both.2.symm⟩]
      rfl
  case circles => exact Table.insert_update (orThrow_ok inserted)
  case max =>
    intro max stored
    cases stored
    cases requested : dto.maxMembers with
    | some asked =>
      have least := asked.property.1
      exact Nat.le_trans (by decide) least
    | none =>
      have pos := groupMembers_pos (resolveEntitlementWith db.programEnabled user.membership now)
      exact Nat.le_min.mpr ⟨pos, by decide⟩

/-- A row that is not `ACTIVE` may be written over by another one that is not. -/
theorem joinCircle_still (h : db.joinCircle userId circleId call = .ok db') : Still db db' := by
  obtain ⟨_, outside, h⟩ := bind_ok h
  obtain ⟨_, applies, h⟩ := bind_ok h
  obtain ⟨circle, found, -⟩ := bind_ok applies
  have there := (Option.filter_eq_some_iff.mp (orThrow_ok found)).1
  have idle : db.isActive userId circleId = false := throwIf_ok outside
  have applied : Still db
      { db with members := db.members.set ⟨userId, circleId, .member, .pending⟩ } := by
    constructor
    case counts => exact fun _ => rfl
    case active =>
      intro u c
      by_cases here : (userId, circleId) = (u, c)
      · cases here
        rw [idle, isActive, memberOf, Table.find_set, if_pos rfl]
        rfl
      · apply isActive_congr
        rw [memberOf, Table.find_set, if_neg here]
        rfl
    case housed =>
      intro u c member
      by_cases here : (userId, circleId) = (u, c)
      · cases here
        exact Or.inr (Option.isSome_of_eq_some there)
      · rw [memberOf, Table.find_set, if_neg here] at member
        exact Or.inl member
  dsimp only at h
  split at h
  · cases h
    exact applied
  · obtain ⟨policy, -, h⟩ := bind_ok h
    obtain ⟨invitations, -, h⟩ := bind_ok h
    cases h
    exact applied.trans (.of_tables rfl rfl)

theorem deleteMember_moves {m : CircleMember} {before : Db}
    (member : db.memberOf m.userID m.circleID = some m) (h : before.deleteMember m = .ok db')
    (members : before.members = db.members) (circles : before.circles = db.circles) :
    Moves db now db' := by
  have rows : ∀ u c, ((before.members.deleteMany fun o =>
      o.userID = m.userID && o.circleID = m.circleID).find (u, c)) =
        if u = m.userID ∧ c = m.circleID then none else db.memberOf u c := by
    intro u c
    rw [Table.find_deleteMany, members]
    cases row : db.memberOf u c with
    | none =>
      rw [show db.members.find (u, c) = none from row]
      split <;> rfl
    | some o =>
      obtain ⟨rfl, rfl⟩ := memberOf_key row
      rw [show db.members.find (o.userID, o.circleID) = some o from row]
      by_cases here : o.userID = m.userID ∧ o.circleID = m.circleID
      · rw [if_pos here]
        simp [here]
      · rw [if_neg here, Option.filter_some, if_pos]
        simpa [-not_and, not_and_or] using here
  unfold deleteMember at h
  dsimp only at h
  split at h
  · rename_i active
    obtain ⟨counted, decremented, h⟩ := bind_ok h
    cases h
    obtain ⟨circle, found, -, updated⟩ :=
      Table.updateOne_update (orThrow_ok decremented) fun _ => rfl
    rw [circles] at found updated
    exact .loses m circle member active found rows updated
  · rename_i idle
    cases h
    apply Moves.still
    constructor
    case counts => exact fun _ => by rw [circles]
    case active =>
      intro u c
      rw [isActive, memberOf, rows]
      split
      · rename_i here
        obtain ⟨rfl, rfl⟩ := here
        rw [isActive, member]
        simp [idle]
      · rfl
    case housed =>
      intro u c there
      rw [memberOf, rows] at there
      split at there
      · cases there
      · exact Or.inl there

/-- The requests of the user are cancelled, and its member goes where there is one. -/
inductive Drops (db : Db) (u : UserId) (c : CircleId) (db' : Db) : Prop
  | absent (cancelled : db' = db.cancelPendingInvitations c [u])
  | deleted (m : CircleMember) (member : db.memberOf u c = some m)
      (h : (db.cancelPendingInvitations c [u]).deleteMember m = .ok db')

theorem Drops.of_ok (h : (match db.memberOf u c with
      | none => Except.ok (db.cancelPendingInvitations c [u])
      | some m => (db.cancelPendingInvitations c [u]).deleteMember m) = .ok db') :
    Drops db u c db' := by
  split at h
  · cases h
    exact .absent rfl
  · rename_i m member
    exact .deleted m member h

theorem leaveCircle_drops (h : db.leaveCircle userId circleId = .ok db') :
    Drops db userId circleId db' := by
  obtain ⟨m, member, h⟩ := bind_ok h
  obtain ⟨_, -, h⟩ := bind_ok h
  exact .deleted m (orThrow_ok member) h

theorem leaveGroup_drops (h : db.leaveGroup userId circleId = .ok db') :
    Drops db userId circleId db' := by
  obtain ⟨circle, -, h⟩ := bind_ok h
  obtain ⟨_, -, h⟩ := bind_ok h
  exact .of_ok h

theorem removeGroupMember_drops {actorId : UserId} {console : Bool}
    (h : db.removeGroupMember actorId circleId userId console = .ok db') :
    Drops db userId circleId db' := by
  obtain ⟨circle, -, h⟩ := bind_ok h
  obtain ⟨_, -, h⟩ := bind_ok h
  obtain ⟨_, -, h⟩ := bind_ok h
  obtain ⟨_, -, h⟩ := bind_ok h
  obtain ⟨_, -, h⟩ := bind_ok h
  exact .of_ok h

theorem Drops.moves (drops : Drops db userId circleId db') : Moves db now db' := by
  cases drops with
  | absent cancelled => exact cancelled ▸ .still (.of_tables rfl rfl)
  | deleted m member h =>
    obtain ⟨rfl, rfl⟩ := memberOf_key member
    exact deleteMember_moves member h rfl rfl

theorem dissolveCircle_still (h : db.dissolveCircle userId circleId = .ok db') : Still db db' := by
  obtain ⟨circle, found, h⟩ := bind_ok h
  obtain ⟨_, -, h⟩ := bind_ok h
  obtain ⟨_, -, h⟩ := bind_ok h
  cases h
  have there := (Option.filter_eq_some_iff.mp (orThrow_ok found)).1
  obtain rfl : circle.id = circleId := Table.find_key there
  refine ⟨fun _ _ => rfl, fun c => ?_, fun _ _ member => Or.inl member⟩
  have rows := Table.find_put_of_find
    (t := db.circles) (a := { circle with deleted := true }) there c
  dsimp only at rows ⊢
  rw [rows]
  split
  · rename_i here
    obtain rfl : c = circle.id := here
    rw [there]
    rfl
  · rfl

/-- Everything but the invitations and their votes is as it was. -/
structure Ballots (db db' : Db) : Prop where
  members : db'.members = db.members
  circles : db'.circles = db.circles
  users : db'.users = db.users
  program : db'.programEnabled = db.programEnabled
  loaded : db'.loaded = db.loaded

theorem writeInvitation_ok {existing : Option CircleInvitation} {created : CircleInvitation}
    {applicantConsented : Bool}
    (h : db.writeInvitation existing created applicantConsented = .ok db') :
    ∃ invitations verifiers,
      (if existing.isSome then some (db.invitations.put created)
        else db.invitations.insert created) = some invitations ∧
      db.castFirstVote existing created.id created.inviterID applicantConsented = some verifiers ∧
      db' = { db with invitations := invitations, verifiers := verifiers } := by
  obtain ⟨invitations, saved, h⟩ := bind_ok h
  obtain ⟨verifiers, voted, h⟩ := bind_ok h
  cases h
  exact ⟨invitations, verifiers, orThrow_ok saved, orThrow_ok voted, rfl⟩

theorem writeInvitation_ballots {existing : Option CircleInvitation} {created : CircleInvitation}
    {applicantConsented : Bool}
    (h : db.writeInvitation existing created applicantConsented = .ok db') : Ballots db db' := by
  obtain ⟨_, _, -, -, rfl⟩ := writeInvitation_ok h
  exact ⟨rfl, rfl, rfl, rfl, rfl⟩

theorem finalize_moves {mid : Db} {invitation : CircleInvitation} {status : CircleInvitationStatus}
    (ballots : Ballots db mid)
    (h : mid.finalize invitation status actor now = .ok (db', gained)) : Moves db now db' :=
  .activates { mid with invitations := mid.invitations.put { invitation with status := status } }
    ballots.members ballots.circles ballots.users ballots.program (activateMembers_ok h)

/-- What an invitation comes to: the row is there already, or it is written, and where
that completes it, finalized. -/
inductive Inviting (db : Db) (inviterId applicantId : UserId) (circle : Circle)
    (opts : InviteOptions) (call : Call) (db' : Db) : Prop
  | reused (i : CircleInvitation)
      (found : db.openInvitation circle.id applicantId call.scan = some i) (same : db' = db)
  | saved (existing : Option CircleInvitation) (created : CircleInvitation)
      (found : db.openInvitation circle.id applicantId call.scan = existing)
      (fit : ∀ i, existing = some i → opts.applicantConsented = true ∧
        (i.status = .invited ∨ db.repairPendingInviter i inviterId applicantId = true))
      (data : created = invitationData existing inviterId applicantId circle opts call)
      (short : opts.applicantConsented = true → created.approvedCount < created.requiredCount)
      (wrote : db.writeInvitation existing created opts.applicantConsented = .ok db')
  | completed (existing : Option CircleInvitation) (created : CircleInvitation)
      (written : Db) (admitted : List UserId)
      (found : db.openInvitation circle.id applicantId call.scan = existing)
      (fit : ∀ i, existing = some i →
        i.status = .invited ∨ db.repairPendingInviter i inviterId applicantId = true)
      (data : created = invitationData existing inviterId applicantId circle opts call)
      (consented : opts.applicantConsented = true)
      (enough : created.requiredCount ≤ created.approvedCount)
      (wrote : db.writeInvitation existing created true = .ok written)
      (finalized : written.finalize created .approved .thirdParty call.now = .ok (db', admitted))

theorem inviteInTransaction_ok {result : Invited}
    (h : db.inviteInTransaction inviterId applicantId circleId opts call = .ok (db', result)) :
    db.isActive inviterId circleId = true ∧ db.isActive applicantId circleId = false ∧
    (∀ id, opts.acceptedInvitationId = some id →
      ∃ i, db.openInvitation circleId applicantId call.scan = some i ∧ i.id = id) ∧
    ∃ circle, db.circles.find circleId = some circle ∧ circle.id = circleId ∧
      Inviting db inviterId applicantId circle opts call db' := by
  obtain ⟨_, -, h⟩ := bind_ok h
  obtain ⟨inviter, active, h⟩ := bind_ok h
  obtain ⟨_, outside, h⟩ := bind_ok h
  obtain ⟨_, -, h⟩ := bind_ok h
  obtain ⟨_, -, h⟩ := bind_ok h
  obtain ⟨circle, found, h⟩ := bind_ok h
  dsimp only at h
  obtain ⟨_, accepted, h⟩ := bind_ok h
  obtain ⟨member, isActive⟩ := Option.filter_eq_some_iff.mp (orThrow_ok active)
  obtain ⟨there, -⟩ := Option.filter_eq_some_iff.mp (orThrow_ok found)
  obtain rfl : circle.id = circleId := Table.find_key there
  refine ⟨isActive_iff.mpr ⟨inviter, member, by simpa using isActive⟩, throwIf_ok outside, ?_,
    circle, there, rfl, ?_⟩
  · intro id asked
    rw [asked] at accepted
    obtain ⟨_, own, -⟩ := bind_ok accepted
    have own := throwIf_ok own
    rw [Option.all_eq_false] at own
    obtain ⟨i, found, own⟩ := own
    exact ⟨i, found, by simpa using own⟩
  · generalize existing_eq : db.openInvitation circle.id applicantId call.scan = existing at h
    split at h
    · rename_i i reused
      cases h
      exact .reused i (existing_eq.trans (Option.filter_eq_some_iff.mp reused).1) rfl
    · rename_i unused
      obtain ⟨_, -, h⟩ := bind_ok h
      obtain ⟨_, -, h⟩ := bind_ok h
      obtain ⟨_, duplicate, h⟩ := bind_ok h
      obtain ⟨_, -, h⟩ := bind_ok h
      obtain ⟨written, wrote, h⟩ := bind_ok h
      have fit : ∀ i, existing = some i → opts.applicantConsented = true ∧
          (i.status = .invited ∨ db.repairPendingInviter i inviterId applicantId = true) := by
        rintro i rfl
        have fresh := throwIf_ok duplicate
        simp only [Option.any_some, Bool.and_eq_false_iff, Bool.not_eq_false'] at fresh
        rcases fresh with consented | repaired
        · simp only [Bool.and_eq_true, decide_eq_true_eq] at consented
          exact ⟨consented.1, Or.inl consented.2⟩
        · simp only [Bool.and_eq_true] at repaired
          exact ⟨repaired.1, Or.inr repaired.2⟩
      split at h
      · rename_i full
        simp only [Bool.and_eq_true, decide_eq_true_eq] at full
        obtain ⟨⟨_, admitted⟩, finalized, h⟩ := bind_ok h
        cases h
        rw [full.1] at wrote
        exact .completed existing _ written admitted existing_eq (fun i hi => (fit i hi).2) rfl
          full.1 full.2 wrote finalized
      · rename_i short
        cases h
        simp only [Bool.and_eq_true, decide_eq_true_eq, not_and, Nat.not_le] at short
        exact .saved existing _ existing_eq fit rfl short wrote

theorem Inviting.moves (h : Inviting db inviterId applicantId circle opts call db') :
    Moves db call.now db' := by
  cases h with
  | reused i found same =>
    rw [same]
    exact .still (.refl db)
  | saved existing created found fit data short wrote =>
    have ballots := writeInvitation_ballots wrote
    exact .still (.of_tables ballots.members ballots.circles)
  | completed existing created written admitted found fit data consented enough wrote finalized =>
    exact finalize_moves (writeInvitation_ballots wrote) finalized

theorem Inviting.still (h : Inviting db inviterId applicantId circle opts call db')
    (offered : opts.applicantConsented = false) : Still db db' := by
  cases h with
  | reused i found same =>
    rw [same]
    exact .refl db
  | saved existing created found fit data short wrote =>
    have ballots := writeInvitation_ballots wrote
    exact .of_tables ballots.members ballots.circles
  | completed existing created written admitted found fit data consented enough wrote finalized =>
    rw [offered] at consented
    cases consented

theorem invite_moves {result : Invited}
    (h : db.invite inviterId applicantId circleId opts call = .ok (db', result)) :
    Moves db call.now db' := by
  obtain ⟨_, -, h⟩ := bind_ok h
  obtain ⟨-, -, -, circle, -, -, inviting⟩ := inviteInTransaction_ok h
  exact inviting.moves

/-- What each of a list of offers keeps, the batch keeps. -/
theorem inviteBatch_preserves {P : Db → Prop} {applicantIds : List UserId}
    (keep : ∀ applicantId before after result,
      before.inviteInTransaction inviterId applicantId circleId .offered call = .ok (after, result) →
        P before → P after)
    (h : db.inviteBatch inviterId applicantIds circleId call = .ok db') (start : P db) : P db' := by
  unfold inviteBatch at h
  generalize applicantIds.dedup.insertionSort (· ≤ ·) = targets at h
  induction targets generalizing db with
  | nil =>
    cases h
    exact start
  | cons target targets ih =>
    rw [List.foldlM_cons] at h
    obtain ⟨_, first, rest⟩ := bind_ok h
    obtain ⟨⟨mid, result⟩, invited, rfl⟩ := map_ok first
    obtain ⟨_, -, invited⟩ := bind_ok invited
    exact ih (keep target db mid result invited start) rest

theorem inviteBatch_still {applicantIds : List UserId}
    (h : db.inviteBatch inviterId applicantIds circleId call = .ok db') : Still db db' := by
  apply inviteBatch_preserves (P := fun after => Still db after) _ h (.refl db)
  intro applicantId before after result invited reached
  obtain ⟨-, -, -, circle, -, -, inviting⟩ := inviteInTransaction_ok invited
  exact reached.trans (inviting.still rfl)

theorem respondToInvitation_moves {invitation : CircleInvitation} {accept : Bool}
    (h : db.respondToInvitation userId invitation accept call = .ok db') :
    Moves db call.now db' := by
  obtain ⟨_, -, h⟩ := bind_ok h
  split at h
  · cases h
    exact .still (.refl db)
  · split at h
    · cases h
      exact .still (.of_tables rfl rfl)
    · obtain ⟨_, -, h⟩ := bind_ok h
      obtain ⟨⟨_, result⟩, invited, rfl⟩ := map_ok h
      exact invite_moves invited

theorem addVerifier_still {callerId verifierId : UserId}
    (h : db.addVerifier callerId invitationId verifierId call = .ok db') : Still db db' := by
  obtain ⟨invitation, -, h⟩ := bind_ok h
  obtain ⟨_, -, h⟩ := bind_ok h
  obtain ⟨_, -, h⟩ := bind_ok h
  obtain ⟨_, -, h⟩ := bind_ok h
  obtain ⟨_, -, h⟩ := bind_ok h
  obtain ⟨_, -, h⟩ := bind_ok h
  obtain ⟨_, -, h⟩ := bind_ok h
  obtain ⟨verifiers, -, h⟩ := bind_ok h
  cases h
  exact .of_tables rfl rfl

theorem respond_moves {verifierId : UserId} {approve : Bool}
    (h : db.respond verifierId invitationId approve call = .ok db') : Moves db call.now db' := by
  obtain ⟨invitation, -, h⟩ := bind_ok h
  obtain ⟨record, -, h⟩ := bind_ok h
  obtain ⟨_, -, h⟩ := bind_ok h
  split at h
  · cases h
    exact .still (.of_tables rfl rfl)
  · obtain ⟨_, -, h⟩ := bind_ok h
    obtain ⟨_, -, h⟩ := bind_ok h
    dsimp only at h
    split at h
    · cases h
      exact .still (.of_tables rfl rfl)
    · obtain ⟨⟨_, admitted⟩, finalized, rfl⟩ := map_ok h
      apply finalize_moves _ finalized
      exact ⟨rfl, rfl, rfl, rfl, rfl⟩

/-- Rows that are not `ACTIVE`, and stay so, may change. -/
theorem Still.of_idle {p : CircleMember → Bool} {f : CircleMember → CircleMember}
    (rows : ∀ u c, db'.memberOf u c = (db.memberOf u c).map fun m => if p m then f m else m)
    (same : ∀ m, p m = true → ((f m).status = .active ↔ m.status = .active))
    (circles : db'.circles = db.circles) : Still db db' := by
  constructor
  case counts => exact fun _ => by rw [circles]
  case active =>
    intro u c
    apply Bool.eq_iff_iff.mpr
    rw [isActive, rows, isActive]
    cases db.memberOf u c with
    | none => rfl
    | some m =>
      simp only [Option.map_some, Option.any_some, decide_eq_true_eq]
      split
      · exact same m ‹_›
      · rfl
  case housed =>
    intro u c there
    rw [rows, Option.isSome_map] at there
    exact Or.inl there

theorem adminReject_still {adminId : UserId} {blacklist : Bool}
    (h : db.adminReject adminId invitationId blacklist = .ok db') : Still db db' := by
  obtain ⟨request, -, h⟩ := bind_ok h
  obtain ⟨_, -, h⟩ := bind_ok h
  obtain ⟨_, -, h⟩ := bind_ok h
  dsimp only at h
  split at h
  · cases h
    exact .refl db
  · obtain ⟨_, -, h⟩ := bind_ok h
    obtain ⟨_, -, h⟩ := bind_ok h
    cases h
    refine Still.of_idle
      (fun _ _ => Table.find_updateMany _ _
        (fun m : CircleMember => { m with status := .rejected }) (fun _ => rfl) _)
      ?_ rfl
    intro m chosen
    simp only [Bool.and_eq_true, decide_eq_true_eq] at chosen
    simp [chosen.2]

theorem adminApprove_moves {adminId : UserId}
    (h : db.adminApprove adminId invitationId call = .ok db') : Moves db call.now db' := by
  obtain ⟨invitation, -, h⟩ := bind_ok h
  obtain ⟨_, -, h⟩ := bind_ok h
  obtain ⟨_, -, h⟩ := bind_ok h
  obtain ⟨⟨_, admitted⟩, finalized, rfl⟩ := map_ok h
  exact finalize_moves ⟨rfl, rfl, rfl, rfl, rfl⟩ finalized

theorem reconcile_moves (h : db.reconcile invitationId call = .ok db') : Moves db call.now db' := by
  unfold reconcile at h
  split at h
  · cases h
    exact .still (.refl db)
  · obtain ⟨⟨_, admitted⟩, finalized, rfl⟩ := map_ok h
    exact finalize_moves ⟨rfl, rfl, rfl, rfl, rfl⟩ finalized

theorem configure_still (circleId : CircleId) (settings : CircleSettings) :
    Still db (db.configure circleId settings) := by
  refine ⟨fun _ _ => rfl, fun c => ?_, fun _ _ member => Or.inl member⟩
  rw [configure, Table.find_updateMany, Option.map_map]
  congr 1
  funext circle
  rw [Function.comp_apply]
  split <;> rfl

theorem setManager_still (circleId : CircleId) (userId : UserId) (manager : Bool) :
    Still db (db.setManager circleId userId manager) := by
  refine Still.of_idle
    (fun _ _ => Table.find_updateMany _ _
      (fun m : CircleMember => { m with role := if manager then .admin else .member })
      (fun _ => rfl) _)
    ?_ rfl
  exact fun _ _ => Iff.rfl

end Db

/-- The clock of a transaction that may activate. -/
def Act.now : Act → Time
  | .createCircle _ _ _ now => now
  | .joinByToken _ _ _ call => call.now
  | .respondToInvitation _ _ _ call => call.now
  | .respond _ _ _ call => call.now
  | .adminApprove _ _ call => call.now
  | .reconcile _ call => call.now
  | _ => 0

namespace Db

theorem commit_moves {act : Act} (h : Step db act db') : Moves db act.now db' := by
  cases act with
  | createCircle userId dto id now => exact createCircle_moves h
  | joinCircle userId circleId call => exact .still (joinCircle_still h)
  | leaveCircle userId circleId => exact (leaveCircle_drops h).moves
  | leaveGroup userId circleId => exact (leaveGroup_drops h).moves
  | removeGroupMember actorId circleId targetUserId console =>
    exact (removeGroupMember_drops h).moves
  | dissolveCircle userId circleId => exact .still (dissolveCircle_still h)
  | invite inviterId applicantId circleId call =>
    obtain ⟨⟨_, result⟩, invited, rfl⟩ := map_ok h
    obtain ⟨_, -, invited⟩ := bind_ok invited
    obtain ⟨-, -, -, circle, -, -, inviting⟩ := inviteInTransaction_ok invited
    exact .still (inviting.still rfl)
  | inviteBatch inviterId applicantIds circleId call => exact .still (inviteBatch_still h)
  | joinByToken issuerId viewerId circleId call =>
    obtain ⟨⟨_, result⟩, invited, rfl⟩ := map_ok h
    exact invite_moves invited
  | loadInvitation id =>
    obtain ⟨invitation, -, h⟩ := bind_ok h
    cases h
    exact .still (.of_tables rfl rfl)
  | respondToInvitation userId invitation accept call =>
    obtain ⟨_, -, h⟩ := bind_ok h
    exact respondToInvitation_moves h
  | addVerifier callerId invitationId verifierId call => exact .still (addVerifier_still h)
  | respond verifierId invitationId approve call => exact respond_moves h
  | adminReject adminId invitationId blacklist => exact .still (adminReject_still h)
  | adminApprove adminId invitationId call => exact adminApprove_moves h
  | reconcile invitationId call => exact reconcile_moves h
  | configure circleId settings =>
    cases h
    exact .still (configure_still circleId settings)
  | setManager circleId userId manager =>
    cases h
    exact .still (setManager_still circleId userId manager)
  | withdrawOffer | setUser | setConversation | liftBan | enableProgram =>
    cases h
    exact .still (.of_tables rfl rfl)

end Db

end CircleBackend.Joining
