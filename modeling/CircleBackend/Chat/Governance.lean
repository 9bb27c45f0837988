import CircleBackend.Chat.Sends

/-!
# Who rules a group

Whatever joins, leaves, is removed, promoted, silenced or handed over, a
standalone group with anybody in it has its owner in it, unsilenced and without
a second role. `Presided` is that invariant of one group and `Governed` that of
all; every operation changes the seats of one group only (`Elsewhere`), so each
is checked there.
-/

namespace CircleBackend.Chat

open Library
open Session (UserId)

/-! ## The invariant -/

/-- The owner column of a standalone group. -/
def Db.standalone (db : Db) (cid : ConversationId) : Option (Option UserId) :=
  ((db.conversations.find cid).filter fun c => c.type = .group && c.circleID.isNone).map (·.ownerID)

def Db.seats (db : Db) (cid : ConversationId) (uid : UserId) : Option ChatMember :=
  db.members.find (cid, uid)

/-- The number of active seats. -/
def Db.occupied (db : Db) (cid : ConversationId) : Nat :=
  db.members.count fun m => m.conversationID = cid && m.leftAt.isNone

/-- Somebody has an active seat. -/
def Inhabited (seats : UserId → Option ChatMember) : Prop :=
  ∃ u m, seats u = some m ∧ m.leftAt = none

/-- The owner has a seat, an active one as long as anybody has. -/
structure PresidedBy (u : UserId) (seat : ChatMember) (seats : UserId → Option ChatMember) :
    Prop where
  seated : seats u = some seat
  unsilenced : seat.silencedAt = none
  role : seat.role = .member
  present : Inhabited seats → seat.leftAt = none

def Presided (ownerID : Option UserId) (seats : UserId → Option ChatMember) : Prop :=
  ∃ u seat, ownerID = some u ∧ PresidedBy u seat seats

structure Governed (db : Db) : Prop where
  presided : ∀ cid ownerID, db.standalone cid = some ownerID → Presided ownerID (db.seats cid)
  few : ∀ cid ownerID, db.standalone cid = some ownerID →
    db.occupied cid ≤ standaloneGroupMaxMembers
  homed : ∀ k seat, db.members.find k = some seat → (db.conversations.find k.1).isSome = true

/-- A standalone group without an active seat. -/
structure Dead (db : Db) (cid : ConversationId) : Prop where
  group : db.standalone cid ≠ none
  empty : ¬Inhabited (db.seats cid)

/-- Nothing but the seats and the owner of one group changes. -/
structure Elsewhere (db db' : Db) (cid : ConversationId) : Prop where
  standalone : ∀ k, k ≠ cid → db'.standalone k = db.standalone k
  seats : ∀ k, k ≠ cid → db'.seats k = db.seats k
  conversations : ∀ k, (db.conversations.find k).isSome = true →
    (db'.conversations.find k).isSome = true

/-! ## Ranks -/

def GroupRole.rank : GroupRole → Nat
  | .member => 0
  | .admin => 1
  | .owner => 2

/-- Strictly above, between two who both have a role. -/
def Outranks (actor target : Option GroupRole) : Prop :=
  ∃ above below, actor = some above ∧ target = some below ∧ below.rank < above.rank

def Db.standaloneRole (db : Db) (cid : ConversationId) (uid : UserId) : Option GroupRole :=
  (db.standalone cid).bind fun ownerID => (db.seats cid uid).bind (standaloneGroupRole ownerID)

theorem canManage_outranks {actor target : Option GroupRole}
    (h : canManageGroupTarget actor target = true) : Outranks actor target := by
  cases actor with
  | none => cases h
  | some above =>
    cases target with
    | none => cases above <;> cases h
    | some below =>
      refine ⟨above, below, rfl, rfl, ?_⟩
      cases above <;> cases below <;> simp_all [canManageGroupTarget, GroupRole.rank]

variable {cid : ConversationId} {db db' : Db} {seat : ChatMember} {t u : UserId}
variable {c : ChatConversation} {g : Governance} {now : Time}
variable {seats : UserId → Option ChatMember} {owner : Option (Option UserId)} {a : Act}

/-- Whoever is seated and does not own the group is below its owner. -/
theorem owner_outranks {a : UserId} {own : ChatMember}
    (owner : db.standalone cid = some (some a)) (sits : db.seats cid a = some own)
    (active : own.leftAt = none) (seated : db.seats cid t = some seat)
    (present : seat.leftAt = none) (apart : t ≠ a) :
    Outranks (db.standaloneRole cid a) (db.standaloneRole cid t) := by
  have actor : own.userID = a := congrArg Prod.snd (Table.find_key sits)
  have target : seat.userID = t := congrArg Prod.snd (Table.find_key seated)
  have top : db.standaloneRole cid a = some .owner := by
    simp [Db.standaloneRole, owner, sits, standaloneGroupRole, active, actor]
  cases role : seat.role with
  | admin =>
    refine ⟨.owner, .admin, top, ?_, by decide⟩
    simp [Db.standaloneRole, owner, seated, standaloneGroupRole, present, target, apart.symm, role]
  | member =>
    refine ⟨.owner, .member, top, ?_, by decide⟩
    simp [Db.standaloneRole, owner, seated, standaloneGroupRole, present, target, apart.symm, role]

/-! ## Other groups -/

theorem occupied_le (h : ∀ u m', db'.seats cid u = some m' → m'.leftAt = none →
      ∃ m, db.seats cid u = some m ∧ m.leftAt = none) : db'.occupied cid ≤ db.occupied cid := by
  apply Table.count_le
  intro k m' found chosen
  have key := Table.find_key found
  simp only [Bool.and_eq_true, decide_eq_true_eq, Option.isNone_iff_eq_none] at chosen
  have here : k = (cid, m'.userID) := by rw [← key, chosen.1]
  subst here
  obtain ⟨m, there, present⟩ := h m'.userID m' found chosen.2
  have own : m.conversationID = cid := congrArg Prod.fst (Table.find_key there)
  exact ⟨m, there, by simp [own, present]⟩

theorem occupied_le_succ (u₀ : UserId)
    (h : ∀ u m', u ≠ u₀ → db'.seats cid u = some m' → m'.leftAt = none →
      ∃ m, db.seats cid u = some m ∧ m.leftAt = none) :
    db'.occupied cid ≤ db.occupied cid + 1 := by
  apply Table.count_le_succ (cid, u₀)
  intro k m' other found chosen
  have key := Table.find_key found
  simp only [Bool.and_eq_true, decide_eq_true_eq, Option.isNone_iff_eq_none] at chosen
  have here : k = (cid, m'.userID) := by rw [← key, chosen.1]
  subst here
  have apart : m'.userID ≠ u₀ := fun same => other (by rw [same])
  obtain ⟨m, there, present⟩ := h m'.userID m' apart found chosen.2
  have own : m.conversationID = cid := congrArg Prod.fst (Table.find_key there)
  exact ⟨m, there, by simp [own, present]⟩

theorem occupied_congr (same : db'.seats cid = db.seats cid) :
    db'.occupied cid ≤ db.occupied cid := by
  apply occupied_le
  intro u m found present
  rw [same] at found
  exact ⟨m, found, present⟩

theorem Elsewhere.trans {db₁ db₂ : Db} (h : Elsewhere db db₁ cid)
    (g : Elsewhere db₁ db₂ cid) : Elsewhere db db₂ cid where
  standalone k other := (g.standalone k other).trans (h.standalone k other)
  seats k other := (g.seats k other).trans (h.seats k other)
  conversations k there := g.conversations k (h.conversations k there)

/-- Only the group that an operation is about has to be checked. -/
theorem Governed.elsewhere (inv : Governed db)
    (apart : Elsewhere db db' cid) (homed : (db'.conversations.find cid).isSome = true)
    (here : ∀ ownerID, db'.standalone cid = some ownerID →
      Presided ownerID (db'.seats cid) ∧ db'.occupied cid ≤ standaloneGroupMaxMembers) :
    Governed db' := by
  constructor
  · intro k ownerID group
    by_cases own : k = cid
    · subst own
      exact (here ownerID group).1
    · rw [apart.seats k own]
      exact inv.presided k ownerID (apart.standalone k own ▸ group)
  · intro k ownerID group
    by_cases own : k = cid
    · subst own
      exact (here ownerID group).2
    · have low := inv.few k ownerID (apart.standalone k own ▸ group)
      exact Nat.le_trans (occupied_congr (apart.seats k own)) low
  · intro k seat found
    by_cases own : k.1 = cid
    · rw [own]
      exact homed
    · have before : db.members.find k = some seat := by
        rw [← found]
        exact congrFun (apart.seats k.1 own).symm k.2
      exact apart.conversations k.1 (inv.homed k seat before)

/-! ## Messages -/

theorem standalone_of {k : ConversationId}
    (absent : db.conversations.find k = none → db'.conversations.find k = none)
    (same : ∀ c, db.conversations.find k = some c → ∃ c', db'.conversations.find k = some c' ∧
      c'.type = c.type ∧ c'.circleID = c.circleID ∧ c'.ownerID = c.ownerID) :
    db'.standalone k = db.standalone k := by
  unfold Db.standalone
  cases found : db.conversations.find k with
  | none => rw [absent found]
  | some c =>
    obtain ⟨c', found', type, circle, owner⟩ := same c found
    rw [found']
    simp only [Option.filter, type, circle]
    split
    · exact congrArg some owner
    · rfl

theorem Advances.standalone (h : Advances db db') (k : ConversationId) :
    db'.standalone k = db.standalone k := by
  refine standalone_of (h.absent k) fun c found => ?_
  obtain ⟨c', found', settled⟩ := h.conversation k c found
  obtain ⟨type, -, circle, owner⟩ := settled.judges
  exact ⟨c', found', type, circle, owner⟩

theorem Advances.homed (h : Advances db db') {k : ConversationId}
    (found : (db.conversations.find k).isSome = true) :
    (db'.conversations.find k).isSome = true := by
  obtain ⟨c, found⟩ := Option.isSome_iff_exists.mp found
  obtain ⟨c', found', -⟩ := h.conversation k c found
  exact Option.isSome_iff_exists.mpr ⟨c', found'⟩

theorem Advances.seat_from (h : Advances db db')
    {m' : ChatMember} (found' : db'.seats cid u = some m') :
    ∃ m, db.seats cid u = some m ∧ SeatAdvanced m m' := by
  cases found : db.members.find (cid, u) with
  | none => cases (h.seatless _ found).symm.trans found'
  | some m =>
    obtain ⟨m'', there, moved⟩ := h.seat _ m found
    cases found'.symm.trans there
    exact ⟨m, found, moved⟩

theorem Governed.advances (inv : Governed db) (h : Advances db db') :
    Governed db' := by
  constructor
  · intro cid ownerID group
    obtain ⟨u, seat, owner, rule⟩ := inv.presided cid ownerID (h.standalone cid ▸ group)
    obtain ⟨seat', found', moved⟩ := h.seat (cid, u) seat rule.seated
    refine ⟨u, seat', owner, found', moved.silencedAt.trans rule.unsilenced,
      moved.role.trans rule.role, ?_⟩
    rintro ⟨v, m', there', present⟩
    obtain ⟨m, there, moved'⟩ := h.seat_from there'
    exact moved.leftAt.trans (rule.present ⟨v, m, there, moved'.leftAt.symm.trans present⟩)
  · intro cid ownerID group
    have low := inv.few cid ownerID (h.standalone cid ▸ group)
    refine Nat.le_trans (occupied_le fun u m' there' present => ?_) low
    obtain ⟨m, there, moved⟩ := h.seat_from there'
    exact ⟨m, there, moved.leftAt.symm.trans present⟩
  · intro k seat' found'
    have there : db'.seats k.1 k.2 = some seat' := found'
    obtain ⟨seat, found, -⟩ := h.seat_from there
    exact h.homed (inv.homed k seat found)

/-! ## Rows -/

theorem standalone_found (found : db.conversations.find cid = some c) (group : c.type = .group)
    (standalone : c.circleID = none) : db.standalone cid = some c.ownerID := by
  simp [Db.standalone, found, Option.filter, group, standalone]

theorem standalone_some {ownerID : Option UserId}
    (h : db.standalone cid = some ownerID) : ∃ c, db.conversations.find cid = some c ∧
      c.type = .group ∧ c.circleID = none ∧ c.ownerID = ownerID := by
  obtain ⟨c, found, owner⟩ := Option.map_eq_some_iff.mp h
  obtain ⟨found, group⟩ := Option.filter_eq_some_iff.mp found
  simp only [Bool.and_eq_true, decide_eq_true_eq, Option.isNone_iff_eq_none] at group
  exact ⟨c, found, group.1, group.2, owner⟩

/-- The seats of a group after one that is there has been written. -/
theorem updateSeat_seats {seat' : ChatMember} (seated : db.members.find (cid, t) = some seat)
    (key : (seat'.conversationID, seat'.userID) = (seat.conversationID, seat.userID))
    (k : ConversationId) (u : UserId) :
    (db.updateSeat seat').seats k u = if k = cid ∧ u = t then some seat' else db.seats k u := by
  simp only [Db.seats, Db.updateSeat, Table.find_put_own seated key, Prod.mk.injEq]

theorem updateConversation_standalone {c' : ChatConversation}
    (found : db.conversations.find c'.id = some c) (group : c'.type = .group)
    (standalone : c'.circleID = none) (k : ConversationId) :
    (db.updateConversation c').standalone k =
      if k = c'.id then some c'.ownerID else db.standalone k := by
  simp only [Db.standalone, Db.updateConversation, Table.find_put_of_find found]
  split
  · simp [Option.filter, group, standalone]
  · rfl

theorem updateConversation_homed {c' : ChatConversation}
    (found : db.conversations.find c'.id = some c) (k : ConversationId)
    (there : (db.conversations.find k).isSome = true) :
    ((db.updateConversation c').conversations.find k).isSome = true := by
  simp only [Db.updateConversation, Table.find_put_of_find found]
  split
  · rfl
  · exact there

/-! ## What a change leaves of its group -/

def Governance.conversationId : Governance → ConversationId
  | .createGroupConversation _ conversationId .. | .join conversationId ..
  | .leaveGroupConversation _ conversationId .. | .dissolveGroupConversation _ conversationId ..
  | .removeStandaloneMember _ conversationId .. | .setStandaloneMemberRole _ conversationId ..
  | .silenceMember _ conversationId .. | .unsilenceMember _ conversationId ..
  | .moderateAsAdministrator _ _ conversationId .. | .transferOwnership _ conversationId ..
  | .setMuteAll _ conversationId .. => conversationId

/-- Whose request it is; of a seat that opens, whose seat. -/
def Governance.actor : Governance → UserId
  | .createGroupConversation userId .. | .join _ userId .. | .leaveGroupConversation userId ..
  | .dissolveGroupConversation userId .. | .removeStandaloneMember userId ..
  | .setStandaloneMemberRole userId .. | .silenceMember userId .. | .unsilenceMember userId ..
  | .moderateAsAdministrator _ userId .. | .transferOwnership userId .. | .setMuteAll userId .. =>
    userId

def Governance.byConsole : Governance → Bool
  | .moderateAsAdministrator .. => true
  | _ => false

/-- The owner column and the seats of the group of a change that commits. -/
inductive Governs (db : Db) :
    Governance → Option (Option UserId) → (UserId → Option ChatMember) → Prop
  | kept {g : Governance} :
    Governs db g (db.standalone g.conversationId) (db.seats g.conversationId)
  | touched {g : Governance} {t : UserId} {seat seat' : ChatMember} :
    g.actor ≠ t → db.seats g.conversationId t = some seat → seat.leftAt = none →
    (seat'.leftAt.isSome = true → seat'.role = .member) →
    db.standalone g.conversationId ≠ some (some t) →
    (db.standalone g.conversationId ≠ none → g.byConsole = false →
      Outranks (db.standaloneRole g.conversationId g.actor)
        (db.standaloneRole g.conversationId t)) →
    Governs db g (db.standalone g.conversationId)
      (Function.update (db.seats g.conversationId) t (some seat'))
  | handed {a : UserId} {cid : ConversationId} {t : UserId} {targetActive : Bool} {notice : Notice}
      {seat own : ChatMember} :
    a ≠ t → db.standalone cid = some (some a) → db.seats cid t = some seat →
    seat.leftAt = none → db.seats cid a = some own → own.leftAt = none →
    Governs db (.transferOwnership a cid t targetActive notice) (some (some t))
      (Function.update
        (Function.update (db.seats cid) t
          (some { seat with role := .member, silencedAt := none, silencedUntil := none }))
        a (some { own with role := .member }))
  | left {u : UserId} {cid : ConversationId} {earliest : Earliest} {now : Time}
      {ownerID : Option UserId} {seat : ChatMember} :
    db.standalone cid = some ownerID → db.seats cid u = some seat → seat.leftAt = none →
    (ownerID = some u → ∀ v m, v ≠ u → db.seats cid v = some m → m.leftAt ≠ none) →
    Governs db (.leaveGroupConversation u cid earliest now) (some ownerID)
      (Function.update (db.seats cid) u (some { seat with leftAt := some now, role := .member }))
  | succeeded {u : UserId} {cid : ConversationId} {earliest : Earliest} {now : Time} {t : UserId}
      {seat heir : ChatMember} :
    db.standalone cid = some (some u) → db.seats cid u = some seat → seat.leftAt = none →
    t ≠ u → db.seats cid t = some heir → heir.leftAt = none →
    Governs db (.leaveGroupConversation u cid earliest now) (some (some t))
      (Function.update
        (Function.update (db.seats cid) u (some { seat with leftAt := some now, role := .member }))
        t (some { heir with role := .member, silencedAt := none, silencedUntil := none }))
  | joined {cid : ConversationId} {v : UserId} {now : Time} {a : UserId} {own seat' : ChatMember} :
    db.standalone cid = some (some a) → db.seats cid a = some own → own.leftAt = none → a ≠ v →
    (∀ m, db.seats cid v = some m → m.leftAt ≠ none) →
    db.occupied cid < standaloneGroupMaxMembers → seat'.leftAt = none →
    Governs db (.join cid v now) (some (some a)) (Function.update (db.seats cid) v (some seat'))
  | created {u : UserId} {cid : ConversationId} {memberIds members : List UserId}
      {direct : UserId → Bool} {now : Time} :
    u ∉ members → members.Nodup → members.length + 1 ≤ standaloneGroupMaxMembers →
    db.standalone cid = none →
    Governs db (.createGroupConversation u cid memberIds direct now) (some (some u))
      (fun v => if v ∈ u :: members then some (newSeat cid 0 now v) else none)
  | dissolved {u : UserId} {cid : ConversationId} {now : Time} {own : ChatMember} (height : Nat) :
    db.standalone cid = some (some u) → db.seats cid u = some own → own.leftAt = none →
    Governs db (.dissolveGroupConversation u cid now) (some (some u)) (fun v =>
      (db.seats cid v).map fun m =>
        if m.leftAt.isNone then
          { m with clearedBeforeHeight := height, lastReadHeight := height, leftAt := some now }
        else m)

/-! ## Each change is one of these -/

theorem updateSeat_apart (db : Db) (t : UserId)
    (seat' : ChatMember) (seated : db.members.find (cid, t) = some seat)
    (key : (seat'.conversationID, seat'.userID) = (seat.conversationID, seat.userID)) :
    Elsewhere db (db.updateSeat seat') cid ∧
      (db.updateSeat seat').seats cid = Function.update (db.seats cid) t (some seat') := by
  have seats := updateSeat_seats seated key
  refine ⟨⟨?_, ?_, ?_⟩, ?_⟩
  · intro k _
    rfl
  · intro k other
    funext v
    rw [seats, if_neg fun both => other both.1]
  · intro k there
    exact there
  · funext v
    rw [seats, Function.update_apply]
    simp

theorem updateConversation_apart (c' : ChatConversation)
    (found : db.conversations.find cid = some c) (own : c'.id = c.id) (group : c'.type = .group)
    (standalone : c'.circleID = none) :
    Elsewhere db (db.updateConversation c') cid ∧
      (db.updateConversation c').standalone cid = some c'.ownerID := by
  have id : c'.id = cid := own.trans (Table.find_key found)
  have found' : db.conversations.find c'.id = some c := by rw [id, found]
  have written := updateConversation_standalone found' group standalone
  refine ⟨⟨?_, ?_, ?_⟩, ?_⟩
  · intro k other
    rw [written, if_neg fun here => other (here.trans id)]
  · intro k _
    rfl
  · exact updateConversation_homed found'
  · rw [written, if_pos id.symm]

/-- Of a change before its message: one group was rewritten. -/
structure Rewritten (db : Db) (g : Governance) (mid : Db) : Prop where
  apart : Elsewhere db mid g.conversationId
  homed : (mid.conversations.find g.conversationId).isSome = true
  group : Governs db g (mid.standalone g.conversationId) (mid.seats g.conversationId)

theorem Elsewhere.refl (db : Db) (cid : ConversationId) : Elsewhere db db cid :=
  ⟨fun _ _ => rfl, fun _ _ => rfl, fun _ there => there⟩

theorem Rewritten.kept
    (homed : (db.conversations.find g.conversationId).isSome = true) : Rewritten db g db :=
  ⟨.refl .., homed, .kept⟩

theorem resolvePair_standalone
    (found : db.conversations.find cid = some c) (group : c.type = .group)
    (standalone : c.circleID = none) (a t : UserId) :
    (db.resolvePair c a t).actorRole = db.standaloneRole cid a ∧
      (db.resolvePair c a t).targetRole = db.standaloneRole cid t := by
  have id : c.id = cid := Table.find_key found
  simp [Db.resolvePair, Db.standaloneRole, standalone_found found group standalone, standalone, id,
    Db.seats]

theorem Retouched.rewritten {locked : ChatConversation}
    {seat' : ChatMember} (h : Retouched db g.actor g.conversationId t locked seat seat' db')
    (above : locked.circleID = none → g.byConsole = false →
      Outranks (db.resolvePair locked g.actor t).actorRole
        (db.resolvePair locked g.actor t).targetRole) :
    ∃ mid, Rewritten db g mid ∧ Advances mid db' := by
  obtain ⟨notice, announced⟩ := h.written
  obtain ⟨apart, seats⟩ := updateSeat_apart db t seat' h.seated h.key
  have homed : (db.conversations.find g.conversationId).isSome = true :=
    Option.isSome_iff_exists.mpr ⟨locked, h.found⟩
  have notOwner : db.standalone g.conversationId ≠ some (some t) := by
    intro owner
    obtain ⟨c, found, group, standalone, _⟩ := standalone_some owner
    have same : locked = c := Option.some.inj (h.found.symm.trans found)
    have user : seat.userID = t := congrArg Prod.snd (Table.find_key h.seated)
    apply h.notOwner
    rw [(resolvePair_standalone h.found h.group (same ▸ standalone) g.actor t).2]
    simp [Db.standaloneRole, owner, Db.seats, h.seated, standaloneGroupRole, h.present, user]
  refine ⟨db.updateSeat seat', ⟨apart, homed, ?_⟩, (insertSystemMessage_beside announced).advances⟩
  rw [seats]
  refine .touched h.notSelf h.seated h.present h.closed notOwner fun standing console => ?_
  obtain ⟨ownerID, standing⟩ := Option.ne_none_iff_exists'.mp standing
  obtain ⟨c, found, group, standalone, _⟩ := standalone_some standing
  have same : locked = c := Option.some.inj (h.found.symm.trans found)
  rw [← same] at standalone
  obtain ⟨actor, target⟩ := resolvePair_standalone h.found h.group standalone g.actor t
  rw [← actor, ← target]
  exact above standalone console

theorem transferOwnership_rewritten {a : UserId}
    {targetActive : Bool} {notice : Notice} (inv : Governed db)
    (h : db.transferOwnership a cid t targetActive notice = .ok db') :
    ∃ mid, Rewritten db (.transferOwnership a cid t targetActive notice) mid ∧ Advances mid db' := by
  obtain ⟨locked, seat, self, found, group, standalone, owner, seated, present, handed, hhanded,
    written⟩ := transferOwnership_ok h
  have owned : db.standalone cid = some (some a) := by
    rw [standalone_found found group standalone, owner]
  obtain ⟨_, own, owner', rule⟩ := inv.presided cid (some a) owned
  cases owner'
  obtain ⟨moved, standing⟩ :=
    updateConversation_apart { locked with ownerID := some t } found rfl group standalone
  obtain ⟨apart, seats⟩ := updateSeat_apart
    (db.updateConversation { locked with ownerID := some t }) t
    { seat with role := .member, silencedAt := none, silencedUntil := none } seated rfl
  rw [← hhanded] at apart seats
  have sits : handed.members.find (cid, a) = some own := by
    have still := congrFun seats a
    rw [Function.update_of_ne self] at still
    exact still.trans rule.seated
  have sits' : db.members.find (cid, a) = some own := rule.seated
  rcases written with ⟨absent, -⟩ | ⟨own', there, announced⟩
  · rw [sits'] at absent
    cases absent
  · have same : own = own' := Option.some.inj (sits'.symm.trans there)
    rw [← same] at announced
    obtain ⟨apart', seats'⟩ := updateSeat_apart handed a { own with role := .member } sits rfl
    have whole := (moved.trans apart).trans apart'
    refine ⟨_, ⟨whole, ?_, ?_⟩, (insertSystemMessage_beside announced).advances⟩
    · exact whole.conversations cid (Option.isSome_iff_exists.mpr ⟨locked, found⟩)
    · have standing' : (handed.updateSeat { own with role := .member }).standalone cid =
          some (some t) := by
        rw [hhanded]
        exact standing
      change Governs _ _ (Db.standalone _ cid) (Db.seats _ cid)
      rw [standing', seats', seats]
      exact .handed self owned seated present sits' (rule.present ⟨t, seat, seated, present⟩)

theorem leaveGroupConversation_rewritten {earliest : Earliest}
    (h : db.leaveGroupConversation u cid earliest now = .ok db') :
    Rewritten db (.leaveGroupConversation u cid earliest now) db' := by
  obtain ⟨locked, seat, found, group, standalone, seated, present, left, hleft, cases⟩ :=
    leaveGroupConversation_ok h
  have homed : (db.conversations.find cid).isSome = true :=
    Option.isSome_iff_exists.mpr ⟨locked, found⟩
  have owned := standalone_found found group standalone
  obtain ⟨apart, seats⟩ :=
    updateSeat_apart db u { seat with leftAt := some now, role := .member } seated rfl
  rw [← hleft] at apart seats
  have owned' : left.standalone cid = some locked.ownerID := by
    rw [hleft]
    exact owned
  have found' : left.conversations.find cid = some locked := by
    rw [hleft]
    exact found
  have other : ∀ v m, left.seats cid v = some m → m.leftAt = none →
      v ≠ u ∧ db.seats cid v = some m := by
    intro v m there active
    rw [seats] at there
    by_cases here : v = u
    · rw [here, Function.update_self] at there
      cases there
      cases active
    · rw [Function.update_of_ne here] at there
      exact ⟨here, there⟩
  have gone : locked.ownerID ≠ some u ∨ left.successor earliest cid = none →
      Rewritten db (.leaveGroupConversation u cid earliest now) left := by
    intro case
    refine ⟨apart, apart.conversations cid homed, ?_⟩
    change Governs _ _ (Db.standalone _ cid) (Db.seats _ cid)
    rw [owned', seats]
    refine .left owned seated present fun owner v m apart there active => ?_
    rcases case with member | last
    · exact member owner
    · have there' : left.members.find (cid, v) = some m := by
        have still := congrFun seats v
        rw [Function.update_of_ne apart] at still
        exact still.trans there
      exact successor_none last (Table.find_mem there')
        (congrArg Prod.fst (Table.find_key there')) active
  rcases cases with ⟨member, rfl⟩ | ⟨-, last, rfl⟩ | ⟨heir, next, owner, rfl⟩
  · exact gone (Or.inl member)
  · exact gone (Or.inr last)
  · obtain ⟨row, conv, active⟩ := successor_some next
    have sits : left.members.find (cid, heir.userID) = some heir := by
      rw [← conv]
      exact Table.mem_find row
    obtain ⟨apart', there⟩ := other heir.userID heir sits active
    obtain ⟨moved, standing⟩ := updateConversation_apart
      { locked with ownerID := some heir.userID } found' rfl group standalone
    obtain ⟨written, seats'⟩ := updateSeat_apart
      (left.updateConversation { locked with ownerID := some heir.userID }) heir.userID
      { heir with role := .member, silencedAt := none, silencedUntil := none } sits rfl
    have whole := (apart.trans moved).trans written
    refine ⟨whole, whole.conversations cid homed, ?_⟩
    have standing' : ((left.updateConversation { locked with ownerID := some heir.userID }).updateSeat
        { heir with role := .member, silencedAt := none, silencedUntil := none }).standalone cid =
          some (some heir.userID) := standing
    have seats'' : (left.updateConversation { locked with ownerID := some heir.userID }).seats cid =
        Function.update (db.seats cid) u (some { seat with leftAt := some now, role := .member }) :=
      seats
    change Governs _ _ (Db.standalone _ cid) (Db.seats _ cid)
    rw [standing', seats', seats'']
    exact .succeeded (owned.trans (congrArg some owner)) seated present apart' there active

theorem upsertSeat_apart (db : Db) (create : ChatMember) (update : ChatMember → ChatMember)
    (hu : ∀ m, ((update m).conversationID, (update m).userID) = (m.conversationID, m.userID)) :
    Elsewhere db { db with members := db.members.upsert create update hu } create.conversationID ∧
      Db.seats { db with members := db.members.upsert create update hu } create.conversationID =
        Function.update (db.seats create.conversationID) create.userID
          (some ((db.seats create.conversationID create.userID).elim create update)) := by
  have written : ∀ k v,
      Db.seats { db with members := db.members.upsert create update hu } k v =
        if (create.conversationID, create.userID) = (k, v) then
          some ((db.seats k v).elim create update)
        else db.seats k v := fun k v => Table.find_upsert ..
  refine ⟨⟨fun _ _ => rfl, fun k other => ?_, fun _ there => there⟩, ?_⟩
  · funext v
    rw [written, if_neg]
    intro here
    exact other (congrArg Prod.fst here).symm
  · funext v
    rw [written, Function.update_apply]
    by_cases here : v = create.userID
    · simp [here]
    · rw [if_neg here, if_neg]
      intro same
      exact here (congrArg Prod.snd same).symm

theorem join_rewritten {v : UserId}
    (h : govern db (.join cid v now) = .ok db') : Rewritten db (.join cid v now) db' := by
  obtain ⟨g, lock, opened⟩ := bind_ok h
  obtain ⟨found, group, standalone, rfl, a, own, owner, sits, active⟩ := lockAdmission_ok lock
  have homed : (db.conversations.find g.id).isSome = true :=
    Option.isSome_iff_exists.mpr ⟨g, found⟩
  have owned := standalone_found found group standalone
  rw [owner] at owned
  rcases openSeat_ok opened with ⟨rfl, -⟩ | ⟨closed, room, floor, -, -, rfl⟩
  · exact .kept homed
  · obtain ⟨apart, seats⟩ := upsertSeat_apart db (newSeat g.id floor now v) (fun m =>
      { m with leftAt := none, joinedAt := now, role := .member, clearedBeforeHeight := floor })
      fun _ => rfl
    have other : a ≠ v := by
      rintro rfl
      exact closed own sits active
    have present : ((db.seats g.id v).elim (newSeat g.id floor now v) fun m =>
        { m with
          leftAt := none
          joinedAt := now
          role := .member
          clearedBeforeHeight := floor }).leftAt = none := by
      cases db.seats g.id v <;> rfl
    refine ⟨apart, homed, ?_⟩
    change Governs _ _ (db.standalone g.id) _
    rw [owned]
    exact seats ▸ .joined owned sits active other closed room present

theorem createGroupConversation_rewritten
    {memberIds : List UserId} {direct : UserId → Bool} (inv : Governed db)
    (h : db.createGroupConversation u cid memberIds direct now = .ok db') :
    Rewritten db (.createGroupConversation u cid memberIds direct now) db' := by
  obtain ⟨members, notIn, nodup, room, fresh, rows, -, found⟩ := createGroupConversation_ok h
  have empty : ∀ m ∈ db.members.rows, m.conversationID ≠ cid := by
    intro m hm here
    have there := inv.homed _ m (Table.mem_find hm)
    simp only [here, fresh] at there
    cases there
  have unhomed : db.standalone cid = none := by simp [Db.standalone, fresh]
  have standing : ∀ k, db'.standalone k = if k = cid then some (some u) else db.standalone k := by
    intro k
    simp only [Db.standalone, found]
    split
    · rfl
    · rfl
  have seated : ∀ k v, db'.seats k v =
      if k = cid then if v ∈ u :: members then some (newSeat cid 0 now v) else none
      else db.seats k v := by
    intro k v
    have member : ∀ m, m ∈ db'.members.rows ↔
        m ∈ db.members.rows ∨ ∃ w ∈ u :: members, newSeat cid 0 now w = m := by
      intro m
      rw [rows, List.mem_append, List.mem_map]
    split
    · rename_i here
      subst here
      split
      · rename_i invited
        exact Table.find_eq_some.mpr ⟨(member _).mpr (Or.inr ⟨v, invited, rfl⟩), rfl⟩
      · rename_i stranger
        refine Table.find_eq_none.mpr fun m hm key => ?_
        rcases (member m).mp hm with old | ⟨w, invited, rfl⟩
        · exact empty m old (congrArg Prod.fst key)
        · have same : w = v := congrArg Prod.snd key
          exact stranger (same ▸ invited)
    · rename_i other
      cases there : db.seats k v with
      | none =>
        refine Table.find_eq_none.mpr fun m hm key => ?_
        rcases (member m).mp hm with old | ⟨w, -, rfl⟩
        · exact Table.find_eq_none.mp there m old key
        · exact other (congrArg Prod.fst key).symm
      | some m =>
        have old := Table.find_eq_some.mp there
        exact Table.find_eq_some.mpr ⟨(member m).mpr (Or.inl old.1), old.2⟩
  refine ⟨⟨?_, ?_, ?_⟩, ?_, ?_⟩
  · intro k other
    change k ≠ cid at other
    rw [standing, if_neg other]
  · intro k other
    change k ≠ cid at other
    funext v
    rw [seated, if_neg other]
  · intro k there
    rw [found]
    split
    · rfl
    · exact there
  · change (db'.conversations.find cid).isSome = true
    rw [found, if_pos rfl]
    rfl
  · change Governs _ _ (db'.standalone cid) (db'.seats cid)
    have seats : db'.seats cid =
        fun v => if v ∈ u :: members then some (newSeat cid 0 now v) else none := by
      funext v
      rw [seated, if_pos rfl]
    rw [standing, if_pos rfl, seats]
    exact .created notIn nodup room unhomed

theorem dissolveGroupConversation_rewritten (h : db.dissolveGroupConversation u cid now = .ok db') :
    Rewritten db (.dissolveGroupConversation u cid now) db' ∧ Dead db' cid := by
  obtain ⟨locked, seat, found, group, standalone, owner, seated, present, hdb'⟩ :=
    dissolveGroupConversation_ok h
  have raised := raiseConversationFloor_advances db locked locked.nextHeight
  have homed : (db.conversations.find cid).isSome = true :=
    Option.isSome_iff_exists.mpr ⟨locked, found⟩
  have owned := standalone_found found group standalone
  rw [owner] at owned
  have conversations : ∀ k,
      db'.conversations.find k =
        (db.raiseConversationFloor locked locked.nextHeight).conversations.find k := by
    intro k
    rw [hdb']
  have standing : ∀ k, db'.standalone k = db.standalone k := by
    intro k
    rw [Db.standalone, conversations]
    exact raised.standalone k
  have seats : ∀ k v, db'.seats k v = (db.seats k v).map fun m =>
      if k = cid && m.leftAt.isNone then
        { m with
          clearedBeforeHeight := locked.nextHeight
          lastReadHeight := locked.nextHeight
          leftAt := some now }
      else m := by
    intro k v
    have updated : db'.seats k v = (db.seats k v).map fun m =>
        if m.conversationID = cid && m.leftAt.isNone then
          { m with
            clearedBeforeHeight := locked.nextHeight
            lastReadHeight := locked.nextHeight
            leftAt := some now }
        else m := by
      simp only [Db.seats, hdb', Table.find_updateMany]
    rw [updated]
    cases there : db.seats k v with
    | none => rfl
    | some m =>
      have conv : m.conversationID = k := congrArg Prod.fst (Table.find_key there)
      simp [conv]
  refine ⟨⟨⟨fun k _ => standing k, fun k other => ?_, fun k there => ?_⟩, ?_, ?_⟩, ?_, ?_⟩
  · change k ≠ cid at other
    funext v
    rw [seats]
    cases db.seats k v with
    | none => rfl
    | some m => simp [other]
  · rw [conversations]
    exact raised.homed there
  · change (db'.conversations.find cid).isSome = true
    rw [conversations]
    exact raised.homed homed
  · have here : db'.seats cid = fun v => (db.seats cid v).map fun m =>
        if m.leftAt.isNone then
          { m with
            clearedBeforeHeight := locked.nextHeight
            lastReadHeight := locked.nextHeight
            leftAt := some now }
        else m := by
      funext v
      simp [seats]
    change Governs _ _ (db'.standalone cid) (db'.seats cid)
    rw [standing, owned, here]
    exact .dissolved locked.nextHeight owned seated present
  · rw [standing, owned]
    exact Option.some_ne_none _
  · rintro ⟨v, m', there, active⟩
    rw [seats] at there
    obtain ⟨m, -, rfl⟩ := Option.map_eq_some_iff.mp there
    by_cases was : m.leftAt = none <;> simp [was] at active

theorem updateConversation_unmoved (c' : ChatConversation)
    (found : db.conversations.find c'.id = some c) (type : c'.type = c.type)
    (circle : c'.circleID = c.circleID) (owner : c'.ownerID = c.ownerID) (k : ConversationId) :
    (db.updateConversation c').standalone k = db.standalone k := by
  have written : (db.updateConversation c').conversations.find k =
      if k = c'.id then some c' else db.conversations.find k := Table.find_put_of_find found k
  apply standalone_of
  · intro absent
    rw [written, if_neg, absent]
    rintro rfl
    rw [found] at absent
    cases absent
  · intro row there
    rw [written]
    split
    · rename_i here
      rw [here, found] at there
      cases there
      exact ⟨c', rfl, type, circle, owner⟩
    · exact ⟨row, there, rfl, rfl, rfl⟩

theorem setMuteAll_rewritten {a : UserId} {enabled : Bool}
    {notice : Notice} (h : db.setMuteAll a cid enabled notice = .ok db') :
    db' = db ∨
      ∃ mid, Rewritten db (.setMuteAll a cid enabled notice) mid ∧ Advances mid db' := by
  obtain ⟨locked, found, group, ⟨rfl, -⟩ | announced⟩ := setMuteAll_ok h
  · exact Or.inl rfl
  · have id : locked.id = cid := Table.find_key found
    have homed : (db.conversations.find cid).isSome = true :=
      Option.isSome_iff_exists.mpr ⟨locked, found⟩
    generalize muted : { locked with muteAllAt := if enabled then some notice.now else none } = c'
      at announced
    have found' : db.conversations.find c'.id = some locked := by rw [← muted, id, found]
    have standing : ∀ k, (db.updateConversation c').standalone k = db.standalone k := by
      apply updateConversation_unmoved c' found'
      · rw [← muted]
      · rw [← muted]
      · rw [← muted]
    have kept := updateConversation_homed found'
    refine Or.inr ⟨_, ⟨⟨fun k _ => standing k, fun _ _ => rfl, kept⟩, kept cid homed, ?_⟩,
      (insertSystemMessage_beside announced).advances⟩
    change Governs _ _ (Db.standalone _ cid) (db.seats cid)
    rw [standing]
    exact .kept

theorem govern_rewritten (inv : Governed db)
    (h : govern db g = .ok db') : db' = db ∨ ∃ mid, Rewritten db g mid ∧ Advances mid db' := by
  cases g with
  | createGroupConversation =>
    exact Or.inr ⟨db', createGroupConversation_rewritten inv h, .refl db'⟩
  | join => exact Or.inr ⟨db', join_rewritten h, .refl db'⟩
  | leaveGroupConversation => exact Or.inr ⟨db', leaveGroupConversation_rewritten h, .refl db'⟩
  | dissolveGroupConversation => exact Or.inr ⟨db', (dissolveGroupConversation_rewritten h).1, .refl db'⟩
  | transferOwnership => exact Or.inr (transferOwnership_rewritten inv h)
  | setMuteAll => exact setMuteAll_rewritten h
  | removeStandaloneMember a cid t notice =>
    obtain ⟨locked, seat, -, above, touched⟩ := removeStandaloneMember_ok h
    exact Or.inr (Retouched.rewritten (g := .removeStandaloneMember a cid t notice) touched
      fun _ _ => canManage_outranks above)
  | setStandaloneMemberRole a cid t role notice =>
    rcases setStandaloneMemberRole_ok h with rfl | ⟨locked, seat, standalone, owner, touched⟩
    · exact Or.inl rfl
    · refine Or.inr (Retouched.rewritten (g := .setStandaloneMemberRole a cid t role notice) touched
        fun _ _ => ?_)
      have id : locked.id = cid := Table.find_key touched.found
      have target : ∃ below, (db.resolvePair locked a t).targetRole = some below := by
        simp [Db.resolvePair, standalone, id, touched.seated, standaloneGroupRole, touched.present]
        split <;> simp
      obtain ⟨below, target⟩ := target
      have under := touched.notOwner
      rw [target] at under
      exact ⟨.owner, below, owner, target, by cases below <;> simp_all [GroupRole.rank]⟩
  | silenceMember a cid t durationSec notice =>
    obtain ⟨locked, seat, above, touched⟩ := silenceMember_ok h
    exact Or.inr (Retouched.rewritten (g := .silenceMember a cid t durationSec notice) touched
      fun _ _ => canManage_outranks above)
  | unsilenceMember a cid t notice =>
    rcases unsilenceMember_ok h with rfl | ⟨locked, seat, above, touched⟩
    · exact Or.inl rfl
    · exact Or.inr (Retouched.rewritten (g := .unsilenceMember a cid t notice) touched
        fun _ _ => canManage_outranks above)
  | moderateAsAdministrator permitted a cid t action notice =>
    rcases moderateAsAdministrator_ok h with rfl | ⟨locked, seat, touched⟩
    · exact Or.inl rfl
    · exact Or.inr (Retouched.rewritten
        (g := .moderateAsAdministrator permitted a cid t action notice) touched
        fun _ console => Bool.noConfusion console)

/-! ## What every change keeps -/

/-- A seat is written that is not the owner's. -/
theorem PresidedBy.touch {own seat' : ChatMember} (h : PresidedBy u own seats) (apart : u ≠ t)
    (inhabited : Inhabited seats) : PresidedBy u own (Function.update seats t (some seat')) := by
  refine ⟨?_, h.unsilenced, h.role, fun _ => h.present inhabited⟩
  rw [Function.update_of_ne apart]
  exact h.seated

theorem Governs.presided (inv : Governed db) (h : Governs db g owner seats)
    {ownerID : Option UserId} (group : owner = some ownerID) : Presided ownerID seats := by
  cases h with
  | kept => exact inv.presided _ ownerID group
  | @touched _ t seat _ _ seated present _ notOwner _ =>
    obtain ⟨u, own, owner, rule⟩ := inv.presided _ ownerID group
    have apart : u ≠ t := by
      rintro rfl
      exact notOwner (group.trans (congrArg some owner))
    exact ⟨u, own, owner, rule.touch apart ⟨_, seat, seated, present⟩⟩
  | @handed a _ t _ _ seat own self _ _ present =>
    cases group
    refine ⟨t, { seat with role := .member, silencedAt := none, silencedUntil := none }, rfl, ?_,
      rfl, rfl, fun _ => present⟩
    rw [Function.update_of_ne self.symm, Function.update_self]
  | @left u _ _ _ _ seat owned seated present last =>
    cases group
    obtain ⟨w, own, owner, rule⟩ := inv.presided _ _ owned
    by_cases apart : w = u
    · subst apart
      have same : seat = own := Option.some.inj (seated.symm.trans rule.seated)
      refine ⟨w, _, owner, Function.update_self .., ?_, rfl, ?_⟩
      · exact (congrArg ChatMember.silencedAt same).trans rule.unsilenced
      · rintro ⟨v, m, there, active⟩
        by_cases here : v = w
        · rw [here, Function.update_self] at there
          cases there
          cases active
        · rw [Function.update_of_ne here] at there
          exact absurd active (last owner v m here there)
    · exact ⟨w, own, owner, rule.touch apart ⟨_, seat, seated, present⟩⟩
  | @succeeded u _ _ _ t _ heir _ _ _ _ _ active =>
    cases group
    refine ⟨t, { heir with role := .member, silencedAt := none, silencedUntil := none }, rfl,
      Function.update_self .., rfl, rfl, fun _ => active⟩
  | @joined _ v _ a own _ owned sits active apart =>
    cases group
    obtain ⟨w, own', owner, rule⟩ := inv.presided _ _ owned
    cases owner
    exact ⟨a, own', rfl, rule.touch apart ⟨a, own, sits, active⟩⟩
  | @created u cid _ members _ now =>
    cases group
    exact ⟨u, newSeat cid 0 now u, rfl, if_pos List.mem_cons_self, rfl, rfl, fun _ => rfl⟩
  | @dissolved u _ now own height owned sits active =>
    cases group
    obtain ⟨w, own', owner, rule⟩ := inv.presided _ _ owned
    cases owner
    have same : own = own' := Option.some.inj (sits.symm.trans rule.seated)
    rw [← same] at rule
    refine ⟨u, { own with clearedBeforeHeight := height, lastReadHeight := height, leftAt := some now },
      rfl, ?_, rule.unsilenced, rule.role, ?_⟩
    · simp [sits, active]
    · rintro ⟨v, m, there, present⟩
      obtain ⟨m', -, rfl⟩ := Option.map_eq_some_iff.mp there
      split at present
      · cases present
      · rename_i gone
        simp [present] at gone

/-- Every change but a new seat leaves no more active seats than there were. -/
theorem occupied_le_length {users : List UserId}
    (h : ∀ u m, db.seats cid u = some m → m.leftAt = none → u ∈ users) :
    db.occupied cid ≤ users.length := by
  have keys : users.length = (users.map fun u => (cid, u)).length := (List.length_map _).symm
  rw [Db.occupied, Table.count_eq_keys, keys]
  refine (List.subperm_of_subset (db.members.keys_nodup _) fun k hk => ?_).length_le
  obtain ⟨m, hm, rfl⟩ := List.mem_map.mp hk
  obtain ⟨hm, chosen⟩ := Table.mem_select.mp hm
  simp only [Bool.and_eq_true, decide_eq_true_eq, Option.isNone_iff_eq_none] at chosen
  have found : db.seats cid m.userID = some m := by
    rw [← chosen.1]
    exact Table.mem_find hm
  rw [chosen.1]
  exact List.mem_map_of_mem (h m.userID m found chosen.2)

/-- Who has an active seat had one before. -/
def OpensNone (seats seats' : UserId → Option ChatMember) : Prop :=
  ∀ v m', seats' v = some m' → m'.leftAt = none → ∃ m, seats v = some m ∧ m.leftAt = none

theorem OpensNone.update {seats' : UserId → Option ChatMember}
    (h : OpensNone seats seats') (seated : seats t = some seat)
    (present : seat.leftAt = none) (written : ChatMember) :
    OpensNone seats (Function.update seats' t (some written)) := by
  intro v m' there active
  by_cases here : v = t
  · rw [here]
    exact ⟨seat, seated, present⟩
  · rw [Function.update_of_ne here] at there
    exact h v m' there active

theorem OpensNone.refl (seats : UserId → Option ChatMember) : OpensNone seats seats :=
  fun _ m there active => ⟨m, there, active⟩

/-- A seat opens in a group that is new or has room and an owner in it. -/
inductive Opening (db : Db) (cid : ConversationId) (seats : UserId → Option ChatMember) : Prop
  | fewer {ownerID : Option UserId} :
    db.standalone cid = some ownerID → OpensNone (db.seats cid) seats → Opening db cid seats
  | one {a v : UserId} {own seat' : ChatMember} :
    db.standalone cid = some (some a) → db.seats cid a = some own → own.leftAt = none →
    db.occupied cid < standaloneGroupMaxMembers →
    seats = Function.update (db.seats cid) v (some seat') → Opening db cid seats
  | all {users : List UserId} :
    db.standalone cid = none → users.length ≤ standaloneGroupMaxMembers →
    (∀ v m', seats v = some m' → v ∈ users) → Opening db cid seats

theorem Governs.opening (h : Governs db g owner seats) {ownerID : Option UserId}
    (group : owner = some ownerID) : Opening db g.conversationId seats := by
  cases h with
  | kept => exact .fewer group (.refl _)
  | touched _ seated present => exact .fewer group (.update (.refl _) seated present _)
  | handed _ owned seated present sits active =>
    exact .fewer owned (.update (.update (.refl _) seated present _) sits active _)
  | left owned seated present => exact .fewer owned (.update (.refl _) seated present _)
  | succeeded owned seated present _ sits active =>
    exact .fewer owned (.update (.update (.refl _) seated present _) sits active _)
  | joined owned sits active _ _ room => exact .one owned sits active room rfl
  | @created u _ _ members _ _ _ _ room fresh =>
    have few : (u :: members).length ≤ standaloneGroupMaxMembers := room
    refine .all fresh few fun v m' there => ?_
    by_cases invited : v ∈ u :: members
    · exact invited
    · rw [if_neg invited] at there
      cases there
  | dissolved _ owned =>
    refine .fewer owned fun v m' there active => ?_
    obtain ⟨m, found, rfl⟩ := Option.map_eq_some_iff.mp there
    split at active
    · cases active
    · exact ⟨m, found, active⟩

theorem Governed.rewritten {mid : Db} (inv : Governed db)
    (h : Rewritten db g mid) : Governed mid := by
  refine inv.elsewhere h.apart h.homed fun ownerID group => ⟨h.group.presided inv group, ?_⟩
  cases h.group.opening group with
  | fewer owned fewer => exact Nat.le_trans (occupied_le fewer) (inv.few _ _ owned)
  | @one a v own seat' owned sits active room seats =>
    have more : mid.occupied g.conversationId ≤ db.occupied g.conversationId + 1 := by
      apply occupied_le_succ v
      intro u m' other there present
      rw [seats, Function.update_of_ne other] at there
      exact ⟨m', there, present⟩
    omega
  | @all users _ few members =>
    exact Nat.le_trans (occupied_le_length fun u m there _ => members u m there) few

theorem Governed.step (inv : Governed db) (h : govern db g = .ok db') : Governed db' := by
  rcases govern_rewritten inv h with rfl | ⟨mid, written, advances⟩
  · exact inv
  · exact (inv.rewritten written).advances advances

/-! ## Closed seats and empty groups -/

def Governance.dissolves : Governance → Bool
  | .dissolveGroupConversation .. => true
  | _ => false

/-- No closed seat keeps a second role. -/
def ResetSeats (seats : UserId → Option ChatMember) : Prop :=
  ∀ u m, seats u = some m → m.leftAt ≠ none → m.role = .member

theorem ResetSeats.update {written : ChatMember}
    (h : ResetSeats seats) (reset : written.leftAt ≠ none → written.role = .member) :
    ResetSeats (Function.update seats t (some written)) := by
  intro v m there closed
  by_cases here : v = t
  · rw [here, Function.update_self] at there
    cases there
    exact reset closed
  · rw [Function.update_of_ne here] at there
    exact h v m there closed

theorem Governs.reset (h : Governs db g owner seats) (other : g.dissolves = false)
    (before : db.standalone g.conversationId ≠ none → ResetSeats (db.seats g.conversationId))
    (group : owner ≠ none) : ResetSeats seats := by
  have standing : ∀ {cid : ConversationId} {ownerID : Option UserId},
      db.standalone cid = some ownerID → db.standalone cid ≠ none :=
    fun owned absent => Option.some_ne_none _ (owned.symm.trans absent)
  cases h with
  | kept => exact before group
  | touched _ _ _ closed =>
    exact (before group).update fun left => closed (Option.isSome_iff_ne_none.mpr left)
  | handed _ owned =>
    exact ((before (standing owned)).update fun _ => rfl).update fun _ => rfl
  | left owned => exact (before (standing owned)).update fun _ => rfl
  | succeeded owned => exact ((before (standing owned)).update fun _ => rfl).update fun _ => rfl
  | joined owned _ _ _ _ _ present =>
    exact (before (standing owned)).update fun left => absurd present left
  | created =>
    intro v m there closed
    dsimp only at there
    split at there
    · cases there
      exact absurd rfl closed
    · cases there
  | dissolved => cases other

theorem Governs.dead (h : Governs db g owner seats) (dead : Dead db g.conversationId) :
    owner = db.standalone g.conversationId ∧ seats = db.seats g.conversationId := by
  cases h with
  | kept => exact ⟨rfl, rfl⟩
  | touched _ seated present => exact absurd ⟨_, _, seated, present⟩ dead.empty
  | handed _ _ seated present => exact absurd ⟨_, _, seated, present⟩ dead.empty
  | left _ seated present => exact absurd ⟨_, _, seated, present⟩ dead.empty
  | succeeded _ seated present => exact absurd ⟨_, _, seated, present⟩ dead.empty
  | joined _ sits active => exact absurd ⟨_, _, sits, active⟩ dead.empty
  | created _ _ _ fresh => exact absurd fresh dead.group
  | dissolved _ _ sits active => exact absurd ⟨_, _, sits, active⟩ dead.empty

theorem Dead.advances (dead : Dead db cid) (h : Advances db db') : Dead db' cid := by
  constructor
  · rw [h.standalone]
    exact dead.group
  · rintro ⟨v, m', there, active⟩
    obtain ⟨m, found, moved⟩ := h.seat_from there
    exact dead.empty ⟨v, m, found, moved.leftAt.symm.trans active⟩

theorem Dead.step (inv : Governed db)
    (dead : Dead db cid) (h : govern db g = .ok db') : Dead db' cid := by
  rcases govern_rewritten inv h with rfl | ⟨mid, written, advances⟩
  · exact dead
  · refine Dead.advances ?_ advances
    by_cases here : cid = g.conversationId
    · subst here
      obtain ⟨owner, seats⟩ := written.group.dead dead
      constructor
      · rw [owner]
        exact dead.group
      · rw [seats]
        exact dead.empty
    · constructor
      · rw [written.apart.standalone cid here]
        exact dead.group
      · rw [written.apart.seats cid here]
        exact dead.empty

/-! ## Who may act on whom -/

/-- What a change may take from somebody else is left to him. -/
def Spared (db db' : Db) (cid : ConversationId) (b : UserId) (seat : ChatMember) : Prop :=
  db'.standaloneRole cid b = db.standaloneRole cid b ∧
    ∃ seat', db'.seats cid b = some seat' ∧ seat'.leftAt = seat.leftAt ∧ seat'.role = seat.role ∧
      seat'.silencedAt = seat.silencedAt ∧ seat'.silencedUntil = seat.silencedUntil

theorem standaloneGroupRole_below {o o' : Option UserId}
    (h : o ≠ some seat.userID) (h' : o' ≠ some seat.userID) :
    standaloneGroupRole o seat = standaloneGroupRole o' seat := by
  simp only [standaloneGroupRole, if_neg h, if_neg h']

/-- `role` is the role under the owner that the change leaves. -/
theorem Governs.spares (h : Governs db g owner seats) {b : UserId}
    (other : b ≠ g.actor) (seated : db.seats g.conversationId b = some seat)
    (present : seat.leftAt = none) (group : db.standalone g.conversationId ≠ none) :
    seats b = some seat ∧
      owner.bind (standaloneGroupRole · seat) =
        (db.standalone g.conversationId).bind (standaloneGroupRole · seat) ∨
      if g.byConsole then db.standalone g.conversationId ≠ some (some b)
      else Outranks (db.standaloneRole g.conversationId g.actor)
        (db.standaloneRole g.conversationId b) := by
  have user : seat.userID = b := congrArg Prod.snd (Table.find_key seated)
  have below : ∀ {o o' : UserId}, b ≠ o → b ≠ o' →
      standaloneGroupRole (some o) seat = standaloneGroupRole (some o') seat := by
    intro o o' first second
    apply standaloneGroupRole_below
    · rw [user]
      exact fun same => first (Option.some.inj same).symm
    · rw [user]
      exact fun same => second (Option.some.inj same).symm
  cases h with
  | kept => exact Or.inl ⟨seated, rfl⟩
  | @touched _ t _ _ _ _ _ _ notOwner above =>
    by_cases here : b = t
    · subst here
      right
      split
      · exact notOwner
      · rename_i console
        exact above group (Bool.eq_false_iff.mpr console)
    · exact Or.inl ⟨by rw [Function.update_of_ne here, seated], rfl⟩
  | @handed a cid t _ _ _ own self owned _ _ sits active =>
    change b ≠ a at other
    change db.seats cid b = some seat at seated
    by_cases here : b = t
    · subst here
      exact Or.inr (owner_outranks owned sits active seated present other)
    · left
      constructor
      · rw [Function.update_of_ne other, Function.update_of_ne here, seated]
      · change _ = (db.standalone cid).bind _
        rw [owned]
        exact below here other
  | @left u cid _ _ _ _ owned =>
    change b ≠ u at other
    refine Or.inl ⟨?_, congrArg (Option.bind · _) owned.symm⟩
    rw [Function.update_of_ne other]
    exact seated
  | @succeeded u cid _ _ t own _ owned sits active =>
    change b ≠ u at other
    change db.seats cid b = some seat at seated
    by_cases here : b = t
    · subst here
      exact Or.inr (owner_outranks owned sits active seated present other)
    · left
      constructor
      · rw [Function.update_of_ne here, Function.update_of_ne other, seated]
      · change _ = (db.standalone cid).bind _
        rw [owned]
        exact below here other
  | @joined cid v _ _ _ _ owned =>
    change b ≠ v at other
    refine Or.inl ⟨?_, congrArg (Option.bind · _) owned.symm⟩
    rw [Function.update_of_ne other]
    exact seated
  | created _ _ _ fresh => exact absurd fresh group
  | dissolved _ owned sits active =>
    exact Or.inr (owner_outranks owned sits active seated present other)

/-- Whoever loses a seat, a role or his voice is below the one who takes it;
only the console needs no rank, and the owner is out of its reach. -/
theorem spared_or_outranked (inv : Governed db)
    (h : govern db g = .ok db') (group : db.standalone cid ≠ none)
    {b : UserId} (other : b ≠ g.actor) (seated : db.seats cid b = some seat)
    (present : seat.leftAt = none) :
    Spared db db' cid b seat ∨
      if g.byConsole then db.standalone cid ≠ some (some b)
      else Outranks (db.standaloneRole cid g.actor) (db.standaloneRole cid b) := by
  have unchanged : ∀ mid, Advances mid db' → mid.seats cid b = some seat →
      (mid.standalone cid).bind (standaloneGroupRole · seat) =
        (db.standalone cid).bind (standaloneGroupRole · seat) →
      Spared db db' cid b seat := by
    intro mid advances kept role
    obtain ⟨seat', found', moved⟩ := advances.seat (cid, b) seat kept
    have same : ∀ o, standaloneGroupRole o seat' = standaloneGroupRole o seat := by
      intro o
      have user : seat.userID = b := congrArg Prod.snd (Table.find_key kept)
      have user' : seat'.userID = b := congrArg Prod.snd (Table.find_key found')
      simp only [standaloneGroupRole, moved.leftAt, moved.role, user, user']
    refine ⟨?_, seat', found', moved.leftAt, moved.role, moved.silencedAt, moved.silencedUntil⟩
    have seated' : db'.seats cid b = some seat' := found'
    simp only [Db.standaloneRole, advances.standalone, seated, seated', Option.bind_some, same]
    exact role
  rcases govern_rewritten inv h with rfl | ⟨mid, written, advances⟩
  · exact Or.inl (unchanged db' (.refl db') seated rfl)
  · by_cases here : cid = g.conversationId
    · subst here
      rcases written.group.spares other seated present group with ⟨kept, role⟩ | taken
      · exact Or.inl (unchanged mid advances kept role)
      · exact Or.inr taken
    · left
      apply unchanged mid advances
      · rw [written.apart.seats cid here, seated]
      · rw [written.apart.standalone cid here]

/-! ## Runs -/

/-- The acts on standalone groups, and the messages in between. -/
def Act.governs : Act → Bool
  | .govern _ => true
  | .op o => o.onMessages

def Act.dissolves (cid : ConversationId) : Act → Bool
  | .govern g => g.dissolves && g.conversationId = cid
  | .op _ => false

/-- Before the first standalone group. -/
structure Founding (db : Db) : Prop where
  none : ∀ cid, db.standalone cid = none
  homed : ∀ k seat, db.members.find k = some seat → (db.conversations.find k.1).isSome = true

theorem Founding.governed (h : Founding db) : Governed db where
  presided cid _ group := by cases (h.none cid).symm.trans group
  few cid _ group := by cases (h.none cid).symm.trans group
  homed := h.homed

/-- One step of a run: nothing, a change, or rows that only advance. -/
theorem act_taken (own : a.governs = true) (h : ActStep db a db') :
    db' = db ∨ (∃ g, a = .govern g ∧ govern db g = .ok db') ∨ Advances db db' := by
  cases h with
  | rolledBack => exact Or.inl rfl
  | committed ok =>
    cases a with
    | govern g => exact Or.inr (Or.inl ⟨g, rfl, ok⟩)
    | op o => exact Or.inr (Or.inr (perform_effect ok own).2)

theorem Governed.act (own : a.governs = true) (h : ActStep db a db')
    (inv : Governed db) : Governed db' := by
  rcases act_taken own h with rfl | ⟨g, rfl, ok⟩ | advances
  · exact inv
  · exact inv.step ok
  · exact inv.advances advances

theorem Dead.act (own : a.governs = true)
    (h : ActStep db a db') (inv : Governed db) (dead : Dead db cid) : Dead db' cid := by
  rcases act_taken own h with rfl | ⟨g, rfl, ok⟩ | advances
  · exact dead
  · exact dead.step inv ok
  · exact dead.advances advances

theorem reset_act (own : a.governs = true) (h : ActStep db a db') (inv : Governed db)
    (spared : a.dissolves cid = true → ∃ fault, a.run db = .error fault)
    (reset : db.standalone cid ≠ none → ResetSeats (db.seats cid)) :
    db'.standalone cid ≠ none → ResetSeats (db'.seats cid) := by
  have moved : ∀ mid, Advances mid db' →
      (mid.standalone cid ≠ none → ResetSeats (mid.seats cid)) →
      db'.standalone cid ≠ none → ResetSeats (db'.seats cid) := by
    intro mid advances before group u m' there closed
    obtain ⟨m, found, same⟩ := advances.seat_from there
    rw [advances.standalone] at group
    exact same.role.trans (before group u m found fun left => closed (same.leftAt.trans left))
  rcases act_taken own h with rfl | ⟨g, rfl, ok⟩ | advances
  · exact reset
  · rcases govern_rewritten inv ok with rfl | ⟨mid, written, advances⟩
    · exact reset
    · apply moved mid advances
      by_cases here : cid = g.conversationId
      · subst here
        have other : g.dissolves = false := by
          by_contra dissolves
          obtain ⟨fault, refused⟩ := spared (by simp [Act.dissolves, Bool.not_eq_false _ ▸ dissolves])
          cases ok.symm.trans refused
        exact written.group.reset other reset
      · rw [written.apart.standalone cid here, written.apart.seats cid here]
        exact reset
  · exact moved db advances reset

/-- The steps of a run: acts on standalone groups. -/
abbrev GovernStep : Db → Act → Db → Prop := Run.Where ActStep fun _ a => a.governs = true

/-- The same, without a dissolution of the group that commits. -/
abbrev UndissolvedStep (cid : ConversationId) : Db → Act → Db → Prop :=
  Run.Where GovernStep fun db a =>
    a.dissolves cid = true → ∃ fault, a.run db = .error fault

theorem run_governed {s₀ s : Db} {as : List Act} (start : Governed s₀)
    (run : Run GovernStep s₀ as s) : Governed s :=
  run.preserves (fun _ _ _ taken inv => inv.act taken.2 taken.1) start

theorem run_dead {s t : Db} {as : List Act} (inv : Governed s)
    (dead : Dead s cid) (run : Run GovernStep s as t) : Dead t cid := by
  have both : Governed t ∧ Dead t cid := by
    refine run.preserves (P := fun db => Governed db ∧ Dead db cid) ?_ ⟨inv, dead⟩
    rintro db a db' ⟨taken, own⟩ ⟨inv, dead⟩
    exact ⟨inv.act own taken, dead.act own taken inv⟩
  exact both.2

theorem run_reset {s₀ s : Db} {as : List Act} (start : Founding s₀)
    (run : Run (UndissolvedStep cid) s₀ as s) (group : s.standalone cid ≠ none) :
    ResetSeats (s.seats cid) := by
  have reset : s.standalone cid ≠ none → ResetSeats (s.seats cid) := by
    refine run.preserves_where (I := Governed)
      (P := fun db => db.standalone cid ≠ none → ResetSeats (db.seats cid)) ?_ ?_ start.governed ?_
    · exact fun _ _ _ taken inv => inv.act taken.2 taken.1
    · exact fun _ _ _ taken spared inv reset => reset_act taken.2 taken.1 inv spared reset
    · exact fun standing => absurd (start.none cid) standing
  exact reset group

theorem group_governed {s₀ s : Db} {as : List Act} (start : Founding s₀)
    (run : Run GovernStep s₀ as s) :
    (∀ cid ownerID, s.standalone cid = some ownerID →
      Presided ownerID (s.seats cid) ∧ s.occupied cid ≤ standaloneGroupMaxMembers) ∧
    (∀ cid, s.standalone cid ≠ none → Run (UndissolvedStep cid) s₀ as s →
      ResetSeats (s.seats cid)) ∧
    (∀ u cid now s', govern s (.dissolveGroupConversation u cid now) = .ok s' → Dead s' cid) ∧
    (∀ cid, Dead s cid → ∀ bs s', Run GovernStep s bs s' → Dead s' cid) ∧
    ∀ g s', govern s g = .ok s' → ∀ cid b seat, s.standalone cid ≠ none → b ≠ g.actor →
      s.seats cid b = some seat → seat.leftAt = none →
      Spared s s' cid b seat ∨
        if g.byConsole then s.standalone cid ≠ some (some b)
        else Outranks (s.standaloneRole cid g.actor) (s.standaloneRole cid b) := by
  have inv := run_governed start.governed run
  refine ⟨?_, ?_, ?_, ?_, ?_⟩
  · exact fun cid ownerID group => ⟨inv.presided cid ownerID group, inv.few cid ownerID group⟩
  · exact fun cid group undissolved => run_reset start undissolved group
  · exact fun u cid now s' ok => (dissolveGroupConversation_rewritten ok).2
  · exact fun cid dead bs s' later => run_dead inv dead later
  · exact fun g s' ok cid b seat group other seated present =>
      spared_or_outranked inv ok group other seated present

theorem unwritten_founding : Founding unwritten :=
  ⟨fun _ => rfl, fun _ _ found => by cases found⟩

/-- An administrator is appointed, and the owner dissolves the group. -/
def promoted : Db := settle founded (.govern (.setStandaloneMemberRole 1 1 2 .admin ⟨1, [], 5⟩))

def dissolvedGroup : Db := settle promoted (.govern (.dissolveGroupConversation 1 1 6))

theorem run_promoted : ∃ as, Run GovernStep unwritten as promoted :=
  ⟨_, .snoc (.single ⟨step_settle unwritten _, rfl⟩) ⟨step_settle founded _, rfl⟩⟩

theorem group_governed_promoted :
    Presided (some 1) (promoted.seats 1) ∧ promoted.occupied 1 ≤ standaloneGroupMaxMembers ∧
      Outranks (promoted.standaloneRole 1 1) (promoted.standaloneRole 1 2) := by
  obtain ⟨as, run⟩ := run_promoted
  have governed := group_governed unwritten_founding run
  obtain ⟨presided, few⟩ := governed.1 1 (some 1) rfl
  refine ⟨presided, few, ?_⟩
  -- the owner removes the administrator
  have removed : ∃ s', govern promoted (.removeStandaloneMember 1 1 2 ⟨2, [], 6⟩) = .ok s' ∧
      ∃ seat', s'.seats 1 2 = some seat' ∧ seat'.leftAt = some 6 := ⟨_, rfl, _, rfl, rfl⟩
  obtain ⟨s', ok, seat', there, left⟩ := removed
  have standing : promoted.standalone 1 ≠ none := Option.some_ne_none (some 1)
  rcases governed.2.2.2.2 _ s' ok 1 2 _ standing (by decide) rfl rfl with
    ⟨-, seat'', there', kept, -⟩ | above
  · have same : seat' = seat'' := Option.some.inj (there.symm.trans there')
    rw [← same, left] at kept
    cases kept
  · exact above

/-- The dissolution leaves the second role in the closed seat; and the console
silences somebody without a role in the group. -/
theorem dissolution_keeps_role :
    (∃ as, Run GovernStep unwritten as dissolvedGroup) ∧
      dissolvedGroup.standalone 1 = some (some 1) ∧
      (∃ m, dissolvedGroup.seats 1 2 = some m ∧ m.leftAt = some 6 ∧ m.role = .admin) ∧
      ∃ s', govern promoted (.moderateAsAdministrator true 9 1 3 .mute ⟨2, [], 6⟩) = .ok s' ∧
        (∃ m, s'.seats 1 3 = some m ∧ m.silencedAt = some 6) ∧
        ¬Outranks (promoted.standaloneRole 1 9) (promoted.standaloneRole 1 3) := by
  obtain ⟨as, run⟩ := run_promoted
  refine ⟨⟨_, run.snoc ⟨step_settle promoted _, rfl⟩⟩, rfl, ⟨_, rfl, rfl, rfl⟩, _, rfl,
    ⟨_, rfl, rfl⟩, ?_⟩
  rintro ⟨above, below, actor, -⟩
  have stranger : promoted.standaloneRole 1 9 = none := rfl
  rw [stranger] at actor
  cases actor

end CircleBackend.Chat
