import CircleBackend.Chat.Rows
import Mathlib.Data.List.Dedup
import Mathlib.Data.List.MinMax

/-!
# Governing a group

What opens, closes and judges the seats of a group. Each is one transaction
under the lock on the conversation's row; the checks before the lock repeat
those under it and only refuse, so they are left out. The group's log and its
notifications are not part of the state.
-/

namespace CircleBackend.Chat

open Library
open Session (UserId)

def silenceDurationMinSec : Nat := 60
def silenceDurationMaxSec : Nat := 30 * 86400

def isValidSilenceDuration (durationSec : Option Nat) : Bool :=
  durationSec.all fun sec => silenceDurationMinSec ≤ sec && sec ≤ silenceDurationMaxSec

/-- An owner may act on administrators and members, an administrator on members. -/
def canManageGroupTarget (actor target : Option GroupRole) : Bool :=
  match actor, target with
  | some .owner, some target => target ≠ .owner
  | some .admin, some target => target = .member
  | _, _ => false

/-- The system message of a change. -/
structure Notice where
  id : MessageId
  content : Content
  now : Time

def Db.lockGroup (db : Db) (conversationId : ConversationId) : Except Fault ChatConversation :=
  match (db.conversations.find conversationId).filter (·.type = .group) with
  | none => .error (.refused "群聊不存在" .conversationNotFound)
  | some c => .ok c

def ChatConversation.assertStandalone (c : ChatConversation) : Except Fault Unit :=
  if c.circleID.isSome then .error (.refused "该群由圈子管理" .groupCircleManaged) else .ok ()

def assertNotSelf (message : String) (actorId targetUserId : UserId) : Except Fault Unit :=
  if actorId = targetUserId then .error (.refused message .groupSelfTarget) else .ok ()

structure ResolvedPair where
  actorRole : Option GroupRole
  targetRole : Option GroupRole
  targetSeat : Option ChatMember

def Db.resolvePair (db : Db) (locked : ChatConversation) (actorId targetUserId : UserId) :
    ResolvedPair :=
  let actorSeat := db.members.find (locked.id, actorId)
  let targetSeat := db.members.find (locked.id, targetUserId)
  match locked.circleID with
  | none =>
    { actorRole := actorSeat.bind (standaloneGroupRole locked.ownerID)
      targetRole := targetSeat.bind (standaloneGroupRole locked.ownerID)
      targetSeat := targetSeat }
  | some circleID =>
    let roleOf := fun userId => circleGroupRole (db.circleMembers.find (userId, circleID))
    { actorRole := (actorSeat.filter (·.leftAt.isNone)).bind fun _ => roleOf actorId
      targetRole := roleOf targetUserId
      targetSeat := targetSeat }

def ResolvedPair.assertManager (pair : ResolvedPair) : Except Fault Unit :=
  if isGroupManager pair.actorRole then .ok ()
  else .error (.refused "仅群主或管理员可操作" .groupManagerOnly)

def ResolvedPair.assertCanManage (pair : ResolvedPair) : Except Fault Unit :=
  if canManageGroupTarget pair.actorRole pair.targetRole then .ok ()
  else .error (.refused "不能对群主或同级管理员执行此操作" .groupTargetProtected)

/-- A circle member without a seat has nothing that could be written. -/
def ResolvedPair.requireTargetSeat (pair : ResolvedPair) : Except Fault ChatMember :=
  match pair.targetSeat.filter (·.leftAt.isNone), pair.targetRole with
  | some seat, some _ => .ok seat
  | _, _ => .error (.refused "对方不在群里" .groupMemberNotFound)

/-- The row of a seat that was read under the lock. -/
def Db.updateSeat (db : Db) (seat : ChatMember) : Db :=
  { db with members := db.members.put seat }

def Db.announce (db : Db) (locked : ChatConversation) (notice : Notice) : Except Fault Db :=
  db.insertSystemMessage locked notice.id notice.content notice.now

/-! ## Roles, silences and removals -/

def Db.setStandaloneMemberRole (db : Db) (actorId : UserId) (conversationId : ConversationId)
    (targetUserId : UserId) (role : ChatMemberRole) (notice : Notice) : Except Fault Db := do
  assertNotSelf "不能对自己执行此操作" actorId targetUserId
  let locked ← db.lockGroup conversationId
  locked.assertStandalone
  let pair := db.resolvePair locked actorId targetUserId
  if pair.actorRole ≠ some .owner then .error (.refused "仅群主可设置管理员" .groupOwnerOnly)
  else
    let seat ← pair.requireTargetSeat
    if pair.targetRole = some .owner then
      .error (.refused "不能修改群主的角色" .groupTargetProtected)
    else if seat.role = role then .ok db
    else (db.updateSeat { seat with role := role }).announce locked notice

def Db.removeStandaloneMember (db : Db) (actorId : UserId) (conversationId : ConversationId)
    (targetUserId : UserId) (notice : Notice) : Except Fault Db := do
  assertNotSelf "退出群聊请用退群端点" actorId targetUserId
  let locked ← db.lockGroup conversationId
  locked.assertStandalone
  let pair := db.resolvePair locked actorId targetUserId
  pair.assertManager
  let seat ← pair.requireTargetSeat
  pair.assertCanManage
  -- a silence outlives the seat: who is removed and comes back is still silenced
  (db.updateSeat { seat with leftAt := some notice.now, role := .member }).announce locked notice

def Db.silenceMember (db : Db) (actorId : UserId) (conversationId : ConversationId)
    (targetUserId : UserId) (durationSec : Option Nat) (notice : Notice) : Except Fault Db := do
  assertNotSelf "不能对自己执行此操作" actorId targetUserId
  if !isValidSilenceDuration durationSec then
    .error (.refused "禁言时长无效" .silenceDurationInvalid)
  else
    let locked ← db.lockGroup conversationId
    let pair := db.resolvePair locked actorId targetUserId
    pair.assertManager
    let seat ← pair.requireTargetSeat
    pair.assertCanManage
    (db.updateSeat
      { seat with
        silencedAt := some notice.now
        silencedUntil := durationSec.map fun sec => notice.now + sec * 1000 }).announce locked notice

def Db.unsilenceMember (db : Db) (actorId : UserId) (conversationId : ConversationId)
    (targetUserId : UserId) (notice : Notice) : Except Fault Db := do
  assertNotSelf "不能对自己执行此操作" actorId targetUserId
  let locked ← db.lockGroup conversationId
  let pair := db.resolvePair locked actorId targetUserId
  pair.assertManager
  let seat ← pair.requireTargetSeat
  pair.assertCanManage
  if !isSeatSilenced seat notice.now then .ok db
  else
    (db.updateSeat { seat with silencedAt := none, silencedUntil := none }).announce locked notice

inductive ModerationAction
  | mute
  | unmute
  | remove
  | role (role : ChatMemberRole)
  deriving DecidableEq, Repr

def ModerationAction.unchanged (action : ModerationAction) (seat : ChatMember) : Bool :=
  match action with
  | .role r => seat.role = r
  | .mute => seat.silencedAt.isSome && seat.silencedUntil.isNone
  | .unmute => seat.silencedAt.isNone
  | .remove => false

def ModerationAction.apply (action : ModerationAction) (seat : ChatMember) (now : Time) :
    ChatMember :=
  match action with
  | .role r => { seat with role := r }
  | .remove => { seat with leftAt := some now, role := .member }
  | .mute => { seat with silencedAt := some now, silencedUntil := none }
  | .unmute => { seat with silencedAt := none, silencedUntil := none }

/-- `permitted`: the actor is an active administrator of the console who may
moderate messages. What is asked of him in the group is nothing. -/
def Db.moderateAsAdministrator (db : Db) (permitted : Bool) (actorId : UserId)
    (conversationId : ConversationId) (targetUserId : UserId) (action : ModerationAction)
    (notice : Notice) : Except Fault Db := do
  assertNotSelf "不能对自己执行此操作" actorId targetUserId
  if !permitted then .error (.raised "Forbidden")
  else
    let locked ← db.lockGroup conversationId
    let pair := db.resolvePair locked actorId targetUserId
    let seat ← pair.requireTargetSeat
    if pair.targetRole = some .owner then .error (.raised "Owner is protected")
    else if locked.circleID.isSome && (action ≠ .mute && action ≠ .unmute) then
      .error (.raised "Circle mutation requires circle service")
    else if action.unchanged seat then .ok db
    else (db.updateSeat (action.apply seat notice.now)).announce locked notice

/-! ## The group as a whole -/

def Db.updateConversation (db : Db) (c : ChatConversation) : Db :=
  { db with conversations := db.conversations.put c }

/-- The actor's role, his seat first. -/
def Db.actorRole (db : Db) (locked : ChatConversation) (actorId : UserId) : Option GroupRole :=
  (db.resolvePair locked actorId actorId).actorRole

def Db.setMuteAll (db : Db) (actorId : UserId) (conversationId : ConversationId) (enabled : Bool)
    (notice : Notice) : Except Fault Db := do
  let locked ← db.lockGroup conversationId
  if !isGroupManager (db.actorRole locked actorId) then
    .error (.refused "仅群主或管理员可操作" .groupManagerOnly)
  else if locked.muteAllAt.isSome = enabled then .ok db
  else
    (db.updateConversation
      { locked with muteAllAt := if enabled then some notice.now else none }).announce locked notice

/-- `targetActive`: the target's account is `ACTIVE`. -/
def Db.transferOwnership (db : Db) (actorId : UserId) (conversationId : ConversationId)
    (targetUserId : UserId) (targetActive : Bool) (notice : Notice) : Except Fault Db := do
  assertNotSelf "不能转让给自己" actorId targetUserId
  let locked ← db.lockGroup conversationId
  locked.assertStandalone
  if locked.ownerID ≠ some actorId then .error (.refused "仅群主可转让群聊" .groupOwnerOnly)
  else
    match (db.members.find (locked.id, targetUserId)).filter (·.leftAt.isNone) with
    | none => .error (.refused "对方不在群里" .groupMemberNotFound)
    | some targetSeat =>
      if !targetActive then .error (.refused "对方不存在或不可用" .peerNotFound)
      else if db.blocks.contains (actorId, targetUserId) ||
          db.blocks.contains (targetUserId, actorId) then
        .error (.refused "对方不可用" .blocked)
      else
        let owned := db.updateConversation { locked with ownerID := some targetUserId }
        let handed := owned.updateSeat
          { targetSeat with role := .member, silencedAt := none, silencedUntil := none }
        match db.members.find (locked.id, actorId) with
        | none => handed.announce locked notice
        | some actorSeat =>
          (handed.updateSeat { actorSeat with role := .member }).announce locked notice

/-- `findFirst` by `joinedAt`; equal times in any order. -/
structure Earliest where
  pick : List ChatMember → Option ChatMember
  nonempty : ∀ seats, pick seats = none → seats = []
  first : ∀ seats m, pick seats = some m → m ∈ seats ∧ ∀ n ∈ seats, m.joinedAt ≤ n.joinedAt

def Db.successor (db : Db) (earliest : Earliest) (conversationId : ConversationId) :
    Option ChatMember :=
  (earliest.pick (db.members.select fun m =>
      m.conversationID = conversationId && m.leftAt.isNone && m.role = .admin)).or
    (earliest.pick (db.members.select fun m =>
      m.conversationID = conversationId && m.leftAt.isNone))

def Db.lockStandalone (db : Db) (conversationId : ConversationId) :
    Except Fault ChatConversation :=
  match (db.conversations.find conversationId).filter
    fun c => c.type = .group && c.circleID.isNone with
  | none => .error (.refused "群聊不存在" .conversationNotFound)
  | some c => .ok c

def Db.requireActiveSeat (db : Db) (c : ChatConversation) (userId : UserId) :
    Except Fault ChatMember :=
  match (db.members.find (c.id, userId)).filter (·.leftAt.isNone) with
  | none => .error (.refused "不是会话成员" .notMember)
  | some seat => .ok seat

def Db.leaveGroupConversation (db : Db) (userId : UserId) (conversationId : ConversationId)
    (earliest : Earliest) (now : Time) : Except Fault Db := do
  let locked ← db.lockStandalone conversationId
  let seat ← db.requireActiveSeat locked userId
  let left := db.updateSeat { seat with leftAt := some now, role := .member }
  if locked.ownerID ≠ some userId then .ok left
  else
    match left.successor earliest locked.id with
    | none => .ok left
    | some heir =>
      .ok ((left.updateConversation { locked with ownerID := some heir.userID }).updateSeat
        { heir with role := .member, silencedAt := none, silencedUntil := none })

def Db.dissolveGroupConversation (db : Db) (userId : UserId) (conversationId : ConversationId)
    (now : Time) : Except Fault Db := do
  let locked ← db.lockStandalone conversationId
  let _ ← db.requireActiveSeat locked userId
  if locked.ownerID ≠ some userId then .error (.refused "仅群主可解散群聊" .groupOwnerOnly)
  else
    let clearThrough := locked.nextHeight
    let cleared := db.raiseConversationFloor locked clearThrough
    .ok { cleared with
      members := cleared.members.updateMany
        (fun m => m.conversationID = locked.id && m.leftAt.isNone)
        (fun m =>
          { m with
            clearedBeforeHeight := clearThrough
            lastReadHeight := clearThrough
            leftAt := some now }) fun _ => rfl }

/-! ## New groups and new seats -/

def newGroup (conversationId : ConversationId) (userId : UserId) : ChatConversation where
  id := conversationId
  type := .group
  directKey := none
  circleID := none
  ownerID := some userId
  muteAllAt := none
  memberCanInvite := true
  qrJoinEnabled := true
  cardJoinEnabled := true
  joinApprovalRequired := true
  nextHeight := 0
  nextRevision := 0
  clearedBeforeHeight := 0

def newSeat (conversationId : ConversationId) (clearedBeforeHeight : Nat) (now : Time)
    (userID : UserId) : ChatMember where
  conversationID := conversationId
  userID := userID
  role := .member
  silencedAt := none
  silencedUntil := none
  burnDurationSec := none
  burnStartedAt := none
  lastReadHeight := 0
  clearedBeforeHeight := clearedBeforeHeight
  joinedAt := now
  leftAt := none

/-- `create` of a list of seats; one that is there already refuses them all. -/
def Db.createSeats (db : Db) (seats : List ChatMember) : Except Fault Db :=
  seats.foldlM (fun db seat =>
    match db.members.insert seat with
    | none => .error .uniqueViolation
    | some members => .ok { db with members := members }) db

/-- `memberIds` as the caller names them; `direct` answers whether a friend lets
his friends seat him without asking. -/
def Db.createGroupConversation (db : Db) (userId : UserId) (conversationId : ConversationId)
    (memberIds : List UserId) (direct : UserId → Bool) (now : Time) : Except Fault Db :=
  let memberIds := memberIds.dedup.filter (· ≠ userId)
  if memberIds.length < 2 then .error (.refused "至少选择 2 位好友" .groupMinMembers)
  else if standaloneGroupMaxMembers < memberIds.length + 1 then
    .error (.refused "群聊人数已达上限" .groupFull)
  else
    match db.conversations.insert (newGroup conversationId userId) with
    | none => .error .uniqueViolation
    | some conversations =>
      { db with conversations := conversations }.createSeats
        ((userId :: memberIds.filter direct).map (newSeat conversationId 0 now))

/-- The lock of the admissions: a group whose owner has no seat is gone. -/
def Db.lockAdmission (db : Db) (conversationId : ConversationId) :
    Except Fault ChatConversation :=
  let gone : Fault := .refused "群聊不存在或已解散" .conversationNotFound
  match (db.conversations.find conversationId).filter
    fun c => c.type = .group && c.circleID.isNone with
  | none => .error gone
  | some g =>
    match g.ownerID.bind fun ownerID =>
      (db.members.find (conversationId, ownerID)).filter (·.leftAt.isNone) with
    | none => .error gone
    | some _ => .ok g

/-- The part of `join` that opens the seat. -/
def Db.openSeat (db : Db) (g : ChatConversation) (applicantID : UserId) (now : Time) :
    Except Fault Db :=
  match (db.members.find (g.id, applicantID)).filter (·.leftAt.isNone) with
  | some _ => .ok db
  | none =>
    let count := db.members.count fun m => m.conversationID = g.id && m.leftAt.isNone
    if standaloneGroupMaxMembers ≤ count then .error (.refused "群聊人数已达上限" .groupFull)
    else
      let top := ((db.messages.select fun m => m.conversationID = g.id).map (·.height)).foldr max 0
      let floor := max g.clearedBeforeHeight top
      .ok { db with
        members := db.members.upsert (newSeat g.id floor now applicantID)
          (fun m =>
            { m with
              leftAt := none
              joinedAt := now
              role := .member
              clearedBeforeHeight := floor }) fun _ => rfl }

/-! ## Runs -/

inductive Governance
  | createGroupConversation (userId : UserId) (conversationId : ConversationId)
      (memberIds : List UserId) (direct : UserId → Bool) (now : Time)
  | join (conversationId : ConversationId) (applicantID : UserId) (now : Time)
  | leaveGroupConversation (userId : UserId) (conversationId : ConversationId)
      (earliest : Earliest) (now : Time)
  | dissolveGroupConversation (userId : UserId) (conversationId : ConversationId) (now : Time)
  | removeStandaloneMember (actorId : UserId) (conversationId : ConversationId)
      (targetUserId : UserId) (notice : Notice)
  | setStandaloneMemberRole (actorId : UserId) (conversationId : ConversationId)
      (targetUserId : UserId) (role : ChatMemberRole) (notice : Notice)
  | silenceMember (actorId : UserId) (conversationId : ConversationId) (targetUserId : UserId)
      (durationSec : Option Nat) (notice : Notice)
  | unsilenceMember (actorId : UserId) (conversationId : ConversationId) (targetUserId : UserId)
      (notice : Notice)
  | moderateAsAdministrator (permitted : Bool) (actorId : UserId) (conversationId : ConversationId)
      (targetUserId : UserId) (action : ModerationAction) (notice : Notice)
  | transferOwnership (actorId : UserId) (conversationId : ConversationId) (targetUserId : UserId)
      (targetActive : Bool) (notice : Notice)
  | setMuteAll (actorId : UserId) (conversationId : ConversationId) (enabled : Bool)
      (notice : Notice)

def govern (db : Db) : Governance → Except Fault Db
  | .createGroupConversation userId conversationId memberIds direct now =>
    db.createGroupConversation userId conversationId memberIds direct now
  | .join conversationId applicantID now =>
    db.lockAdmission conversationId >>= fun g => db.openSeat g applicantID now
  | .leaveGroupConversation userId conversationId earliest now =>
    db.leaveGroupConversation userId conversationId earliest now
  | .dissolveGroupConversation userId conversationId now =>
    db.dissolveGroupConversation userId conversationId now
  | .removeStandaloneMember actorId conversationId targetUserId notice =>
    db.removeStandaloneMember actorId conversationId targetUserId notice
  | .setStandaloneMemberRole actorId conversationId targetUserId role notice =>
    db.setStandaloneMemberRole actorId conversationId targetUserId role notice
  | .silenceMember actorId conversationId targetUserId durationSec notice =>
    db.silenceMember actorId conversationId targetUserId durationSec notice
  | .unsilenceMember actorId conversationId targetUserId notice =>
    db.unsilenceMember actorId conversationId targetUserId notice
  | .moderateAsAdministrator permitted actorId conversationId targetUserId action notice =>
    db.moderateAsAdministrator permitted actorId conversationId targetUserId action notice
  | .transferOwnership actorId conversationId targetUserId targetActive notice =>
    db.transferOwnership actorId conversationId targetUserId targetActive notice
  | .setMuteAll actorId conversationId enabled notice =>
    db.setMuteAll actorId conversationId enabled notice

/-! ## What the checks let through -/

variable {c : ChatConversation} {cid : ConversationId} {db db' : Db} {a t u : UserId}
variable {notice : Notice} {now : Time}

theorem lockGroup_ok (h : db.lockGroup cid = .ok c) :
    db.conversations.find cid = some c ∧ c.type = .group ∧ c.id = cid := by
  unfold Db.lockGroup at h
  split at h
  · cases h
  · rename_i found
    cases h
    obtain ⟨found, group⟩ := Option.filter_eq_some_iff.mp found
    exact ⟨found, by simpa using group, Table.find_key found⟩

theorem assertNotSelf_ok {message : String} (h : assertNotSelf message a t = .ok ()) : a ≠ t := by
  unfold assertNotSelf at h
  split at h
  · cases h
  · assumption

theorem assertStandalone_ok (h : c.assertStandalone = .ok ()) : c.circleID = none := by
  unfold ChatConversation.assertStandalone at h
  split at h
  · cases h
  · rename_i standalone
    exact Option.not_isSome_iff_eq_none.mp standalone

theorem assertCanManage_ok {pair : ResolvedPair} (h : pair.assertCanManage = .ok ()) :
    canManageGroupTarget pair.actorRole pair.targetRole = true := by
  unfold ResolvedPair.assertCanManage at h
  split at h
  · assumption
  · cases h

variable {seat : ChatMember} {earliest : Earliest}

theorem requireTargetSeat_ok (h : (db.resolvePair c a t).requireTargetSeat = .ok seat) :
    db.members.find (c.id, t) = some seat ∧ seat.leftAt = none := by
  have target : (db.resolvePair c a t).targetSeat = db.members.find (c.id, t) := by
    unfold Db.resolvePair
    split <;> rfl
  unfold ResolvedPair.requireTargetSeat at h
  rw [target] at h
  split at h
  · rename_i found _
    cases h
    exact seat_of_filter found
  · cases h

/-- A seat that was read under the lock is written, and the change announced. -/
structure Retouched (db : Db) (a : UserId) (cid : ConversationId) (t : UserId)
    (locked : ChatConversation) (seat seat' : ChatMember) (db' : Db) : Prop where
  notSelf : a ≠ t
  found : db.conversations.find cid = some locked
  group : locked.type = .group
  seated : db.members.find (cid, t) = some seat
  present : seat.leftAt = none
  key : (seat'.conversationID, seat'.userID) = (seat.conversationID, seat.userID)
  closed : seat'.leftAt.isSome → seat'.role = .member
  notOwner : (db.resolvePair locked a t).targetRole ≠ some .owner
  written : ∃ notice, (db.updateSeat seat').announce locked notice = .ok db'

theorem not_owner {actor target : Option GroupRole} (h : canManageGroupTarget actor target = true) :
    target ≠ some .owner := by
  rintro rfl
  cases actor with
  | none => cases h
  | some role => cases role <;> cases h

theorem setStandaloneMemberRole_ok {role : ChatMemberRole}
    (h : db.setStandaloneMemberRole a cid t role notice = .ok db') :
    db' = db ∨ ∃ locked seat, locked.circleID = none ∧
      (db.resolvePair locked a t).actorRole = some .owner ∧
      Retouched db a cid t locked seat { seat with role := role } db' := by
  obtain ⟨_, self, h⟩ := bind_ok h
  obtain ⟨locked, lock, h⟩ := bind_ok h
  obtain ⟨_, standalone, h⟩ := bind_ok h
  obtain ⟨found, group, own⟩ := lockGroup_ok lock
  dsimp only at h
  split at h
  · cases h
  · rename_i owner
    obtain ⟨seat, target, h⟩ := bind_ok h
    obtain ⟨seated, present⟩ := requireTargetSeat_ok target
    split at h
    · cases h
    · rename_i below
      split at h
      · cases h
        exact Or.inl rfl
      · refine Or.inr ⟨locked, seat, assertStandalone_ok standalone, not_not.mp owner,
          assertNotSelf_ok self, found, group, own ▸ seated, present, rfl, fun left => ?_, below,
          notice, h⟩
        simp [present] at left

theorem removeStandaloneMember_ok (h : db.removeStandaloneMember a cid t notice = .ok db') :
    ∃ locked seat, locked.circleID = none ∧
      canManageGroupTarget (db.resolvePair locked a t).actorRole
        (db.resolvePair locked a t).targetRole = true ∧
      Retouched db a cid t locked seat { seat with leftAt := some notice.now, role := .member } db' := by
  obtain ⟨_, self, h⟩ := bind_ok h
  obtain ⟨locked, lock, h⟩ := bind_ok h
  obtain ⟨_, standalone, h⟩ := bind_ok h
  obtain ⟨_, -, h⟩ := bind_ok h
  obtain ⟨seat, target, h⟩ := bind_ok h
  obtain ⟨_, manages, h⟩ := bind_ok h
  obtain ⟨found, group, own⟩ := lockGroup_ok lock
  obtain ⟨seated, present⟩ := requireTargetSeat_ok target
  have above := assertCanManage_ok manages
  exact ⟨locked, seat, assertStandalone_ok standalone, above, assertNotSelf_ok self, found, group,
    own ▸ seated, present, rfl, fun _ => rfl, not_owner above, notice, h⟩

theorem silenceMember_ok {durationSec : Option Nat}
    (h : db.silenceMember a cid t durationSec notice = .ok db') :
    ∃ locked seat, canManageGroupTarget (db.resolvePair locked a t).actorRole
        (db.resolvePair locked a t).targetRole = true ∧
      Retouched db a cid t locked seat
        { seat with
          silencedAt := some notice.now
          silencedUntil := durationSec.map fun sec => notice.now + sec * 1000 } db' := by
  obtain ⟨_, self, h⟩ := bind_ok h
  split at h
  · cases h
  · obtain ⟨locked, lock, h⟩ := bind_ok h
    obtain ⟨_, -, h⟩ := bind_ok h
    obtain ⟨seat, target, h⟩ := bind_ok h
    obtain ⟨_, manages, h⟩ := bind_ok h
    obtain ⟨found, group, own⟩ := lockGroup_ok lock
    obtain ⟨seated, present⟩ := requireTargetSeat_ok target
    have above := assertCanManage_ok manages
    refine ⟨locked, seat, above, assertNotSelf_ok self, found, group, own ▸ seated, present, rfl,
      fun left => ?_, not_owner above, notice, h⟩
    simp [present] at left

theorem unsilenceMember_ok (h : db.unsilenceMember a cid t notice = .ok db') :
    db' = db ∨ ∃ locked seat, canManageGroupTarget (db.resolvePair locked a t).actorRole
        (db.resolvePair locked a t).targetRole = true ∧
      Retouched db a cid t locked seat
        { seat with silencedAt := none, silencedUntil := none } db' := by
  obtain ⟨_, self, h⟩ := bind_ok h
  obtain ⟨locked, lock, h⟩ := bind_ok h
  obtain ⟨_, -, h⟩ := bind_ok h
  obtain ⟨seat, target, h⟩ := bind_ok h
  obtain ⟨_, manages, h⟩ := bind_ok h
  obtain ⟨found, group, own⟩ := lockGroup_ok lock
  obtain ⟨seated, present⟩ := requireTargetSeat_ok target
  have above := assertCanManage_ok manages
  split at h
  · cases h
    exact Or.inl rfl
  · refine Or.inr ⟨locked, seat, above, assertNotSelf_ok self, found, group, own ▸ seated, present,
      rfl, fun left => ?_, not_owner above, notice, h⟩
    simp [present] at left

theorem moderateAsAdministrator_ok {permitted : Bool} {action : ModerationAction}
    (h : db.moderateAsAdministrator permitted a cid t action notice = .ok db') :
    db' = db ∨ ∃ locked seat, Retouched db a cid t locked seat (action.apply seat notice.now) db' := by
  obtain ⟨_, self, h⟩ := bind_ok h
  split at h
  · cases h
  · obtain ⟨locked, lock, h⟩ := bind_ok h
    obtain ⟨seat, target, h⟩ := bind_ok h
    obtain ⟨found, group, own⟩ := lockGroup_ok lock
    obtain ⟨seated, present⟩ := requireTargetSeat_ok target
    split at h
    · cases h
    · rename_i below
      split at h
      · cases h
      · split at h
        · cases h
          exact Or.inl rfl
        · refine Or.inr ⟨locked, seat, assertNotSelf_ok self, found, group, own ▸ seated, present,
            ?_, fun left => ?_, below, notice, h⟩
          · cases action <;> rfl
          · cases action <;> simp_all [ModerationAction.apply]

theorem setMuteAll_ok {enabled : Bool} (h : db.setMuteAll a cid enabled notice = .ok db') :
    ∃ locked, db.conversations.find cid = some locked ∧ locked.type = .group ∧
      (db' = db ∧ locked.muteAllAt.isSome = enabled ∨
        (db.updateConversation
          { locked with muteAllAt := if enabled then some notice.now else none }).announce locked
            notice = .ok db') := by
  obtain ⟨locked, lock, h⟩ := bind_ok h
  obtain ⟨found, group, -⟩ := lockGroup_ok lock
  refine ⟨locked, found, group, ?_⟩
  split at h
  · cases h
  · split at h
    · rename_i already
      cases h
      exact Or.inl ⟨rfl, already⟩
    · exact Or.inr h

theorem lockStandalone_ok (h : db.lockStandalone cid = .ok c) :
    db.conversations.find cid = some c ∧ c.type = .group ∧ c.circleID = none ∧ c.id = cid := by
  unfold Db.lockStandalone at h
  split at h
  · cases h
  · rename_i found
    cases h
    obtain ⟨found, standalone⟩ := Option.filter_eq_some_iff.mp found
    simp only [Bool.and_eq_true, decide_eq_true_eq, Option.isNone_iff_eq_none] at standalone
    exact ⟨found, standalone.1, standalone.2, Table.find_key found⟩

theorem requireActiveSeat_ok (h : db.requireActiveSeat c u = .ok seat) :
    db.members.find (c.id, u) = some seat ∧ seat.leftAt = none := by
  unfold Db.requireActiveSeat at h
  split at h
  · cases h
  · rename_i found
    cases h
    exact seat_of_filter found

theorem transferOwnership_ok {targetActive : Bool}
    (h : db.transferOwnership a cid t targetActive notice = .ok db') :
    ∃ locked seat, a ≠ t ∧ db.conversations.find cid = some locked ∧ locked.type = .group ∧
      locked.circleID = none ∧ locked.ownerID = some a ∧ db.members.find (cid, t) = some seat ∧
      seat.leftAt = none ∧ ∃ handed,
        handed = (db.updateConversation { locked with ownerID := some t }).updateSeat
          { seat with role := .member, silencedAt := none, silencedUntil := none } ∧
        (db.members.find (cid, a) = none ∧ handed.announce locked notice = .ok db' ∨
          ∃ own, db.members.find (cid, a) = some own ∧
            (handed.updateSeat { own with role := .member }).announce locked notice = .ok db') := by
  obtain ⟨_, self, locking⟩ := bind_ok h
  obtain ⟨locked, lock, checking⟩ := bind_ok locking
  obtain ⟨_, standalone, rest⟩ := bind_ok checking
  obtain ⟨found, group, rfl⟩ := lockGroup_ok lock
  split at rest
  · cases rest
  · rename_i owner
    split at rest
    · cases rest
    · rename_i seat target
      obtain ⟨seated, present⟩ := seat_of_filter target
      split at rest
      · cases rest
      · split at rest
        · cases rest
        · refine ⟨locked, seat, assertNotSelf_ok self, found, group, assertStandalone_ok standalone,
            not_not.mp owner, seated, present, _, rfl, ?_⟩
          split at rest
          · rename_i absent
            exact Or.inl ⟨absent, rest⟩
          · rename_i actorSeat sits
            exact Or.inr ⟨actorSeat, sits, rest⟩

/-- The seat an owner leaves the group to. -/
theorem successor_some {heir : ChatMember} (h : db.successor earliest cid = some heir) :
    heir ∈ db.members.rows ∧ heir.conversationID = cid ∧ heir.leftAt = none := by
  unfold Db.successor at h
  have chosen : ∀ p : ChatMember → Bool, earliest.pick (db.members.select fun m =>
      m.conversationID = cid && m.leftAt.isNone && p m) = some heir →
      heir ∈ db.members.rows ∧ heir.conversationID = cid ∧ heir.leftAt = none := by
    intro p picked
    obtain ⟨member, selected⟩ := Table.mem_select.mp (earliest.first _ _ picked).1
    simp only [Bool.and_eq_true, decide_eq_true_eq, Option.isNone_iff_eq_none] at selected
    exact ⟨member, selected.1⟩
  rcases Option.or_eq_some_iff.mp h with admin | ⟨-, any⟩
  · exact chosen (fun m => m.role = .admin) admin
  · exact chosen (fun _ => true) (by simpa using any)

theorem successor_none (h : db.successor earliest cid = none) {m : ChatMember}
    (hm : m ∈ db.members.rows) (own : m.conversationID = cid) : m.leftAt ≠ none := by
  unfold Db.successor at h
  have empty := earliest.nonempty _ (Option.or_eq_none_iff.mp h).2
  intro present
  have member : m ∈ db.members.select fun m => m.conversationID = cid && m.leftAt.isNone :=
    Table.mem_select.mpr ⟨hm, by simp [own, present]⟩
  rw [empty] at member
  cases member

theorem leaveGroupConversation_ok (h : db.leaveGroupConversation u cid earliest now = .ok db') :
    ∃ locked seat, db.conversations.find cid = some locked ∧ locked.type = .group ∧
      locked.circleID = none ∧ db.members.find (cid, u) = some seat ∧ seat.leftAt = none ∧
      ∃ left, left = db.updateSeat { seat with leftAt := some now, role := .member } ∧
        (locked.ownerID ≠ some u ∧ db' = left ∨
          locked.ownerID = some u ∧ left.successor earliest cid = none ∧ db' = left ∨
          ∃ heir, left.successor earliest cid = some heir ∧ locked.ownerID = some u ∧
            db' = (left.updateConversation { locked with ownerID := some heir.userID }).updateSeat
              { heir with role := .member, silencedAt := none, silencedUntil := none }) := by
  obtain ⟨locked, lock, seating⟩ := bind_ok h
  obtain ⟨seat, target, rest⟩ := bind_ok seating
  obtain ⟨found, group, standalone, rfl⟩ := lockStandalone_ok lock
  obtain ⟨seated, present⟩ := requireActiveSeat_ok target
  refine ⟨locked, seat, found, group, standalone, seated, present, _, rfl, ?_⟩
  dsimp only at rest
  split at rest
  · rename_i member
    cases rest
    exact Or.inl ⟨member, rfl⟩
  · rename_i owner
    split at rest
    · rename_i last
      cases rest
      exact Or.inr (Or.inl ⟨not_not.mp owner, last, rfl⟩)
    · rename_i heir next
      cases rest
      exact Or.inr (Or.inr ⟨heir, next, not_not.mp owner, rfl⟩)

theorem dissolveGroupConversation_ok (h : db.dissolveGroupConversation u cid now = .ok db') :
    ∃ locked seat, db.conversations.find cid = some locked ∧ locked.type = .group ∧
      locked.circleID = none ∧ locked.ownerID = some u ∧
      db.members.find (cid, u) = some seat ∧ seat.leftAt = none ∧
      db' = { db.raiseConversationFloor locked locked.nextHeight with
        members := db.members.updateMany (fun m => m.conversationID = cid && m.leftAt.isNone)
          (fun m =>
            { m with
              clearedBeforeHeight := locked.nextHeight
              lastReadHeight := locked.nextHeight
              leftAt := some now }) fun _ => rfl } := by
  obtain ⟨locked, lock, seating⟩ := bind_ok h
  obtain ⟨seat, target, rest⟩ := bind_ok seating
  obtain ⟨found, group, standalone, rfl⟩ := lockStandalone_ok lock
  obtain ⟨seated, present⟩ := requireActiveSeat_ok target
  split at rest
  · cases rest
  · rename_i owner
    cases rest
    exact ⟨locked, seat, found, group, standalone, not_not.mp owner, seated, present, rfl⟩

theorem lockAdmission_ok {g : ChatConversation} (h : db.lockAdmission cid = .ok g) :
    db.conversations.find cid = some g ∧ g.type = .group ∧ g.circleID = none ∧ g.id = cid ∧
      ∃ owner seat, g.ownerID = some owner ∧ db.members.find (cid, owner) = some seat ∧
        seat.leftAt = none := by
  simp only [Db.lockAdmission] at h
  split at h
  · cases h
  · rename_i c found
    split at h
    · cases h
    · rename_i seat sits
      cases h
      obtain ⟨found, standalone⟩ := Option.filter_eq_some_iff.mp found
      simp only [Bool.and_eq_true, decide_eq_true_eq, Option.isNone_iff_eq_none] at standalone
      obtain ⟨owner, owned, sits⟩ := Option.bind_eq_some_iff.mp sits
      exact ⟨found, standalone.1, standalone.2, Table.find_key found, owner, seat, owned,
        seat_of_filter sits⟩

/-- A seat is opened for one who has none. -/
theorem openSeat_ok {g : ChatConversation} (h : db.openSeat g u now = .ok db') :
    db' = db ∧ (∃ seat, db.members.find (g.id, u) = some seat ∧ seat.leftAt = none) ∨
      (∀ seat, db.members.find (g.id, u) = some seat → seat.leftAt ≠ none) ∧
      db.members.count (fun m => m.conversationID = g.id && m.leftAt.isNone) <
        standaloneGroupMaxMembers ∧
      ∃ floor, g.clearedBeforeHeight ≤ floor ∧
        (∀ m ∈ db.messages.rows, m.conversationID = g.id → m.height ≤ floor) ∧
        db' = { db with
          members := db.members.upsert (newSeat g.id floor now u)
            (fun m =>
              { m with
                leftAt := none
                joinedAt := now
                role := .member
                clearedBeforeHeight := floor }) fun _ => rfl } := by
  simp only [Db.openSeat] at h
  split at h
  · rename_i seat sits
    cases h
    exact Or.inl ⟨rfl, seat, seat_of_filter sits⟩
  · rename_i absent
    split at h
    · cases h
    · rename_i room
      cases h
      refine Or.inr ⟨fun seat sits present => ?_, Nat.lt_of_not_le room, _, Nat.le_max_left .., ?_, rfl⟩
      · simp [sits, Option.filter, present] at absent
      · intro m hm own
        refine Nat.le_trans ?_ (Nat.le_max_right ..)
        have member : m.height ∈
            (db.messages.select fun m => m.conversationID = g.id).map (·.height) :=
          List.mem_map_of_mem (Table.mem_select.mpr ⟨hm, by simpa using own⟩)
        exact List.le_max_of_le' 0 member (Nat.le_refl _)

theorem createSeats_ok {seats : List ChatMember} (h : db.createSeats seats = .ok db') :
    db'.members.rows = db.members.rows ++ seats ∧ db'.messages = db.messages ∧
      db'.conversations = db.conversations := by
  unfold Db.createSeats at h
  induction seats generalizing db with
  | nil =>
    cases h
    exact ⟨(List.append_nil _).symm, rfl, rfl⟩
  | cons seat rest ih =>
    rw [List.foldlM_cons] at h
    obtain ⟨mid, first, last⟩ := bind_ok h
    split at first
    · cases first
    · rename_i members inserted
      cases first
      obtain ⟨rows, messages, conversations⟩ := ih last
      refine ⟨?_, messages, conversations⟩
      rw [rows]
      change members.rows ++ rest = _
      rw [Table.insert_rows inserted, List.append_assoc, List.singleton_append]

theorem createGroupConversation_ok {memberIds : List UserId} {direct : UserId → Bool}
    (h : db.createGroupConversation u cid memberIds direct now = .ok db') :
    ∃ members, u ∉ members ∧ members.Nodup ∧ members.length + 1 ≤ standaloneGroupMaxMembers ∧
      db.conversations.find cid = none ∧
      db'.members.rows = db.members.rows ++ (u :: members).map (newSeat cid 0 now) ∧
      db'.messages = db.messages ∧
      ∀ k, db'.conversations.find k =
        if k = cid then some (newGroup cid u) else db.conversations.find k := by
  simp only [Db.createGroupConversation] at h
  split at h
  · cases h
  · split at h
    · cases h
    · rename_i room
      split at h
      · cases h
      · rename_i conversations inserted
        obtain ⟨rows, messages, kept⟩ := createSeats_ok h
        refine ⟨_, ?_, ?_, ?_, Table.insert_fresh inserted, rows, messages, fun k => ?_⟩
        · simp
        · exact ((List.nodup_dedup memberIds).filter _).filter _
        · have shorter := List.length_filter_le direct (memberIds.dedup.filter (· ≠ u))
          omega
        · rw [kept]
          change conversations.find k = _
          rw [Table.find_insert inserted]
          exact if_congr eq_comm rfl rfl

/-! ## What a change does to the messages -/

theorem updateConversation_find (c' : ChatConversation)
    (found : db.conversations.find c'.id = some c) :
    (db.updateConversation c').conversations.find c'.id = some c' := by
  rw [Db.updateConversation, Table.find_put_of_find found, if_pos rfl]

theorem updateConversation_height (c' : ChatConversation)
    (found : db.conversations.find c'.id = some c) (height : c'.nextHeight = c.nextHeight)
    (k : ConversationId) : (db.updateConversation c').heightOf k = db.heightOf k := by
  simp only [Db.heightOf, Db.updateConversation, Table.find_put_of_find found]
  split
  · rename_i own
    rw [own, found]
    exact congrArg some height
  · rfl

theorem announce_effect {mid : Db} {locked : ChatConversation}
    (found : db.conversations.find locked.id = some locked)
    (h : mid.announce locked notice = .ok db') (height : ∀ k, mid.heightOf k = db.heightOf k)
    (messages : mid.messages = db.messages) : Effect db db' ∧ Beside mid db' := by
  have counted : mid.heightOf locked.id = some locked.nextHeight :=
    (height _).trans (heightOf_found found)
  obtain ⟨effect, beside⟩ := insertSystemMessage_effect h counted
  exact ⟨effect.after messages height, beside⟩

theorem Retouched.effect {locked : ChatConversation} {seat' : ChatMember}
    (h : Retouched db a cid t locked seat seat' db') : Effect db db' := by
  obtain ⟨notice, announced⟩ := h.written
  have own : locked.id = cid := Table.find_key h.found
  have found := h.found
  rw [← own] at found
  exact (announce_effect found announced (fun _ => rfl) rfl).1

/-- A new conversation, without a message. -/
structure Opens (db db' : Db) (cid : ConversationId) : Prop where
  fresh : db.heightOf cid = none
  messages : db'.messages = db.messages
  height : ∀ k, db'.heightOf k = if k = cid then some 0 else db.heightOf k

theorem govern_effect {g : Governance} (h : govern db g = .ok db') :
    Effect db db' ∨ ∃ cid, Opens db db' cid := by
  cases g with
  | createGroupConversation userId conversationId memberIds direct now =>
    obtain ⟨_, -, -, -, fresh, -, messages, found⟩ := createGroupConversation_ok h
    refine Or.inr ⟨conversationId, by simp [Db.heightOf, fresh], messages, fun k => ?_⟩
    simp only [Db.heightOf, found]
    split <;> rfl
  | join conversationId applicantID now =>
    obtain ⟨g, -, opened⟩ := bind_ok h
    rcases openSeat_ok opened with ⟨rfl, -⟩ | ⟨-, -, floor, -, -, rfl⟩
    · exact Or.inl (.rewrites (.refl _))
    · exact Or.inl (.rewrites (.of_eq rfl fun _ => rfl))
  | leaveGroupConversation userId conversationId earliest now =>
    obtain ⟨locked, seat, found, -, -, -, -, left, rfl, ⟨-, rfl⟩ | ⟨-, -, rfl⟩ | ⟨heir, -, -, rfl⟩⟩ :=
      leaveGroupConversation_ok h
    · exact Or.inl (.rewrites (.of_eq rfl fun _ => rfl))
    · exact Or.inl (.rewrites (.of_eq rfl fun _ => rfl))
    · have own : locked.id = conversationId := Table.find_key found
      rw [← own] at found
      refine Or.inl (.rewrites (.of_eq rfl ?_))
      exact updateConversation_height { locked with ownerID := some heir.userID } found rfl
  | dissolveGroupConversation userId conversationId now =>
    obtain ⟨locked, _, -, -, -, -, -, -, rfl⟩ := dissolveGroupConversation_ok h
    exact Or.inl (.rewrites (.of_eq rfl (raiseConversationFloor_sync db locked _ · |>.2)))
  | removeStandaloneMember =>
    obtain ⟨_, _, -, -, retouched⟩ := removeStandaloneMember_ok h
    exact Or.inl retouched.effect
  | setStandaloneMemberRole =>
    rcases setStandaloneMemberRole_ok h with rfl | ⟨_, _, -, -, retouched⟩
    · exact Or.inl (.rewrites (.refl _))
    · exact Or.inl retouched.effect
  | silenceMember =>
    obtain ⟨_, _, -, retouched⟩ := silenceMember_ok h
    exact Or.inl retouched.effect
  | unsilenceMember =>
    rcases unsilenceMember_ok h with rfl | ⟨_, _, -, retouched⟩
    · exact Or.inl (.rewrites (.refl _))
    · exact Or.inl retouched.effect
  | moderateAsAdministrator =>
    rcases moderateAsAdministrator_ok h with rfl | ⟨_, _, retouched⟩
    · exact Or.inl (.rewrites (.refl _))
    · exact Or.inl retouched.effect
  | transferOwnership actorId conversationId targetUserId targetActive notice =>
    obtain ⟨locked, seat, -, found, -, -, -, -, -, handed, rfl, ⟨-, written⟩ | ⟨_, -, written⟩⟩ :=
      transferOwnership_ok h
    all_goals
      have own : locked.id = conversationId := Table.find_key found
      rw [← own] at found
      have height := updateConversation_height { locked with ownerID := some targetUserId } found rfl
      exact Or.inl (announce_effect found written height rfl).1
  | setMuteAll actorId conversationId enabled notice =>
    obtain ⟨locked, found, -, ⟨rfl, -⟩ | written⟩ := setMuteAll_ok h
    · exact Or.inl (.rewrites (.refl _))
    · have own : locked.id = conversationId := Table.find_key found
      rw [← own] at found
      have height := updateConversation_height
        { locked with muteAllAt := if enabled then some notice.now else none } found rfl
      exact Or.inl (announce_effect found written height rfl).1

end CircleBackend.Chat
