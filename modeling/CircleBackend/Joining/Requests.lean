import CircleBackend.Joining.Policy

/-!
# The transactions of joining and leaving

What a call reads before its transaction and only passes on is an argument; what it
decides by is kept in `loaded`. The checks there that only refuse are `allowed`.
-/

namespace CircleBackend.Joining

open Library Memberships
open CircleBackend.Circle (CircleMemberRole CircleMemberStatus)
open Session (UserId)

/-- What one call finds outside the tables: the clock, the relations of its users, the
answers before its transaction, the order in which rows without one come, and the ids
of what it creates. -/
structure Call where
  now : Time
  relations : Relations
  allowed : UserId → Bool
  scan : InvitationId → Nat
  mint : UserId → InvitationId

structure CreateCircleDto where
  maxMembers : Option RequestedCapacity
  joinVipRestriction : Option Nat
  joinCreditRestriction : Option Int
  joinFancyRestriction : Bool
  requiredVerifierCount : Option VerifierCount
  deriving DecidableEq

/-- What the settings, the expansion orders and the console write. -/
structure CircleSettings where
  deleted : Bool
  maxMembers : Option Nat
  expansionSeats : Nat
  joinVipRestriction : Option Nat
  joinCreditRestriction : Option Int
  joinFancyRestriction : Bool
  requiredVerifierCount : VerifierCount
  memberCanInvite : Bool
  deriving DecidableEq

structure InviteOptions where
  applicantConsented : Bool
  acceptedInvitationId : Option InvitationId
  requireQrJoinEnabled : Bool
  deriving DecidableEq, Repr

/-- A member offers; nobody has consented yet. -/
def InviteOptions.offered : InviteOptions := ⟨false, none, false⟩

structure Invited where
  created : InvitationId
  admission : Bool
  requiresConsent : Bool
  deriving DecidableEq, Repr

def invitationTtl : Nat := 7 * 86400000

def CircleMember.manages (m : CircleMember) : Bool :=
  m.status = .active && (m.role = .owner || m.role = .admin)

def invitationNotFound : Fault := .refused "Invitation not found" .invitationNotFound

def notPending : Fault := .refused "Invitation is no longer pending" .notPending

def inviteNotAllowed : Fault := .refused "User does not allow circle invites" .notAllowed

def invitationExpired : Fault := .refused "邀请已过期" .invitationInvalid

namespace Db

/-! ## Circles -/

def normalizeCreatorVipRestriction (requested : Option Nat) (creatorLevel : MembershipLevel) :
    Except Fault (Option Nat) :=
  match requested with
  | none | some 0 => .ok none
  | some level => do
    throwIf (creatorLevel.val < level)
      (.refused "Circle VIP restriction exceeds creator membership"
        (.joinVipRestrictionExceedsCreator creatorLevel.val))
    return some level

def createCircle (db : Db) (userId : UserId) (dto : CreateCircleDto) (id : CircleId) (now : Time) :
    Except Fault Db := do
  let user ← orThrow (db.users.find userId) candidateNotFound
  let level := resolveEntitlementWith db.programEnabled user.membership now
  throwIf (level = 0) (.refused "Membership is required to create a circle" .vipRequired)
  throwIf (circleCreateLimit ≤ db.circles.count fun c => c.ownerID = userId && !c.deleted)
    (.refused "Created circle limit reached" (.createLimitReached circleCreateLimit))
  let capacity := min (membershipCatalog level).groupMembers groupCapacityHardLimit
  let maxMembers := (dto.maxMembers.map (·.val)).getD capacity
  throwIf (capacity < maxMembers)
    (.refused "Requested circle capacity exceeds membership entitlement" .capacityExceeded)
  let joinVipRestriction ← normalizeCreatorVipRestriction dto.joinVipRestriction level
  let created : Circle :=
    { id := id
      ownerID := userId
      deleted := false
      memberCount := 1
      maxMembers := some maxMembers
      expansionSeats := 0
      joinVipRestriction := joinVipRestriction
      joinCreditRestriction := dto.joinCreditRestriction
      joinFancyRestriction := dto.joinFancyRestriction
      requiredVerifierCount := dto.requiredVerifierCount.getD ⟨1, one_verifier⟩
      memberCanInvite := true }
  let circles ← orThrow (db.circles.insert created) .uniqueViolation
  let members ← orThrow (db.members.insert ⟨userId, id, .owner, .active⟩) .uniqueViolation
  return { db with circles := circles, members := members }

/-- The application is created unless one is pending. -/
def joinCircle (db : Db) (userId : UserId) (circleId : CircleId) (call : Call) :
    Except Fault Db := do
  let existing := db.memberOf userId circleId
  throwIf (existing.any (·.status = .active)) (.refused "Already a member" .alreadyMember)
  db.assertCanApply circleId userId .self call.now
  let applied : Db :=
    { db with members := db.members.set ⟨userId, circleId, .member, .pending⟩ }
  let pending := applied.invitations.rows.any fun i =>
    i.circleID = circleId && i.applicantID = userId && i.status = .pending
  if pending then return applied
  else do
    let policy ← orThrow ((applied.circles.find circleId).filter (!·.deleted)) circleNotFound
    let created : CircleInvitation :=
      { id := call.mint userId
        circleID := circleId
        applicantID := userId
        inviterID := userId
        source := .application
        requiredCount := policy.requiredVerifierCount
        approvedCount := 0
        status := .pending
        consentNoticeRequired := false
        createdAt := call.now }
    let invitations ← orThrow (applied.invitations.insert created) .uniqueViolation
    return { applied with invitations := invitations }

/-- The row goes, and with an `ACTIVE` one its place in the count. -/
def deleteMember (db : Db) (m : CircleMember) : Except Fault Db := do
  let left : Db :=
    { db with
      members := db.members.deleteMany fun o => o.userID = m.userID && o.circleID = m.circleID }
  if m.status = .active then do
    let circles ← orThrow
      (left.circles.updateOne m.circleID (fun _ => true)
        fun c => { c with memberCount := c.memberCount - 1 })
      .recordNotFound
    return { left with circles := circles }
  else return left

def leaveCircle (db : Db) (userId : UserId) (circleId : CircleId) : Except Fault Db := do
  let membership ← orThrow (db.memberOf userId circleId) (.refused "Not a member" .notMember)
  throwIf (membership.role = .owner)
    (.refused "Owner cannot leave — transfer ownership first" .ownerCannotLeave)
  (db.cancelPendingInvitations circleId [userId]).deleteMember membership

/-- Of a circle that the call has found. -/
def leaveGroup (db : Db) (userId : UserId) (circleId : CircleId) : Except Fault Db := do
  let circle ← orThrow (db.circles.find circleId) circleNotFound
  let membership := db.memberOf userId circleId
  throwIf (circle.ownerID = userId || membership.any (·.role = .owner))
    (.refused "Owner cannot leave — transfer ownership first" .ownerCannotLeave)
  let cancelled := db.cancelPendingInvitations circleId [userId]
  match membership with
  | none => return cancelled
  | some m => cancelled.deleteMember m

def assertCanManageCircleGroup (actor target : Option CircleMember) : Except Fault Unit :=
  match actor with
  | none => .error (.refused "Only active group managers can do this" .managerOnly)
  | some a =>
    if a.status ≠ .active then
      .error (.refused "Only active group managers can do this" .managerOnly)
    else if a.role = .owner then .ok ()
    else if a.role = .admin && target.all (·.role = .member) then .ok ()
    else .error (.refused "Only group managers can do this" .managerOnly)

/-- `removeGroupMemberCore` of a circle that the call has found. A moderator of the
console acts as an owner would. -/
def removeGroupMember (db : Db) (actorId : UserId) (circleId : CircleId) (targetUserId : UserId)
    (console : Bool) : Except Fault Db := do
  let circle ← orThrow (db.circles.find circleId) circleNotFound
  throwIf (targetUserId = actorId)
    (.refused "Use the group leave endpoint for yourself" .useLeaveEndpoint)
  let actor :=
    if console then some ⟨actorId, circleId, .owner, .active⟩ else db.memberOf actorId circleId
  let target := db.memberOf targetUserId circleId
  throwIf (!actor.any (·.manages))
    (.refused "Only active group managers can do this" .managerOnly)
  throwIf
    (console && (target.all (fun t => t.status ≠ .active || t.role = .owner) ||
      targetUserId = circle.ownerID))
    (.raised "Owner or inactive member is protected")
  assertCanManageCircleGroup actor target
  let cancelled := db.cancelPendingInvitations circleId [targetUserId]
  match target with
  | none => return cancelled
  | some m => cancelled.deleteMember m

def dissolveCircle (db : Db) (userId : UserId) (circleId : CircleId) : Except Fault Db := do
  let circle ← orThrow ((db.circles.find circleId).filter (!·.deleted)) circleNotFound
  let ownerOnly := Fault.refused "Only the circle owner can dissolve the circle" .ownerOnlyDissolve
  throwIf (circle.ownerID ≠ userId) ownerOnly
  throwIf
    (!(db.memberOf userId circleId).any fun m => m.status = .active && m.role = .owner) ownerOnly
  return { db with
    invitations := db.invitations.updateMany
      (fun i => i.circleID = circleId && i.status.isOpen)
      (fun i => { i with status := .cancelled }) cancelled_id
    circles := db.circles.put { circle with deleted := true } }

/-! ## Invitations -/

/-- `existingInvitation`, of those that match any one. -/
def openInvitation (db : Db) (circleId : CircleId) (applicantId : UserId)
    (scan : InvitationId → Nat) : Option CircleInvitation :=
  db.invitations.findFirst
    (fun i => i.circleID = circleId && i.applicantID = applicantId && i.status.isOpen)
    fun a b => scan a.id ≤ scan b.id

/-- An old row may lack the first vote of its inviter. -/
def repairPendingInviter (db : Db) (existing : CircleInvitation) (inviterId applicantId : UserId) :
    Bool :=
  existing.status = .pending && existing.approvedCount = 0 && existing.inviterID = inviterId &&
    inviterId ≠ applicantId && (db.verifiers.find (existing.id, inviterId)).isNone

/-- `invitationData`, with the columns that an existing row keeps. -/
def invitationData (existing : Option CircleInvitation) (inviterId applicantId : UserId)
    (circle : Circle) (opts : InviteOptions) (call : Call) : CircleInvitation where
  id := (existing.map (·.id)).getD (call.mint applicantId)
  circleID := circle.id
  applicantID := applicantId
  inviterID := inviterId
  source := (existing.map (·.source)).getD (if opts.requireQrJoinEnabled then .qr else .invite)
  requiredCount := (existing.map (·.requiredCount)).getD circle.requiredVerifierCount
  approvedCount := 1
  status := if opts.applicantConsented then .pending else .invited
  consentNoticeRequired :=
    !opts.applicantConsented || (existing.map (·.consentNoticeRequired)).getD false
  createdAt := (existing.map (·.createdAt)).getD call.now

/-- The inviter's is the first vote. -/
def castFirstVote (db : Db) (existing : Option CircleInvitation) (created : InvitationId)
    (inviterId : UserId) (applicantConsented : Bool) :
    Option (Table CircleInvitationVerifier (InvitationId × UserId)
      fun v => (v.invitationID, v.verifierID)) :=
  let vote : CircleInvitationVerifier := ⟨created, inviterId, inviterId, .approved⟩
  if existing.isNone then db.verifiers.insert vote
  else if applicantConsented then
    (db.verifiers.deleteMany fun v => v.invitationID = created && v.verifierID = inviterId).insert
      vote
  else some db.verifiers

def writeInvitation (db : Db) (existing : Option CircleInvitation) (created : CircleInvitation)
    (applicantConsented : Bool) : Except Fault Db := do
  let invitations ← orThrow
    (if existing.isSome then some (db.invitations.put created) else db.invitations.insert created)
    .uniqueViolation
  let verifiers ← orThrow
    (db.castFirstVote existing created.id created.inviterID applicantConsented) .uniqueViolation
  return { db with invitations := invitations, verifiers := verifiers }

/-- What is accepted is the row that is found, and not too old. -/
def assertAccepted (existing : Option CircleInvitation) (accepted : Option InvitationId)
    (now : Time) : Except Fault Unit :=
  match accepted with
  | none => .ok ()
  | some id => do
    throwIf (existing.all (·.id ≠ id)) (.raised "邀请已处理")
    throwIf (existing.any fun i => i.status = .invited && i.createdAt + invitationTtl ≤ now)
      invitationExpired

/-- The row becomes `status`, and its applicant a member. -/
def finalize (db : Db) (invitation : CircleInvitation) (status : CircleInvitationStatus)
    (actor : Actor) (now : Time) : Except Fault (Db × List UserId) :=
  { db with invitations := db.invitations.put { invitation with status := status } }.activateMembers
    invitation.circleID [invitation.applicantID] actor now

def inviteInTransaction (db : Db) (inviterId applicantId : UserId) (circleId : CircleId)
    (opts : InviteOptions) (call : Call) : Except Fault (Db × Invited) := do
  throwIf
    (opts.requireQrJoinEnabled && (db.conversations.find circleId).any (!·.qrJoinEnabled))
    (.refused "该群已关闭二维码入群" .qrJoinDisabled)
  let inviterMembership ← orThrow ((db.memberOf inviterId circleId).filter (·.status = .active))
    (.refused "You must be an active member to invite others" .inviterNotMember)
  throwIf (db.isActive applicantId circleId)
    (.refused "User is already a member of this circle" .alreadyMember)
  db.assertGroupJoinAllowed circleId [applicantId]
  throwIf
    (call.relations.blocked applicantId inviterId || call.relations.blocked inviterId applicantId)
    inviteNotAllowed
  let circle ← orThrow ((db.circles.find circleId).filter (!·.deleted)) circleNotFound
  let existing := db.openInvitation circleId applicantId call.scan
  let repair := opts.applicantConsented &&
    existing.any (db.repairPendingInviter · inviterId applicantId)
  assertAccepted existing opts.acceptedInvitationId call.now
  match existing.filter fun i => (!opts.applicantConsented || i.status = .pending) && !repair with
  | some found => return (db, ⟨found.id, false, found.consentNoticeRequired⟩)
  | none => do
    throwIf (!circle.memberCanInvite && !inviterMembership.manages)
      (.refused "Only the circle owner or admin can invite new members" .memberInviteDisabled)
    db.assertCanApply circleId applicantId .thirdParty call.now
    throwIf
      (existing.any fun i => !(opts.applicantConsented && i.status = .invited) && !repair)
      (.refused "There is already a pending invitation for this user" .alreadyPending)
    throwIf
      (!opts.applicantConsented && !call.relations.canBeInvitedToGroupOrCircle applicantId
        (call.relations.friends inviterId applicantId))
      inviteNotAllowed
    let created := invitationData existing inviterId applicantId circle opts call
    let written ← db.writeInvitation existing created opts.applicantConsented
    if opts.applicantConsented && created.requiredCount ≤ created.approvedCount then do
      let (finalized, admitted) ← written.finalize created .approved .thirdParty call.now
      return (finalized, ⟨created.id, !admitted.isEmpty, false⟩)
    else return (written, ⟨created.id, false, !opts.applicantConsented⟩)

def invite (db : Db) (inviterId applicantId : UserId) (circleId : CircleId) (opts : InviteOptions)
    (call : Call) : Except Fault (Db × Invited) := do
  throwIf (!opts.applicantConsented && !call.allowed applicantId) inviteNotAllowed
  db.inviteInTransaction inviterId applicantId circleId opts call

def inviteBatch (db : Db) (inviterId : UserId) (applicantIds : List UserId) (circleId : CircleId)
    (call : Call) : Except Fault Db :=
  (applicantIds.dedup.insertionSort (· ≤ ·)).foldlM
    (fun db applicantId => (db.invite inviterId applicantId circleId .offered call).map (·.1)) db

/-- `joinByToken` of a circle's code. -/
def joinByToken (db : Db) (issuerId viewerId : UserId) (circleId : CircleId) (call : Call) :
    Except Fault Db :=
  (db.invite issuerId viewerId circleId ⟨true, none, true⟩ call).map (·.1)

/-- After `invitation` was loaded. -/
def respondToInvitation (db : Db) (userId : UserId) (invitation : CircleInvitation) (accept : Bool)
    (call : Call) : Except Fault Db := do
  throwIf (invitation.applicantID ≠ userId) (.refused "只有被邀请人可以接受或拒绝" .acceptRequired)
  if invitation.status ≠ .invited && !(accept && invitation.status = .pending &&
      invitation.approvedCount = 0 && invitation.inviterID ≠ invitation.applicantID) then
    return db
  else if !accept then
    return { db with
      invitations := db.invitations.updateMany
        (fun i => i.id = invitation.id && i.applicantID = userId && i.status = .invited)
        (fun i => { i with status := .cancelled }) cancelled_id }
  else do
    throwIf (invitation.status = .invited && invitation.createdAt + invitationTtl ≤ call.now)
      invitationExpired
    (db.invite invitation.inviterID userId invitation.circleID ⟨true, some invitation.id, false⟩
      call).map (·.1)

/-- The delivery of an offer finds that it may not be delivered. -/
def withdrawOffer (db : Db) (id : InvitationId) : Db :=
  { db with
    invitations := db.invitations.updateMany (fun i => i.id = id && i.status = .invited)
      (fun i => { i with status := .cancelled }) cancelled_id }

def addVerifier (db : Db) (callerId : UserId) (invitationId : InvitationId) (verifierId : UserId)
    (call : Call) : Except Fault Db := do
  let invitation ← orThrow (db.invitations.find invitationId) invitationNotFound
  throwIf (invitation.applicantID ≠ callerId)
    (.refused "Only the applicant can add verifiers" .applicantOnly)
  throwIf (invitation.status ≠ .pending) notPending
  throwIf (!db.isActive verifierId invitation.circleID)
    (.refused "验证人必须是本圈子的活跃成员，请更换验证人再尝试" .verifierNotMember)
  throwIf (!call.relations.friends invitation.applicantID verifierId)
    (.refused "验证人必须是你的好友，请更换验证人再尝试" .verifierNotFriend)
  throwIf (db.verifiers.find (invitationId, verifierId)).isSome
    (.refused "This user is already a verifier" .alreadyVerifier)
  let activeSlots := db.verifiers.count fun v => v.invitationID = invitationId && v.status ≠ .rejected
  throwIf (invitation.requiredCount.val ≤ activeSlots)
    (.refused "All verification slots are filled" .slotsFilled)
  let verifiers ← orThrow (db.verifiers.insert ⟨invitationId, verifierId, callerId, .pending⟩)
    .uniqueViolation
  return { db with verifiers := verifiers }

def respond (db : Db) (verifierId : UserId) (invitationId : InvitationId) (approve : Bool)
    (call : Call) : Except Fault Db := do
  let invitation ← orThrow (db.invitations.find invitationId) invitationNotFound
  let record ← orThrow
    ((db.verifiers.find (invitationId, verifierId)).filter (·.status = .pending))
    (.refused "No pending verification found for you" .noPendingVerification)
  throwIf (invitation.status ≠ .pending) notPending
  if !approve then
    return { db with verifiers := db.verifiers.put { record with status := .rejected } }
  else do
    throwIf (!db.isActive verifierId invitation.circleID)
      (.refused "验证人必须是本圈子的活跃成员" .verifierNotMember)
    throwIf (!call.relations.friends invitation.applicantID verifierId)
      (.refused "验证人必须是申请人的好友" .verifierNotFriend)
    let updatedInvitation : CircleInvitation :=
      { invitation with approvedCount := invitation.approvedCount + 1 }
    let voted : Db :=
      { db with
        verifiers := db.verifiers.put { record with status := .approved }
        invitations := db.invitations.put updatedInvitation }
    if updatedInvitation.approvedCount < updatedInvitation.requiredCount then return voted
    else (voted.finalize updatedInvitation .approved .thirdParty call.now).map (·.1)

def adminReject (db : Db) (adminId : UserId) (invitationId : InvitationId) (blacklist : Bool) :
    Except Fault Db := do
  let request ← orThrow (db.invitations.find invitationId) invitationNotFound
  throwIf (!(db.memberOf adminId request.circleID).any (·.manages))
    (.refused "Only circle owner or admin can review" .ownerAdminOnly)
  throwIf (db.isActive request.applicantID request.circleID)
    (.raised "该用户已入群，请刷新申请列表")
  let conversation := (db.conversations.find request.circleID).isSome
  let banned := (db.joinBans.find (request.circleID, request.applicantID)).isSome
  if request.status = .rejected && (!blacklist || (conversation && banned)) then return db
  else do
    throwIf (request.status ≠ .rejected && request.status ≠ .pending) notPending
    throwIf (blacklist && !conversation) (.raised "群聊不存在")
    let joinBans :=
      if blacklist then db.joinBans.set ⟨request.circleID, request.applicantID⟩ else db.joinBans
    return { db with
      joinBans := joinBans
      invitations := db.invitations.put { request with status := .rejected }
      members := db.members.updateMany
        (fun m => m.circleID = request.circleID && m.userID = request.applicantID &&
          m.status = .pending)
        (fun m => { m with status := .rejected }) fun _ => rfl }

def adminApprove (db : Db) (adminId : UserId) (invitationId : InvitationId) (call : Call) :
    Except Fault Db := do
  let pendingInvitation ← orThrow (db.invitations.find invitationId) invitationNotFound
  throwIf (pendingInvitation.status ≠ .pending) notPending
  throwIf (!(db.memberOf adminId pendingInvitation.circleID).any (·.manages))
    (.refused "Only circle owner or admin can override" .ownerAdminOnly)
  (db.finalize pendingInvitation .adminApproved .thirdParty call.now).map (·.1)

/-- One candidate of `reconcileApprovedInvitations`. -/
def reconcile (db : Db) (invitationId : InvitationId) (call : Call) : Except Fault Db :=
  match (db.invitations.find invitationId).filter fun i =>
      i.status = .pending && i.requiredCount.val ≤ i.approvedCount with
  | none => .ok db
  | some invitation => (db.finalize invitation .approved .self call.now).map (·.1)

/-! ## The rest of the system -/

def configure (db : Db) (circleId : CircleId) (settings : CircleSettings) : Db :=
  { db with
    circles := db.circles.updateMany (fun c => c.id = circleId)
      (fun c =>
        { c with
          deleted := settings.deleted
          maxMembers := settings.maxMembers
          expansionSeats := settings.expansionSeats
          joinVipRestriction := settings.joinVipRestriction
          joinCreditRestriction := settings.joinCreditRestriction
          joinFancyRestriction := settings.joinFancyRestriction
          requiredVerifierCount := settings.requiredVerifierCount
          memberCanInvite := settings.memberCanInvite })
      fun _ => rfl }

/-- `updateGroupMemberRole` between its two roles. -/
def setManager (db : Db) (circleId : CircleId) (userId : UserId) (manager : Bool) : Db :=
  { db with
    members := db.members.updateMany
      (fun m => m.circleID = circleId && m.userID = userId && m.status = .active &&
        m.role ≠ .owner)
      (fun m => { m with role := if manager then .admin else .member }) fun _ => rfl }

end Db

/-! ## Runs -/

inductive Act
  | createCircle (userId : UserId) (dto : CreateCircleDto) (id : CircleId) (now : Time)
  | joinCircle (userId : UserId) (circleId : CircleId) (call : Call)
  | leaveCircle (userId : UserId) (circleId : CircleId)
  | leaveGroup (userId : UserId) (circleId : CircleId)
  | removeGroupMember (actorId : UserId) (circleId : CircleId) (targetUserId : UserId)
      (console : Bool)
  | dissolveCircle (userId : UserId) (circleId : CircleId)
  | invite (inviterId applicantId : UserId) (circleId : CircleId) (call : Call)
  | inviteBatch (inviterId : UserId) (applicantIds : List UserId) (circleId : CircleId)
      (call : Call)
  | joinByToken (issuerId viewerId : UserId) (circleId : CircleId) (call : Call)
  | loadInvitation (id : InvitationId)
  | respondToInvitation (userId : UserId) (invitation : CircleInvitation) (accept : Bool)
      (call : Call)
  | withdrawOffer (id : InvitationId)
  | addVerifier (callerId : UserId) (invitationId : InvitationId) (verifierId : UserId)
      (call : Call)
  | respond (verifierId : UserId) (invitationId : InvitationId) (approve : Bool) (call : Call)
  | adminReject (adminId : UserId) (invitationId : InvitationId) (blacklist : Bool)
  | adminApprove (adminId : UserId) (invitationId : InvitationId) (call : Call)
  | reconcile (invitationId : InvitationId) (call : Call)
  | configure (circleId : CircleId) (settings : CircleSettings)
  | setManager (circleId : CircleId) (userId : UserId) (manager : Bool)
  | setUser (user : User)
  | setConversation (conversation : ChatConversation)
  | liftBan (circleId : CircleId) (userId : UserId)
  | enableProgram

namespace Db

def empty : Db :=
  ⟨.empty, .empty, .empty, .empty, .empty, .empty, .empty, false, []⟩

/-- What a transaction commits. -/
def commit (db : Db) : Act → Except Fault Db
  | .createCircle userId dto id now => db.createCircle userId dto id now
  | .joinCircle userId circleId call => db.joinCircle userId circleId call
  | .leaveCircle userId circleId => db.leaveCircle userId circleId
  | .leaveGroup userId circleId => db.leaveGroup userId circleId
  | .removeGroupMember actorId circleId targetUserId console =>
    db.removeGroupMember actorId circleId targetUserId console
  | .dissolveCircle userId circleId => db.dissolveCircle userId circleId
  | .invite inviterId applicantId circleId call =>
    (db.invite inviterId applicantId circleId .offered call).map (·.1)
  | .inviteBatch inviterId applicantIds circleId call =>
    db.inviteBatch inviterId applicantIds circleId call
  | .joinByToken issuerId viewerId circleId call => db.joinByToken issuerId viewerId circleId call
  | .loadInvitation id => do
    let invitation ← orThrow (db.invitations.find id) invitationNotFound
    return { db with loaded := invitation :: db.loaded }
  | .respondToInvitation userId invitation accept call => do
    throwIf (!db.loaded.contains invitation) invitationNotFound
    db.respondToInvitation userId invitation accept call
  | .withdrawOffer id => .ok (db.withdrawOffer id)
  | .addVerifier callerId invitationId verifierId call =>
    db.addVerifier callerId invitationId verifierId call
  | .respond verifierId invitationId approve call => db.respond verifierId invitationId approve call
  | .adminReject adminId invitationId blacklist => db.adminReject adminId invitationId blacklist
  | .adminApprove adminId invitationId call => db.adminApprove adminId invitationId call
  | .reconcile invitationId call => db.reconcile invitationId call
  | .configure circleId settings => .ok (db.configure circleId settings)
  | .setManager circleId userId manager => .ok (db.setManager circleId userId manager)
  | .setUser user => .ok { db with users := db.users.set user }
  | .setConversation conversation =>
    .ok { db with conversations := db.conversations.set conversation }
  | .liftBan circleId userId =>
    .ok { db with
      joinBans := db.joinBans.deleteMany fun b => b.circleID = circleId && b.userID = userId }
  | .enableProgram => .ok { db with programEnabled := true }

/-- A transaction that throws is rolled back. -/
def next (db : Db) (act : Act) : Db := (db.commit act).toOption.getD db

end Db

/-- A transaction that commits. -/
abbrev Step (db : Db) (act : Act) (db' : Db) : Prop := db.commit act = .ok db'

end CircleBackend.Joining
