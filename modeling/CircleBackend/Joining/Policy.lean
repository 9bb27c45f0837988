import CircleBackend.Circle.Seating
import CircleBackend.Library.Checked
import CircleBackend.Memberships.Catalog
import Mathlib.Data.List.Sort

/-!
# Circles, their members and the invitations to them

The rows that joining and leaving read and write, and the policy which every
activation passes. A transaction is serializable and holds the locks of its users,
so that each is one definition, from the state it begins in to the one it commits.
Seats in the conversation, icons, notices and events are left out.
-/

namespace CircleBackend.Joining

open Library Memberships
open CircleBackend.Circle (CircleMemberRole CircleMemberStatus)
open Session (UserId)

abbrev CircleId := Nat
abbrev InvitationId := Nat

inductive CircleInvitationStatus
  | invited
  | pending
  | approved
  | rejected
  | adminApproved
  | cancelled
  deriving DecidableEq, Repr

/-- `INVITED` or `PENDING` -/
def CircleInvitationStatus.isOpen : CircleInvitationStatus → Bool
  | .invited | .pending => true
  | _ => false

inductive CircleInvitationVerifierStatus
  | pending
  | approved
  | rejected
  deriving DecidableEq, Repr

inductive InvitationSource
  | application
  | invite
  | qr
  deriving DecidableEq, Repr

/-- What `requiredVerifierCount` is checked for wherever it is set. -/
abbrev VerifierCount := { n : Nat // 1 ≤ n ∧ n ≤ 10 }

theorem one_verifier : 1 ≤ 1 ∧ 1 ≤ 10 := by decide

/-- What `maxMembers` of a request is checked for. -/
abbrev RequestedCapacity := { n : Nat // 10 ≤ n ∧ n ≤ 3000 }

structure User where
  id : UserId
  vipLevel : Nat
  vipExpiresAt : Option Time
  creditScore : Int
  fancyNumber : Bool
  fancyNumberExpiresAt : Option Time
  fancyNumberPermanent : Bool
  deriving DecidableEq, Repr

def User.membership (u : User) : StoredMembership := ⟨u.vipLevel, u.vipExpiresAt⟩

structure Circle where
  id : CircleId
  ownerID : UserId
  deleted : Bool
  memberCount : Int
  maxMembers : Option Nat
  expansionSeats : Nat
  joinVipRestriction : Option Nat
  joinCreditRestriction : Option Int
  joinFancyRestriction : Bool
  requiredVerifierCount : VerifierCount
  memberCanInvite : Bool
  deriving DecidableEq, Repr

structure CircleMember where
  userID : UserId
  circleID : CircleId
  role : CircleMemberRole
  status : CircleMemberStatus
  deriving DecidableEq, Repr

structure CircleInvitation where
  id : InvitationId
  circleID : CircleId
  applicantID : UserId
  inviterID : UserId
  source : InvitationSource
  requiredCount : VerifierCount
  approvedCount : Nat
  status : CircleInvitationStatus
  consentNoticeRequired : Bool
  createdAt : Time
  deriving DecidableEq, Repr

structure CircleInvitationVerifier where
  invitationID : InvitationId
  verifierID : UserId
  addedByID : UserId
  status : CircleInvitationVerifierStatus
  deriving DecidableEq, Repr

/-- The conversation of a circle. -/
structure ChatConversation where
  circleID : CircleId
  qrJoinEnabled : Bool
  deriving DecidableEq, Repr

structure ChatGroupJoinBan where
  circleID : CircleId
  userID : UserId
  deriving DecidableEq, Repr

structure Db where
  users : Table User UserId (·.id)
  circles : Table Circle CircleId (·.id)
  members : Table CircleMember (UserId × CircleId) fun m => (m.userID, m.circleID)
  invitations : Table CircleInvitation InvitationId (·.id)
  verifiers : Table CircleInvitationVerifier (InvitationId × UserId)
    fun v => (v.invitationID, v.verifierID)
  conversations : Table ChatConversation CircleId (·.circleID)
  joinBans : Table ChatGroupJoinBan (CircleId × UserId) fun b => (b.circleID, b.userID)
  /-- The membership programme is enabled. -/
  programEnabled : Bool
  /-- The rows that calls of `respondToInvitation` have loaded so far. -/
  loaded : List CircleInvitation

/-- `groupInvitePermission` -/
inductive PrivacyPermission
  | everyone
  | friendsOnly
  | none
  deriving DecidableEq, Repr

structure Relations where
  friends : UserId → UserId → Bool
  blocked : UserId → UserId → Bool
  groupInvitePermission : UserId → PrivacyPermission

def Relations.canBeInvitedToGroupOrCircle (r : Relations) (target : UserId) (isFriend : Bool) :
    Bool :=
  match r.groupInvitePermission target with
  | .none => false
  | .friendsOnly => isFriend
  | .everyone => true

inductive ErrorCode
  | memberLimit (limit : Nat)
  | joinLimitReached (limit : Nat)
  | targetJoinLimitReached
  | createLimitReached (limit : Nat)
  | capacityExceeded
  | alreadyMember
  | vipRequired
  | notFound
  | notMember
  | userNotFound
  | ownerCannotLeave
  | ownerOnlyDissolve
  | joinVipRequired
  | joinCreditRequired
  | joinFancyNumberRequired
  | joinVipRestrictionExceedsCreator (limit : Nat)
  | joinBlocked
  | qrJoinDisabled
  | acceptRequired
  | invitationInvalid
  | inviterNotMember
  | notAllowed
  | alreadyPending
  | invitationNotFound
  | applicantOnly
  | notPending
  | verifierNotMember
  | verifierNotFriend
  | memberInviteDisabled
  | alreadyVerifier
  | slotsFilled
  | noPendingVerification
  | ownerAdminOnly
  | managerOnly
  | useLeaveEndpoint
  deriving DecidableEq, Repr

/-- An exception of the service with its code or without, or one of the database. -/
inductive Fault
  | refused (message : String) (code : ErrorCode)
  | raised (message : String)
  | uniqueViolation
  | recordNotFound
  deriving DecidableEq, Repr

/-- Who reads that somebody has joined enough circles. -/
inductive Actor
  | self
  | thirdParty
  deriving DecidableEq, Repr

def groupCapacityHardLimit : Nat := 3000
def circleCreateLimit : Nat := 20

def resolveEffectiveFancyNumber (u : User) (now : Time) : Bool :=
  u.fancyNumber && (u.fancyNumberPermanent || u.fancyNumberExpiresAt.all (now < ·))

def circleNotFound : Fault := .refused "Circle not found" .notFound

def candidateNotFound : Fault := .refused "User not found" .userNotFound

def joinLimitReached : Actor → Nat → Fault
  | .thirdParty, _ =>
    .refused "Target user has reached the joined circle limit" .targetJoinLimitReached
  | .self, limit => .refused "Joined circle membership quota reached" (.joinLimitReached limit)

def memberLimit (limit : Nat) : Fault :=
  .refused "Circle has reached its member limit" (.memberLimit limit)

def assertRestrictions (circle : Circle) (creditScore : Int) (fancyNumber : Bool)
    (effectiveLevel : MembershipLevel) : Except Fault Unit := do
  if let some required := circle.joinVipRestriction then
    throwIf (effectiveLevel.val < required)
      (.refused s!"VIP {required}+ is required to join this circle" .joinVipRequired)
  if let some required := circle.joinCreditRestriction then
    throwIf (creditScore < required)
      (.refused s!"Credit score {required}+ is required to join this circle" .joinCreditRequired)
  throwIf (circle.joinFancyRestriction && !fancyNumber)
    (.refused "A fancy number is required to join this circle" .joinFancyNumberRequired)

namespace Db

def memberOf (db : Db) (userId : UserId) (circleId : CircleId) : Option CircleMember :=
  db.members.find (userId, circleId)

def isActive (db : Db) (userId : UserId) (circleId : CircleId) : Bool :=
  (db.memberOf userId circleId).any (·.status = .active)

/-- The `ACTIVE` rows of a circle. -/
def activeCount (db : Db) (circleId : CircleId) : Nat :=
  db.members.count fun m => m.circleID = circleId && m.status = .active

/-- The `ACTIVE` rows of a user in circles of others. -/
def joinedCount (db : Db) (userId : UserId) : Nat :=
  db.members.count fun m => m.userID = userId && m.role ≠ .owner && m.status = .active

def tierOf (db : Db) (membership : StoredMembership) (now : Time) : MembershipTier :=
  membershipCatalog (resolveEntitlementWith db.programEnabled membership now)

/-- An owner who is missing counts as a regular user. -/
def ownerCapacity (db : Db) (circle : Circle) (now : Time) : Nat :=
  let owner := ((db.users.find circle.ownerID).map (·.membership)).getD ⟨0, none⟩
  min 3000 ((db.tierOf owner now).groupMembers + circle.expansionSeats)

def assertGroupJoinAllowed (db : Db) (circleId : CircleId) (userIds : List UserId) :
    Except Fault Unit :=
  throwIf
    ((db.conversations.find circleId).isSome &&
      userIds.any fun u => (db.joinBans.find (circleId, u)).isSome)
    (.refused "该账号无法加入此群" .joinBlocked)

/-- One round of the loop over the candidates. -/
def assertCandidate (db : Db) (circle : Circle) (actor : Actor) (now : Time) (userId : UserId) :
    Except Fault Unit := do
  let candidate ← orThrow (db.users.find userId) candidateNotFound
  let joinLimit := (db.tierOf candidate.membership now).joinedCircles
  throwIf (joinLimit ≤ db.joinedCount userId) (joinLimitReached actor joinLimit)
  assertRestrictions circle candidate.creditScore (resolveEffectiveFancyNumber candidate now)
    (resolveEntitlementWith db.programEnabled candidate.membership now)

def assertCanApply (db : Db) (circleId : CircleId) (userId : UserId) (actor : Actor) (now : Time) :
    Except Fault Unit := do
  let circle ← orThrow ((db.circles.find circleId).filter (!·.deleted)) circleNotFound
  db.assertGroupJoinAllowed circleId [userId]
  let candidate ← orThrow (db.users.find userId) candidateNotFound
  let joinLimit := (db.tierOf candidate.membership now).joinedCircles
  throwIf (joinLimit ≤ db.joinedCount userId) (joinLimitReached actor joinLimit)
  throwIf (circle.maxMembers.any fun (max : Nat) => (max : Int) ≤ circle.memberCount)
    (memberLimit (circle.maxMembers.getD 0))
  assertRestrictions circle candidate.creditScore (resolveEffectiveFancyNumber candidate now)
    (resolveEntitlementWith db.programEnabled candidate.membership now)

def reserveCircleSeats (db : Db) (circleId : CircleId) (seatCount ownerCapacity : Nat) :
    Option (Table Circle CircleId (·.id)) :=
  if seatCount = 0 then some db.circles
  else
    db.circles.updateOne circleId
      (fun c => !c.deleted && c.maxMembers.all (fun (max : Nat) => c.memberCount + seatCount ≤ (max : Int)) &&
        decide (c.memberCount + seatCount ≤ (ownerCapacity : Int)))
      fun c => { c with memberCount := c.memberCount + seatCount }

theorem cancelled_id (i : CircleInvitation) : { i with status := .cancelled }.id = i.id := rfl

def cancelPendingInvitations (db : Db) (circleId : CircleId) (userIds : List UserId) : Db :=
  { db with
    invitations := db.invitations.updateMany
      (fun i => i.circleID = circleId && userIds.contains i.applicantID && i.status = .pending)
      (fun i => { i with status := .cancelled }) cancelled_id }

/-- The rows that exist are activated, the others created. -/
def seatMembers (db : Db) (circleId : CircleId) (activating : List UserId) :
    Except Fault (Table CircleMember (UserId × CircleId) fun m => (m.userID, m.circleID)) :=
  let reactivated := db.members.updateMany
    (fun m => m.circleID = circleId && activating.contains m.userID && m.status ≠ .active)
    (fun m => { m with role := .member, status := .active }) fun _ => rfl
  let newUserIDs := activating.filter fun u => (db.memberOf u circleId).isNone
  orThrow (newUserIDs.foldlM (fun members u => members.insert ⟨u, circleId, .member, .active⟩)
    reactivated) .uniqueViolation

/-- The users whom it has activated. -/
def activateMembers (db : Db) (circleId : CircleId) (requestedUserIDs : List UserId)
    (actor : Actor) (now : Time) : Except Fault (Db × List UserId) :=
  let userIDs := requestedUserIDs.dedup.insertionSort (· ≤ ·)
  let activating := userIDs.filter fun u => !db.isActive u circleId
  if activating.isEmpty then .ok (db.cancelPendingInvitations circleId userIDs, [])
  else do
    db.assertGroupJoinAllowed circleId activating
    let circle ← orThrow ((db.circles.find circleId).filter (!·.deleted)) circleNotFound
    activating.forM (db.assertCandidate circle actor now)
    let capacity := db.ownerCapacity circle now
    let circles ← orThrow (db.reserveCircleSeats circleId activating.length capacity)
      (memberLimit (min (circle.maxMembers.getD capacity) capacity))
    let members ← db.seatMembers circleId activating
    return ({ db with circles := circles, members := members }.cancelPendingInvitations
      circleId userIDs, activating)

end Db

end CircleBackend.Joining
