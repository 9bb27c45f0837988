import CircleBackend.Session.Model

/-!
# Seats of a circle

`ensureCircleConversation` against the three transactions that take a member out,
for one circle whose state stays `ACTIVE`. The first runs under the advisory lock
of the circle's sync and reads what is committed, statement by statement; the
others are serializable, hold the advisory locks of their users and read a
snapshot. An `UPDATE` fixes the rows it will visit when it starts and looks at
each again when it has its lock.
-/

namespace CircleBackend.Circle

open Library
open Session (UserId)

inductive CircleMemberRole
  | owner
  | admin
  | member
  deriving DecidableEq, Repr

inductive CircleMemberStatus
  | active
  | pending
  | rejected
  deriving DecidableEq, Repr

namespace Seating

/-- A row of the circle. -/
structure CircleMember where
  userID : UserId
  role : CircleMemberRole
  status : CircleMemberStatus
  deriving DecidableEq, Repr

structure ChatConversation where
  clearedBeforeHeight : Nat
  deriving DecidableEq, Repr

/-- A seat in the conversation of the circle. -/
structure ChatMember where
  userID : UserId
  lastReadHeight : Nat
  clearedBeforeHeight : Nat
  joinedAt : Time
  leftAt : Option Time
  deriving DecidableEq, Repr

structure Db where
  ownerID : UserId
  members : Table CircleMember UserId (·.userID)
  conversation : Option ChatConversation
  seats : Table ChatMember UserId (·.userID)
  /-- The greatest height of a message of the conversation. -/
  topHeight : Nat

/-- A seat is taken. -/
def ChatMember.here (seat : ChatMember) : Bool := seat.leftAt.isNone

structure SeatDiff where
  toCreate : List UserId
  toRejoin : List UserId
  toRemove : List UserId
  deriving DecidableEq, Repr

def SeatDiff.toJoin (diff : SeatDiff) : List UserId := diff.toCreate ++ diff.toRejoin

namespace Db

def isActive (db : Db) (u : UserId) : Bool := (db.members.find u).any (·.status = .active)

def activeUsers (db : Db) : List UserId := (db.members.select (·.status = .active)).map (·.userID)

/-- The rows of `circleSeatDiffQuery`. -/
def circleSeatDiff (db : Db) : SeatDiff where
  toCreate := db.activeUsers.filter fun u => (db.seats.find u).isNone
  toRejoin := db.activeUsers.filter fun u => (db.seats.find u).any (!·.here)
  toRemove := ((db.seats.select (·.here)).map (·.userID)).filter fun u => !db.isActive u

end Db

/-! ## Transactions in flight -/

inductive Removal
  | removeGroupMember (actorId targetUserID : UserId) (console : Bool)
  | leaveGroup (userId : UserId)
  | leaveCircle (userId : UserId)
  deriving DecidableEq, Repr

/-- Whose row is deleted. -/
def Removal.userID : Removal → UserId
  | .removeGroupMember _ targetUserID _ => targetUserID
  | .leaveGroup userId | .leaveCircle userId => userId

/-- The users of `memberLock.lock`. -/
def Removal.lockedUsers : Removal → List UserId
  | .removeGroupMember actorId targetUserID _ => [actorId, targetUserID]
  | .leaveGroup userId | .leaveCircle userId => [userId]

inductive Request
  | ensureCircleConversation
  | remove (r : Removal)
  deriving DecidableEq, Repr

inductive Fault
  | useLeaveEndpoint
  | managerOnly
  | protectedMember
  | ownerCannotLeave
  | notMember
  | serializationFailure
  | aborted
  deriving DecidableEq, Repr

inductive Phase
  | started
  /-- The lock of the circle's sync is held. -/
  | syncing
  | conversed (conversation : ChatConversation)
  | joining (conversation : ChatConversation) (diff : SeatDiff)
  /-- `createMany` has these rows left. -/
  | creating (conversation : ChatConversation) (diff : SeatDiff) (watermark : Nat)
      (rows : List UserId)
  | rejoining (diff : SeatDiff) (watermark : Nat) (rows : List UserId)
  | guarding (diff : SeatDiff)
  | leaving (diff : SeatDiff) (rows : List UserId)
  | preflighted (snapshot : Db)
  | locking (snapshot : Db) (conversation : Bool)
  | locked (snapshot : Db) (conversation : Bool)
  | deleted (snapshot : Db) (conversation : Bool)
  | released (snapshot : Db) (conversation : Bool)
  | committed
  | failed (fault : Fault)

/-- What a transaction has written and not committed. -/
structure Writes where
  conversation : Option ChatConversation
  seats : Table ChatMember UserId (·.userID)
  deleted : Option UserId

def Writes.none : Writes := ⟨Option.none, .empty, Option.none⟩

def Writes.seat (w : Writes) (seat : ChatMember) : Writes :=
  { w with seats := w.seats.set seat }

def Db.commit (db : Db) (w : Writes) : Db :=
  { db with
    conversation := nullish w.conversation db.conversation
    seats := db.seats.overlay w.seats
    members := db.members.deleteMany fun m => w.deleted = some m.userID }

structure Op where
  request : Request
  phase : Phase
  writes : Writes

structure State where
  db : Db
  now : Time
  ops : List Op
  /-- The users whose row a committed removal has deleted. -/
  removed : List UserId

namespace Phase

def holdsSync : Phase → Bool
  | .syncing | .conversed _ | .joining _ _ | .creating _ _ _ _ | .rejoining _ _ _
  | .guarding _ | .leaving _ _ => true
  | _ => false

/-- The locks of the removal's users are held. -/
def holdsMembers : Phase → Bool
  | .locked _ _ | .deleted _ _ | .released _ _ => true
  | _ => false

/-- The row of the conversation is locked `FOR UPDATE`. -/
def holdsConversation : Phase → Bool
  | .locking _ conversation | .locked _ conversation | .deleted _ conversation
  | .released _ conversation => conversation
  | _ => false

/-- The differences the transaction goes by. -/
@[simp] def diff : Phase → Option SeatDiff
  | .joining _ diff | .creating _ diff _ _ | .rejoining diff _ _ | .guarding diff
  | .leaving diff _ => some diff
  | _ => none

/-- The users whom the transaction is about to seat. -/
def named (phase : Phase) : List UserId := (phase.diff.map SeatDiff.toJoin).getD []

end Phase

def Op.locks (op : Op) (u : UserId) : Bool :=
  match op.request with
  | .remove r => op.phase.holdsMembers && r.lockedUsers.contains u
  | .ensureCircleConversation => false

/-- A new seat's foreign key locks the row of the conversation `FOR KEY SHARE`. -/
def Op.sharesConversation (db : Db) (op : Op) : Bool :=
  op.writes.seats.rows.any fun seat => (db.seats.find seat.userID).isNone

namespace State

def others (s : State) (n : Nat) : List Op := s.ops.eraseIdx n

/-- No other transaction has written the user's seat. -/
def seatFree (s : State) (n : Nat) (u : UserId) : Bool :=
  (s.others n).all fun op => (op.writes.seats.find u).isNone

def syncFree (s : State) (n : Nat) : Bool := (s.others n).all fun op => !op.phase.holdsSync

def conversationFree (s : State) (n : Nat) : Bool :=
  (s.others n).all fun op => !op.phase.holdsConversation && !op.sharesConversation s.db

def membersFree (s : State) (n : Nat) (us : List UserId) : Bool :=
  us.all fun u => (s.others n).all fun op => !op.locks u

end State

/-! ### `ensureCircleConversation` -/

namespace State

def beginLeaving (s : State) (op : Op) (diff : SeatDiff) : Op :=
  { op with
    phase := .leaving diff (diff.toRemove.filter fun u => (s.db.seats.find u).any (·.here)) }

/-- The next statement; the last is the commit. `updateMany` and `createMany` go on
with a row at a time, see `visit`. -/
def syncTurn (s : State) (n : Nat) (op : Op) : Option (Db × Op) :=
  match op.phase with
  | .started => if s.syncFree n then some (s.db, { op with phase := .syncing }) else none
  | .syncing =>
    match s.db.conversation with
    | some conversation => some (s.db, { op with phase := .conversed conversation })
    | none =>
      some (s.db,
        { op with
          phase := .conversed ⟨0⟩
          writes := { op.writes with conversation := some ⟨0⟩ } })
  | .conversed conversation =>
    let diff := s.db.circleSeatDiff
    if diff.toJoin ≠ [] then some (s.db, { op with phase := .joining conversation diff })
    else if diff.toRemove ≠ [] then some (s.db, { op with phase := .guarding diff })
    else some (s.db, { op with phase := .leaving diff [] })
  | .joining conversation diff =>
    some (s.db, { op with phase := .creating conversation diff s.db.topHeight diff.toCreate })
  | .creating _ diff watermark [] =>
    some (s.db,
      { op with
        phase := .rejoining diff watermark
          (diff.toRejoin.filter fun u => (s.db.seats.find u).any (!·.here)) })
  | .rejoining diff _ [] => some (s.db, s.beginLeaving op diff)
  | .guarding diff =>
    if s.db.activeUsers ≠ [] then some (s.db, s.beginLeaving op diff)
    else some (s.db, { op with phase := .leaving diff [] })
  | .leaving _ [] =>
    some (s.db.commit op.writes, { op with phase := .committed, writes := .none })
  | _ => none

/-- A statement comes to the row of a user. -/
def visit (s : State) (n : Nat) (op : Op) (u : UserId) : Option Op :=
  match op.phase with
  | .creating conversation diff watermark rows =>
    if u ∈ rows ∧ s.seatFree n u ∧ (s.others n).all (!·.phase.holdsConversation) then
      let rest := .creating conversation diff watermark (rows.erase u)
      match s.db.seats.find u with
      | some _ => some { op with phase := rest }
      | none =>
        some { op with
          phase := rest
          writes := op.writes.seat
            ⟨u, watermark, conversation.clearedBeforeHeight, s.now, none⟩ }
    else none
  | .rejoining diff watermark rows =>
    if u ∈ rows ∧ s.seatFree n u then
      let rest := .rejoining diff watermark (rows.erase u)
      match (s.db.seats.find u).filter (!·.here) with
      | some seat =>
        some { op with
          phase := rest
          writes := op.writes.seat
            { seat with leftAt := none, lastReadHeight := watermark, joinedAt := s.now } }
      | none => some { op with phase := rest }
    else none
  | .leaving diff rows =>
    if u ∈ rows ∧ s.seatFree n u then
      let rest := .leaving diff (rows.erase u)
      match (s.db.seats.find u).filter (·.here) with
      | some seat =>
        some { op with
          phase := rest
          writes := op.writes.seat { seat with leftAt := some s.now } }
      | none => some { op with phase := rest }
    else none
  | _ => none

/-! ### `removeGroupMember`, `leaveGroup` and `leaveCircle` -/

def fails (s : State) (op : Op) (fault : Fault) : Option (Db × Op) :=
  some (s.db, { op with phase := .failed fault, writes := .none })

def manages (m : CircleMember) : Bool :=
  m.status = .active && (m.role = .owner || m.role = .admin)

/-- `assertCanManageCircleGroup` -/
def canManageCircleGroup (actor target : Option CircleMember) : Bool :=
  actor.any fun actor =>
    actor.status = .active &&
      (actor.role = .owner || (actor.role = .admin && target.all (·.role = .member)))

/-- What the rows under the locks say: the row to delete, if there is one. -/
def judge (snapshot : Db) : Removal → Except Fault (Option CircleMember)
  | .removeGroupMember actorId targetUserID console =>
    let target := snapshot.members.find targetUserID
    let actor :=
      if console then some ⟨actorId, .owner, .active⟩ else snapshot.members.find actorId
    if console && target.all (fun t =>
        t.status ≠ .active || t.role = .owner || targetUserID = snapshot.ownerID) then
      .error .protectedMember
    else if canManageCircleGroup actor target then .ok target
    else .error .managerOnly
  | .leaveGroup userId =>
    let membership := snapshot.members.find userId
    if snapshot.ownerID = userId || membership.any (·.role = .owner) then
      .error .ownerCannotLeave
    else .ok membership
  | .leaveCircle userId =>
    match snapshot.members.find userId with
    | none => .error .notMember
    | some membership =>
      if membership.role = .owner then .error .ownerCannotLeave else .ok (some membership)

/-- The next statement of a removal. A row that has changed since the snapshot ends
it. -/
def removalTurn (s : State) (n : Nat) (op : Op) (r : Removal) : Option (Db × Op) :=
  match op.phase with
  | .started =>
    match r with
    | .removeGroupMember actorId targetUserID console =>
      if targetUserID = actorId then s.fails op .useLeaveEndpoint
      else if console || (s.db.members.find actorId).any manages then
        some (s.db, { op with phase := .preflighted s.db })
      else s.fails op .managerOnly
    | .leaveGroup _ | .leaveCircle _ => some (s.db, { op with phase := .locking s.db false })
  | .preflighted snapshot =>
    if snapshot.conversation.isNone then
      some (s.db, { op with phase := .locking snapshot false })
    else if s.conversationFree n then some (s.db, { op with phase := .locking snapshot true })
    else none
  | .locking snapshot conversation =>
    if s.membersFree n r.lockedUsers then
      some (s.db, { op with phase := .locked snapshot conversation })
    else none
  | .locked snapshot conversation =>
    match judge snapshot r with
    | .error fault => s.fails op fault
    | .ok none => some (s.db, { op with phase := .released snapshot conversation })
    | .ok (some row) =>
      if s.db.members.find r.userID = some row then
        some (s.db,
          { op with
            phase := .deleted snapshot conversation
            writes := { op.writes with deleted := some r.userID } })
      else s.fails op .serializationFailure
  | .deleted snapshot conversation =>
    let released : Op := { op with phase := .released snapshot conversation }
    if snapshot.conversation.isNone then some (s.db, released)
    else
      match (snapshot.seats.find r.userID).filter (·.here) with
      | none => some (s.db, released)
      | some seat =>
        if !s.seatFree n r.userID then none
        else if s.db.seats.find r.userID = some seat then
          some (s.db, { released with writes := op.writes.seat { seat with leftAt := some s.now } })
        else s.fails op .serializationFailure
  | .released _ _ => some (s.db.commit op.writes, { op with phase := .committed, writes := .none })
  | _ => none

/-! ### Runs -/

def turn (s : State) (n : Nat) (op : Op) : Option (Db × Op) :=
  match op.request with
  | .ensureCircleConversation => s.syncTurn n op
  | .remove r => s.removalTurn n op r

end State

inductive Action
  | begin (request : Request)
  | turn (n : Nat)
  | visit (n : Nat) (u : UserId)
  /-- A transaction that has not ended is rolled back. -/
  | abort (n : Nat)
  /-- A row of the circle is written elsewhere: a user joins or is let in, turned
  down, or given a role. -/
  | enroll (row : CircleMember)
  | message (height : Nat)
  | pass (ms : Nat)
  deriving DecidableEq, Repr

@[simp] def Phase.ended : Phase → Bool
  | .committed | .failed _ => true
  | _ => false

def State.after (s : State) (n : Nat) (db : Db) (op op' : Op) : State where
  db := db
  now := s.now
  ops := s.ops.set n op'
  removed :=
    match op'.phase, op.writes.deleted with
    | .committed, some u => u :: s.removed
    | _, _ => s.removed

def State.next (s : State) : Action → Option State
  | .begin request => some { s with ops := s.ops ++ [⟨request, .started, .none⟩] }
  | .turn n => do
    let op ← s.ops[n]?
    let (db, op') ← s.turn n op
    return s.after n db op op'
  | .visit n u => do
    let op ← s.ops[n]?
    let op' ← s.visit n op u
    return s.after n s.db op op'
  | .abort n => do
    let op ← s.ops[n]?
    if op.phase.ended then none
    else return s.after n s.db op { op with phase := .failed .aborted, writes := .none }
  | .enroll row =>
    if (s.db.isActive row.userID → row.status = .active) ∧
        s.ops.all (fun op => !op.locks row.userID) then
      some { s with db := { s.db with members := s.db.members.set row } }
    else none
  | .message height =>
    some { s with db := { s.db with topHeight := max s.db.topHeight height } }
  | .pass ms => some { s with now := s.now + ms }

def Step (s : State) (a : Action) (t : State) : Prop := s.next a = some t

end Seating

end CircleBackend.Circle
