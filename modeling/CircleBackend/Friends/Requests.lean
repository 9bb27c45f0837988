import CircleBackend.Library.Table
import CircleBackend.Library.Transition
import CircleBackend.Session.Model
import Mathlib.Logic.Function.Basic

/-!
# Friend requests and blocks

The calls that write `Friend` and `Block` rows, a statement a step. A call that has begun
its transaction holds advisory locks; what it has written stays with it, and its rows are
locked, until it commits. A call ends where it throws, and may end anywhere.
-/

namespace CircleBackend.Friends

open Library
open Session (UserId)

abbrev RequestId := Nat
abbrev CallId := Nat

inductive FriendState
  | pending
  | accepted
  | rejected
  | withdrawn
  deriving DecidableEq, Repr

/-- Of the columns those that the calls test. -/
structure Friend where
  id : RequestId
  userID : UserId
  friendID : UserId
  state : FriendState
  deriving DecidableEq, Repr

structure Block where
  blockerID : UserId
  blockedID : UserId
  deriving DecidableEq, Repr

structure FriendRequestMessage where
  requestId : RequestId
  senderId : UserId
  deriving DecidableEq, Repr

inductive Role
  | admin
  | member
  | user
  deriving DecidableEq, Repr

def friendLimitUser : Nat := 1000
def friendLimitMember : Nat := 5000

def friendLimit : Role → Nat
  | .member | .admin => friendLimitMember
  | .user => friendLimitUser

def friendRequestMessageSenderSoftCap : Nat := 5
def friendRequestMessageTotalCap : Nat := 50

def Friend.between (row : Friend) (a b : UserId) : Bool :=
  row.userID = a && row.friendID = b || row.userID = b && row.friendID = a

def Friend.of (row : Friend) (id : UserId) : Bool := row.userID = id || row.friendID = id

def Friend.live (row : Friend) : Bool := row.state = .pending || row.state = .accepted

inductive Decision
  | accepted
  | rejected
  deriving DecidableEq, Repr

def Decision.state : Decision → FriendState
  | .accepted => .accepted
  | .rejected => .rejected

/-! ## The calls -/

/-- The next statement of `sendRequest`; its other tests only refuse. -/
inductive Sending
  | target
  | blocks
  | limit
  | lock
  | find
  | create
  | commit (id : RequestId)
  deriving DecidableEq, Repr

inductive Handling
  | read
  | sender (userID : UserId)
  | limit
  | lock
  | check
  | update
  | commit
  deriving DecidableEq, Repr

inductive Cancelling
  | read
  | lock
  | check
  | update
  | commit
  deriving DecidableEq, Repr

inductive Appending
  | lock
  | check
  | commit
  deriving DecidableEq, Repr

/-- The `deleteMany` finds its rows before it waits for their locks. -/
inductive Blocking
  | target
  | already
  | lock
  | lockNext
  | delete
  | wait (ids : List RequestId)
  | create (ids : List RequestId)
  | commit (ids : List RequestId)
  deriving DecidableEq, Repr

inductive Removing
  | find
  | lock (id : RequestId)
  | lockNext (id : RequestId)
  | delete (id : RequestId)
  | commit (id : RequestId)
  deriving DecidableEq, Repr

inductive Op
  | send (senderId targetId : UserId) (stage : Sending)
  | handle (recipientId : UserId) (requestId : RequestId) (decision : Decision) (stage : Handling)
  | cancel (senderId : UserId) (requestId : RequestId) (stage : Cancelling)
  | append (userId : UserId) (requestId : RequestId) (stage : Appending)
  | block (blockerId targetId : UserId) (stage : Blocking)
  | remove (userId friendId : UserId) (stage : Removing)
  deriving DecidableEq, Repr

inductive Lock
  | pair (a b : UserId)
  | request (id : RequestId)
  | callUser (id : UserId)
  deriving DecidableEq, Repr

def Lock.ofPair (a b : UserId) : Lock := .pair (min a b) (max a b)

/-- The advisory locks of a call, which it keeps until it ends. -/
def Op.holds : Op → List Lock
  | .send a b (.find) | .send a b (.create) | .send a b (.commit _) => [.ofPair a b]
  | .handle _ id _ .check | .handle _ id _ .update | .handle _ id _ .commit => [.request id]
  | .cancel _ id .check | .cancel _ id .update | .cancel _ id .commit => [.request id]
  | .append _ id .check | .append _ id .commit => [.request id]
  | .block a b .lockNext => [.callUser (min a b)]
  | .block a b .delete | .block a b (.wait _) | .block a b (.create _) | .block a b (.commit _) =>
    [.callUser (min a b), .callUser (max a b)]
  | .remove a b (.lockNext _) => [.callUser (min a b)]
  | .remove a b (.delete _) | .remove a b (.commit _) =>
    [.callUser (min a b), .callUser (max a b)]
  | _ => []

/-- The rows that a call has written and not committed. -/
def Op.writes : Op → List RequestId
  | .handle _ id _ .commit | .cancel _ id .commit | .remove _ _ (.commit id) => [id]
  | .block _ _ (.create ids) | .block _ _ (.commit ids) => ids
  | _ => []

structure Call where
  id : CallId
  op : Op
  deriving DecidableEq, Repr

structure State where
  active : UserId → Bool
  friends : Table Friend RequestId (·.id)
  blocks : List Block
  messages : List FriendRequestMessage
  calls : Table Call CallId (·.id)

namespace State

def free (s : State) (c : CallId) (lock : Lock) : Bool :=
  s.calls.rows.all fun call => call.id = c || !call.op.holds.contains lock

def unlocked (s : State) (c : CallId) (id : RequestId) : Bool :=
  s.calls.rows.all fun call => call.id = c || !call.op.writes.contains id

/-- In one direction or the other. -/
def blocked (s : State) (a b : UserId) : Bool :=
  s.blocks.contains ⟨a, b⟩ || s.blocks.contains ⟨b, a⟩

/-- The friends that `assertBelowFriendLimit` counts. -/
def friendCount (s : State) (id : UserId) : Nat :=
  s.friends.count fun row => row.of id && row.state = .accepted

def finish (s : State) (c : CallId) : State :=
  { s with calls := s.calls.deleteMany (·.id = c) }

def goto (s : State) (c : CallId) (op : Op) : State := { s with calls := s.calls.put ⟨c, op⟩ }

/-- A call goes on if a test holds, and throws if not. -/
def check (s : State) (c : CallId) (test : Bool) (op : Op) : State :=
  if test then s.goto c op else s.finish c

def acquire (s : State) (c : CallId) (lock : Lock) (op : Op) : Option State :=
  if s.free c lock then some (s.goto c op) else none

end State

def Friend.pendingFor (row : Friend) (recipientId : UserId) : Bool :=
  row.friendID = recipientId && row.state = .pending

def Friend.pendingBy (row : Friend) (senderId : UserId) : Bool :=
  row.userID = senderId && row.state = .pending

/-- The caps of a thread. -/
def mayAppend (messages : List FriendRequestMessage) (request : Friend) (userId : UserId) : Bool :=
  let count (p : FriendRequestMessage → Bool) :=
    messages.countP fun m => m.requestId = request.id && p m
  request.of userId && request.state = .pending &&
    decide (count (fun _ => true) < friendRequestMessageTotalCap) &&
    (request.userID ≠ userId || count (·.senderId = request.friendID) ≠ 0 ||
      decide (count (·.senderId = request.userID) < friendRequestMessageSenderSoftCap))

section Next

variable (roles : UserId → Role)

def State.belowLimit (s : State) (id : UserId) : Bool :=
  s.friendCount id < friendLimit (roles id)

def Sending.next (s : State) (c : CallId) (fresh : RequestId) (a b : UserId) :
    Sending → Option State
  | .target => some (s.check c (s.active b) (.send a b .blocks))
  | .blocks => some (s.check c (!s.blocked a b) (.send a b .limit))
  | .limit => some (s.check c (s.belowLimit roles a) (.send a b .lock))
  | .lock => s.acquire c (.ofPair a b) (.send a b .find)
  | .find =>
    some (s.check c (!s.friends.rows.any fun row => row.between a b && row.live)
      (.send a b .create))
  | .create => some (s.goto c (.send a b (.commit fresh)))
  | .commit id =>
    match s.friends.insert { id := id, userID := a, friendID := b, state := .pending } with
    | some friends => some { s.finish c with friends := friends }
    | none => some (s.finish c)

def Handling.next (s : State) (c : CallId) (recipientId : UserId) (id : RequestId)
    (decision : Decision) : Handling → Option State
  | .read =>
    match (s.friends.find id).filter (·.pendingFor recipientId) with
    | some row =>
      some (s.goto c (.handle recipientId id decision
        (if decision = .accepted then .sender row.userID else .lock)))
    | none => some (s.finish c)
  | .sender userID => some (s.check c (s.active userID) (.handle recipientId id decision .limit))
  | .limit =>
    some (s.check c (s.belowLimit roles recipientId) (.handle recipientId id decision .lock))
  | .lock => s.acquire c (.request id) (.handle recipientId id decision .check)
  | .check =>
    some (s.check c ((s.friends.find id).any (·.pendingFor recipientId))
      (.handle recipientId id decision .update))
  | .update =>
    if s.unlocked c id then
      some (s.check c ((s.friends.find id).any (·.pendingFor recipientId))
        (.handle recipientId id decision .commit))
    else none
  | .commit =>
    (s.friends.find id).map fun row =>
      { s.finish c with friends := s.friends.put { row with state := decision.state } }

def Cancelling.next (s : State) (c : CallId) (senderId : UserId) (id : RequestId) :
    Cancelling → Option State
  | .read =>
    some (s.check c ((s.friends.find id).any (·.pendingBy senderId)) (.cancel senderId id .lock))
  | .lock => s.acquire c (.request id) (.cancel senderId id .check)
  | .check =>
    some (s.check c ((s.friends.find id).any (·.pendingBy senderId)) (.cancel senderId id .update))
  | .update =>
    if s.unlocked c id then
      some (s.check c ((s.friends.find id).any (·.pendingBy senderId))
        (.cancel senderId id .commit))
    else none
  | .commit =>
    (s.friends.find id).map fun row =>
      { s.finish c with friends := s.friends.put { row with state := .withdrawn } }

def Appending.next (s : State) (c : CallId) (userId : UserId) (id : RequestId) :
    Appending → Option State
  | .lock => s.acquire c (.request id) (.append userId id .check)
  | .check =>
    some (s.check c ((s.friends.find id).any fun row => mayAppend s.messages row userId)
      (.append userId id .commit))
  | .commit => some { s.finish c with messages := s.messages ++ [⟨id, userId⟩] }

def Blocking.next (s : State) (c : CallId) (a b : UserId) : Blocking → Option State
  | .target => some (s.check c (s.active b) (.block a b .already))
  | .already => some (s.check c (!s.blocks.contains ⟨a, b⟩) (.block a b .lock))
  | .lock => s.acquire c (.callUser (min a b)) (.block a b .lockNext)
  | .lockNext => s.acquire c (.callUser (max a b)) (.block a b .delete)
  | .delete => some (s.goto c (.block a b (.wait ((s.friends.select (·.between a b)).map (·.id)))))
  | .wait ids => if ids.all (s.unlocked c) then some (s.goto c (.block a b (.create ids))) else none
  | .create ids => some (s.check c (!s.blocks.contains ⟨a, b⟩) (.block a b (.commit ids)))
  | .commit ids =>
    some { s.finish c with
      friends := s.friends.deleteMany fun row => ids.contains row.id
      blocks := ⟨a, b⟩ :: s.blocks }

def Removing.next (s : State) (c : CallId) (a b : UserId) : Removing → Option State
  | .find =>
    match s.friends.rows.find? fun row => row.between a b && row.state = .accepted with
    | some row => some (s.goto c (.remove a b (.lock row.id)))
    | none => some (s.finish c)
  | .lock id => s.acquire c (.callUser (min a b)) (.remove a b (.lockNext id))
  | .lockNext id => s.acquire c (.callUser (max a b)) (.remove a b (.delete id))
  | .delete id =>
    if s.unlocked c id then
      some (s.check c (s.friends.find id).isSome (.remove a b (.commit id)))
    else none
  | .commit id => some { s.finish c with friends := s.friends.deleteMany fun row => row.id = id }

def Op.next (s : State) (c : CallId) (fresh : RequestId) : Op → Option State
  | .send a b stage => stage.next roles s c fresh a b
  | .handle recipientId id decision stage => stage.next roles s c recipientId id decision
  | .cancel senderId id stage => stage.next s c senderId id
  | .append userId id stage => stage.next s c userId id
  | .block a b stage => stage.next s c a b
  | .remove a b stage => stage.next s c a b

/-- `Cannot add yourself` and `Cannot block yourself`; a call starts with its first
statement. -/
def Op.starts : Op → Bool
  | .send a b .target => a ≠ b
  | .block a b .target => a ≠ b
  | .handle _ _ _ .read | .cancel _ _ .read | .append _ _ .lock | .remove _ _ .find => true
  | _ => false

inductive Act
  | start (c : CallId) (op : Op)
  /-- With the id of a row that the statement creates. -/
  | step (c : CallId) (fresh : RequestId)
  | abort (c : CallId)
  | unblock (blockerId targetId : UserId)
  | setActive (id : UserId) (active : Bool)
  deriving DecidableEq, Repr

def State.next (s : State) : Act → Option State
  | .start c op =>
    if op.starts then (s.calls.insert ⟨c, op⟩).map fun calls => { s with calls := calls } else none
  | .step c fresh => (s.calls.find c).bind fun call => call.op.next roles s c fresh
  | .abort c => some (s.finish c)
  | .unblock a b => some { s with blocks := s.blocks.filter (· ≠ ⟨a, b⟩) }
  | .setActive id active => some { s with active := Function.update s.active id active }

def Step (s : State) (act : Act) (t : State) : Prop := s.next roles act = some t

end Next

def State.empty : State where
  active _ := false
  friends := .empty
  blocks := []
  messages := []
  calls := .empty

end CircleBackend.Friends
