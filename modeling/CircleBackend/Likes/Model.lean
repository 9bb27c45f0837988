import CircleBackend.Js
import CircleBackend.Library.Counted
import CircleBackend.Library.Transition
import Mathlib.Data.List.Dedup

/-!
# Profile likes

The tables behind `User.receivedLikeCount` with the transactions of `like`, `unlike`,
`recognizePostCollaborators` and `reconcileReceivedLikeCounts`, one statement at a time. What a
transaction has written is pending in the cells until it ends; a cell that another has written is
waited for.

The serializable transactions take their snapshot with their first statement, before the lock
that statement asks for. A row that has a newer version than the snapshot fails their update.
-/

namespace CircleBackend.Likes

open Library Library.ReadCommitted

abbrev UserId := Nat
abbrev PostId := Nat
abbrev TxId := Nat
/-- A date, as `likedOnToday` gives it. -/
abbrev Day := Nat

def dailyLikeLimit : Nat := 5
def maxCollaborationRecognitionsPerPost : Nat := 3

/-- A row of `UserLike`; its columns are its unique key. -/
structure UserLike where
  fromUserID : UserId
  toUserID : UserId
  likedOn : Day
  deriving DecidableEq

inductive CirclePostStatus
  | active | ended | deleted
  deriving DecidableEq

structure CirclePost where
  authorID : UserId
  status : CirclePostStatus
  collaborationRecognizedAt : Option Time
  deriving DecidableEq

/-! ## Transactions -/

/-- The rows that were committed when a serializable transaction began. -/
structure Snapshot where
  likes : List UserLike
  counts : UserId → Nat
  versions : UserId → Nat

def Snapshot.received (snapshot : Snapshot) (u : UserId) : Nat :=
  snapshot.likes.countP fun row => row.toUserID = u

/-- Each constructor is the statement that comes next. -/
inductive LikeStage
  | lockShared (snapshot : Snapshot)
  | countToday (snapshot : Snapshot)
  | create (snapshot : Snapshot)
  | increment (snapshot : Snapshot)
  | commit

inductive UnlikeStage
  | lockShared
  | deleteMany
  | decrement
  | commit
  deriving DecidableEq

inductive RecognizeStage
  | lockShared
  | findPost
  | findSignups
  | claim
  | createRecognitions
  | findLikes
  /-- `createMany` with `skipDuplicates`, at the first of the rows that are left. -/
  | createLikes (done left : List UserId)
  | increment (left : List UserId)
  | commit
  deriving DecidableEq

inductive ReconcileStage
  | tryLockJob
  | lockCounters (snapshot : Snapshot)
  | update (snapshot : Snapshot)
  | commit

structure RecognizeCall where
  authorId : UserId
  postId : PostId
  /-- Trimmed, without empty ones. -/
  recipientIds : List UserId
  likedOn : Day
  now : Time
  deriving DecidableEq

/-- Of equal ids the first. -/
def RecognizeCall.uniqueRecipientIds (call : RecognizeCall) : List UserId :=
  call.recipientIds.reverse.dedup.reverse

inductive Tx
  | like (row : UserLike) (stage : LikeStage)
  | unlike (row : UserLike) (stage : UnlikeStage)
  | recognize (call : RecognizeCall) (stage : RecognizeStage)
  | reconcile (stage : ReconcileStage)

structure State where
  /-- The keys that `UserLike` rows were ever written under. -/
  keys : List UserLike
  likes : Store UserLike TxId Bool
  users : List UserId
  /-- `User.receivedLikeCount` -/
  counts : Store UserId TxId Nat
  /-- How often that has been committed. -/
  versions : UserId → Nat
  posts : Store PostId TxId CirclePost
  signups : List (PostId × UserId)
  /-- The signups there ever were. -/
  signedUp : List (PostId × UserId)
  /-- The rows of `CollaborationRecognition`, those of one transaction together. -/
  recognitions : List (PostId × List UserId)
  txs : TxId → Option Tx
  /-- The holders of `like-counter-reconciliation` and of `like-reconciliation-job`. -/
  shared : List TxId
  exclusive : Option TxId
  job : Option TxId

inductive Act
  | like (id : TxId) (row : UserLike)
  | unlike (id : TxId) (row : UserLike)
  | recognize (id : TxId) (call : RecognizeCall)
  | reconcile (id : TxId)
  | turn (id : TxId)
  /-- An error of the database, a deadlock, a failed serialization or the end of the process. -/
  | abort (id : TxId)
  | signup (postId : PostId) (userId : UserId)
  | cancelSignup (postId : PostId) (userId : UserId)

namespace State

variable (s : State)

/-! ## Rows -/

/-- The committed rows. -/
def rows : List UserLike := s.keys.filter fun row => (s.likes row).committed = some true

def received (u : UserId) : Nat := s.rows.countP fun row => row.toUserID = u

def receivedLikeCount (u : UserId) : Nat := ((s.counts u).committed).getD 0

def snapshot : Snapshot := ⟨s.rows, s.receivedLikeCount, s.versions⟩

def goto (id : TxId) (tx : Tx) : State := { s with txs := Function.update s.txs id (some tx) }

def writeLike (id : TxId) (row : UserLike) (present : Bool) : State :=
  { s with
    keys := if row ∈ s.keys then s.keys else s.keys ++ [row]
    likes := s.likes.insert id row present }

/-- `f` of the newest count. -/
def writeCount (id : TxId) (u : UserId) (f : Nat → Nat) : State :=
  { s with counts := s.counts.insert id u (f (((s.counts u).view id).getD 0)) }

/-- The locks of a transaction go with it. -/
def leave (id : TxId) : State :=
  { s with
    txs := Function.update s.txs id none
    shared := s.shared.filter (· ≠ id)
    exclusive := s.exclusive.filter (· ≠ id)
    job := s.job.filter (· ≠ id) }

def rollback (id : TxId) : State :=
  { s.leave id with
    likes := s.likes.abort id
    counts := s.counts.abort id
    posts := s.posts.abort id }

def commit (id : TxId) : State :=
  { s.leave id with
    likes := s.likes.commit id
    counts := s.counts.commit id
    versions := fun u =>
      if (s.counts u).pending.any (·.1 = id) then s.versions u + 1 else s.versions u
    posts := s.posts.commit id }

/-- `pg_advisory_xact_lock_shared` -/
def lockShared (id : TxId) (next : Tx) : Option State :=
  if s.exclusive = none then some ({ s with shared := id :: s.shared }.goto id next) else none

/-! ## Statements -/

def likeTurn (id : TxId) (row : UserLike) : LikeStage → Option State
  | .lockShared snapshot => s.lockShared id (.like row (.countToday snapshot))
  | .countToday snapshot =>
    if dailyLikeLimit ≤ snapshot.likes.countP (fun r =>
        r.fromUserID = row.fromUserID ∧ r.likedOn = row.likedOn) then some (s.rollback id)
    else some (s.goto id (.like row (.create snapshot)))
  | .create snapshot =>
    if (s.likes row).Free id then
      if (s.likes row).view id = some true then some (s.rollback id)
      else some ((s.writeLike id row true).goto id (.like row (.increment snapshot)))
    else none
  | .increment snapshot =>
    if (s.counts row.toUserID).Free id then
      if s.versions row.toUserID = snapshot.versions row.toUserID then
        some ((s.writeCount id row.toUserID (· + 1)).goto id (.like row .commit))
      else some (s.rollback id)
    else none
  | .commit => some (s.commit id)

def unlikeTurn (id : TxId) (row : UserLike) : UnlikeStage → Option State
  | .lockShared => s.lockShared id (.unlike row .deleteMany)
  | .deleteMany =>
    -- a row that is not committed yet is not seen, and not waited for
    if (s.likes row).view id = some true then
      if (s.likes row).Free id then
        some ((s.writeLike id row false).goto id (.unlike row .decrement))
      else none
    else some (s.goto id (.unlike row .commit))
  | .decrement =>
    -- `GREATEST(... - 1, 0)`
    if (s.counts row.toUserID).Free id then
      some ((s.writeCount id row.toUserID (· - 1)).goto id (.unlike row .commit))
    else none
  | .commit => some (s.commit id)

def recognizeTurn (id : TxId) (call : RecognizeCall) : RecognizeStage → Option State
  | .lockShared => s.lockShared id (.recognize call .findPost)
  | .findPost =>
    match (s.posts call.postId).view id with
    | some post =>
      if post.authorID = call.authorId ∧ post.status ≠ .deleted then
        some (s.goto id (.recognize call .findSignups))
      else some (s.rollback id)
    | none => some (s.rollback id)
  | .findSignups =>
    if ∀ recipientId ∈ call.uniqueRecipientIds, (call.postId, recipientId) ∈ s.signups then
      some (s.goto id (.recognize call .claim))
    else some (s.rollback id)
  | .claim =>
    if (s.posts call.postId).Free id then
      match (s.posts call.postId).view id with
      | some post =>
        if post.authorID = call.authorId ∧ post.collaborationRecognizedAt = none then
          some ({ s with
            posts := s.posts.insert id call.postId
              { post with collaborationRecognizedAt := some call.now } }.goto id
                (.recognize call .createRecognitions))
        else some (s.rollback id)
      | none => some (s.rollback id)
    else none
  -- the rows are written with the commit, which their key does not hold up
  | .createRecognitions => some (s.goto id (.recognize call .findLikes))
  | .findLikes =>
    let newLikeRecipientIds := call.uniqueRecipientIds.filter fun recipientId =>
      (s.likes ⟨call.authorId, recipientId, call.likedOn⟩).view id ≠ some true
    if newLikeRecipientIds = [] then some (s.goto id (.recognize call .commit))
    else some (s.goto id (.recognize call (.createLikes [] newLikeRecipientIds)))
  | .createLikes done [] => some (s.goto id (.recognize call (.increment done)))
  | .createLikes done (recipientId :: left) =>
    let row : UserLike := ⟨call.authorId, recipientId, call.likedOn⟩
    let next := Tx.recognize call (.createLikes (done ++ [recipientId]) left)
    if (s.likes row).Free id then
      if (s.likes row).view id = some true then some (s.goto id next)
      else some ((s.writeLike id row true).goto id next)
    else none
  | .increment [] => some (s.goto id (.recognize call .commit))
  | .increment (recipientId :: left) =>
    if (s.counts recipientId).Free id then
      some ((s.writeCount id recipientId (· + 1)).goto id (.recognize call (.increment left)))
    else none
  | .commit =>
    some { s.commit id with
      recognitions := s.recognitions ++ [(call.postId, call.uniqueRecipientIds)] }

/-- `WHERE u.id = sub.id AND u."receivedLikeCount" <> sub.cnt` -/
def drifted (snapshot : Snapshot) : List UserId :=
  s.users.filter fun u => snapshot.counts u ≠ snapshot.received u

def reconcileTurn (id : TxId) : ReconcileStage → Option State
  | .tryLockJob =>
    if s.job = none then
      some ({ s with job := some id }.goto id (.reconcile (.lockCounters s.snapshot)))
    else some (s.leave id)
  | .lockCounters snapshot =>
    if s.shared = [] ∧ s.exclusive = none then
      some ({ s with exclusive := some id }.goto id (.reconcile (.update snapshot)))
    else none
  | .update snapshot =>
    if ∀ u ∈ s.drifted snapshot, (s.counts u).Free id then
      if ∀ u ∈ s.drifted snapshot, s.versions u = snapshot.versions u then
        some (((s.drifted snapshot).foldl
          (fun s u => s.writeCount id u fun _ => snapshot.received u) s).goto id
            (.reconcile .commit))
      else some (s.rollback id)
    else none
  | .commit => some (s.commit id)

def turn (id : TxId) : Option State := do
  match ← s.txs id with
  | .like row stage => s.likeTurn id row stage
  | .unlike row stage => s.unlikeTurn id row stage
  | .recognize call stage => s.recognizeTurn id call stage
  | .reconcile stage => s.reconcileTurn id stage

def begin (id : TxId) (tx : Tx) : Option State :=
  if (s.txs id).isSome then none else some (s.goto id tx)

def next : Act → Option State
  | .like id row =>
    if row.fromUserID = row.toUserID then none else s.begin id (.like row (.lockShared s.snapshot))
  | .unlike id row => s.begin id (.unlike row .lockShared)
  | .recognize id call =>
    if call.uniqueRecipientIds = [] ∨
        maxCollaborationRecognitionsPerPost < call.uniqueRecipientIds.length ∨
          call.authorId ∈ call.uniqueRecipientIds then none
    else s.begin id (.recognize call .lockShared)
  | .reconcile id => s.begin id (.reconcile .tryLockJob)
  | .turn id => s.turn id
  | .abort id => if (s.txs id).isSome then some (s.rollback id) else none
  | .signup postId userId =>
    some { s with
      signups := (postId, userId) :: s.signups, signedUp := (postId, userId) :: s.signedUp }
  | .cancelSignup postId userId =>
    some { s with signups := s.signups.filter (· ≠ (postId, userId)) }

end State

def Step (s : State) (act : Act) (t : State) : Prop := s.next act = some t

end CircleBackend.Likes
