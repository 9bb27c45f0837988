import CircleBackend.Js
import CircleBackend.Library.Counted
import CircleBackend.Library.Transition
import Mathlib.Data.List.Dedup
import Mathlib.Data.List.Sort

/-!
# Posts of the plaza

`CirclePost.signupCount` and `Circle.postCount` with the calls that move them, one statement at a
time under READ COMMITTED: `signupForPost`, `cancelSignup`, `createPost`, `deletePost` and
`sweepExpiredPosts`. An `UPDATE` waits for the lock of a row that matches and looks at its newest
version again.

Every circle has a row here. What can only refuse a call is the act `refuse`.
-/

namespace CircleBackend.Plaza

open Library Library.ReadCommitted

abbrev UserId := Nat
abbrev CircleId := Nat
abbrev PostId := Nat
/-- A call, and its transaction. -/
abbrev TxId := Nat

def circlePostAutoEndMs : Nat := 24 * 60 * 60 * 1000
def circlePostAutoEndBatchSize : Nat := 100
def maxFilterItems : Nat := 50

inductive CirclePostStatus
  | active | ended | deleted
  deriving DecidableEq

/-- `links` are the circles of its `CirclePostCircle` rows, which are made with it. -/
structure CirclePost where
  authorID : UserId
  circleID : CircleId
  links : List CircleId
  createdAt : Time
  expiresAt : Option Time
  status : CirclePostStatus
  endedAt : Option Time
  signupCount : Int
  deriving DecidableEq

/-- `activeUnexpiredPostWhere` -/
def CirclePost.activeUnexpired (post : CirclePost) (now : Time) : Bool :=
  post.status = .active && match post.expiresAt with
    | some expiresAt => now < expiresAt
    | none => now < post.createdAt + circlePostAutoEndMs

/-- `expiredWhere` -/
def CirclePost.expired (post : CirclePost) (now : Time) : Bool :=
  post.status = .active && match post.expiresAt with
    | some expiresAt => expiresAt ≤ now
    | none => post.createdAt + circlePostAutoEndMs ≤ now

/-- Of equal ids the first; the texts are trimmed and not empty. -/
def normalizeCircleIds (circleIds : List CircleId) : List CircleId :=
  circleIds.reverse.dedup.reverse.take maxFilterItems

/-- The circles whose `postCount` a deletion takes back. -/
def CirclePost.linkedCircleIds (post : CirclePost) : List CircleId :=
  if post.links = [] then [post.circleID] else post.links.dedup

/-! ## Calls -/

structure SignupCall where
  userId : UserId
  postId : PostId
  now : Time
  deriving DecidableEq

structure CreateCall where
  userId : UserId
  postId : PostId
  circleIds : List CircleId
  createdAt : Time
  expiresAt : Time
  deriving DecidableEq

/-- The row it creates. -/
def CreateCall.post (call : CreateCall) : CirclePost where
  authorID := call.userId
  circleID := (normalizeCircleIds call.circleIds).headD 0
  links := normalizeCircleIds call.circleIds
  createdAt := call.createdAt
  expiresAt := some call.expiresAt
  status := .active
  endedAt := none
  signupCount := 0

structure DeleteCall where
  userId : UserId
  postId : PostId
  now : Time
  deriving DecidableEq

/-- Each constructor is the statement that comes next. -/
inductive SignupStage
  | findPost
  | findExisting (signupCount : Int)
  | create
  | count
  | commit (signupCount : Int)
  /-- After the unique violation, outside the transaction. -/
  | findCurrent
  deriving DecidableEq

inductive CancelStage
  | deleteMany
  | findCurrent
  | decrement
  | commit (signupCount : Int)
  deriving DecidableEq

inductive CreateStage
  | create
  | count (left : List CircleId)
  | commit
  deriving DecidableEq

inductive DeleteStage
  | findPost
  | findLinks
  | claim (linkedCircleIds : List CircleId)
  | decrement (left : List CircleId)
  | commit
  deriving DecidableEq

inductive SweepStage
  | lock
  | findBatch
  | update (left : List PostId)
  | commit
  deriving DecidableEq

inductive Tx
  | signupForPost (call : SignupCall) (stage : SignupStage)
  | cancelSignup (userId : UserId) (postId : PostId) (stage : CancelStage)
  | createPost (call : CreateCall) (stage : CreateStage)
  | deletePost (call : DeleteCall) (stage : DeleteStage)
  | sweepExpiredPosts (now : Time) (stage : SweepStage)
  deriving DecidableEq

inductive Fault
  | postNotFound
  | signupSelf
  | deleteAuthorOnly
  /-- A check of the call. -/
  | refused
  /-- The database or the process. -/
  | failed
  deriving DecidableEq

inductive Outcome
  | signup (signed : Bool) (signupCount : Int)
  | done
  | threw (fault : Fault)
  deriving DecidableEq

structure State where
  postIds : List PostId
  posts : Store PostId TxId CirclePost
  /-- The keys that `CirclePostSignup` rows were ever written under. -/
  signupKeys : List (PostId × UserId)
  signups : Store (PostId × UserId) TxId Bool
  /-- `Circle.postCount` -/
  circles : Store CircleId TxId Int
  txs : TxId → Option Tx
  outcomes : TxId → Option Outcome
  /-- The holder of `circle-post-expiry-sweep`. -/
  sweeper : Option TxId

inductive Act
  | start (id : TxId) (tx : Tx)
  | turn (id : TxId)
  | refuse (id : TxId)
  | fail (id : TxId)

/-- A call before its first statement. -/
def Tx.fresh : Tx → Bool
  | .signupForPost _ stage => stage = .findPost
  | .cancelSignup _ _ stage => stage = .deleteMany
  | .createPost call stage => stage = .create && normalizeCircleIds call.circleIds ≠ []
  | .deletePost _ stage => stage = .findPost
  | .sweepExpiredPosts _ stage => stage = .lock

namespace State

variable (s : State)

def signed (postId : PostId) : Nat :=
  s.signupKeys.countP fun key =>
    key.1 = postId ∧ (s.signups key).committed = some true

def linked (circleId : CircleId) : Nat :=
  s.postIds.countP fun postId =>
    (s.posts postId).committed.any fun post => post.status ≠ .deleted && circleId ∈ post.links

def signupCount (postId : PostId) : Int :=
  (((s.posts postId).committed).map CirclePost.signupCount).getD 0

def postCount (circleId : CircleId) : Int := ((s.circles circleId).committed).getD 0

def goto (id : TxId) (tx : Tx) : State := { s with txs := Function.update s.txs id (some tx) }

def finish (id : TxId) (outcome : Outcome) : State :=
  { s with
    txs := Function.update s.txs id none
    outcomes := Function.update s.outcomes id (some outcome)
    sweeper := s.sweeper.filter (· ≠ id) }

def rollback (id : TxId) : State :=
  { s with
    posts := s.posts.abort id
    signups := s.signups.abort id
    circles := s.circles.abort id }

def commit (id : TxId) : State :=
  { s with
    posts := s.posts.commit id
    signups := s.signups.commit id
    circles := s.circles.commit id }

def throw (id : TxId) (fault : Fault) : State := (s.rollback id).finish id (.threw fault)

def writePost (id : TxId) (postId : PostId) (post : CirclePost) : State :=
  { s with posts := s.posts.insert id postId post }

def writeSignup (id : TxId) (key : PostId × UserId) (present : Bool) : State :=
  { s with
    signupKeys := if key ∈ s.signupKeys then s.signupKeys else s.signupKeys ++ [key]
    signups := s.signups.insert id key present }

def addPostCount (id : TxId) (circleId : CircleId) (n : Int) : State :=
  { s with circles := s.circles.insert id circleId (((s.circles circleId).view id).getD 0 + n) }

/-! ## Statements -/

def signupTurn (id : TxId) (call : SignupCall) : SignupStage → Option State
  | .findPost =>
    match (s.posts call.postId).view id with
    | some post =>
      if post.activeUnexpired call.now then
        if post.authorID = call.userId then some (s.throw id .signupSelf)
        else some (s.goto id (.signupForPost call (.findExisting post.signupCount)))
      else some (s.throw id .postNotFound)
    | none => some (s.throw id .postNotFound)
  | .findExisting signupCount =>
    if (s.signups (call.postId, call.userId)).view id = some true then
      some (s.finish id (.signup true signupCount))
    else some (s.goto id (.signupForPost call .create))
  | .create =>
    if (s.signups (call.postId, call.userId)).Free id then
      if (s.signups (call.postId, call.userId)).view id = some true then
        some ((s.rollback id).goto id (.signupForPost call .findCurrent))
      else
        some ((s.writeSignup id (call.postId, call.userId) true).goto id
          (.signupForPost call .count))
    else none
  | .count =>
    match (s.posts call.postId).view id with
    | some post =>
      if post.activeUnexpired call.now then
        if (s.posts call.postId).Free id then
          some ((s.writePost id call.postId
            { post with signupCount := post.signupCount + 1 }).goto id
              (.signupForPost call (.commit (post.signupCount + 1))))
        else none
      else some (s.throw id .postNotFound)
    | none => some (s.throw id .postNotFound)
  | .commit signupCount => some ((s.commit id).finish id (.signup true signupCount))
  | .findCurrent => some (s.finish id (.signup true (s.signupCount call.postId)))

def cancelTurn (id : TxId) (userId : UserId) (postId : PostId) : CancelStage → Option State
  | .deleteMany =>
    if (s.signups (postId, userId)).view id = some true then
      if (s.signups (postId, userId)).Free id then
        some ((s.writeSignup id (postId, userId) false).goto id
          (.cancelSignup userId postId .decrement))
      else none
    else some (s.goto id (.cancelSignup userId postId .findCurrent))
  | .findCurrent => some (s.finish id (.signup false (max 0 (s.signupCount postId))))
  | .decrement =>
    match (s.posts postId).view id with
    | some post =>
      if (s.posts postId).Free id then
        some ((s.writePost id postId { post with signupCount := post.signupCount - 1 }).goto id
          (.cancelSignup userId postId (.commit (post.signupCount - 1))))
      else none
    | none => some (s.throw id .failed)
  | .commit signupCount => some ((s.commit id).finish id (.signup false (max 0 signupCount)))

def createTurn (id : TxId) (call : CreateCall) : CreateStage → Option State
  | .create =>
    if call.postId ∈ s.postIds then none
    else
      some (({ s with postIds := s.postIds ++ [call.postId] }.writePost id call.postId
        call.post).goto id (.createPost call (.count (normalizeCircleIds call.circleIds))))
  | .count [] => some (s.goto id (.createPost call .commit))
  | .count (circleId :: left) =>
    if (s.circles circleId).Free id then
      some ((s.addPostCount id circleId 1).goto id (.createPost call (.count left)))
    else none
  | .commit => some ((s.commit id).finish id .done)

def deleteTurn (id : TxId) (call : DeleteCall) : DeleteStage → Option State
  | .findPost =>
    match (s.posts call.postId).view id with
    | some post =>
      if post.activeUnexpired call.now then
        if post.authorID = call.userId then
          some (s.goto id (.deletePost call .findLinks))
        else some (s.throw id .deleteAuthorOnly)
      else some (s.throw id .postNotFound)
    | none => some (s.throw id .postNotFound)
  | .findLinks =>
    match (s.posts call.postId).view id with
    | some post => some (s.goto id (.deletePost call (.claim post.linkedCircleIds)))
    | none => some (s.throw id .failed)
  | .claim linkedCircleIds =>
    match (s.posts call.postId).view id with
    | some post =>
      if post.status = .active then
        if (s.posts call.postId).Free id then
          some ((s.writePost id call.postId { post with status := .deleted }).goto id
            (.deletePost call (.decrement linkedCircleIds)))
        else none
      else some (s.goto id (.deletePost call .commit))
    | none => some (s.goto id (.deletePost call .commit))
  | .decrement [] => some (s.goto id (.deletePost call .commit))
  | .decrement (circleId :: left) =>
    if (s.circles circleId).Free id then
      some ((s.addPostCount id circleId (-1)).goto id (.deletePost call (.decrement left)))
    else none
  | .commit => some ((s.commit id).finish id .done)

/-- Posts without an expiry first, then by expiry, then by age. -/
def earlier (a b : PostId × CirclePost) : Bool :=
  match a.2.expiresAt, b.2.expiresAt with
  | none, some _ => true
  | some _, none => false
  | none, none => a.2.createdAt ≤ b.2.createdAt
  | some x, some y => x < y || x = y && a.2.createdAt ≤ b.2.createdAt

def batch (id : TxId) (now : Time) : List PostId :=
  let seen := s.postIds.filterMap fun postId =>
    (((s.posts postId).view id).filter fun post => post.expired now).map fun post => (postId, post)
  ((seen.insertionSort fun a b => earlier a b).take circlePostAutoEndBatchSize).map (·.1)

def sweepTurn (id : TxId) (now : Time) : SweepStage → Option State
  | .lock =>
    if s.sweeper = none then
      some ({ s with sweeper := some id }.goto id (.sweepExpiredPosts now .findBatch))
    else none
  | .findBatch => some (s.goto id (.sweepExpiredPosts now (.update (s.batch id now))))
  | .update [] => some (s.goto id (.sweepExpiredPosts now .commit))
  | .update (postId :: left) =>
    match (s.posts postId).view id with
    | some post =>
      if post.status = .active then
        if (s.posts postId).Free id then
          some ((s.writePost id postId
            { post with status := .ended, endedAt := some now }).goto id
              (.sweepExpiredPosts now (.update left)))
        else none
      else some (s.goto id (.sweepExpiredPosts now (.update left)))
    | none => some (s.goto id (.sweepExpiredPosts now (.update left)))
  | .commit => some ((s.commit id).finish id .done)

def turn (id : TxId) : Option State := do
  match ← s.txs id with
  | .signupForPost call stage => s.signupTurn id call stage
  | .cancelSignup userId postId stage => s.cancelTurn id userId postId stage
  | .createPost call stage => s.createTurn id call stage
  | .deletePost call stage => s.deleteTurn id call stage
  | .sweepExpiredPosts now stage => s.sweepTurn id now stage

def next : Act → Option State
  | .start id tx =>
    if tx.fresh ∧ s.txs id = none ∧ s.outcomes id = none then some (s.goto id tx) else none
  | .turn id => s.turn id
  | .refuse id => if (s.txs id).isSome then some (s.throw id .refused) else none
  | .fail id => if (s.txs id).isSome then some (s.throw id .failed) else none

end State

def Step (s : State) (act : Act) (t : State) : Prop := s.next act = some t

end CircleBackend.Plaza
