import CircleBackend.Js
import CircleBackend.Session.Model

/-!
# The job of a note's status

The row of a root in `NoteStatusFanoutOutbox`: what a change of the root makes of it, what
a worker may claim and what a page leaves.
-/

namespace CircleBackend.Notes

open Session (UserId)

abbrev NoteId := Nat

inductive FanoutStatus
  | pending
  | processing
  | failed
  deriving DecidableEq, Repr

inductive FanoutStage
  | owners
  | chatMembers
  deriving DecidableEq, Repr

abbrev ConversationId := Nat
abbrev WorkerId := Nat

/-- The lease token is the worker that drew it. -/
structure FanoutJob where
  rootNoteID : NoteId
  status : FanoutStatus
  stage : FanoutStage
  generation : Nat
  noteCursor : Option NoteId
  chatConversationCursor : Option ConversationId
  chatUserCursor : Option UserId
  attempts : Nat
  nextAttemptAt : Time
  lockedAt : Option Time
  leaseToken : Option WorkerId
  workStatusChanged : Bool
  queuedAt : Time
  deriving DecidableEq, Repr

/-- The row of a root after `enqueueSourceStatusFanout`. -/
def enqueued (rootNoteID : NoteId) (workStatusChanged : Bool) (queuedAt : Time) :
    Option FanoutJob → FanoutJob
  | none => ⟨rootNoteID, .pending, .owners, 1, none, none, none, 0, queuedAt, none, none,
      workStatusChanged, queuedAt⟩
  | some job =>
    { job with
      workStatusChanged := workStatusChanged || job.workStatusChanged
      status := .pending
      stage := .owners
      generation := job.generation + 1
      noteCursor := none
      chatConversationCursor := none
      chatUserCursor := none
      attempts := 0
      queuedAt := queuedAt
      nextAttemptAt := queuedAt
      lockedAt := none
      leaseToken := none }

/-- What a page comes to: where the next one starts, or the end of the job. -/
inductive Progress
  | owners (noteCursor : NoteId)
  | chatMembers
  | member (conversationCursor : ConversationId) (userCursor : UserId)
  | done
  deriving DecidableEq, Repr

def recipientPageSize : Nat := 100
def staleLockMs : Nat := 5 * 60 * 1000
def maxBackoffMs : Nat := 30 * 60 * 1000

namespace FanoutJob

def due (row : FanoutJob) (now : Time) : Bool :=
  match row.status with
  | .pending | .failed => row.nextAttemptAt ≤ now
  | .processing => row.lockedAt.any fun locked => locked + staleLockMs < now

/-- The `where` of the claim. -/
def claimable (row snapshot : FanoutJob) : Bool :=
  row.generation = snapshot.generation && row.status = snapshot.status &&
    (snapshot.status ≠ .processing || row.lockedAt = snapshot.lockedAt)

/-- `claimedWhere` -/
def claimed (row job : FanoutJob) (leaseToken : WorkerId) : Bool :=
  row.generation = job.generation && row.leaseToken = some leaseToken && row.status = .processing

/-- `id: { gt: noteCursor }` -/
def beforeNote (job : FanoutJob) (id : NoteId) : Bool := job.noteCursor.all (· < id)

/-- With `''` for a cursor that is not set. -/
def beforeMember (job : FanoutJob) (conversationID : ConversationId) (userID : UserId) : Bool :=
  job.chatConversationCursor.all fun cursor => cursor < conversationID ||
    cursor = conversationID && job.chatUserCursor.all (· < userID)

def released (row : FanoutJob) (now : Time) : FanoutJob :=
  { row with
    status := .pending
    nextAttemptAt := now
    attempts := 0
    lockedAt := none
    leaseToken := none }

def progressed (row : FanoutJob) (now : Time) : Progress → Option FanoutJob
  | .owners noteCursor => some { row.released now with stage := .owners, noteCursor := some noteCursor }
  | .chatMembers =>
    some { row.released now with
      stage := .chatMembers
      noteCursor := none
      chatConversationCursor := none
      chatUserCursor := none }
  | .member conversationCursor userCursor =>
    some { row.released now with
      stage := .chatMembers
      chatConversationCursor := some conversationCursor
      chatUserCursor := some userCursor }
  | .done => none

def backoff (attempts : Nat) : Nat := min maxBackoffMs (60000 * 2 ^ (attempts - 1))

def failed (row : FanoutJob) (now : Time) (attempts : Nat) : FanoutJob :=
  { row with
    status := .failed
    attempts := row.attempts + 1
    nextAttemptAt := now + backoff (attempts + 1)
    lockedAt := none
    leaseToken := none }

end FanoutJob

end CircleBackend.Notes
