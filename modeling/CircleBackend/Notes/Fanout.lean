import CircleBackend.Library.Table
import CircleBackend.Library.Transition
import CircleBackend.Notes.Job
import Mathlib.Data.List.Dedup
import Mathlib.Data.List.Sort
import Mathlib.Data.Prod.Lex

/-!
# The fan-out of a note's status

The job of one root, its workers and its recipients. A worker is a statement a step; what
it knows of the job is the snapshot that it was called with, however old that is when it
claims. The job is deleted at its end, and created anew by the next change.
-/

namespace CircleBackend.Notes.Fanout

open Library
open Session (UserId)

/-! ## The recipients -/

/-- A note of the chain: the root or a copy. -/
structure Note where
  id : NoteId
  ownerID : UserId
  deriving DecidableEq, Repr

structure ChatMember where
  conversationID : ConversationId
  userID : UserId
  deriving DecidableEq, Repr

abbrev ChatMember.key (member : ChatMember) : ConversationId ×ₗ UserId :=
  toLex (member.conversationID, member.userID)

inductive Recipient
  | owner (note : Note)
  | member (seat : ChatMember)
  deriving DecidableEq, Repr

def Recipient.user : Recipient → UserId
  | .owner note => note.ownerID
  | .member seat => seat.userID

inductive WorkStatus
  | working
  | closed
  | offShelf
  deriving DecidableEq, Repr

inductive NoteStatus
  | active
  | unlisted
  | deleted
  deriving DecidableEq, Repr

structure Source where
  status : NoteStatus
  available : Bool
  workStatus : Option WorkStatus
  deriving DecidableEq, Repr

/-- `loadedAfter` is the number of changes enqueued before it was loaded. -/
structure SourcePayload where
  workStatus : Option WorkStatus
  status : NoteStatus
  available : Bool
  loadedAfter : Nat
  deriving DecidableEq, Repr

inductive Stage
  | claiming
  | loading
  | paging (payload : SourcePayload)
  | broadcasting (payload : SourcePayload) (page : List UserId) (progress : Progress)
  | persisting (progress : Progress)
  | failing
  | finished
  deriving DecidableEq, Repr

/-- `seen` is the number of rows created before the snapshot. -/
structure Worker where
  id : WorkerId
  job : FanoutJob
  seen : Nat
  stage : Stage
  deriving DecidableEq, Repr

structure State where
  clock : Time
  source : Option Source
  notes : Table Note NoteId (·.id)
  members : Table ChatMember (ConversationId ×ₗ UserId) (·.key)
  /-- Whether a conversation holds a card of the root. -/
  cards : ConversationId → Bool
  row : Option FanoutJob
  workers : Table Worker WorkerId (·.id)
  broadcasts : List (UserId × SourcePayload)
  changes : Nat
  created : Nat
  /-- The recipients at the last change that have been so ever since. -/
  standing : List Recipient

def State.recipients (s : State) : List Recipient :=
  s.notes.rows.map .owner ++ (s.members.rows.filter fun m => s.cards m.conversationID).map .member

/-! ## A page -/

def State.ownerRows (s : State) (job : FanoutJob) : List Note :=
  ((s.notes.rows.filter fun note => job.beforeNote note.id).insertionSort fun a b => a.id ≤ b.id).take
    (recipientPageSize + 1)

def State.ownerPage (s : State) (job : FanoutJob) : List UserId × Progress :=
  let rows := s.ownerRows job
  let page := rows.take recipientPageSize
  (page.map (·.ownerID), match page.getLast? with
    | some last => if recipientPageSize < rows.length then .owners last.id else .chatMembers
    | none => .chatMembers)

def State.memberRows (s : State) (job : FanoutJob) : List ChatMember :=
  ((s.members.rows.filter fun m => s.cards m.conversationID &&
      job.beforeMember m.conversationID m.userID).insertionSort
    fun a b => a.key ≤ b.key).take (recipientPageSize + 1)

def State.memberPage (s : State) (job : FanoutJob) : List UserId × Progress :=
  let rows := s.memberRows job
  let page := rows.take recipientPageSize
  (page.map (·.userID), match page.getLast? with
    | some last =>
      if recipientPageSize < rows.length then .member last.conversationID last.userID else .done
    | none => .done)

def State.page (s : State) (job : FanoutJob) : List UserId × Progress :=
  match job.stage with
  | .owners => s.ownerPage job
  | .chatMembers => s.memberPage job

def State.loadPayload (s : State) : SourcePayload :=
  match s.source with
  | some source => ⟨source.workStatus, source.status, source.available, s.changes⟩
  | none => ⟨none, .deleted, false, s.changes⟩

/-! ## A worker -/

/-- The row, if the worker still has it. -/
def State.held (s : State) (w : Worker) : Option FanoutJob :=
  s.row.filter (·.claimed w.job w.id)

def State.goto (s : State) (w : Worker) (stage : Stage) : State :=
  { s with workers := s.workers.put { w with stage := stage } }

def State.work (s : State) (w : Worker) : Option State :=
  match w.stage with
  | .claiming =>
    some <| match s.row.filter (·.claimable w.job) with
    | some row =>
      { s.goto w .loading with
        row := some { row with
          status := .processing, leaseToken := some w.id, lockedAt := some s.clock } }
    | none => s.goto w .finished
  | .loading => some (s.goto w (.paging s.loadPayload))
  | .paging payload =>
    let (page, progress) := s.page w.job
    some (s.goto w (.broadcasting payload page progress))
  | .broadcasting payload page progress =>
    some { s.goto w (.persisting progress) with
      broadcasts := s.broadcasts ++ page.dedup.map fun user => (user, payload) }
  | .persisting progress =>
    some <| match s.held w with
    | some row => { s.goto w .finished with row := row.progressed s.clock progress }
    | none => s.goto w .finished
  | .failing =>
    some <| match s.held w with
    | some row =>
      { s.goto w .finished with row := some (row.failed s.clock w.job.attempts) }
    | none => s.goto w .finished
  | .finished => none

/-- What a throw comes to; the claim is outside of the `try`. -/
def Stage.thrown : Stage → Stage
  | .claiming | .failing | .finished => .finished
  | _ => .failing

/-! ## The whole -/

inductive Act
  | enqueue (workStatusChanged : Bool)
  | look (w : WorkerId)
  | work (w : WorkerId)
  | throws (w : WorkerId)
  | crash (w : WorkerId)
  | edit (source : Option Source)
  | add (note : Note)
  | remove (id : NoteId)
  | join (member : ChatMember)
  | leave (member : ChatMember)
  | card (conversation : ConversationId) (holds : Bool)
  | tick (now : Time)
  deriving DecidableEq, Repr

/-- The recipients that are still there after a change to them. -/
def State.remaining (s : State) : State :=
  { s with standing := s.standing.filter (· ∈ s.recipients) }

section Next

variable (root : NoteId)

def State.next (s : State) : Act → Option State
  | .enqueue workStatusChanged =>
    some { s with
      row := some (enqueued root workStatusChanged s.clock s.row)
      changes := s.changes + 1
      created := if s.row.isNone then s.created + 1 else s.created
      standing := s.recipients }
  | .look w =>
    (s.row.filter (·.due s.clock)).bind fun job =>
      (s.workers.insert ⟨w, job, s.created, .claiming⟩).map fun workers => { s with workers := workers }
  | .work w => (s.workers.find w).bind s.work
  | .throws w => (s.workers.find w).map fun worker => s.goto worker worker.stage.thrown
  | .crash w => (s.workers.find w).map fun worker => s.goto worker .finished
  | .edit source => some { s with source := source }
  | .add note => (s.notes.insert note).map fun notes => { s with notes := notes }
  | .remove id => some { s with notes := s.notes.deleteMany (·.id = id) }.remaining
  | .join member => (s.members.insert member).map fun members => { s with members := members }
  | .leave member => some { s with members := s.members.deleteMany (· = member) }.remaining
  | .card conversation holds =>
    some { s with cards := fun c => if c = conversation then holds else s.cards c }.remaining
  | .tick now => if s.clock ≤ now then some { s with clock := now } else none

def Step (s : State) (act : Act) (t : State) : Prop := s.next root act = some t

end Next

def State.empty : State where
  clock := 0
  source := none
  notes := .empty
  members := .empty
  cards _ := false
  row := none
  workers := .empty
  broadcasts := []
  changes := 0
  created := 0
  standing := []

end CircleBackend.Notes.Fanout
