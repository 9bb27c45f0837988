import CircleBackend.Library.Table
import CircleBackend.Library.Transition
import CircleBackend.Notes.Job
import Mathlib.Data.List.Dedup

/-!
# Notes and their copies

The columns of `Note` that say where a copy comes from and what its source shows, the
writes on them, and the three reads that follow a copy to its source: the overlay of the
lists, the batched states of chat cards and the stamp a sent card gets. A copy is written
from what its request has read before; the row it read may be gone by then.
-/

namespace CircleBackend.Notes.Graph

open Library
open Session (UserId)

inductive NoteStatus
  | active
  | unlisted
  | deleted
  deriving DecidableEq, Repr

/-- `NOTE_WRITABLE_STATUS` -/
inductive WritableStatus
  | active
  | unlisted
  deriving DecidableEq, Repr

def WritableStatus.status : WritableStatus → NoteStatus
  | .active => .active
  | .unlisted => .unlisted

inductive WorkStatus
  | working
  | closed
  | offShelf
  deriving DecidableEq, Repr

structure SourceState where
  status : NoteStatus
  available : Bool
  workStatus : Option WorkStatus
  deriving DecidableEq, Repr

structure Note extends SourceState where
  id : NoteId
  ownerID : UserId
  pinned : Bool
  collectedFromNoteID : Option NoteId
  rootSourceNoteID : Option NoteId
  updatedAt : Time
  deriving DecidableEq, Repr

abbrev Rows := Table Note NoteId Note.id

namespace Note

/-- `rootSourceNoteID ?? collectedFromNoteID` -/
def sourceKey (note : Note) : Option NoteId := note.rootSourceNoteID <|> note.collectedFromNoteID

/-- `noteRootID` -/
def rootID (note : Note) : NoteId := note.rootSourceNoteID.getD note.id

def readableBy (note : Note) (viewer : UserId) : Bool :=
  note.ownerID = viewer || note.available && note.status = .active

/-- The rows `status: { not: 'DELETED' }` leaves. -/
def standing (note : Note) : Bool := note.status ≠ .deleted

def follow (note : Note) (source : SourceState) : Note := { note with toSourceState := source }

end Note

/-! ## The overlay -/

def purgedSource : SourceState := ⟨.deleted, false, none⟩

/-- The rounds that read the sources: the ids asked for and the rows there were. -/
def gather (notes : Rows) : Nat → List NoteId → List NoteId → List Note → List NoteId × List Note
  | 0, _, queried, states => (queried, states)
  | depth + 1, frontier, queried, states =>
    let ids := frontier.filter fun id => id ∉ queried
    if ids = [] then (queried, states)
    else
      let queried := queried ++ ids
      let rows := notes.select fun row => row.id ∈ ids
      let frontier := (rows.filterMap Note.sourceKey).filter fun id => id ∉ queried
      gather notes depth frontier queried (states ++ rows)

def stateOf (states : List Note) (id : NoteId) : Option Note := states.find? fun row => row.id = id

/-- The loop of `rootState` from a row that was found. -/
def climb (states : List Note) : Nat → List NoteId → Note → SourceState
  | 0, _, current => current.toSourceState
  | steps + 1, seen, current =>
    match current.sourceKey with
    | none => current.toSourceState
    | some parentID =>
      if current.id ∈ seen then current.toSourceState
      else
        match stateOf states parentID with
        | none => purgedSource
        | some parent => climb states steps (current.id :: seen) parent

def rootState (queried : List NoteId) (states : List Note) (id : NoteId) : Option SourceState :=
  match stateOf states id with
  | none => if id ∈ queried then some purgedSource else none
  | some current => some (climb states (states.length + 1) [] current)

def overlayCollectedSourceState (notes : Rows) (rows : List Note) : List Note :=
  let initialIDs := (rows.filterMap Note.sourceKey).dedup
  if initialIDs = [] then rows
  else
    let gathered := gather notes 8 initialIDs [] []
    rows.map fun note =>
      match note.collectedFromNoteID, note.sourceKey with
      | some _, some key => (rootState gathered.1 gathered.2 key).elim note note.follow
      | _, _ => note

/-- `requireDistributableForViewer`, the row with its source's state over it. -/
def distributable (notes : Rows) (note : Note) (viewer : UserId) : Option Note :=
  (overlayCollectedSourceState notes [note]).head?.filter fun effective =>
    note.ownerID = viewer || effective.collectedFromNoteID.isNone ||
      effective.status = .active && effective.available

/-! ## What a chat card says -/

inductive PublicationStatus
  | active
  | unlisted
  | deleted
  deriving DecidableEq, Repr

def SourceState.publicationStatus (state : SourceState) : PublicationStatus :=
  if state.status = .deleted then .deleted
  else if state.status = .active ∧ state.available then .active
  else .unlisted

/-- With `none` for `UNSET`. -/
structure NoteSourceState where
  noteId : NoteId
  workStatus : Option WorkStatus
  publicationStatus : PublicationStatus
  deriving DecidableEq, Repr

/-- The `select` of `getSourceStates` leaves `rootSourceNoteID` out. -/
def selected (note : Note) : Note := { note with rootSourceNoteID := none }

def getSourceStates (notes : Rows) (viewerID : UserId) (noteIds : List NoteId) :
    List NoteSourceState :=
  let ids := noteIds.dedup
  let rows := (notes.select fun row => row.id ∈ ids && row.standing && row.readableBy viewerID).map
    selected
  let effective := overlayCollectedSourceState notes rows
  ids.map fun noteId =>
    match stateOf effective noteId with
    | none => ⟨noteId, none, .unlisted⟩
    | some note =>
      let publicationStatus := note.publicationStatus
      let revealWorkStatus := publicationStatus = .active || note.ownerID = viewerID
      ⟨noteId, if revealWorkStatus then note.workStatus else none, publicationStatus⟩

structure NoteCardSourceState where
  sourceNoteId : NoteId
  workStatus : Option WorkStatus
  publicationStatus : PublicationStatus
  deriving DecidableEq, Repr

/-- The loop of `resolveNoteCardSourceState`. -/
def ascend (notes : Rows) : Nat → List NoteId → Note → Note
  | 0, _, current => current
  | depth + 1, seen, current =>
    match current.collectedFromNoteID with
    | none => current
    | some parentID =>
      if parentID ∈ seen then current
      else
        match notes.find parentID with
        | none => current
        | some parent => ascend notes depth (parent.id :: seen) parent

def Note.card (note : Note) : NoteCardSourceState :=
  ⟨note.id, note.workStatus, note.publicationStatus⟩

def resolveNoteCardSourceState (notes : Rows) (viewerID : UserId) (noteId : NoteId) :
    Option NoteCardSourceState :=
  ((notes.find noteId).filter fun row => row.standing && row.readableBy viewerID).map fun note =>
    (ascend notes 8 [note.id] note).card

/-! ## The writes -/

/-- A note as it was first written, and the note it was collected from. -/
structure Birth where
  id : NoteId
  source : Option NoteId
  deriving DecidableEq, Repr

/-- What a collect has read of its source. -/
structure Reading where
  userID : UserId
  source : Note
  workStatus : Option WorkStatus
  deriving DecidableEq, Repr

/-- `births` are the notes there ever were: an id is drawn once. -/
structure Db where
  notes : Rows
  outbox : Table FanoutJob NoteId FanoutJob.rootNoteID
  readings : List Reading
  births : Table Birth NoteId Birth.id

namespace Db

def empty : Db := ⟨.empty, .empty, [], .empty⟩

/-- `enqueueSourceStatusFanout`, inside the transaction of the change. -/
def enqueue (db : Db) (now : Time) (rootNoteID : NoteId) (workStatusChanged : Bool) : Option Db :=
  let row := enqueued rootNoteID workStatusChanged now (db.outbox.find rootNoteID)
  match db.outbox.find rootNoteID with
  | some _ => some { db with outbox := db.outbox.put row }
  | none => (db.outbox.insert row).map fun outbox => { db with outbox := outbox }

def write (db : Db) (note : Note) (source : Option NoteId) : Option Db :=
  (db.births.insert ⟨note.id, source⟩).bind fun births =>
    (db.notes.insert note).map fun notes => { db with notes := notes, births := births }

def createNote (db : Db) (now : Time) (id : NoteId) (ownerID : UserId)
    (status : Option WritableStatus) (pinned : Option Bool) : Option Db :=
  db.write
    { id := id
      ownerID := ownerID
      status := (status.getD .active).status
      available := true
      workStatus := none
      pinned := pinned.getD false
      collectedFromNoteID := none
      rootSourceNoteID := none
      updatedAt := now }
    none

/-- The reads of `collectNote`. A note of the reader's own is not copied. -/
def collectRead (db : Db) (userID : UserId) (noteId : NoteId) : Option Db :=
  ((db.notes.find noteId).filter fun row => row.standing && row.readableBy userID).bind
    fun source =>
      ((distributable db.notes source userID).filter fun _ => source.ownerID ≠ userID).map
        fun effective =>
          { db with readings := ⟨userID, source, effective.workStatus⟩ :: db.readings }

/-- `Note_ownerID_collectedFromNoteID_active_key` -/
def collected (notes : Rows) (ownerID : UserId) (sourceNoteID : NoteId) (apart : NoteId) : Bool :=
  notes.rows.any fun row => row.ownerID = ownerID &&
    row.collectedFromNoteID = some sourceNoteID && row.standing && row.id ≠ apart

/-- The transaction of `collectNote`. A copy that stands is refreshed, which no column here
shows. -/
def collectNote (db : Db) (now : Time) (id : NoteId) (reading : Reading) : Option Db :=
  if reading ∉ db.readings then none
  else if collected db.notes reading.userID reading.source.id id then some db
  else
    db.write
      { id := id
        ownerID := reading.userID
        status := .active
        available := true
        workStatus := reading.workStatus
        pinned := false
        collectedFromNoteID := some reading.source.id
        rootSourceNoteID := some reading.source.rootID
        updatedAt := now }
      (some reading.source.id)

/-- `update where { id, ownerID, status: { not: 'DELETED' } }`, which throws when no row is. -/
def owned (db : Db) (ownerID : UserId) (noteId : NoteId) : Option Note :=
  (db.notes.find noteId).filter fun row => row.ownerID = ownerID && row.standing

def save (db : Db) (now : Time) (note : Note) : Db :=
  { db with notes := db.notes.put { note with updatedAt := now } }

/-- The transaction of `updateNote`. -/
def updateNote (db : Db) (now : Time) (ownerID : UserId) (noteId : NoteId)
    (status : Option WritableStatus) (pinned : Option Bool) : Option Db :=
  (db.owned ownerID noteId).map fun note =>
    db.save now
      { note with
        status := (status.map WritableStatus.status).getD note.status
        pinned := pinned.getD false }

def setPinned (db : Db) (now : Time) (ownerID : UserId) (noteId : NoteId) (pinned : Bool) :
    Option Db :=
  (db.owned ownerID noteId).map fun note => db.save now { note with pinned := pinned }

def setStatus (db : Db) (now : Time) (ownerID : UserId) (noteId : NoteId)
    (status : WritableStatus) : Option Db :=
  (db.owned ownerID noteId).bind fun note =>
    (db.save now { note with status := status.status }).enqueue now note.rootID false

def setAvailable (db : Db) (now : Time) (ownerID : UserId) (noteId : NoteId) (available : Bool) :
    Option Db :=
  (db.owned ownerID noteId).bind fun note =>
    (db.save now { note with available := available }).enqueue now note.rootID false

/-- Only of a note that is not a copy: `requireOwnedSourceNote`. -/
def setWorkStatus (db : Db) (now : Time) (ownerID : UserId) (noteId : NoteId)
    (workStatus : Option WorkStatus) : Option Db :=
  ((db.owned ownerID noteId).filter fun note => note.collectedFromNoteID.isNone).bind fun note =>
    let workStatusChanged := workStatus.isSome && workStatus ≠ note.workStatus
    (db.save now { note with workStatus := workStatus }).enqueue now note.rootID workStatusChanged

def deleteNote (db : Db) (now : Time) (ownerID : UserId) (noteId : NoteId) : Option Db :=
  (db.owned ownerID noteId).bind fun note =>
    (db.save now { note with status := .deleted }).enqueue now note.rootID false

/-- A second copy of one source that stands is refused, by the read before the transaction
or by the index. -/
def restoreNote (db : Db) (now : Time) (ownerID : UserId) (noteId : NoteId) : Option Db :=
  ((db.notes.find noteId).filter fun row => row.ownerID = ownerID && row.status = .deleted).bind
    fun note =>
      if note.collectedFromNoteID.any fun source => collected db.notes ownerID source noteId then
        none
      else (db.save now { note with status := .active }).enqueue now note.rootID false

inductive PurgeGuard
  | ownerID (ownerID : UserId)
  | deletedBefore (deletedBefore : Time)
  deriving DecidableEq, Repr

def PurgeGuard.holds (row : Note) : PurgeGuard → Bool
  | .ownerID owner => row.ownerID = owner
  | .deletedBefore date => row.updatedAt < date

/-- The copies of a purged copy that are led past it. -/
def relinks (notes : Rows) (noteId parentID : NoteId) (child : Note) : Bool :=
  child.collectedFromNoteID = some noteId &&
    (child.status = .deleted || !collected notes child.ownerID parentID child.id)

def relink (notes : Rows) (noteId parentID : NoteId) : Rows :=
  notes.updateMany (relinks notes noteId parentID)
    (fun child => { child with collectedFromNoteID := some parentID }) fun _ => rfl

def purgeDeletedNote (db : Db) (noteId : NoteId) (guard : PurgeGuard) : Option Db :=
  ((db.notes.find noteId).filter fun row => row.status = .deleted && guard.holds row).map
    fun row =>
      let notes := (row.collectedFromNoteID.elim db.notes fun parentID =>
        relink db.notes noteId parentID)
      { db with notes := notes.deleteMany fun row => row.id = noteId && row.status = .deleted }

end Db

inductive Act
  | createNote (id : NoteId) (ownerID : UserId) (status : Option WritableStatus)
      (pinned : Option Bool)
  | collectRead (userID : UserId) (noteId : NoteId)
  | collectNote (id : NoteId) (reading : Reading)
  | updateNote (ownerID : UserId) (noteId : NoteId) (status : Option WritableStatus)
      (pinned : Option Bool)
  | setPinned (ownerID : UserId) (noteId : NoteId) (pinned : Bool)
  | setStatus (ownerID : UserId) (noteId : NoteId) (status : WritableStatus)
  | setAvailable (ownerID : UserId) (noteId : NoteId) (available : Bool)
  | setWorkStatus (ownerID : UserId) (noteId : NoteId) (workStatus : Option WorkStatus)
  | deleteNote (ownerID : UserId) (noteId : NoteId)
  | restoreNote (ownerID : UserId) (noteId : NoteId)
  | purgeNote (ownerID : UserId) (noteId : NoteId)
  | purgeExpired (deletedBefore : Time) (noteId : NoteId)
  /-- The worker of the outbox claims, moves or ends a job. -/
  | fanout (rootNoteID : NoteId) (job : Option FanoutJob)
  deriving DecidableEq, Repr

namespace Db

/-- What the worker leaves of a row it works on. -/
def worked (db : Db) (rootNoteID : NoteId) : Option FanoutJob → Option Db
  | none => some { db with outbox := db.outbox.deleteMany fun row => row.rootNoteID = rootNoteID }
  | some job =>
    if job.rootNoteID = rootNoteID then some { db with outbox := db.outbox.put job } else none

/-- A transaction that commits, at a time of the database. -/
def next (db : Db) (event : Time × Act) : Option Db :=
  match event with
  | (now, .createNote id ownerID status pinned) => db.createNote now id ownerID status pinned
  | (_, .collectRead userID noteId) => db.collectRead userID noteId
  | (now, .collectNote id reading) => db.collectNote now id reading
  | (now, .updateNote ownerID noteId status pinned) =>
    db.updateNote now ownerID noteId status pinned
  | (now, .setPinned ownerID noteId pinned) => db.setPinned now ownerID noteId pinned
  | (now, .setStatus ownerID noteId status) => db.setStatus now ownerID noteId status
  | (now, .setAvailable ownerID noteId available) => db.setAvailable now ownerID noteId available
  | (now, .setWorkStatus ownerID noteId workStatus) =>
    db.setWorkStatus now ownerID noteId workStatus
  | (now, .deleteNote ownerID noteId) => db.deleteNote now ownerID noteId
  | (now, .restoreNote ownerID noteId) => db.restoreNote now ownerID noteId
  | (_, .purgeNote ownerID noteId) => db.purgeDeletedNote noteId (.ownerID ownerID)
  | (_, .purgeExpired deletedBefore noteId) =>
    db.purgeDeletedNote noteId (.deletedBefore deletedBefore)
  | (_, .fanout rootNoteID job) => db.worked rootNoteID job

/-- The transition relation of the committed transactions. -/
def Next (db : Db) (event : Time × Act) (db' : Db) : Prop := db.next event = some db'

end Db

end CircleBackend.Notes.Graph
