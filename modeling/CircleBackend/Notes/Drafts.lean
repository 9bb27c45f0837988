import CircleBackend.Library.Checked
import CircleBackend.Library.Table
import CircleBackend.Library.Transition
import CircleBackend.Notes.Job

/-!
# Drafts of notes

The drafts and the notes of one owner, whose lock serialises every transaction here. A
published or a discarded draft leaves a row without content behind: a publication for good, a
discarded draft for the time of retention.
-/

namespace CircleBackend.Notes.Drafts

open Library

abbrev DraftId := Nat

/-- What a draft or an edit carries. -/
structure Payload where
  title : String
  content : Option String
  contentJson : Option String
  sections : Option String
  groupIDs : List Nat
  mediaKeys : List String
  deriving DecidableEq, Repr

def Payload.cleared : Payload := ⟨"", none, none, none, [], []⟩

structure NoteDraft where
  clientDraftID : DraftId
  sourceNoteID : Option NoteId
  payload : Payload
  consumedAt : Option Time
  publishedNoteID : Option NoteId
  deriving DecidableEq, Repr

structure Note where
  id : NoteId
  clientDraftID : Option DraftId
  payload : Payload
  deleted : Bool
  deriving DecidableEq, Repr

/-- A publication under a draft id: of a new note, or as an edit of one. -/
structure Outcome where
  clientDraftID : DraftId
  noteID : NoteId
  edited : Bool
  deriving DecidableEq, Repr

/-- `used` are the ids of the notes there ever were; `outcomes` and `discards` are what was
published and thrown away. -/
structure State where
  now : Time
  drafts : Table NoteDraft DraftId NoteDraft.clientDraftID
  notes : Table Note NoteId Note.id
  used : List NoteId
  outcomes : List Outcome
  discards : List (DraftId × Time)

inductive Fault
  | alreadyPublished
  | consumed
  | noteNotFound
  | sourceNoteNotFound
  | discardLimit
  | draftLimit
  | wrongNote
  | editLimit
  /-- A unique index refuses the row. -/
  | duplicate
  deriving DecidableEq, Repr

def Fault.message : Fault → String
  | .alreadyPublished => "This draft has already been published"
  | .consumed => "This draft has been consumed"
  | .noteNotFound => "Note not found"
  | .sourceNoteNotFound => "Source note not found"
  | .discardLimit => "Draft discard limit reached. Discarded IDs are retained for 30 days; " ++
      "try again after older entries expire."
  | .draftLimit =>
      "Draft limit reached. Delete an existing draft before creating another."
  | .wrongNote => "Draft does not belong to the note being saved"
  | .editLimit => "This note has reached its saved edit result limit. Keep your draft and " ++
      "save these edits as a new note."
  | .duplicate => "Unique constraint failed"

/-- `NOTE_DRAFT_DISCARD_RETENTION_MS` -/
def discardRetentionMs : Nat := 30 * 24 * 60 * 60 * 1000
def maxDiscardedDrafts : Nat := 1000
def maxActiveDrafts : Nat := 100
/-- `MAX_NOTE_EDIT_PUBLICATION_OUTCOMES` -/
def maxEditOutcomes : Nat := 10000

namespace NoteDraft

def discarded (draft : NoteDraft) : Bool :=
  draft.publishedNoteID.isNone && draft.consumedAt.isSome

/-- The rows `expireDiscardedNoteDrafts` deletes. -/
def expired (draft : NoteDraft) (now : Time) : Bool :=
  draft.publishedNoteID.isNone &&
    draft.consumedAt.any fun consumedAt => consumedAt + discardRetentionMs < now

end NoteDraft

namespace State

def empty : State := ⟨0, .empty, .empty, [], [], []⟩

def expireDiscardedNoteDrafts (s : State) : State :=
  { s with drafts := s.drafts.deleteMany fun draft => draft.expired s.now }

/-- What the columns of the draft leave to the notes. -/
def publishedDraftNote (s : State) (clientDraftID : Option DraftId)
    (sourceNoteID : Option NoteId) : Except Fault (State × Option Note) :=
  match clientDraftID with
  | none => .ok (s, none)
  | some id =>
    let s := s.expireDiscardedNoteDrafts
    match (s.drafts.find id).filter fun draft => draft.consumedAt.isSome with
    | none => .ok (s, none)
    | some draft =>
      match draft.publishedNoteID with
      | none => .error .consumed
      | some published =>
        if draft.sourceNoteID ≠ sourceNoteID ∨ sourceNoteID.any (· ≠ published) then
          .error .consumed
        else
          match (s.notes.find published).filter fun note => !note.deleted with
          | none => .error .noteNotFound
          | some note => .ok (s, some note)

/-- With `none` for the `undefined` of a discard. -/
def consumeNoteDraft (s : State) (clientDraftID : DraftId)
    (sourceNoteID : Option (Option NoteId)) : Except Fault State :=
  let existing := s.drafts.find clientDraftID
  if existing.any fun draft => draft.consumedAt.isSome then
    if sourceNoteID.isSome then .error .consumed else .ok s
  else if existing.isNone && sourceNoteID.isNone &&
      maxDiscardedDrafts ≤ s.drafts.count NoteDraft.discarded then
    .error .discardLimit
  else if existing.any fun draft => sourceNoteID.any (· ≠ draft.sourceNoteID) then
    .error .wrongNote
  else
    .ok { s with
      drafts := s.drafts.upsert ⟨clientDraftID, sourceNoteID.join, .cleared, some s.now, none⟩
        (fun draft => { draft with payload := .cleared, consumedAt := some s.now })
        fun _ => rfl }

/-- `noteDraft.update({ data: { publishedNoteID } })` -/
def publish (s : State) (clientDraftID : Option DraftId) (noteID : NoteId) (edited : Bool) :
    State :=
  match clientDraftID with
  | none => s
  | some id =>
    { s with
      drafts := s.drafts.updateMany (fun draft => draft.clientDraftID = id)
        (fun draft => { draft with publishedNoteID := some noteID }) fun _ => rfl
      outcomes := s.outcomes ++ [⟨id, noteID, edited⟩] }

def consumeFor (s : State) (clientDraftID : Option DraftId) (sourceNoteID : Option NoteId) :
    Except Fault State :=
  match clientDraftID with
  | none => .ok s
  | some id => s.consumeNoteDraft id (some sourceNoteID)

/-- The transaction of `saveNoteDraft`; the source note is one of the owner's, also by the
foreign key. -/
def saveNoteDraft (s : State) (clientDraftID : DraftId) (sourceNoteID : Option NoteId)
    (payload : Payload) : Except Fault State := do
  throwIf (sourceNoteID.any fun id => (s.notes.find id).isNone) .sourceNoteNotFound
  let s := s.expireDiscardedNoteDrafts
  throwIf (s.notes.rows.any fun note => note.clientDraftID = some clientDraftID) .alreadyPublished
  let existing := s.drafts.find clientDraftID
  throwIf (existing.any fun draft => draft.consumedAt.isSome) .consumed
  throwIf (existing.isNone && maxDiscardedDrafts ≤ s.drafts.count NoteDraft.discarded)
    .discardLimit
  throwIf (existing.isNone &&
    maxActiveDrafts ≤ s.drafts.count fun draft => draft.consumedAt.isNone) .draftLimit
  .ok { s with
    drafts := s.drafts.upsert ⟨clientDraftID, sourceNoteID, payload, none, none⟩
      (fun draft => { draft with sourceNoteID := sourceNoteID, payload := payload })
      fun _ => rfl }

def deleteNoteDraft (s : State) (clientDraftID : DraftId) : Except Fault State := do
  let s := s.expireDiscardedNoteDrafts
  let active := (s.drafts.find clientDraftID).all fun draft => draft.consumedAt.isNone
  let s ← s.consumeNoteDraft clientDraftID none
  .ok (if active then { s with discards := (clientDraftID, s.now) :: s.discards } else s)

def written (s : State) (note : Note) : Except Fault State := do
  throwIf (s.used.contains note.id || note.clientDraftID.any fun id =>
    s.notes.rows.any fun other => other.clientDraftID = some id) .duplicate
  let notes ← orThrow (s.notes.insert note) .duplicate
  .ok { s with notes := notes, used := note.id :: s.used }

/-- The transaction of `createNote`, with the note it returns. -/
def createNote (s : State) (clientDraftID : Option DraftId) (noteId : NoteId)
    (payload : Payload) : Except Fault (State × Note) := do
  let (s, replay) ← s.publishedDraftNote clientDraftID none
  match replay with
  | some note => .ok (s, note)
  | none =>
    let s ← s.consumeFor clientDraftID none
    let note : Note := ⟨noteId, clientDraftID, payload, false⟩
    let s ← s.written note
    .ok (s.publish clientDraftID noteId false, note)

/-- The transaction of `updateNote`, with the note it returns. -/
def updateNote (s : State) (noteId : NoteId) (clientDraftID : Option DraftId)
    (payload : Payload) : Except Fault (State × Note) := do
  let (s, replay) ← s.publishedDraftNote clientDraftID (some noteId)
  match replay with
  | some note => .ok (s, note)
  | none =>
    let existing ← orThrow ((s.notes.find noteId).filter fun note => !note.deleted) .noteNotFound
    throwIf (clientDraftID.isSome && maxEditOutcomes ≤ s.drafts.count fun draft =>
      draft.sourceNoteID = some noteId && draft.publishedNoteID.isSome) .editLimit
    let s ← s.consumeFor clientDraftID (some noteId)
    let note := { existing with payload := payload }
    .ok (({ s with notes := s.notes.put note } : State).publish clientDraftID noteId true, note)

/-- A note moved into the bin or out of it. -/
def setDeleted (s : State) (noteId : NoteId) (deleted : Bool) : Option State :=
  ((s.notes.find noteId).filter fun note => note.deleted ≠ deleted).map fun note =>
    { s with notes := s.notes.put { note with deleted := deleted } }

/-- `NoteDraft.sourceNote` is set to null with its note. -/
def purgeNote (s : State) (noteId : NoteId) : Option State :=
  ((s.notes.find noteId).filter fun note => note.deleted).map fun _ =>
    { s with
      notes := s.notes.deleteMany fun note => note.id = noteId
      drafts := s.drafts.updateMany (fun draft => draft.sourceNoteID = some noteId)
        (fun draft => { draft with sourceNoteID := none }) fun _ => rfl }

end State

inductive Act
  | tick (ms : Nat)
  /-- The check for a replay before a transaction, whose deletion commits by itself. -/
  | check (clientDraftID : DraftId)
  | saveNoteDraft (clientDraftID : DraftId) (sourceNoteID : Option NoteId) (payload : Payload)
  | deleteNoteDraft (clientDraftID : DraftId)
  | createNote (clientDraftID : Option DraftId) (noteId : NoteId) (payload : Payload)
  | updateNote (noteId : NoteId) (clientDraftID : Option DraftId) (payload : Payload)
  | deleteNote (noteId : NoteId)
  | restoreNote (noteId : NoteId)
  | purgeNote (noteId : NoteId)
  deriving DecidableEq, Repr

def State.next (s : State) : Act → Option State
  | .tick ms => some { s with now := s.now + ms }
  | .check _ => some s.expireDiscardedNoteDrafts
  | .saveNoteDraft id source payload => (s.saveNoteDraft id source payload).toOption
  | .deleteNoteDraft id => (s.deleteNoteDraft id).toOption
  | .createNote id noteId payload => ((s.createNote id noteId payload).map Prod.fst).toOption
  | .updateNote noteId id payload => ((s.updateNote noteId id payload).map Prod.fst).toOption
  | .deleteNote noteId => s.setDeleted noteId true
  | .restoreNote noteId => s.setDeleted noteId false
  | .purgeNote noteId => s.purgeNote noteId

def State.Next (s : State) (act : Act) (s' : State) : Prop := s.next act = some s'

end CircleBackend.Notes.Drafts
