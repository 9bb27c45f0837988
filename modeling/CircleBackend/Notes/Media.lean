import CircleBackend.Library.Checked
import CircleBackend.Library.Table
import CircleBackend.Library.Transition
import CircleBackend.Notes.Job
import Mathlib.Data.List.Sort

/-!
# The media of notes and drafts

Which object keys a write lets into a note or a draft, and which of them a read signs. The keys
of a request are whatever its client sends; a write knows the notes it has read before.
-/

namespace CircleBackend.Notes.Media

open Library

abbrev OwnerId := String

/-- A key by its parts, the id of a user being one part. -/
abbrev ObjectKey := List String

/-- An address and what follows its `?`. -/
structure Url where
  base : String
  query : Option String
  deriving DecidableEq, Repr

/-- `split('?')[0]` -/
def Url.strip (url : Url) : Url := { url with query := none }

/-- The object storage: its canonical address, and the keys of the addresses it serves. -/
structure Storage where
  publicBase : String
  objectKeyFromPublicUrl : String → Option ObjectKey

namespace Storage

def keyOf (store : Storage) (url : Option Url) : Option ObjectKey :=
  url.bind fun url => store.objectKeyFromPublicUrl url.base

def objectUrl (store : Storage) (key : ObjectKey) : Url :=
  ⟨store.publicBase ++ "/" ++ String.intercalate "/" key, none⟩

end Storage

/-- `key.startsWith('notes/' + ownerID + '/')` -/
def under (ownerID : OwnerId) : ObjectKey → Bool
  | "notes" :: uid :: _ :: _ => uid = ownerID
  | _ => false

/-- The owner whose directory `noteMediaOwnerPrefix` names. -/
def noteMediaOwner : ObjectKey → Option OwnerId
  | "notes" :: uid :: _ => if uid = "" then none else some uid
  | _ => none

inductive MediaType
  | image
  | video
  | audio
  deriving DecidableEq, Repr

/-- A media item as a client sends it. -/
structure MediaItem where
  type : MediaType
  objectKey : ObjectKey
  url : Option Url
  posterUrl : Option Url
  sortOrder : Nat
  deriving DecidableEq, Repr

/-- A row of `NoteMedia`, and an item of a stored section. -/
structure MediaRow where
  type : MediaType
  objectKey : ObjectKey
  url : Url
  posterUrl : Option Url
  sortOrder : Nat
  deriving DecidableEq, Repr

structure Props where
  objectKey : Option ObjectKey
  url : Option Url
  posterUrl : Option Url
  deriving DecidableEq, Repr

inductive Block
  | image (props : Props) (children : List Block)
  | video (props : Props) (children : List Block)
  | other (children : List Block)
  deriving Repr

structure NoteInput where
  media : List MediaItem
  contentJson : Option (List Block)
  textContentJson : Option (List Block)
  sectionMedia : Option (List MediaItem)
  sectionShowcase : Option (List MediaItem)
  sectionAudio : Option (List MediaItem)

structure Sections where
  media : List MediaRow
  showcase : List MediaRow
  audio : List MediaRow
  deriving DecidableEq, Repr

def Sections.items (sections : Sections) : List MediaRow :=
  sections.media ++ sections.showcase ++ sections.audio

/-- The media rows stand in their order; the cover is one of them. -/
structure Note where
  id : NoteId
  ownerID : OwnerId
  media : List MediaRow
  sections : Sections
  cover : Option Nat
  deriving DecidableEq, Repr

structure NoteDraft where
  ownerID : OwnerId
  clientDraftID : Nat
  sourceNoteID : Option NoteId
  mediaKeys : List ObjectKey
  contentJson : List Block
  textContentJson : List Block
  items : List MediaItem

inductive Fault
  | mediaLimit
  | notOwned
  | foreignPoster
  | sectionMedia
  | incompatibleType
  | draftLimit
  | invalidPoster
  | draftNotOwned
  | noteNotFound
  deriving DecidableEq, Repr

def maxMediaItems : Nat := 50
def maxBlockDepth : Nat := 10
/-- `MAX_NOTE_DRAFT_MEDIA_KEYS` -/
def maxDraftMediaKeys : Nat := 150

/-! ## What a write makes of its request -/

def Props.item (props : Props) (type : MediaType) : List MediaItem :=
  match props.objectKey with
  | none => []
  | some key => [⟨type, key, props.url, props.posterUrl, 0⟩]

mutual

/-- The media blocks of a tree, no deeper than the walk goes. -/
def Block.media (depth : Nat) : Block → List MediaItem
  | .image props children => props.item .image ++ mediaOf (depth + 1) children
  | .video props children => props.item .video ++ mediaOf (depth + 1) children
  | .other children => mediaOf (depth + 1) children

def mediaOf (depth : Nat) : List Block → List MediaItem
  | [] => []
  | block :: rest =>
    if maxBlockDepth < depth then [] else block.media depth ++ mediaOf depth rest

end

def numbered (items : List MediaItem) : List MediaItem :=
  items.mapIdx fun index item => { item with sortOrder := index }

def deriveMediaFromBlocks (blocks : List Block) : List MediaItem := numbered (mediaOf 0 blocks)

/-- The first item of every key and address. -/
def dedupeMedia (media : List MediaItem) : List MediaItem :=
  let firsts := media.foldl (fun deduped item =>
    if deduped.any fun other => other.objectKey = item.objectKey && other.url = item.url then
      deduped
    else deduped ++ [item]) []
  numbered (firsts.insertionSort fun left right => left.sortOrder ≤ right.sortOrder)

def resolveMediaUrl (store : Storage) (item : MediaItem) : Url :=
  item.url.elim (store.objectUrl item.objectKey) Url.strip

def derivedRow (store : Storage) (item : MediaItem) : MediaRow :=
  ⟨item.type, item.objectKey, resolveMediaUrl store item, item.posterUrl.map Url.strip,
    item.sortOrder⟩

/-- The media of a request: the ones it lists, or those of its sections, or those of its
blocks. -/
def derivedMedia (store : Storage) (input : NoteInput) : List MediaRow :=
  let combined := dedupeMedia (input.sectionMedia.getD [] ++ input.sectionShowcase.getD [] ++
    input.sectionAudio.getD [])
  let blocks := (input.textContentJson <|> input.contentJson).getD []
  let media :=
    if input.media ≠ [] then input.media
    else if combined ≠ [] then combined
    else deriveMediaFromBlocks blocks
  media.map (derivedRow store)

/-- `mapMediaItemForSection`, as a write stores it. -/
def MediaRow.canonical (row : MediaRow) : MediaRow :=
  { row with url := row.url.strip, posterUrl := row.posterUrl.map Url.strip }

/-- The row an item refers to: the last of its key and address, of its key, of its address. -/
def referred (validated : List MediaRow) (objectKey : ObjectKey) (url : Option Url) :
    Option MediaRow :=
  let rows := validated.reverse
  (rows.find? fun row => row.objectKey = objectKey && some row.url = url) <|>
    (rows.find? fun row => row.objectKey = objectKey) <|>
    rows.find? fun row => some row.url = url

def resolveSectionMediaItems (audio : Bool) (requested : Option (List MediaItem))
    (fallback validated : List MediaRow) : Except Fault (List MediaRow) :=
  let source := requested.elim (fallback.map fun row => (row.objectKey, some row.url))
    (List.map fun item => (item.objectKey, item.url))
  source.mapM fun item => do
    let resolved ← orThrow (referred validated item.1 item.2) .sectionMedia
    throwIf (audio != decide (resolved.type = .audio)) .incompatibleType
    .ok resolved.canonical

def deriveNoteContent (store : Storage) (input : NoteInput) :
    Except Fault (List MediaRow × Sections) := do
  let media := derivedMedia store input
  throwIf (maxMediaItems < media.length) .mediaLimit
  let ordinary := media.filter fun row => row.type ≠ .audio
  let mediaItems ← resolveSectionMediaItems false input.sectionMedia
    (if input.sectionShowcase.isSome then [] else ordinary) media
  let showcase ← resolveSectionMediaItems false input.sectionShowcase
    (if input.sectionMedia.isSome then [] else ordinary.filter fun row => row.type = .image) media
  let audio ← resolveSectionMediaItems true input.sectionAudio
    (media.filter fun row => row.type = .audio) media
  .ok (media, ⟨mediaItems, showcase, audio⟩)

def isForeignPosterKey (store : Storage) (objectKey : ObjectKey) (posterUrl : Option Url) : Bool :=
  match store.keyOf posterUrl with
  | none => false
  | some posterKey => (noteMediaOwner objectKey).all fun owner => !under owner posterKey

def assertMediaOwnership (store : Storage) (ownerID : OwnerId) (media : List MediaRow)
    (grandfatheredKeys : List ObjectKey) : Except Fault Unit := do
  throwIf (media.any fun row =>
    !under ownerID row.objectKey && !grandfatheredKeys.contains row.objectKey) .notOwned
  throwIf (media.any fun row => isForeignPosterKey store row.objectKey row.posterUrl)
    .foreignPoster

/-- The rows in their order, and the first image of them. -/
def sortedMedia (media : List MediaRow) : List MediaRow :=
  media.insertionSort fun left right => left.sortOrder ≤ right.sortOrder

def coverOf (media : List MediaRow) : Option Nat := media.findIdx? fun row => row.type = .image

/-! ## What a read signs -/

/-- `map.set(url, key)` -/
def setUrl (map : List (Url × ObjectKey)) (target : Url × ObjectKey) : List (Url × ObjectKey) :=
  if map.any fun entry => entry.1 = target.1 then
    map.map fun entry => if entry.1 = target.1 then target else entry
  else map ++ [target]

/-- The addresses `presignNoteMedia` signs, each with the object it signs for it. -/
def presignNoteMedia (targets : List (Url × ObjectKey)) : List (Url × ObjectKey) :=
  targets.foldl setUrl []

def posterTarget (store : Storage) (row : MediaRow) : List (Url × ObjectKey) :=
  match row.posterUrl, store.keyOf row.posterUrl with
  | some posterUrl, some key =>
    if isForeignPosterKey store row.objectKey row.posterUrl then [] else [(posterUrl, key)]
  | _, _ => []

def rowTargets (store : Storage) (row : MediaRow) : List (Url × ObjectKey) :=
  (row.url, row.objectKey) :: posterTarget store row

def collectNoteMediaTargets (store : Storage) (note : Note) : List (Url × ObjectKey) :=
  (note.media ++ note.sections.items).flatMap (rowTargets store)

/-- The signatures of `mapDetailResolved`. -/
def detailSigned (store : Storage) (note : Note) : List (Url × ObjectKey) :=
  presignNoteMedia (collectNoteMediaTargets store note)

/-- The signatures of a list: the covers of its notes. -/
def listSigned (notes : List Note) : List (Url × ObjectKey) :=
  presignNoteMedia (notes.filterMap fun note =>
    (note.cover.bind fun cover => note.media[cover]?).map fun row => (row.url, row.objectKey))

/-- `prepareItem` -/
def draftTargets (store : Storage) (keys : List ObjectKey) (objectKey : Option ObjectKey)
    (posterUrl : Option Url) : List (Url × ObjectKey) :=
  match objectKey with
  | none => []
  | some key =>
    if key ∉ keys then []
    else
      (store.objectUrl key, key) ::
        match posterUrl, store.keyOf posterUrl with
        | some url, some posterKey => if posterKey ∈ keys then [(url.strip, posterKey)] else []
        | _, _ => []

mutual

def Block.targets (store : Storage) (keys : List ObjectKey) (depth : Nat) :
    Block → List (Url × ObjectKey)
  | .image props children => draftTargets store keys props.objectKey props.posterUrl ++
      blockTargets store keys (depth + 1) children
  | .video props children => draftTargets store keys props.objectKey props.posterUrl ++
      blockTargets store keys (depth + 1) children
  | .other children => blockTargets store keys (depth + 1) children

def blockTargets (store : Storage) (keys : List ObjectKey) (depth : Nat) :
    List Block → List (Url × ObjectKey)
  | [] => []
  | block :: rest =>
    if maxBlockDepth < depth then []
    else block.targets store keys depth ++ blockTargets store keys depth rest

end

/-- The signatures of `mapNoteDraftResolved`. -/
def draftSigned (store : Storage) (draft : NoteDraft) : List (Url × ObjectKey) :=
  presignNoteMedia
    (draft.items.flatMap (fun item =>
        draftTargets store draft.mediaKeys (some item.objectKey) item.posterUrl) ++
      blockTargets store draft.mediaKeys 0 draft.contentJson ++
      blockTargets store draft.mediaKeys 0 draft.textContentJson)

/-! ## The writes -/

/-- `gained` are the keys a user got with the notes he collected; `readings` what requests have
read of a note. -/
structure Db where
  notes : Table Note NoteId Note.id
  drafts : Table NoteDraft (OwnerId × Nat) fun draft => (draft.ownerID, draft.clientDraftID)
  readings : List Note
  gained : List (OwnerId × ObjectKey)

def MediaRow.keys (store : Storage) (row : MediaRow) : List ObjectKey :=
  row.objectKey :: (store.keyOf row.posterUrl).toList

/-- The keys on the media rows and the section items of a note. -/
def Note.keys (store : Storage) (note : Note) : List ObjectKey :=
  (note.media ++ note.sections.items).flatMap (MediaRow.keys store)

structure DraftInput where
  sourceNoteID : Option NoteId
  mediaKeys : List ObjectKey
  contentJson : List Block
  textContentJson : List Block
  sectionMedia : List MediaItem
  sectionShowcase : List MediaItem
  sectionAudio : List MediaItem

def DraftInput.items (input : DraftInput) : List MediaItem :=
  input.sectionMedia ++ input.sectionShowcase ++ input.sectionAudio

def twoDots : List Char → Bool
  | '.' :: '.' :: _ => true
  | _ :: rest => twoDots rest
  | [] => false

/-- The keys of a draft: those it lists, and those of its items and blocks with their posters. -/
def inventoryKeys (store : Storage) (input : DraftInput) : Except Fault (List ObjectKey) := do
  let items := input.items ++ deriveMediaFromBlocks input.contentJson ++
    deriveMediaFromBlocks input.textContentJson
  throwIf (input.sectionMedia.any (fun item => item.type = .audio) ||
    input.sectionShowcase.any (fun item => item.type = .audio) ||
    input.sectionAudio.any fun item => item.type ≠ .audio) .incompatibleType
  throwIf (items.any fun item => item.posterUrl.isSome && (store.keyOf item.posterUrl).isNone)
    .invalidPoster
  .ok (input.mediaKeys ++ items.flatMap fun item =>
    item.objectKey :: (store.keyOf item.posterUrl).toList).dedup

namespace Db

def empty : Db := ⟨.empty, .empty, [], []⟩

def createNote (store : Storage) (db : Db) (ownerID : OwnerId) (id : NoteId) (input : NoteInput) :
    Except Fault Db := do
  let (derived, sections) ← deriveNoteContent store input
  assertMediaOwnership store ownerID derived []
  let media := sortedMedia derived
  let notes ← orThrow (db.notes.insert ⟨id, ownerID, media, sections, coverOf media⟩)
    .noteNotFound
  .ok { db with notes := notes }

/-- The edit of a note, of which the request has read `existing` before. -/
def updateNote (store : Storage) (db : Db) (ownerID : OwnerId) (existing : Note)
    (input : NoteInput) : Except Fault Db := do
  throwIf (existing ∉ db.readings || existing.ownerID ≠ ownerID) .noteNotFound
  let (derived, sections) ← deriveNoteContent store input
  assertMediaOwnership store ownerID derived (existing.media.map MediaRow.objectKey)
  let note ← orThrow ((db.notes.find existing.id).filter fun note => note.ownerID = ownerID)
    .noteNotFound
  let media := sortedMedia derived
  .ok { db with
    notes := db.notes.put { note with media := media, sections := sections, cover := coverOf media } }

/-- A copy of a note the request has read before. -/
def collectNote (store : Storage) (db : Db) (userID : OwnerId) (id : NoteId) (source : Note) :
    Except Fault Db := do
  throwIf (source ∉ db.readings || source.ownerID = userID) .noteNotFound
  let cover := source.cover <|> coverOf source.media
  let notes ← orThrow (db.notes.insert ⟨id, userID, source.media, source.sections, cover⟩)
    .noteNotFound
  .ok { db with
    notes := notes
    gained := db.gained ++ (source.keys store).map fun key => (userID, key) }

/-- `source` is what the request has read of the note the draft is an edit of. -/
def saveNoteDraft (store : Storage) (db : Db) (ownerID : OwnerId) (clientDraftID : Nat)
    (source : Option Note) (input : DraftInput) : Except Fault Db := do
  throwIf (input.sourceNoteID ≠ source.map Note.id || source.any fun note =>
    note ∉ db.readings || note.ownerID ≠ ownerID) .noteNotFound
  let sourceMediaKeys := source.elim [] fun note => note.media.flatMap (MediaRow.keys store)
  let keys ← inventoryKeys store input
  throwIf (maxDraftMediaKeys < keys.length) .draftLimit
  throwIf (keys.any fun key => (key.any fun part => twoDots part.toList) ||
    !under ownerID key && !sourceMediaKeys.contains key) .draftNotOwned
  let draft : NoteDraft := ⟨ownerID, clientDraftID, input.sourceNoteID, keys, input.contentJson,
    input.textContentJson, input.items⟩
  .ok { db with
    drafts := db.drafts.upsert draft
      (fun old => { draft with ownerID := old.ownerID, clientDraftID := old.clientDraftID })
      fun _ => rfl }

end Db

inductive Act
  /-- A request reads a note it may see. -/
  | read (noteId : NoteId)
  | createNote (ownerID : OwnerId) (id : NoteId) (input : NoteInput)
  | updateNote (ownerID : OwnerId) (existing : Note) (input : NoteInput)
  | collectNote (userID : OwnerId) (id : NoteId) (source : Note)
  | saveNoteDraft (ownerID : OwnerId) (clientDraftID : Nat) (source : Option Note)
      (input : DraftInput)

def Db.next (store : Storage) (db : Db) : Act → Option Db
  | .read noteId =>
    (db.notes.find noteId).map fun note => { db with readings := note :: db.readings }
  | .createNote ownerID id input => (db.createNote store ownerID id input).toOption
  | .updateNote ownerID existing input => (db.updateNote store ownerID existing input).toOption
  | .collectNote userID id source => (db.collectNote store userID id source).toOption
  | .saveNoteDraft ownerID clientDraftID source input =>
    (db.saveNoteDraft store ownerID clientDraftID source input).toOption

def Db.Next (store : Storage) (db : Db) (act : Act) (db' : Db) : Prop :=
  db.next store act = some db'

end CircleBackend.Notes.Media
