import CircleBackend.Js
import CircleBackend.Library.Json
import CircleBackend.Library.Table
import CircleBackend.Notes.Graph
import CircleBackend.Notes.Media

/-!
# What a reader gets of a note

The detail of a note and the summaries of the lists, the share links and the chat cards. The
JSON columns are read as they are stored; the storage says which key an address serves and
signs addresses. A viewer is a user, or the guest of a share link.
-/

namespace CircleBackend.Notes.Summary

open Library
open Session (UserId)
open Media (MediaType)
open Json (Fields setField)

/-- `UploadService`; signing a key may fail. -/
structure UploadService where
  objectKeyFromPublicUrl : String → Option String
  createPresignedGetUrl : String → Option String

/-- The signed address of each address of a page. -/
abbrev Signed := String → Option String

structure NoteMediaRow where
  id : Nat
  noteID : Option NoteId
  type : MediaType
  objectKey : String
  url : String
  mimeType : Option String
  size : Option Nat
  width : Option Nat
  height : Option Nat
  durationMs : Option Nat
  posterUrl : Option String
  sortOrder : Nat
  deriving DecidableEq, Repr

structure NoteGroup where
  id : Nat
  name : String
  deriving DecidableEq, Repr

/-- A note with its media in their order, its cover and its owner's groups. -/
structure NoteRow extends Graph.Note where
  title : String
  content : Option String
  contentJson : Json
  sections : Json
  sourceConversationID : Option String
  remark : Option String
  imageCount : Nat
  videoCount : Nat
  audioCount : Nat
  mediaCount : Nat
  collectedFrom : Json
  createdAt : Time
  coverMedia : Option NoteMediaRow
  groupMemberships : List NoteGroup
  media : List NoteMediaRow

def maxNotePreviewLength : Nat := 120

/-- The levels of blocks `MAX_NOTE_BLOCK_DEPTH` lets through. -/
def noteBlockLevels : Nat := 11

def noteCardPreviewLimit : Nat := 3

def noteSummaryContentHead : Nat := 1024

/-! ## Text -/

/-- `\s`; all of it lies in the basic plane. -/
def isSpace (c : Char) : Bool := c.toNat < 65536 && CircleBackend.isSpace (.ofNat c.toNat)

def trim (s : List Char) : List Char :=
  ((s.dropWhile isSpace).reverse.dropWhile isSpace).reverse

/-- `Boolean(s?.trim())` -/
def hasText (s : Option String) : Bool := s.any fun s => s.toList.any fun c => !isSpace c

/-- `NOTE_PREVIEW_WHITESPACE_PATTERN` -/
def isFolded (c : Char) : Bool :=
  isSpace c || c.toNat ≤ 8 || (14 ≤ c.toNat && c.toNat ≤ 31) ||
    (127 ≤ c.toNat && c.toNat ≤ 159)

/-- `replace(NOTE_PREVIEW_WHITESPACE_PATTERN, ' ')`, within a run or not. -/
def fold : Bool → List Char → List Char
  | _, [] => []
  | within, c :: rest =>
    if isFolded c then if within then fold true rest else ' ' :: fold true rest
    else c :: fold false rest

def flatten (content : String) : List Char := trim (fold false content.toList)

def buildPreview (content : Option String) : Option String :=
  content.bind fun content =>
    let flattened := flatten content
    if flattened = [] then none
    else if flattened.length > maxNotePreviewLength then
      some (String.ofList (flattened.take maxNotePreviewLength ++ "...".toList))
    else some (String.ofList flattened)

/-- `split('?')[0]` -/
def stripQuery (url : String) : String := String.ofList (url.toList.takeWhile (· ≠ '?'))

/-! ## Blocks -/

def kindOf (fields : Fields) : Option String := (fields.lookup "type").bind Json.string?

/-- A contact card or a group card. -/
def isPrivateCard (fields : Fields) : Bool :=
  kindOf fields = some "contact" || kindOf fields = some "group"

mutual

def stripPrivateCardBlocks : Json → Json
  | .arr items => .arr (stripItems items)
  | .obj fields => if isPrivateCard fields then .null else .obj (stripFields fields)
  | value => value

/-- `map(stripPrivateCardBlocks)` without the `null`s. -/
def stripItems : List Json → List Json
  | [] => []
  | item :: rest =>
    match stripPrivateCardBlocks item with
    | .null => stripItems rest
    | kept => kept :: stripItems rest

def stripFields : List (String × Json) → List (String × Json)
  | [] => []
  | (key, item) :: rest => (key, stripPrivateCardBlocks item) :: stripFields rest

end

section Resolve

variable (upload : Option UploadService) (media : List NoteMediaRow) (presigned : Option Signed)

/-- The key of an address; the empty one counts as none. -/
def keyOfUrl (url : String) : Option String :=
  (upload.bind fun service => service.objectKeyFromPublicUrl url).filter (· ≠ "")

/-- `noteMediaOwnerPrefix` -/
def ownerPrefix (objectKey : String) : Option (List Char) :=
  match objectKey.toList.splitOn '/' with
  | root :: uid :: _ =>
    if root = "notes".toList ∧ uid ≠ [] then some (root ++ '/' :: uid ++ ['/']) else none
  | _ => none

def isForeignPosterKey (objectKey posterUrl : String) : Bool :=
  (keyOfUrl upload posterUrl).any fun posterKey =>
    !(ownerPrefix objectKey).any fun dir => dir.isPrefixOf posterKey.toList

def sign (url : String) : Option String := presigned.bind fun signed => signed url

/-- The row that stays in a map by keys: the last of its key. -/
def authorized (key : String) : Option NoteMediaRow :=
  media.reverse.find? fun item => item.objectKey = key

def posterOf (item : NoteMediaRow) : Json :=
  match item.posterUrl with
  | none => .null
  | some url =>
    if url = "" || isForeignPosterKey upload item.objectKey url then .null
    else .str ((sign presigned url).getD (stripQuery url))

/-- The key the properties name; an address that is no string has none. -/
def namedKey (props : Fields) : Option String :=
  match (props.lookup "objectKey").bind Json.string? with
  | some key => if key = "" then none else some key
  | none => ((props.lookup "url").bind Json.string?).bind (keyOfUrl upload)

/-- The properties of an image or a video block. -/
def resolveProps (props : Fields) : Fields :=
  match namedKey upload props with
  | none => props
  | some key =>
    match authorized media key with
    | some item =>
      setField "posterUrl" (posterOf upload presigned item)
        (setField "url" (.str ((sign presigned item.url).getD (stripQuery item.url)))
          (setField "objectKey" (.str item.objectKey) props))
    -- Arbitrary legacy JSON must not open another private signing path.
    | none => setField "posterUrl" .null (setField "url" (.str "") props)

def isMediaBlock (block : Fields) : Bool :=
  kindOf block = some "image" || kindOf block = some "video"

def resolveMedia (block : Fields) : Fields :=
  match (block.lookup "props").bind Json.fields? with
  | some props =>
    if isMediaBlock block then
      setField "props" (.obj (resolveProps upload media presigned props)) block
    else block
  | none => block

def resolveBlock (visit : List Json → List Json) (block : Fields) : Fields :=
  let shown := resolveMedia upload media presigned block
  match (block.lookup "children").bind Json.items? with
  | some children => setField "children" (.arr (visit children)) shown
  | none => shown

/-- `visit`, with the levels that are left. -/
def visit : Nat → List Json → List Json
  | 0, _ => []
  | levels + 1, items => items.filterMap fun item =>
    item.fields?.map fun block => .obj (resolveBlock upload media presigned (visit levels) block)

def resolvePublishedBlocks (blocks : Option (List Json)) : Option (List Json) :=
  blocks.map (visit upload media presigned noteBlockLevels)

end Resolve

/-! ## Sections -/

structure TextSection where
  content : Option String
  contentJson : Option (List Json)

structure LocationSection where
  title : Option String
  address : Option String
  latitude : Option ℚ
  longitude : Option ℚ
  deriving DecidableEq, Repr

structure NoteSections where
  text : TextSection
  media : List Json
  showcase : List Json
  audio : Option (List Json)
  contacts : Option (List Json)
  groups : Option (List Json)
  location : Option LocationSection

def isSendableNoteLocation (location : Option LocationSection) : Bool :=
  location.any fun location =>
    !(location.latitude = some 0 && location.longitude = some 0 && !hasText location.title &&
      !hasText location.address)

def MediaType.name : MediaType → String
  | .image => "IMAGE"
  | .video => "VIDEO"
  | .audio => "AUDIO"

def present (key : String) (value : Option Json) : Fields := (value.map fun v => (key, v)).toList

def number (n : Nat) : Json := .num n

def mapMediaItemForSection (presigned : Option Signed) (item : NoteMediaRow) : Json :=
  let shown (url : String) : Json := .str ((sign presigned url).getD (stripQuery url))
  .obj ([("id", number item.id), ("type", .str (MediaType.name item.type)),
      ("objectKey", .str item.objectKey), ("url", shown item.url)] ++
    present "mimeType" (item.mimeType.map .str) ++ present "size" (item.size.map number) ++
    present "width" (item.width.map number) ++ present "height" (item.height.map number) ++
    present "durationMs" (item.durationMs.map number) ++
    present "posterUrl" (item.posterUrl.map shown) ++ [("sortOrder", number item.sortOrder)])

def applyPresigned (signed : Signed) (key : String) (item : Fields) : Fields :=
  match (item.lookup key).bind Json.string? with
  | some url => setField key (.str ((signed url).getD url)) item
  | none => item

def applyPresignedToItems (presigned : Option Signed) (items : List Json) : List Json :=
  match presigned with
  | none => items
  | some signed => items.map fun item =>
    match item with
    | .obj fields => .obj (applyPresigned signed "posterUrl" (applyPresigned signed "url" fields))
    | item => item

/-- The stored field as a record. -/
def sectionOf (note : NoteRow) (name : String) : Fields :=
  Json.record ((Json.record (some note.sections)).lookup name)

def itemsOf (stored : Fields) : Option (List Json) := (stored.lookup "items").bind Json.items?

def records (items : List Json) : List Json := items.filter Json.isRecord

/-- The text blocks a note shows: those of its section when they are an array. -/
def textBlocks (note : NoteRow) : Option (List Json) :=
  ((sectionOf note "text").lookup "contentJson").bind Json.items? <|> note.contentJson.items?

def textContent (note : NoteRow) : Option String :=
  ((sectionOf note "text").lookup "content").bind Json.string? <|> note.content

def locationOf (stored : Json) : Option LocationSection :=
  stored.fields?.map fun fields =>
    { title := (fields.lookup "title").bind Json.string?
      address := (fields.lookup "address").bind Json.string?
      latitude := (fields.lookup "latitude").bind Json.number?
      longitude := (fields.lookup "longitude").bind Json.number? }

def buildSectionsFromRow (upload : Option UploadService) (note : NoteRow)
    (presigned : Option Signed) : NoteSections :=
  let explicitMedia := itemsOf (sectionOf note "media")
  let explicitShowcase := itemsOf (sectionOf note "showcase")
  let explicitAudio := itemsOf (sectionOf note "audio")
  let derived (p : NoteMediaRow → Bool) : List Json :=
    (note.media.filter p).map (mapMediaItemForSection presigned)
  let audio := match explicitAudio with
    | some items => applyPresignedToItems presigned items
    | none => derived fun item => item.type = .audio
  { text :=
      { content := textContent note
        contentJson := resolvePublishedBlocks upload note.media presigned (textBlocks note) }
    media := match explicitMedia with
      | some items => applyPresignedToItems presigned items
      | none => if explicitShowcase.isSome then [] else derived fun _ => true
    showcase := match explicitShowcase with
      | some items => applyPresignedToItems presigned items
      | none => if explicitMedia.isSome then [] else derived fun item => item.type = .image
    audio := if explicitAudio.isSome || !audio.isEmpty then some audio else none
    contacts := (itemsOf (sectionOf note "contacts")).map records
    groups := (itemsOf (sectionOf note "groups")).map records
    location := ((Json.record (some note.sections)).lookup "location").bind locationOf }

/-! ## Summaries -/

/-- Where a group card leads. -/
structure GroupRoute where
  conversationID : Option String
  circleId : Option String
  deriving DecidableEq, Repr

structure NoteCardPeerDto where
  id : String
  name : String
  faceURL : Option String
  route : Option GroupRoute
  deriving DecidableEq, Repr

/-- A field that is a string other than the empty one. -/
def filledString (item : Fields) (key : String) : Option String :=
  ((item.lookup key).bind Json.string?).filter (· ≠ "")

def cardPeer (groups : Bool) (item : Json) : Option NoteCardPeerDto :=
  let item := Json.record (some item)
  let id := trim (((item.lookup "id").bind Json.string?).getD "").toList
  let name := trim (((item.lookup "name").bind Json.string?).getD "").toList
  if id = [] ∨ name = [] then none
  else some
    { id := String.ofList id
      name := String.ofList name
      faceURL := filledString item "faceURL" <|> filledString item "avatarUrl"
      route := if groups then
          some ⟨filledString item "conversationID", filledString item "circleId"⟩
        else none }

def toCardPeers (items : List Json) (groups : Bool) : List NoteCardPeerDto :=
  (items.filterMap (cardPeer groups)).take noteCardPreviewLimit

structure NoteCover where
  id : Nat
  type : MediaType
  url : String
  deriving DecidableEq, Repr

structure NoteSummaryFacts where
  contentPreview : Option String
  hasText : Bool
  showcaseCount : Nat
  contactItems : Option (List Json)
  groupItems : Option (List Json)
  hasLocation : Bool
  cover : Option NoteCover

structure NoteSummaryDto where
  id : NoteId
  ownerId : UserId
  canEdit : Bool
  title : String
  contentPreview : Option String
  status : Graph.NoteStatus
  available : Bool
  workStatus : Option Graph.WorkStatus
  sourceConversationID : Option String
  pinned : Bool
  remark : Option String
  groups : List NoteGroup
  cover : Option NoteCover
  imageCount : Nat
  videoCount : Nat
  audioCount : Nat
  mediaCount : Nat
  hasText : Bool
  showcaseCount : Nat
  contactCount : Nat
  groupCardCount : Nat
  hasLocation : Bool
  contacts : List NoteCardPeerDto
  groupCards : List NoteCardPeerDto
  collectedFrom : Option Fields
  createdAt : Time
  updatedAt : Time

/-- A user, or the guest of a share link or of a chat card. -/
abbrev Viewer := Option UserId

def coverOf (item : NoteMediaRow) : NoteCover := ⟨item.id, item.type, item.url⟩

def firstImage (media : List NoteMediaRow) : Option NoteMediaRow :=
  media.find? fun item => item.type = .image

/-- The cover that was chosen when it is an image, else the first image. -/
def chosenCover (note : NoteRow) : Option NoteMediaRow :=
  (note.coverMedia.filter fun item => item.type = .image) <|> firstImage note.media

def summaryFactsFromRow (upload : Option UploadService) (note : NoteRow) : NoteSummaryFacts :=
  let sections := buildSectionsFromRow upload note none
  { contentPreview := buildPreview note.content
    hasText := hasText sections.text.content ||
      sections.text.contentJson.any fun blocks => !blocks.isEmpty
    showcaseCount := sections.showcase.length
    contactItems := sections.contacts
    groupItems := sections.groups
    hasLocation := isSendableNoteLocation sections.location
    cover := (chosenCover note).map coverOf }

def buildSummaryDto (note : NoteRow) (facts : NoteSummaryFacts) (viewer : Viewer)
    (presigned : Option Signed) : NoteSummaryDto :=
  let isOwner := viewer = some note.ownerID
  let contactItems := if isOwner then facts.contactItems.getD [] else []
  let groupItems := if isOwner then facts.groupItems.getD [] else []
  { id := note.id
    ownerId := note.ownerID
    canEdit := isOwner
    title := note.title
    contentPreview := facts.contentPreview
    status := note.status
    available := note.available
    workStatus := note.workStatus
    sourceConversationID := if isOwner then note.sourceConversationID else none
    pinned := if isOwner then note.pinned else false
    remark := if isOwner then note.remark else none
    groups := if isOwner then note.groupMemberships else []
    cover := facts.cover.map fun cover =>
      { cover with url := (sign presigned cover.url).getD cover.url }
    imageCount := note.imageCount
    videoCount := note.videoCount
    audioCount := note.audioCount
    mediaCount := note.mediaCount
    hasText := facts.hasText
    showcaseCount := facts.showcaseCount
    contactCount := contactItems.length
    groupCardCount := groupItems.length
    hasLocation := facts.hasLocation
    contacts := toCardPeers contactItems false
    groupCards := toCardPeers groupItems true
    collectedFrom := if isOwner then note.collectedFrom.fields? else none
    createdAt := note.createdAt
    updatedAt := note.updatedAt }

def mapSummary (upload : Option UploadService) (note : NoteRow) (viewer : Viewer)
    (presigned : Option Signed) : NoteSummaryDto :=
  buildSummaryDto note (summaryFactsFromRow upload note) viewer presigned

/-! ## The detail -/

structure NoteMediaDto where
  id : Nat
  type : MediaType
  objectKey : String
  url : String
  mimeType : Option String
  size : Option Nat
  width : Option Nat
  height : Option Nat
  durationMs : Option Nat
  posterUrl : Option String
  sortOrder : Nat
  deriving DecidableEq, Repr

structure NoteDetailDto extends NoteSummaryDto where
  content : Option String
  contentJson : Option (List Json)
  media : List NoteMediaDto
  sections : NoteSections

def mediaDto (presigned : Option Signed) (item : NoteMediaRow) : NoteMediaDto where
  id := item.id
  type := item.type
  objectKey := item.objectKey
  url := (sign presigned item.url).getD item.url
  mimeType := item.mimeType
  size := item.size
  width := item.width
  height := item.height
  durationMs := item.durationMs
  posterUrl := item.posterUrl.map fun url => (sign presigned url).getD url
  sortOrder := item.sortOrder

def mapDetail (upload : Option UploadService) (note : NoteRow) (viewer : Viewer)
    (presigned : Option Signed) : NoteDetailDto :=
  let sections := buildSectionsFromRow upload note presigned
  let isOwner := viewer = some note.ownerID
  let publishedBlocks := resolvePublishedBlocks upload note.media presigned note.contentJson.items?
  { mapSummary upload note viewer presigned with
    content := note.content
    contentJson := if isOwner then publishedBlocks else publishedBlocks.map stripItems
    media := note.media.map (mediaDto presigned)
    sections := if isOwner then sections
      else { sections with contacts := some [], groups := some [] } }

/-! ## The lists -/

/-- `NoteSummaryProjectionRow`, the cover as its row. -/
structure ProjectionRow where
  contentHead : Option String
  sectionTextHasText : Option Bool
  hasJsonText : Bool
  showcaseCount : Nat
  contactItems : Option (List Json)
  groupItems : Option (List Json)
  hasLocation : Bool
  cover : Option NoteMediaRow

/-- `btrim(COALESCE(value ->> key, '')) = ''`, where `btrim` takes blanks off only. -/
def sqlBlank (fields : Fields) (key : String) : Bool :=
  match fields.lookup key with
  | none | some .null => true
  | some (.str s) => s.toList.all (· = ' ')
  | some _ => false

def sqlZero (fields : Fields) (key : String) : Bool :=
  ((fields.lookup key).bind Json.number?) = some 0

def sqlHasLocation (location : Option Json) : Bool :=
  (location.bind Json.fields?).any fun fields =>
    !(sqlZero fields "latitude" && sqlZero fields "longitude" && sqlBlank fields "title" &&
      sqlBlank fields "address")

/-- Whether an element of the text blocks is an object. -/
def hasJsonText (note : NoteRow) : Bool :=
  (textBlocks note).any fun blocks => blocks.any Json.isRecord

/-- A row of `noteSummaryProjectionQuery`. -/
def noteSummaryProjection (note : NoteRow) : ProjectionRow where
  contentHead := note.content.map fun content =>
    String.ofList (content.toList.take noteSummaryContentHead)
  sectionTextHasText :=
    (((sectionOf note "text").lookup "content").bind Json.string?).map fun s => hasText (some s)
  hasJsonText := hasJsonText note
  showcaseCount := match itemsOf (sectionOf note "showcase") with
    | some items => items.length
    | none =>
      if (itemsOf (sectionOf note "media")).isSome then 0
      else note.media.countP fun item => item.type = .image
  contactItems := itemsOf (sectionOf note "contacts")
  groupItems := itemsOf (sectionOf note "groups")
  hasLocation := sqlHasLocation ((Json.record (some note.sections)).lookup "location")
  cover := chosenCover note

structure ContentFacts where
  contentPreview : Option String
  contentHasText : Bool
  deriving DecidableEq, Repr

def summarizeContentHead (head : Option String) : Option ContentFacts :=
  match head with
  | none => some ⟨none, false⟩
  | some head =>
    if head.toList.length < noteSummaryContentHead then
      some ⟨buildPreview head, hasText head⟩
    else
      let flattened := flatten head
      if flattened.length ≤ maxNotePreviewLength then none
      else
        some ⟨String.ofList (flattened.take maxNotePreviewLength ++ "...".toList), true⟩

abbrev Rows := Table NoteRow NoteId fun note => note.id

/-- What the rows of a list are completed from: the projection's rows, the rows whose content
is read whole, the rows the sources are looked up in, and the circles of the old group cards. -/
structure Reads where
  projected : Rows
  reread : Rows
  sources : Rows
  circleIdByGroupID : String → Option String

/-- An entry of `loadSummaryProjections`. -/
def loadSummaryProjection (reads : Reads) (id : NoteId) : Option (ProjectionRow × ContentFacts) :=
  (reads.projected.find id).bind fun note =>
    let row := noteSummaryProjection note
    match summarizeContentHead row.contentHead with
    | some content => some (row, content)
    | none => (reads.reread.find id).map fun note =>
      (row, ⟨buildPreview note.content, hasText note.content⟩)

/-- The columns `overlayCollectedSourceState` selects; the others are blank. -/
def stateRow (note : NoteRow) : Graph.Note :=
  { note.toNote with ownerID := 0, pinned := false, updatedAt := 0 }

def sourceRows (rows : Rows) : Graph.Rows where
  rows := rows.rows.map stateRow
  unique := by
    rw [List.map_map]
    exact rows.unique

def overlayCollectedSourceState (sources : Rows) (notes : List NoteRow) : List NoteRow :=
  List.zipWith (fun note source => { note with toSourceState := source.toSourceState }) notes
    (Graph.overlayCollectedSourceState (sourceRows sources) (notes.map stateRow))

/-- An old group card gets the id of its circle. -/
def withCircleId (circleIdByGroupID : String → Option String) (item : Json) : Json :=
  match item with
  | .obj fields =>
    let held (key : String) : Bool := (fields.lookup key).any Json.truthy
    match (fields.lookup "id").bind Json.string? with
    | some id =>
      if held "circleId" || held "conversationID" then item
      else (circleIdByGroupID id).elim item fun circleId =>
        .obj (setField "circleId" (.str circleId) fields)
    | none => item
  | item => item

def withLegacyCircleIds (circleIdByGroupID : String → Option String) (note : NoteRow) : NoteRow :=
  match itemsOf (sectionOf note "groups") with
  | none => note
  | some items =>
    { note with
      sections := .obj (setField "groups"
        (.obj (setField "items" (.arr (items.map (withCircleId circleIdByGroupID)))
          (sectionOf note "groups")))
        (Json.record (some note.sections))) }

/-- An address to sign, with its key. -/
structure Target where
  url : String
  objectKey : String
  deriving DecidableEq, Repr

/-- `presignNoteMedia`; `none` when the signing is unavailable. -/
def presignNoteMedia (upload : Option UploadService) (targets : List Target) : Option Signed :=
  if targets.isEmpty then some fun _ => none
  else upload.bind fun service =>
    let signed (url : String) : Option String :=
      (targets.reverse.find? fun target => target.url = url).bind fun target =>
        service.createPresignedGetUrl target.objectKey
    if targets.all fun target => (signed target.url).isSome then some signed else none

/-- The cover is signed when it belongs to the note. -/
def coverTarget (note : NoteRow) (row : ProjectionRow) : Option Target :=
  (row.cover.filter fun cover =>
    cover.noteID = some note.id && cover.url ≠ "" && cover.objectKey ≠ "").map fun cover =>
      ⟨cover.url, cover.objectKey⟩

def listFacts (note : NoteRow) (row : ProjectionRow) (content : ContentFacts) :
    NoteSummaryFacts where
  contentPreview := content.contentPreview
  hasText := row.sectionTextHasText.getD content.contentHasText || row.hasJsonText
  showcaseCount := row.showcaseCount
  contactItems := row.contactItems.map records
  groupItems := (itemsOf (sectionOf note "groups")).map records
  hasLocation := row.hasLocation
  cover := row.cover.map coverOf

/-- The notes that are still there, with what was projected of them. -/
def presentNotes (reads : Reads) (notes : List NoteRow) :
    List (NoteRow × ProjectionRow × ContentFacts) :=
  notes.filterMap fun note =>
    (loadSummaryProjection reads note.id).map fun projection =>
      ({ note with
          sections := match projection.1.groupItems with
            | some items => .obj [("groups", .obj [("items", .arr items)])]
            | none => .null },
        projection)

def effectiveNotes (reads : Reads) (notes : List NoteRow) :
    List (NoteRow × ProjectionRow × ContentFacts) :=
  let found := presentNotes reads notes
  let overlaid := overlayCollectedSourceState reads.sources (found.map Prod.fst)
  (overlaid.map (withLegacyCircleIds reads.circleIdByGroupID)).zip (found.map Prod.snd)

def mapSummaryListResolved (upload : Option UploadService) (reads : Reads)
    (notes : List NoteRow) (viewer : Viewer) : Option (List NoteSummaryDto) :=
  let effective := effectiveNotes reads notes
  (presignNoteMedia upload (effective.filterMap fun entry => coverTarget entry.1 entry.2.1)).map
    fun presigned => effective.map fun entry =>
      buildSummaryDto entry.1 (listFacts entry.1 entry.2.1 entry.2.2) viewer (some presigned)

end CircleBackend.Notes.Summary
