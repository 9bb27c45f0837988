import CircleBackend.Notes.Redacted

/-!
# What other viewers learn of a note's cards

Two notes are alike beside their private data when they are the same once every contact and
group card is taken out of their blocks and the owner's marks are blanked. What a viewer who
is not the owner gets of alike notes is the same but for the blocks of the text section, which
keep their cards, and for the bit that says whether there is text.
-/

namespace CircleBackend.Notes.Summary

open Library
open Json (Fields setField mapValues keepKeys)

/-! ## Alike notes -/

def publicText : Json → Json
  | .obj fields => .obj (mapValues (fun key value =>
      if key = "contentJson" then redact value else value) fields)
  | value => value

/-- The sections without the contacts and the groups. -/
def publicSections : Json → Json
  | .null => .obj []
  | .obj fields => .obj (mapValues (fun key value =>
      if key = "text" then publicText value else value)
      (keepKeys (fun key => key ≠ "contacts" && key ≠ "groups") fields))
  | value => value

/-- The note without its private data. -/
def NoteRow.publicPart (note : NoteRow) : NoteRow :=
  { note with
    contentJson := redact note.contentJson
    sections := publicSections note.sections
    pinned := false
    remark := none
    groupMemberships := []
    collectedFrom := .null
    sourceConversationID := none }

/-- The notes differ in private data only. -/
def Alike (a b : NoteRow) : Prop := a.publicPart = b.publicPart

theorem record_publicSections (sections : Json) :
    Json.record (some (publicSections sections)) =
      mapValues (fun key value => if key = "text" then publicText value else value)
        (keepKeys (fun key => key ≠ "contacts" && key ≠ "groups")
          (Json.record (some sections))) := by
  cases sections with
  | obj fields => rfl
  | _ => rfl

theorem lookup_publicSections {name : String} (sections : Json)
    (kept : name ≠ "contacts" ∧ name ≠ "groups") :
    (Json.record (some (publicSections sections))).lookup name =
      ((Json.record (some sections)).lookup name).map
        (if name = "text" then publicText else id) := by
  rw [record_publicSections, Json.lookup_mapValues, Json.lookup_keepKeys (by simp [kept])]
  split <;> rfl

theorem sectionOf_public {name : String} (note : NoteRow)
    (kept : name ≠ "contacts" ∧ name ≠ "groups" ∧ name ≠ "text") :
    sectionOf note.publicPart name = sectionOf note name := by
  rw [sectionOf, sectionOf]
  have same := lookup_publicSections note.sections ⟨kept.1, kept.2.1⟩
  rw [if_neg kept.2.2, Option.map_id_fun, id_eq] at same
  exact congrArg Json.record same

theorem location_public (note : NoteRow) :
    (Json.record (some note.publicPart.sections)).lookup "location" =
      (Json.record (some note.sections)).lookup "location" := by
  have same := lookup_publicSections note.sections (by decide : "location" ≠ "contacts" ∧ _)
  rw [if_neg (by decide), Option.map_id_fun, id_eq] at same
  exact same

theorem text_public (note : NoteRow) :
    sectionOf note.publicPart "text" = mapValues (fun key value =>
      if key = "contentJson" then redact value else value) (sectionOf note "text") := by
  have same := lookup_publicSections note.sections (by decide : "text" ≠ "contacts" ∧ _)
  rw [if_pos rfl] at same
  rw [sectionOf, sectionOf]
  refine (congrArg Json.record same).trans ?_
  cases (Json.record (some note.sections)).lookup "text" with
  | none => rfl
  | some text => cases text <;> rfl

theorem content_public (note : NoteRow) :
    (sectionOf note.publicPart "text").lookup "content" =
      (sectionOf note "text").lookup "content" := by
  rw [text_public, Json.lookup_mapValues]
  exact Option.map_id'

theorem textContent_public (note : NoteRow) : textContent note.publicPart = textContent note := by
  rw [textContent, textContent, content_public]
  rfl

theorem textBlocks_public (note : NoteRow) :
    textBlocks note.publicPart = (textBlocks note).map redactItems := by
  have same : ((sectionOf note.publicPart "text").lookup "contentJson").bind Json.items? =
      (((sectionOf note "text").lookup "contentJson").bind Json.items?).map redactItems := by
    rw [text_public, Json.lookup_mapValues]
    cases (sectionOf note "text").lookup "contentJson" with
    | none => rfl
    | some blocks => exact items?_redact blocks
  have column : note.publicPart.contentJson.items? = note.contentJson.items?.map redactItems :=
    items?_redact note.contentJson
  rw [textBlocks, textBlocks, same, column]
  cases ((sectionOf note "text").lookup "contentJson").bind Json.items? <;> rfl

section

variable (upload : Option UploadService) (presigned : Option Signed) {viewer : Viewer}

/-- The sections of a note, read off those of its public part. -/
theorem buildSections_public (note : NoteRow) :
    buildSectionsFromRow upload note presigned =
      { buildSectionsFromRow upload note.publicPart presigned with
        text := ⟨textContent note,
          resolvePublishedBlocks upload note.media presigned (textBlocks note)⟩
        contacts := (itemsOf (sectionOf note "contacts")).map records
        groups := (itemsOf (sectionOf note "groups")).map records } := by
  unfold buildSectionsFromRow
  rw [sectionOf_public note (by decide : "media" ≠ "contacts" ∧ _),
    sectionOf_public note (by decide : "showcase" ≠ "contacts" ∧ _),
    sectionOf_public note (by decide : "audio" ≠ "contacts" ∧ _), location_public]
  rfl

/-- The detail with another text. -/
def NoteDetailDto.withText (dto : NoteDetailDto) (blocks : Option (List Json)) (shown : Bool) :
    NoteDetailDto :=
  { dto with
    hasText := shown
    sections := { dto.sections with text := { dto.sections.text with contentJson := blocks } } }

/-- Of the private data a viewer gets the cards in the text, and whether there is text. -/
theorem mapDetail_public {note : NoteRow} (other : viewer ≠ some note.ownerID) :
    mapDetail upload note viewer presigned =
      (mapDetail upload note.publicPart viewer presigned).withText
        (resolvePublishedBlocks upload note.media presigned (textBlocks note))
        (hasText (textContent note) || hasJsonText note) := by
  have owner : note.publicPart.ownerID = note.ownerID := rfl
  have body := strip_published upload note.media presigned note.contentJson.items?
  rw [← items?_redact] at body
  have bit := published_shown upload note.media none (textBlocks note)
  unfold mapDetail mapSummary summaryFactsFromRow buildSummaryDto NoteDetailDto.withText
  rw [buildSections_public upload presigned note, buildSections_public upload none note]
  simp only [owner, other, if_false, decide_false, bit, hasJsonText]
  rw [← body, ← textContent_public note]
  rfl

variable {a b : NoteRow}

theorem Alike.parts (alike : Alike a b) : a.publicPart = b.publicPart := alike

theorem Alike.owner (alike : Alike a b) : a.ownerID = b.ownerID := by
  have same := congrArg (fun note : NoteRow => note.ownerID) alike.parts
  exact same

theorem Alike.media (alike : Alike a b) : a.media = b.media := by
  have same := congrArg NoteRow.media alike.parts
  exact same

theorem Alike.textContent (alike : Alike a b) : textContent a = textContent b := by
  rw [← textContent_public a, ← textContent_public b]
  exact congrArg Summary.textContent alike.parts

/-- The details of alike notes differ in the text blocks that are published, if at all. -/
theorem mapDetail_alike (alike : Alike a b) (other : viewer ≠ some a.ownerID) :
    mapDetail upload a viewer presigned = mapDetail upload b viewer presigned ↔
      resolvePublishedBlocks upload a.media presigned (textBlocks a) =
        resolvePublishedBlocks upload b.media presigned (textBlocks b) := by
  have others : viewer ≠ some b.ownerID := alike.owner ▸ other
  rw [mapDetail_public upload presigned other, mapDetail_public upload presigned others, alike.parts,
    alike.textContent]
  constructor
  · intro equal
    exact congrArg (fun dto : NoteDetailDto => dto.sections.text.contentJson) equal
  · intro blocks
    have bits : hasJsonText a = hasJsonText b := by
      rw [hasJsonText, hasJsonText, ← published_shown upload a.media presigned,
        ← published_shown upload b.media presigned, blocks]
    rw [blocks, bits]

end

/-! ## Other blocks under the same public part -/

/-- The note with other blocks where those it shows are stored. -/
def NoteRow.putText (note : NoteRow) (blocks : List Json) : NoteRow :=
  if (((sectionOf note "text").lookup "contentJson").bind Json.items?).isSome then
    { note with
      sections := .obj (setField "text"
        (.obj (setField "contentJson" (.arr blocks) (sectionOf note "text")))
        (Json.record (some note.sections))) }
  else { note with contentJson := .arr blocks }

theorem textBlocks_putText (note : NoteRow) (blocks : List Json) :
    textBlocks (note.putText blocks) = some blocks := by
  unfold NoteRow.putText
  split
  · simp [textBlocks, sectionOf, Json.record, Json.fields?, Json.items?]
  next none =>
    rw [Option.not_isSome_iff_eq_none] at none
    have same : textBlocks { note with contentJson := .arr blocks } =
        (((sectionOf note "text").lookup "contentJson").bind Json.items? <|> some blocks) := rfl
    rw [same, none]
    rfl

theorem publicText_put {text : Fields} {old blocks : List Json}
    (held : text.lookup "contentJson" = some (.arr old))
    (same : redactItems blocks = redactItems old) :
    publicText (.obj (setField "contentJson" (.arr blocks) text)) = publicText (.obj text) := by
  rw [publicText, publicText, Json.mapValues_setField, if_pos rfl, redact, same]
  rw [Json.setField_lookup]
  rw [Json.lookup_mapValues, held]
  rfl

theorem publicSections_put {fields text : Fields} {value : Json}
    (held : fields.lookup "text" = some (.obj text))
    (same : publicText value = publicText (.obj text)) :
    publicSections (.obj (setField "text" value fields)) = publicSections (.obj fields) := by
  rw [publicSections, publicSections, Json.keepKeys_setField (by decide),
    Json.mapValues_setField, if_pos rfl, same, Json.setField_lookup]
  rw [Json.lookup_mapValues, Json.lookup_keepKeys (by decide), held]
  rfl

/-- Cards may be put among the blocks without a change to the public part. -/
theorem putText_alike {note : NoteRow} {old blocks : List Json} (shown : textBlocks note = some old)
    (same : redactItems blocks = redactItems old) : Alike note (note.putText blocks) := by
  unfold NoteRow.putText
  split
  next some =>
    obtain ⟨items, held⟩ := Option.isSome_iff_exists.mp some
    have kept : items = old := by
      rw [textBlocks, held] at shown
      exact Option.some.inj shown
    subst kept
    obtain ⟨value, stored, array⟩ := Option.bind_eq_some_iff.mp held
    have list : value = .arr items := Json.items?_some array
    subst list
    obtain ⟨text, there, inside⟩ := Json.lookup_record stored
    obtain ⟨fields, sections, outside⟩ := Json.lookup_record there
    have outer : note.sections = .obj fields := Option.some.inj sections
    have unchanged : publicSections (.obj (setField "text" (.obj (setField "contentJson"
        (.arr blocks) (sectionOf note "text"))) (Json.record (.some note.sections)))) =
          publicSections note.sections := by
      rw [sectionOf, there, outer]
      exact publicSections_put outside (publicText_put inside same)
    rw [Alike, NoteRow.publicPart, NoteRow.publicPart]
    dsimp only
    rw [unchanged]
  next none =>
    rw [Option.not_isSome_iff_eq_none] at none
    rw [textBlocks, none] at shown
    have column : note.contentJson = .arr old := Json.items?_some shown
    rw [Alike, NoteRow.publicPart, NoteRow.publicPart]
    dsimp only
    rw [column, redact, redact, same]

variable {viewer : Viewer} {reads reads' : Reads} {notes notes' : List NoteRow}

/-- Every viewer gets the same detail of all notes alike this one when it shows no blocks, and
only then. -/
theorem mapDetail_constant (upload : Option UploadService) (presigned : Option Signed)
    {a : NoteRow} (other : viewer ≠ some a.ownerID) :
    (∀ b, Alike a b → mapDetail upload a viewer presigned = mapDetail upload b viewer presigned) ↔
      textBlocks a = none := by
  constructor
  · intro constant
    cases shown : textBlocks a with
    | none => rfl
    | some blocks =>
      exfalso
      have alike : Alike a (a.putText (.obj someCard :: blocks)) :=
        putText_alike shown (if_pos rfl)
      have equal := (mapDetail_alike upload presigned alike other).mp (constant _ alike)
      rw [shown, textBlocks_putText, ← alike.media] at equal
      have lengths := congrArg List.length (Option.some.inj equal)
      simp [noteBlockLevels, visit, Json.fields?] at lengths
  · intro none b alike
    rw [mapDetail_alike upload presigned alike other]
    have blank : (textBlocks b).map redactItems = Option.none := by
      rw [← textBlocks_public, ← alike.parts, textBlocks_public, none]
      rfl
    rw [none, Option.map_eq_none_iff.mp blank]
    simp only [resolvePublishedBlocks, Option.map_none]

/-! ## The lists -/

/-- What a summary of a list says of a note to other viewers, but for the bit of the text. -/
def ProjectionRow.publicPart (row : ProjectionRow) : ProjectionRow :=
  { row with contactItems := none, groupItems := none, hasJsonText := false }

def publicRows (rows : Rows) : List NoteRow := rows.rows.map NoteRow.publicPart

/-- The rows read differ in private data only. -/
structure AlikeReads (reads reads' : Reads) : Prop where
  projected : publicRows reads.projected = publicRows reads'.projected
  reread : publicRows reads.reread = publicRows reads'.reread
  sources : publicRows reads.sources = publicRows reads'.sources

theorem find_public {rows rows' : Rows} (alike : publicRows rows = publicRows rows') (id : NoteId) :
    (rows.find id).map NoteRow.publicPart = (rows'.find id).map NoteRow.publicPart := by
  have factors (rows : Rows) : (rows.find id).map NoteRow.publicPart =
      (publicRows rows).find? fun note => note.id = id := by
    rw [publicRows, List.find?_map]
    rfl
  rw [factors, factors, alike]

theorem sources_public {rows rows' : Rows} (alike : publicRows rows = publicRows rows') :
    sourceRows rows = sourceRows rows' := by
  have factors (rows : Rows) : rows.rows.map stateRow = (publicRows rows).map stateRow := by
    rw [publicRows, List.map_map]
    rfl
  simp only [sourceRows, factors, alike]

theorem projection_public (note : NoteRow) :
    (noteSummaryProjection note.publicPart).publicPart =
      (noteSummaryProjection note).publicPart := by
  unfold noteSummaryProjection ProjectionRow.publicPart
  rw [sectionOf_public note (by decide : "media" ≠ "contacts" ∧ _),
    sectionOf_public note (by decide : "showcase" ≠ "contacts" ∧ _), location_public,
    content_public]
  rfl

/-- What was loaded for an entry, but for the private part. -/
def loadedPart (loaded : ProjectionRow × ContentFacts) : ProjectionRow × ContentFacts :=
  (loaded.1.publicPart, loaded.2)

theorem load_public (alike : AlikeReads reads reads') (id : NoteId) :
    (loadSummaryProjection reads id).map loadedPart =
      (loadSummaryProjection reads' id).map loadedPart := by
  have rows := find_public alike.projected id
  have again := find_public alike.reread id
  rw [loadSummaryProjection, loadSummaryProjection]
  cases left : reads.projected.find id with
  | none =>
    rw [left] at rows
    rw [Option.map_eq_none_iff.mp rows.symm]
    rfl
  | some a =>
    rw [left] at rows
    obtain ⟨b, right, parts⟩ := Option.map_eq_some_iff.mp rows.symm
    have projection : (noteSummaryProjection b).publicPart =
        (noteSummaryProjection a).publicPart := by
      rw [← projection_public, parts, projection_public]
    have head : (noteSummaryProjection b).contentHead = (noteSummaryProjection a).contentHead := by
      have same := congrArg ProjectionRow.contentHead projection
      exact same
    rw [right]
    simp only [Option.bind_some, head]
    cases summarizeContentHead (noteSummaryProjection a).contentHead with
    | some content => simp only [Option.map_some, loadedPart, projection]
    | none =>
      have contents (rows : Rows) (row : ProjectionRow) :
          ((rows.find id).map fun note =>
            (row, ContentFacts.mk (buildPreview note.content) (hasText note.content))).map
              loadedPart =
            ((rows.find id).map NoteRow.publicPart).map fun note =>
              (row.publicPart, ⟨buildPreview note.content, hasText note.content⟩) := by
        cases rows.find id <;> rfl
      simp only [contents, again, projection]

/-- An entry of a list, but for the private part. -/
def entryPart (entry : NoteRow × ProjectionRow × ContentFacts) :
    NoteRow × ProjectionRow × ContentFacts :=
  ({ entry.1.publicPart with sections := .null }, loadedPart entry.2)

theorem present_public (alike : AlikeReads reads reads')
    (listed : notes.map NoteRow.publicPart = notes'.map NoteRow.publicPart) :
    (presentNotes reads notes).map entryPart = (presentNotes reads' notes').map entryPart := by
  have factors (reads : Reads) (notes : List NoteRow) :
      (presentNotes reads notes).map entryPart =
        (notes.map NoteRow.publicPart).filterMap fun note =>
          ((loadSummaryProjection reads note.id).map loadedPart).map fun loaded =>
            ({ note with sections := .null }, loaded) := by
    rw [presentNotes, List.map_filterMap, List.filterMap_map]
    apply List.filterMap_congr
    intro note _
    rw [Option.map_map, Function.comp_apply, Option.map_map]
    rfl
  rw [factors, factors, listed]
  simp only [load_public alike]

theorem overlay_length (sources : Graph.Rows) (rows : List Graph.Note) :
    (Graph.overlayCollectedSourceState sources rows).length = rows.length := by
  unfold Graph.overlayCollectedSourceState
  dsimp only
  split
  · rfl
  · exact List.length_map _

/-- The source's state over a note. -/
def overlaid (note : NoteRow) (source : Graph.Note) : NoteRow :=
  { note with toSourceState := source.toSourceState }

/-- The circles only fill in group cards. -/
theorem legacy_public (circles : String → Option String) (note : NoteRow) :
    { (withLegacyCircleIds circles note).publicPart with sections := .null } =
      { note.publicPart with sections := .null } := by
  unfold withLegacyCircleIds
  split <;> rfl

theorem effective_zip (circles : String → Option String)
    (found : List (NoteRow × ProjectionRow × ContentFacts)) (source : List Graph.Note) :
    (((List.zipWith overlaid (found.map Prod.fst) source).map (withLegacyCircleIds circles)).zip
        (found.map Prod.snd)).map entryPart =
      (List.zipWith overlaid ((found.map entryPart).map Prod.fst) source).zip
        ((found.map entryPart).map Prod.snd) := by
  induction found generalizing source with
  | nil => rfl
  | cons entry rest ih =>
    cases source with
    | nil => rfl
    | cons state source =>
      have head : entryPart (withLegacyCircleIds circles (overlaid entry.1 state), entry.2) =
          (overlaid (entryPart entry).1 state, (entryPart entry).2) := by
        rw [entryPart, legacy_public]
        rfl
      simp only [List.map_cons, List.zipWith_cons_cons, List.zip_cons_cons, ih, head]

/-- The entries of a list are the same but for the private parts. -/
theorem effective_public (alike : AlikeReads reads reads')
    (listed : notes.map NoteRow.publicPart = notes'.map NoteRow.publicPart) :
    (effectiveNotes reads notes).map entryPart = (effectiveNotes reads' notes').map entryPart := by
  have found := present_public alike listed
  have states (found : List (NoteRow × ProjectionRow × ContentFacts)) :
      (found.map Prod.fst).map stateRow =
        (found.map entryPart).map fun entry => stateRow entry.1 := by
    rw [List.map_map, List.map_map]
    rfl
  have factors (reads : Reads) (notes : List NoteRow) :
      (effectiveNotes reads notes).map entryPart =
        (List.zipWith overlaid (((presentNotes reads notes).map entryPart).map Prod.fst)
          (Graph.overlayCollectedSourceState (sourceRows reads.sources)
            (((presentNotes reads notes).map entryPart).map fun entry => stateRow entry.1))).zip
          (((presentNotes reads notes).map entryPart).map Prod.snd) := by
    rw [effectiveNotes, ← states]
    exact effective_zip _ _ _
  rw [factors, factors, found, sources_public alike.sources]

theorem effective_loaded (reads : Reads) (notes : List NoteRow) :
    (effectiveNotes reads notes).map Prod.snd =
      notes.filterMap fun note => loadSummaryProjection reads note.id := by
  rw [effectiveNotes, List.map_snd_zip, presentNotes, List.map_filterMap]
  · simp only [Option.map_map, Function.comp_def, Option.map_id']
  · simp only [overlayCollectedSourceState, List.length_map, List.length_zipWith,
      overlay_length, Nat.min_self, le_refl]

theorem overlaid_owner {source : List Graph.Note} {x : NoteRow}
    (member : x ∈ List.zipWith overlaid notes source) :
    ∃ note ∈ notes, note.ownerID = x.ownerID := by
  induction notes generalizing source with
  | nil => cases member
  | cons note rest ih =>
    cases source with
    | nil => cases member
    | cons state source =>
      cases member with
      | head => exact ⟨note, List.mem_cons_self, rfl⟩
      | tail _ member =>
        obtain ⟨origin, inside, owner⟩ := ih member
        exact ⟨origin, List.mem_cons_of_mem _ inside, owner⟩

variable {entry : NoteRow × ProjectionRow × ContentFacts}

theorem effective_owner (listed : entry ∈ effectiveNotes reads notes) :
    ∃ note ∈ notes, note.ownerID = entry.1.ownerID := by
  obtain ⟨filled, -⟩ := List.of_mem_zip listed
  obtain ⟨source, member, same⟩ := List.mem_map.mp filled
  have kept : source.ownerID = entry.1.ownerID := by
    rw [← same]
    unfold withLegacyCircleIds
    split <;> rfl
  obtain ⟨found, inside, owner⟩ := overlaid_owner member
  obtain ⟨present, there, first⟩ := List.mem_map.mp inside
  obtain ⟨note, asked, loaded⟩ := List.mem_filterMap.mp there
  obtain ⟨projection, -, made⟩ := Option.map_eq_some_iff.mp loaded
  have original : note.ownerID = found.ownerID := by
    rw [← first, ← made]
  exact ⟨note, asked, original.trans (owner.trans kept)⟩

/-- Whether a summary says that there is text. -/
def textBit (loaded : ProjectionRow × ContentFacts) : Bool :=
  loaded.1.sectionTextHasText.getD loaded.2.contentHasText || loaded.1.hasJsonText

def entryDto (viewer : Viewer) (presigned : Signed)
    (entry : NoteRow × ProjectionRow × ContentFacts) : NoteSummaryDto :=
  buildSummaryDto entry.1 (listFacts entry.1 entry.2.1 entry.2.2) viewer (some presigned)

theorem entryDto_public (presigned : Signed) (other : viewer ≠ some entry.1.ownerID) :
    entryDto viewer presigned entry =
      { entryDto viewer presigned (entryPart entry) with hasText := textBit entry.2 } := by
  have others : viewer ≠ some (entryPart entry).1.ownerID := other
  unfold entryDto buildSummaryDto
  simp only [other, others, if_false, decide_false]
  rfl

theorem entryDto_alike (presigned : Signed) {entry' : NoteRow × ProjectionRow × ContentFacts}
    (same : entryPart entry = entryPart entry') (other : viewer ≠ some entry.1.ownerID) :
    entryDto viewer presigned entry = entryDto viewer presigned entry' ↔
      textBit entry.2 = textBit entry'.2 := by
  have owner : entry.1.ownerID = entry'.1.ownerID := by
    have equal := congrArg (fun entry => entry.1.ownerID) same
    exact equal
  have others : viewer ≠ some entry'.1.ownerID := owner ▸ other
  rw [entryDto_public presigned other, entryDto_public presigned others, same]
  constructor
  · intro equal
    exact congrArg NoteSummaryDto.hasText equal
  · intro bits
    rw [bits]

/-- Two lists with the same parts have the same images when they have the same facts. -/
theorem map_eq_iff {α β γ δ : Type} {part : α → β} {image : α → γ} {fact : α → δ}
    {xs ys : List α} (parts : xs.map part = ys.map part)
    (each : ∀ x ∈ xs, ∀ y, part x = part y → (image x = image y ↔ fact x = fact y)) :
    xs.map image = ys.map image ↔ xs.map fact = ys.map fact := by
  induction xs generalizing ys with
  | nil =>
    rw [List.map_nil, eq_comm, List.map_eq_nil_iff] at parts
    subst parts
    simp
  | cons x xs ih =>
    cases ys with
    | nil => cases parts
    | cons y ys =>
      simp only [List.map_cons, List.cons.injEq] at parts ⊢
      rw [each x List.mem_cons_self y parts.1,
        ih parts.2 fun x member => each x (List.mem_cons_of_mem _ member)]

theorem mapSummaryListResolved_bits (upload : Option UploadService)
    (alike : AlikeReads reads reads')
    (listed : notes.map NoteRow.publicPart = notes'.map NoteRow.publicPart)
    (other : ∀ note ∈ notes, viewer ≠ some note.ownerID) :
    mapSummaryListResolved upload reads notes viewer =
        mapSummaryListResolved upload reads' notes' viewer ↔
      mapSummaryListResolved upload reads notes viewer = none ∨
        (effectiveNotes reads notes).map (fun entry => textBit entry.2) =
          (effectiveNotes reads' notes').map fun entry => textBit entry.2 := by
  have parts := effective_public alike listed
  have targets (reads : Reads) (notes : List NoteRow) :
      ((effectiveNotes reads notes).filterMap fun entry => coverTarget entry.1 entry.2.1) =
        ((effectiveNotes reads notes).map entryPart).filterMap fun entry =>
          coverTarget entry.1 entry.2.1 := by
    rw [List.filterMap_map]
    rfl
  unfold mapSummaryListResolved
  dsimp only
  rw [targets reads, targets reads', parts]
  cases presignNoteMedia upload (((effectiveNotes reads' notes').map entryPart).filterMap
      fun entry => coverTarget entry.1 entry.2.1) with
  | none => simp
  | some presigned =>
    simp only [Option.map_some, Option.some.injEq, reduceCtorEq, false_or]
    apply map_eq_iff parts
    intro entry member entry' same
    obtain ⟨note, asked, owner⟩ := effective_owner member
    exact entryDto_alike presigned same (owner ▸ other note asked)

/-- Whether the text content of an entry is not blank. -/
def showsContent (loaded : ProjectionRow × ContentFacts) : Bool :=
  loaded.1.sectionTextHasText.getD loaded.2.contentHasText

/-- Whether the note, as the projection reads it, has an object among its text blocks. -/
def holdsBlock (reads : Reads) (id : NoteId) : Bool := (reads.projected.find id).any hasJsonText

theorem load_block {id : NoteId} {loaded : ProjectionRow × ContentFacts}
    (made : loadSummaryProjection reads id = some loaded) :
    loaded.1.hasJsonText = holdsBlock reads id := by
  rw [loadSummaryProjection] at made
  obtain ⟨note, found, made⟩ := Option.bind_eq_some_iff.mp made
  have row : loaded.1 = noteSummaryProjection note := by
    dsimp only at made
    split at made
    · rw [← Option.some.inj made]
    · obtain ⟨again, -, whole⟩ := Option.map_eq_some_iff.mp made
      rw [← whole]
  rw [row, holdsBlock, found]
  rfl

theorem bit_alike (alike : AlikeReads reads reads') (id : NoteId) :
    (loadSummaryProjection reads id).map textBit = (loadSummaryProjection reads' id).map textBit ↔
      ∀ loaded, loadSummaryProjection reads id = some loaded →
        showsContent loaded = true ∨ holdsBlock reads id = holdsBlock reads' id := by
  have parts := load_public alike id
  cases left : loadSummaryProjection reads id with
  | none =>
    rw [left] at parts
    rw [Option.map_eq_none_iff.mp parts.symm]
    simp
  | some loaded =>
    rw [left] at parts
    obtain ⟨loaded', right, same⟩ := Option.map_eq_some_iff.mp parts.symm
    have content : showsContent loaded' = showsContent loaded := by
      have equal := congrArg showsContent same
      exact equal
    have bit (loaded : ProjectionRow × ContentFacts) :
        textBit loaded = (showsContent loaded || loaded.1.hasJsonText) := rfl
    rw [right, Option.map_some, Option.map_some, Option.some.injEq, bit, bit, load_block left,
      load_block right, content]
    constructor
    · intro equal other is
      cases is
      cases shown : showsContent loaded with
      | true => exact .inl rfl
      | false =>
        rw [shown, Bool.false_or, Bool.false_or] at equal
        exact .inr equal
    · intro condition
      cases condition loaded rfl with
      | inl shown => rw [shown, Bool.true_or, Bool.true_or]
      | inr same => rw [same]

theorem filterMap_bits {α β γ : Type} {f g : α → Option β} {fact : β → γ} {xs : List α}
    (there : ∀ x ∈ xs, (f x).isSome = (g x).isSome) :
    (xs.filterMap f).map fact = (xs.filterMap g).map fact ↔
      ∀ x ∈ xs, (f x).map fact = (g x).map fact := by
  induction xs with
  | nil => simp
  | cons x xs ih =>
    have head := there x List.mem_cons_self
    have rest := ih fun y member => there y (List.mem_cons_of_mem x member)
    rw [List.forall_mem_cons, ← rest, List.filterMap_cons, List.filterMap_cons]
    cases left : f x <;> cases right : g x <;> simp [left, right] at head ⊢

/-- The lists of alike notes differ where the text content is blank and only one of the notes
holds a block, if at all. -/
theorem mapSummaryListResolved_alike (upload : Option UploadService)
    (alike : AlikeReads reads reads')
    (listed : notes.map NoteRow.publicPart = notes'.map NoteRow.publicPart)
    (other : ∀ note ∈ notes, viewer ≠ some note.ownerID) :
    mapSummaryListResolved upload reads notes viewer =
        mapSummaryListResolved upload reads' notes' viewer ↔
      mapSummaryListResolved upload reads notes viewer = none ∨
        ∀ note ∈ notes, ∀ loaded, loadSummaryProjection reads note.id = some loaded →
          showsContent loaded = true ∨
            holdsBlock reads note.id = holdsBlock reads' note.id := by
  have bits (reads : Reads) (notes : List NoteRow) :
      ((effectiveNotes reads notes).map fun entry => textBit entry.2) =
        (notes.filterMap fun note => loadSummaryProjection reads note.id).map textBit := by
    rw [← effective_loaded, List.map_map]
    rfl
  have ids (notes : List NoteRow) :
      (notes.filterMap fun note => loadSummaryProjection reads' note.id) =
        (notes.map NoteRow.publicPart).filterMap fun note =>
          loadSummaryProjection reads' note.id := by
    rw [List.filterMap_map]
    rfl
  rw [mapSummaryListResolved_bits upload alike listed other, bits reads, bits reads', ids notes',
    ← listed, ← ids notes, filterMap_bits]
  · simp only [bit_alike alike]
  · intro note _
    have parts := congrArg Option.isSome (load_public alike note.id)
    rw [Option.isSome_map, Option.isSome_map] at parts
    exact parts

/-- What other viewers learn of the private data: the detail shows the cards that stand in the
text blocks, and a list whether a note with a blank text has a block. -/
theorem cards_shown_in_text (upload : Option UploadService) {viewer : Viewer} :
    (∀ presigned a, viewer ≠ some a.ownerID →
      (∀ b, Alike a b →
        (mapDetail upload a viewer presigned = mapDetail upload b viewer presigned ↔
          resolvePublishedBlocks upload a.media presigned (textBlocks a) =
            resolvePublishedBlocks upload b.media presigned (textBlocks b))) ∧
      ((∀ b, Alike a b →
          mapDetail upload a viewer presigned = mapDetail upload b viewer presigned) ↔
        textBlocks a = none)) ∧
    ∀ reads reads' notes notes', AlikeReads reads reads' →
      notes.map NoteRow.publicPart = notes'.map NoteRow.publicPart →
      (∀ note ∈ notes, viewer ≠ some note.ownerID) →
      (mapSummaryListResolved upload reads notes viewer =
          mapSummaryListResolved upload reads' notes' viewer ↔
        mapSummaryListResolved upload reads notes viewer = none ∨
          ∀ note ∈ notes, ∀ loaded, loadSummaryProjection reads note.id = some loaded →
            showsContent loaded = true ∨
              holdsBlock reads note.id = holdsBlock reads' note.id) := by
  constructor
  · intro presigned a other
    constructor
    · intro b alike
      exact mapDetail_alike upload presigned alike other
    · exact mapDetail_constant upload presigned other
  · intro reads reads' notes notes' alike listed other
    exact mapSummaryListResolved_alike upload alike listed other

def paragraph : Json := .obj [("type", .str "paragraph")]

def contactCard : Json := .obj [("type", .str "contact"), ("name", .str "Ann")]

/-- A note with the same blocks in its content and in its text section. -/
def noteWith (blocks : List Json) : NoteRow where
  status := .active
  available := true
  workStatus := none
  id := 1
  ownerID := 7
  pinned := false
  collectedFromNoteID := none
  rootSourceNoteID := none
  updatedAt := 0
  title := "Note"
  content := none
  contentJson := .arr blocks
  sections := .obj [("text", .obj [("content", .null), ("contentJson", .arr blocks)])]
  sourceConversationID := none
  remark := none
  imageCount := 0
  videoCount := 0
  audioCount := 0
  mediaCount := 0
  collectedFrom := .null
  createdAt := 0
  coverMedia := none
  groupMemberships := []
  media := []

/-- The guest of a share link is shown the contact card in the text section. -/
theorem card_shown_to_guest :
    ¬ ∀ a b : NoteRow, Alike a b → ∀ viewer : Viewer, viewer ≠ some a.ownerID →
      mapDetail none a viewer none = mapDetail none b viewer none := by
  intro claim
  have equal := claim (noteWith [paragraph]) (noteWith [paragraph, contactCard]) rfl none
    (by decide)
  have lengths := congrArg (fun dto => dto.sections.text.contentJson.map List.length) equal
  revert lengths
  decide +kernel

def noteTable (note : NoteRow) : Rows := ⟨[note], List.nodup_singleton _⟩

def readsOf (note : NoteRow) : Reads :=
  ⟨noteTable note, noteTable note, noteTable note, fun _ => none⟩

/-- Notes without text blocks give the guest equal details, notes with a paragraph equal lists,
whatever is pinned or remarked. -/
theorem cards_shown_in_text_guest :
    (∀ b, Alike { noteWith [] with contentJson := .null, sections := .null } b →
      mapDetail none { noteWith [] with contentJson := .null, sections := .null } none none =
        mapDetail none b none none) ∧
    mapSummaryListResolved none (readsOf (noteWith [paragraph])) [noteWith [paragraph]] none =
      mapSummaryListResolved none (readsOf { noteWith [paragraph, contactCard] with pinned := true })
        [{ noteWith [paragraph, contactCard] with pinned := true }] none := by
  constructor
  · exact ((cards_shown_in_text none).1 none _ (by decide)).2.mpr rfl
  · apply ((cards_shown_in_text none).2 _ _ _ _ ⟨rfl, rfl, rfl⟩ rfl (by decide)).mpr
    right
    intro note listed loaded _
    right
    rw [List.mem_singleton.mp listed]

end CircleBackend.Notes.Summary
