import CircleBackend.Notes.Media

/-!
# Whose objects a read signs

A key that is signed for the owner of a note or a draft lies in his own directory, or he got it
with a note he collected. What breaks this is a poster sent beside an object key that was got so.
-/

namespace CircleBackend.Notes.Media

open Library

/-- A key of the user's own, or one that was on a note when he collected it. -/
def Allowed (db : Db) (userID : OwnerId) (key : ObjectKey) : Prop :=
  under userID key = true ∨ (userID, key) ∈ db.gained

/-- Every key on the rows and items of a note. -/
def Fine (store : Storage) (db : Db) (note : Note) : Prop :=
  ∀ key ∈ note.keys store, Allowed db note.ownerID key

structure Sound (store : Storage) (db : Db) : Prop where
  notes : ∀ note ∈ db.notes.rows, Fine store db note
  readings : ∀ note ∈ db.readings, Fine store db note
  drafts : ∀ draft ∈ db.drafts.rows, ∀ key ∈ draft.mediaKeys, Allowed db draft.ownerID key

theorem Sound.empty (store : Storage) : Sound store .empty := ⟨nofun, nofun, nofun⟩

variable {store : Storage}

variable {note : Note} {key objectKey : ObjectKey} {media : List MediaRow}
variable {target : Url × ObjectKey}

theorem Fine.more {db db' : Db} (h : Fine store db note)
    (more : ∀ entry ∈ db.gained, entry ∈ db'.gained) : Fine store db' note := by
  intro key member
  exact (h key member).imp id (more _)

theorem mem_keys :
    key ∈ note.keys store ↔ ∃ row, (row ∈ note.media ∨ row ∈ note.sections.items) ∧
      (key = row.objectKey ∨ store.keyOf row.posterUrl = some key) := by
  simp only [Note.keys, List.mem_flatMap, List.mem_append, MediaRow.keys, List.mem_cons,
    Option.mem_toList]

/-! ## What an accepted request holds -/

/-- A poster that passes lies with the object it stands beside. -/
theorem poster_beside {posterUrl : Option Url} (named : store.keyOf posterUrl = some key)
    (passes : isForeignPosterKey store objectKey posterUrl = false) :
    ∃ owner, noteMediaOwner objectKey = some owner ∧ under owner key = true := by
  unfold isForeignPosterKey at passes
  rw [named] at passes
  cases owner : noteMediaOwner objectKey with
  | none =>
    rw [owner] at passes
    cases passes
  | some uid =>
    rw [owner] at passes
    exact ⟨uid, rfl, by simpa using passes⟩

theorem owner_of_under {ownerID owner : OwnerId} (own : under ownerID objectKey = true)
    (named : noteMediaOwner objectKey = some owner) : owner = ownerID := by
  unfold under at own
  split at own
  · rename_i uid _ _
    have same : uid = ownerID := of_decide_eq_true own
    simp only [noteMediaOwner] at named
    split at named
    · cases named
    · exact (Option.some.inj named).symm.trans same
  · cases own

theorem assertMediaOwnership_ok {ownerID : OwnerId} {grandfathered : List ObjectKey} {u : Unit}
    (h : assertMediaOwnership store ownerID media grandfathered = .ok u) :
    ∀ row ∈ media, (under ownerID row.objectKey = true ∨ row.objectKey ∈ grandfathered) ∧
      isForeignPosterKey store row.objectKey row.posterUrl = false := by
  obtain ⟨_, owned, h⟩ := bind_ok h
  have kept := throwIf_ok owned
  have passes := throwIf_ok h
  intro row member
  constructor
  · have held := List.any_eq_false.mp kept row member
    simp only [Bool.and_eq_true, Bool.not_eq_true', not_and] at held
    by_cases own : under ownerID row.objectKey = true
    · exact Or.inl own
    · have inherited := held (Bool.eq_false_iff.mpr own)
      exact Or.inr (List.contains_iff_mem.mp (Bool.not_eq_false _ ▸ inherited))
  · exact Bool.eq_false_iff.mpr (List.any_eq_false.mp passes row member)

theorem referred_mem {validated : List MediaRow} {url : Option Url}
    {row : MediaRow} (h : referred validated objectKey url = some row) : row ∈ validated := by
  have found : ∀ p : MediaRow → Bool, validated.reverse.find? p = some row → row ∈ validated :=
    fun p found => List.mem_reverse.mp (List.mem_of_find?_eq_some found)
  unfold referred at h
  cases first : validated.reverse.find? fun row =>
      row.objectKey = objectKey && some row.url = url with
  | some other =>
    simp only [first] at h
    exact found _ (first.trans h)
  | none =>
    simp only [first] at h
    cases second : validated.reverse.find? fun row => row.objectKey = objectKey with
    | some other =>
      simp only [second] at h
      exact found _ (second.trans h)
    | none =>
      simp only [second] at h
      exact found _ h

theorem resolveSectionMediaItems_ok {audio : Bool} {requested : Option (List MediaItem)}
    {fallback validated rows : List MediaRow}
    (h : resolveSectionMediaItems audio requested fallback validated = .ok rows) :
    ∀ item ∈ rows, ∃ row ∈ validated, item = row.canonical := by
  intro item member
  obtain ⟨asked, _, made⟩ := mapM_ok h item member
  obtain ⟨resolved, found, made⟩ := bind_ok made
  obtain ⟨_, _, made⟩ := bind_ok made
  cases made
  exact ⟨resolved, referred_mem (orThrow_ok found), rfl⟩

/-- The rows and the section items of a request are its checked media. -/
theorem deriveNoteContent_ok {input : NoteInput} {sections : Sections}
    (h : deriveNoteContent store input = .ok (media, sections)) :
    media = derivedMedia store input ∧ ∀ item ∈ sections.items, ∃ row ∈ media,
      item = row.canonical := by
  obtain ⟨_, _, h⟩ := bind_ok h
  obtain ⟨mediaItems, first, h⟩ := bind_ok h
  obtain ⟨showcase, second, h⟩ := bind_ok h
  obtain ⟨audio, third, h⟩ := bind_ok h
  cases h
  refine ⟨rfl, fun item member => ?_⟩
  obtain member | member := List.mem_append.mp member
  · obtain member | member := List.mem_append.mp member
    · exact resolveSectionMediaItems_ok first item member
    · exact resolveSectionMediaItems_ok second item member
  · exact resolveSectionMediaItems_ok third item member

theorem keyOf_strip (store : Storage) (url : Option Url) :
    store.keyOf (url.map Url.strip) = store.keyOf url := by
  cases url <;> rfl

/-- The keys of a note that is written from checked media. -/
theorem written_keys {sections : Sections}
    (rows : note.media = sortedMedia media) (items : note.sections = sections)
    (canonical : ∀ item ∈ sections.items, ∃ row ∈ media, item = row.canonical)
    (member : key ∈ note.keys store) :
    ∃ row ∈ media, key = row.objectKey ∨ store.keyOf row.posterUrl = some key := by
  obtain ⟨row, stands, named⟩ := mem_keys.mp member
  obtain stands | stands := stands
  · rw [rows] at stands
    exact ⟨row, (List.perm_insertionSort _ _).mem_iff.mp stands, named⟩
  · rw [items] at stands
    obtain ⟨source, inside, rfl⟩ := canonical row stands
    refine ⟨source, inside, ?_⟩
    simp only [MediaRow.canonical, keyOf_strip] at named
    exact named

/-! ## The writes -/

/-- No edit sends, beside an object key that is not its owner's, a poster he did not get with a
note he collected. -/
def Act.OwnPosters (store : Storage) (db : Db) : Act → Prop
  | .updateNote ownerID _ input => ∀ row ∈ derivedMedia store input,
      under ownerID row.objectKey = false → ∀ key, store.keyOf row.posterUrl = some key →
        (ownerID, key) ∈ db.gained
  | _ => True

section Writes

variable {store : Storage} {db db' : Db}

variable {ownerID : OwnerId}

/-- Media whose object keys are the owner's or held already by the note. -/
theorem checked_allowed {media : List MediaRow} {grandfathered : List ObjectKey} {u : Unit}
    (owned : assertMediaOwnership store ownerID media grandfathered = .ok u)
    (inherited : ∀ key ∈ grandfathered, Allowed db ownerID key)
    (posters : ∀ row ∈ media, under ownerID row.objectKey = false →
      ∀ key, store.keyOf row.posterUrl = some key → Allowed db ownerID key)
    {row : MediaRow} (member : row ∈ media) {key : ObjectKey}
    (named : key = row.objectKey ∨ store.keyOf row.posterUrl = some key) :
    Allowed db ownerID key := by
  obtain ⟨held, passes⟩ := assertMediaOwnership_ok owned row member
  obtain rfl | poster := named
  · exact held.elim Or.inl (inherited _)
  · cases own : under ownerID row.objectKey with
    | true =>
      obtain ⟨owner, ofKey, beside⟩ := poster_beside poster passes
      rw [owner_of_under own ofKey] at beside
      exact Or.inl beside
    | false => exact posters row member own key poster

theorem Sound.createNote (sound : Sound store db) {id : NoteId} {input : NoteInput}
    (h : db.createNote store ownerID id input = .ok db') : Sound store db' := by
  obtain ⟨⟨derived, sections⟩, made, h⟩ := bind_ok h
  obtain ⟨_, owned, h⟩ := bind_ok h
  obtain ⟨notes, inserted, h⟩ := bind_ok h
  cases h
  obtain ⟨_, canonical⟩ := deriveNoteContent_ok made
  refine ⟨fun note member => ?_, sound.readings, sound.drafts⟩
  obtain older | rfl := (Table.mem_insert (orThrow_ok inserted)).mp member
  · exact sound.notes note older
  · intro key member
    obtain ⟨row, inside, named⟩ := written_keys rfl rfl canonical member
    apply checked_allowed owned (fun _ none' => nomatch none') ?_ inside named
    intro row inside foreign
    obtain own | none' := (assertMediaOwnership_ok owned row inside).1
    · rw [foreign] at own
      cases own
    · cases none'

theorem Sound.updateNote (sound : Sound store db) {existing : Note}
    {input : NoteInput} (posters : Act.OwnPosters store db (.updateNote ownerID existing input))
    (h : db.updateNote store ownerID existing input = .ok db') : Sound store db' := by
  obtain ⟨_, read, h⟩ := bind_ok h
  obtain ⟨⟨derived, sections⟩, made, h⟩ := bind_ok h
  obtain ⟨_, owned, h⟩ := bind_ok h
  obtain ⟨note, found, h⟩ := bind_ok h
  cases h
  obtain ⟨rfl, canonical⟩ := deriveNoteContent_ok made
  obtain ⟨found, owner⟩ := Option.filter_eq_some_iff.mp (orThrow_ok found)
  have owner := of_decide_eq_true owner
  have read' := throwIf_ok read
  simp only [Bool.or_eq_false_iff, decide_eq_false_iff_not, not_not] at read'
  have inherited : ∀ key ∈ existing.media.map MediaRow.objectKey, Allowed db ownerID key := by
    intro key member
    obtain ⟨row, inside, rfl⟩ := List.mem_map.mp member
    have fine := sound.readings existing read'.1 row.objectKey
      (mem_keys.mpr ⟨row, Or.inl inside, Or.inl rfl⟩)
    rwa [read'.2] at fine
  refine ⟨fun other member => ?_, sound.readings, sound.drafts⟩
  obtain ⟨old, inside, rfl⟩ := List.mem_map.mp member
  split
  · intro key member
    obtain ⟨row, inside, named⟩ := written_keys rfl rfl canonical member
    have allowed := checked_allowed owned inherited
      (fun row member foreign key poster => Or.inr (posters row member foreign key poster))
      inside named
    exact owner.symm ▸ allowed
  · exact sound.notes old inside

theorem Sound.collectNote (sound : Sound store db) {userID : OwnerId} {copyId : NoteId}
    {source : Note} (h : db.collectNote store userID copyId source = .ok db') : Sound store db' := by
  obtain ⟨_, read, h⟩ := bind_ok h
  obtain ⟨notes, inserted, h⟩ := bind_ok h
  cases h
  have more : ∀ entry ∈ db.gained,
      entry ∈ db.gained ++ (source.keys store).map fun key => (userID, key) :=
    fun entry member => List.mem_append_left _ member
  refine ⟨fun note member => ?_, fun note member => (sound.readings note member).more more,
    fun draft member key inside => (sound.drafts draft member key inside).imp id (more _)⟩
  obtain older | rfl := (Table.mem_insert (orThrow_ok inserted)).mp member
  · exact (sound.notes note older).more more
  · intro key member
    exact Or.inr (List.mem_append_right _ (List.mem_map.mpr ⟨key, member, rfl⟩))

theorem Sound.saveNoteDraft (sound : Sound store db) {clientDraftID : Nat} {source : Option Note}
    {input : DraftInput} (h : db.saveNoteDraft store ownerID clientDraftID source input = .ok db') :
    Sound store db' := by
  obtain ⟨_, read, h⟩ := bind_ok h
  obtain ⟨keys, _, h⟩ := bind_ok h
  obtain ⟨_, _, h⟩ := bind_ok h
  obtain ⟨_, owned, h⟩ := bind_ok h
  cases h
  refine ⟨sound.notes, sound.readings, fun draft member => ?_⟩
  have held : ∀ key ∈ keys, Allowed db ownerID key := by
    intro key inside
    have kept := List.any_eq_false.mp (throwIf_ok owned) key inside
    simp only [Bool.or_eq_true, Bool.and_eq_true, Bool.not_eq_true', not_or, not_and] at kept
    by_cases own : under ownerID key = true
    · exact Or.inl own
    · have listed := List.contains_iff_mem.mp
        (Bool.not_eq_false _ ▸ kept.2 (Bool.eq_false_iff.mpr own))
      cases source with
      | none => cases listed
      | some note =>
        obtain ⟨row, there, named⟩ := List.mem_flatMap.mp listed
        have read' := throwIf_ok read
        simp only [Option.any_some, Bool.or_eq_false_iff, decide_eq_false_iff_not,
          not_not] at read'
        have fine := sound.readings note read'.2.1 key (mem_keys.mpr ⟨row, Or.inl there, by
          simpa only [MediaRow.keys, List.mem_cons, Option.mem_toList] using named⟩)
        rwa [read'.2.2] at fine
  have found := Table.mem_find member
  rw [Table.find_upsert] at found
  split at found
  · rename_i own
    have mediaKeys : draft.mediaKeys = keys ∧ draft.ownerID = ownerID := by
      have owner : ownerID = draft.ownerID := congrArg Prod.fst own
      cases there : db.drafts.find (draft.ownerID, draft.clientDraftID) with
      | none =>
        rw [there] at found
        cases found
        exact ⟨rfl, rfl⟩
      | some old =>
        rw [there] at found
        exact ⟨by rw [← Option.some.inj found]; rfl, owner.symm⟩
    rw [mediaKeys.1, mediaKeys.2]
    exact held
  · exact sound.drafts draft (Table.find_mem found)

theorem sound_step {act : Act} (did : db.Next store act db') (posters : act.OwnPosters store db)
    (sound : Sound store db) : Sound store db' := by
  cases act with
  | read noteId =>
    obtain ⟨note, found, rfl⟩ := Option.map_eq_some_iff.mp did
    refine ⟨sound.notes, fun other member => ?_, sound.drafts⟩
    cases member with
    | head => exact sound.notes note (Table.find_mem found)
    | tail _ older => exact sound.readings other older
  | createNote ownerID id input => exact sound.createNote (toOption_some did)
  | updateNote ownerID existing input => exact sound.updateNote posters (toOption_some did)
  | collectNote userID id source => exact sound.collectNote (toOption_some did)
  | saveNoteDraft ownerID clientDraftID source input =>
    exact sound.saveNoteDraft (toOption_some did)

theorem run_sound {acts : List Act}
    (run : Run (Run.Where (Db.Next store) (fun db act => act.OwnPosters store db)) .empty acts db) :
    Sound store db :=
  run.preserves (P := Sound store) (fun _ _ _ did sound => sound_step did.1 did.2 sound)
    (.empty store)

end Writes

/-! ## The reads -/

theorem presign_mem {targets : List (Url × ObjectKey)}
    (h : target ∈ presignNoteMedia targets) : target ∈ targets := by
  have kept : ∀ map : List (Url × ObjectKey), target ∈ targets.foldl setUrl map →
      target ∈ map ∨ target ∈ targets := by
    clear h
    induction targets with
    | nil => exact fun map member => Or.inl member
    | cons first rest ih =>
      intro map member
      obtain set | later := ih _ member
      · unfold setUrl at set
        split at set
        · obtain ⟨entry, inside, rfl⟩ := List.mem_map.mp set
          split
          · exact Or.inr List.mem_cons_self
          · exact Or.inl inside
        · obtain older | new := List.mem_append.mp set
          · exact Or.inl older
          · exact Or.inr (List.mem_singleton.mp new ▸ List.mem_cons_self)
      · exact Or.inr (List.mem_cons_of_mem _ later)
  exact (kept [] h).elim nofun id

theorem rowTargets_key {row : MediaRow} (member : target ∈ rowTargets store row) :
    target.2 = row.objectKey ∨ store.keyOf row.posterUrl = some target.2 := by
  obtain _ | ⟨_, member⟩ := member
  · exact Or.inl rfl
  · unfold posterTarget at member
    split at member
    · rename_i poster key _ named
      split at member
      · cases member
      · rw [List.mem_singleton.mp member]
        exact Or.inr named
    · cases member

theorem draftTargets_key {keys : List ObjectKey} {objectKey : Option ObjectKey}
    {posterUrl : Option Url}
    (member : target ∈ draftTargets store keys objectKey posterUrl) : target.2 ∈ keys := by
  unfold draftTargets at member
  split at member
  · cases member
  · split at member
    · cases member
    · rename_i inside
      obtain _ | ⟨_, member⟩ := member
      · exact of_not_not inside
      · split at member
        · split at member
          · rename_i there
            rw [List.mem_singleton.mp member]
            exact there
          · cases member
        · cases member

mutual

theorem Block.targets_key {store : Storage} {keys : List ObjectKey} {target : Url × ObjectKey} :
    (block : Block) → (depth : Nat) → target ∈ block.targets store keys depth → target.2 ∈ keys
  | .image _ children, depth, member => by
    rw [Block.targets] at member
    exact (List.mem_append.mp member).elim draftTargets_key (blockTargets_key children (depth + 1))
  | .video _ children, depth, member => by
    rw [Block.targets] at member
    exact (List.mem_append.mp member).elim draftTargets_key (blockTargets_key children (depth + 1))
  | .other children, depth, member => by
    rw [Block.targets] at member
    exact blockTargets_key children (depth + 1) member

theorem blockTargets_key {store : Storage} {keys : List ObjectKey} {target : Url × ObjectKey} :
    (blocks : List Block) → (depth : Nat) → target ∈ blockTargets store keys depth blocks →
      target.2 ∈ keys
  | [], _, member => nomatch member
  | block :: rest, depth, member => by
    rw [blockTargets] at member
    split at member
    · cases member
    · exact (List.mem_append.mp member).elim (Block.targets_key block depth)
        (blockTargets_key rest depth)

end

/-- Every object that is signed for a user who reads a note, a draft or a list of his own is his,
or was on a note when he collected it. -/
theorem signed_keys_allowed {store : Storage} {acts : List Act} {db : Db}
    (run : Run (Run.Where (Db.Next store) (fun db act => act.OwnPosters store db)) .empty acts db)
    (userID : OwnerId) :
    (∀ note ∈ db.notes.rows, note.ownerID = userID →
      ∀ signed ∈ detailSigned store note, Allowed db userID signed.2) ∧
    (∀ draft ∈ db.drafts.rows, draft.ownerID = userID →
      ∀ signed ∈ draftSigned store draft, Allowed db userID signed.2) ∧
    ∀ notes : List Note, (∀ note ∈ notes, note ∈ db.notes.rows ∧ note.ownerID = userID) →
      ∀ signed ∈ listSigned notes, Allowed db userID signed.2 := by
  have sound := run_sound run
  refine ⟨?_, ?_, ?_⟩
  · rintro note member rfl signed inside
    obtain ⟨row, stands, target⟩ := List.mem_flatMap.mp (presign_mem inside)
    exact sound.notes note member _
      (mem_keys.mpr ⟨row, List.mem_append.mp stands, rowTargets_key target⟩)
  · rintro draft member rfl signed inside
    apply sound.drafts draft member
    obtain listed | text := List.mem_append.mp (presign_mem inside)
    · obtain items | content := List.mem_append.mp listed
      · obtain ⟨item, _, target⟩ := List.mem_flatMap.mp items
        exact draftTargets_key target
      · exact blockTargets_key _ 0 content
    · exact blockTargets_key _ 0 text
  · intro notes own signed inside
    obtain ⟨note, member, cover⟩ := List.mem_filterMap.mp (presign_mem inside)
    obtain ⟨row, found, rfl⟩ := Option.map_eq_some_iff.mp cover
    obtain ⟨index, _, stands⟩ := Option.bind_eq_some_iff.mp found
    obtain ⟨stored, rfl⟩ := own note member
    exact sound.notes note stored _
      (mem_keys.mpr ⟨row, Or.inl (List.mem_of_getElem? stands), Or.inl rfl⟩)

/-! ## A poster beside an inherited object -/

/-- A storage with two objects of one user. -/
def cdn : Storage where
  publicBase := "https://cdn"
  objectKeyFromPublicUrl base :=
    if base = "https://cdn/notes/ann/a.jpg" then some ["notes", "ann", "a.jpg"]
    else if base = "https://cdn/notes/ann/b.jpg" then some ["notes", "ann", "b.jpg"]
    else none

def shared : MediaItem := ⟨.image, ["notes", "ann", "a.jpg"], none, none, 0⟩

def listing (item : MediaItem) : NoteInput := ⟨[item], none, none, none, none, none⟩

def sharedRow : MediaRow :=
  ⟨.image, ["notes", "ann", "a.jpg"], ⟨"https://cdn/notes/ann/a.jpg", none⟩, none, 0⟩

/-- The note of its author, and the copy of its reader. -/
def published (id : NoteId) (ownerID : OwnerId) : Note :=
  ⟨id, ownerID, [sharedRow], ⟨[sharedRow], [sharedRow], []⟩, some 0⟩

/-- A note is collected, and the reader of the copy edits it. -/
def copied (edit : MediaItem) : List Act :=
  [.createNote "ann" 1 (listing shared), .read 1, .collectNote "bob" 2 (published 1 "ann"),
    .read 2, .updateNote "bob" (published 2 "bob") (listing edit)]

def besideShared : MediaItem :=
  { shared with posterUrl := some ⟨"https://cdn/notes/ann/b.jpg", none⟩ }

/-- An object of the author that was on no note is signed for the reader of the copy. -/
theorem beside_signed : ∃ db note, Run (Db.Next cdn) .empty (copied besideShared) db ∧
    note ∈ db.notes.rows ∧ note.ownerID = "bob" ∧
    (⟨"https://cdn/notes/ann/b.jpg", none⟩, ["notes", "ann", "b.jpg"]) ∈ detailSigned cdn note ∧
    ¬ Allowed db "bob" ["notes", "ann", "b.jpg"] := by
  have done : (((copied besideShared).foldlM (Db.next cdn) .empty).any fun db =>
      decide (("bob", ["notes", "ann", "b.jpg"]) ∉ db.gained) &&
      (db.notes.find 2).any fun note => decide (note.ownerID = "bob") &&
        decide ((⟨"https://cdn/notes/ann/b.jpg", none⟩, ["notes", "ann", "b.jpg"]) ∈
          detailSigned cdn note)) = true := by
    decide +kernel
  obtain ⟨db, ran, done⟩ := (Option.any_eq_true _ _).mp done
  obtain ⟨apart, done⟩ := Bool.and_eq_true _ _ ▸ done
  obtain ⟨note, found, done⟩ := (Option.any_eq_true _ _).mp done
  obtain ⟨owner, signed⟩ := Bool.and_eq_true _ _ ▸ done
  refine ⟨db, note, Run.of_foldlM ran, Table.find_mem found, of_decide_eq_true owner,
    of_decide_eq_true signed, ?_⟩
  rintro (own | gained)
  · cases own
  · exact of_decide_eq_true apart gained

/-- An edit that sends no poster beside the object it keeps. -/
def keepsPosters (_ : Db) : Act → Bool
  | .updateNote ownerID _ input => (derivedMedia cdn input).all fun row =>
      under ownerID row.objectKey || (cdn.keyOf row.posterUrl).isNone
  | _ => true

theorem keepsPosters_own {db : Db} {act : Act} (keeps : keepsPosters db act = true) :
    act.OwnPosters cdn db := by
  cases act with
  | updateNote ownerID existing input =>
    intro row member foreign key named
    have held := List.all_eq_true.mp keeps row member
    rw [foreign, named] at held
    cases held
  | _ => trivial

theorem signed_keys_allowed_copied : ∃ db note,
    Run (Run.Where (Db.Next cdn) (fun db act => act.OwnPosters cdn db)) .empty (copied shared) db ∧
    db.notes.find 2 = some note ∧ (detailSigned cdn note).length = 1 ∧
      ∀ signed ∈ detailSigned cdn note, Allowed db "bob" signed.2 := by
  have done : (((copied shared).foldlM (Run.whenever keepsPosters (Db.next cdn)) .empty).any
      fun db => (db.notes.find 2).any fun note => decide (note.ownerID = "bob") &&
        decide ((detailSigned cdn note).length = 1)) = true := by
    decide +kernel
  obtain ⟨db, ran, done⟩ := (Option.any_eq_true _ _).mp done
  obtain ⟨note, found, done⟩ := (Option.any_eq_true _ _).mp done
  obtain ⟨owner, signed⟩ := Bool.and_eq_true _ _ ▸ done
  have run : Run (Run.Where (Db.Next cdn) (fun db act => act.OwnPosters cdn db)) .empty
      (copied shared) db := by
    apply (Run.where_of_foldlM ran).mono
    intro s act t did
    exact ⟨did.1, keepsPosters_own did.2⟩
  obtain ⟨details, _, _⟩ := signed_keys_allowed run "bob"
  exact ⟨db, note, run, found, of_decide_eq_true signed,
    details note (Table.find_mem found) (of_decide_eq_true owner)⟩

end CircleBackend.Notes.Media
