import CircleBackend.Notes.Lineage

/-!
# What the reads of a copy report

The overlay asks for the key of a copy: the source note itself where the columns name it,
the note the copy was collected from where the select leaves that column out. A chat card
climbs from note to note.
-/

namespace CircleBackend.Notes.Graph

open Library
open Session (UserId)

/-- What there is to report of a source note; a purged one counts as deleted. -/
def live (notes : Rows) (root : NoteId) : SourceState :=
  (notes.find root).elim purgedSource Note.toSourceState

/-! ## The rounds of the overlay -/

theorem stateOf_select (notes : Rows) (p : Note → Bool) (id : NoteId) :
    stateOf (notes.select p) id = (notes.find id).filter p := by
  have own := Table.select_key notes id
  rw [Table.select] at own
  rw [stateOf, Table.select, ← List.head?_filter, List.filter_comm, own]
  cases notes.find id with
  | none => rfl
  | some row => by_cases holds : p row = true <;> simp [holds, Option.filter]

/-- The rows are those there are of the ids asked for. -/
def Read (notes : Rows) (queried : List NoteId) (states : List Note) : Prop :=
  ∀ id, stateOf states id = if id ∈ queried then notes.find id else none

variable {notes : Rows} {states : List Note} {note : Note} {db : Db} {root : NoteId}

theorem Read.more {queried ids : List NoteId}
    (h : Read notes queried states) (fresh : ∀ id ∈ ids, id ∉ queried) :
    Read notes (queried ++ ids) (states ++ notes.select fun row => row.id ∈ ids) := by
  intro id
  have before := h id
  have now := stateOf_select notes (fun row => row.id ∈ ids) id
  unfold stateOf at before now ⊢
  rw [List.find?_append, before, now]
  by_cases old : id ∈ queried
  · have apart : id ∉ ids := fun member => fresh id member old
    rw [if_pos old, if_pos (List.mem_append_left _ old)]
    cases found : notes.find id with
    | none => rfl
    | some row => rfl
  · rw [if_neg old, Option.none_or]
    by_cases member : id ∈ ids
    · rw [if_pos (List.mem_append_right _ member)]
      cases found : notes.find id with
      | none => rfl
      | some row =>
        have own : row.id = id := Table.find_key found
        simp [own, member]
    · rw [if_neg (by simp [old, member])]
      cases found : notes.find id with
      | none => rfl
      | some row =>
        have own : row.id = id := Table.find_key found
        simp [own, member]

theorem gather_read (depth : Nat) (frontier : List NoteId)
    {queried : List NoteId} (h : Read notes queried states) :
    Read notes (gather notes depth frontier queried states).1
        (gather notes depth frontier queried states).2 ∧
      (∀ id ∈ queried, id ∈ (gather notes depth frontier queried states).1) ∧
      (0 < depth → ∀ id ∈ frontier, id ∈ (gather notes depth frontier queried states).1) := by
  induction depth generalizing frontier queried states with
  | zero => exact ⟨h, fun id member => member, fun none' => absurd none' (Nat.lt_irrefl 0)⟩
  | succ depth ih =>
    rw [gather]
    split
    · rename_i asked
      refine ⟨h, fun id member => member, fun _ id member => ?_⟩
      by_contra apart
      have left : id ∈ frontier.filter fun id => id ∉ queried :=
        List.mem_filter.mpr ⟨member, decide_eq_true apart⟩
      rw [asked] at left
      cases left
    · have fresh : ∀ id ∈ frontier.filter fun id => id ∉ queried, id ∉ queried := by
        intro id member
        exact of_decide_eq_true (List.mem_filter.mp member).2
      obtain ⟨read, kept, _⟩ := ih _ (h.more fresh)
      refine ⟨read, fun id member => kept id (List.mem_append_left _ member), ?_⟩
      intro _ id member
      apply kept
      by_cases old : id ∈ queried
      · exact List.mem_append_left _ old
      · exact List.mem_append_right _ (List.mem_filter.mpr ⟨member, decide_eq_true old⟩)

/-- Two rounds also ask for what the rows of the first one name. -/
theorem gather_key (depth : Nat) {frontier : List NoteId} {row : Note} {key : NoteId}
    (member : row.id ∈ frontier) (found : notes.find row.id = some row)
    (named : row.sourceKey = some key) : key ∈ (gather notes (depth + 2) frontier [] []).1 := by
  have nothing : Read notes [] [] := fun id => by simp [stateOf]
  rw [gather]
  have all : (frontier.filter fun id => id ∉ ([] : List NoteId)) = frontier := by simp
  rw [all]
  split
  · rename_i none'
    rw [none'] at member
    cases member
  · have read : Read notes ([] ++ frontier) ([] ++ notes.select fun row => row.id ∈ frontier) :=
      nothing.more fun id _ => List.not_mem_nil
    obtain ⟨_, kept, asked⟩ := gather_read (depth + 1)
      (((notes.select fun row => row.id ∈ frontier).filterMap Note.sourceKey).filter
        fun id => id ∉ [] ++ frontier) read
    by_cases old : key ∈ [] ++ frontier
    · exact kept key old
    · apply asked (Nat.succ_pos depth)
      apply List.mem_filter.mpr ⟨List.mem_filterMap.mpr ⟨row, ?_, named⟩, decide_eq_true old⟩
      exact Table.mem_select.mpr ⟨Table.find_mem found, decide_eq_true member⟩

/-! ## Where the overlay arrives -/

theorem Lineage.sourceKey {births : Table Birth NoteId Birth.id}
    (h : Lineage births note) : note.sourceKey = note.rootSourceNoteID := by
  cases h with
  | source _ apart rootless =>
    rw [Note.sourceKey, apart, rootless]
    rfl
  | copy _ _ root _ _ =>
    rw [Note.sourceKey, root]
    rfl

/-- The source note a key leads to, over at most one copy. -/
def reached (notes : Rows) (key : NoteId) : SourceState :=
  match notes.find key with
  | none => purgedSource
  | some row =>
    match row.rootSourceNoteID with
    | none => row.toSourceState
    | some root => live notes root

theorem climb_top {steps : Nat} {seen : List NoteId} {current : Note}
    (top : current.sourceKey = none) : climb states steps seen current = current.toSourceState := by
  cases steps with
  | zero => rfl
  | succ steps => rw [climb, top]

/-- The source note of a chain has no key of its own. -/
theorem Sound.top (sound : Sound db) {id : NoteId} {row : Note}
    (descends : Descends db.births id root) (found : db.notes.find root = some row) :
    row.sourceKey = none := by
  have own : row.id = root := Table.find_key found
  have kept := sound.notes root row found
  have start := descends.start
  rw [← own] at start
  rw [kept.sourceKey]
  exact (kept.of_start start).2

theorem rootState_gather (sound : Sound db) {initialIDs : List NoteId} {key : NoteId}
    (asked : key ∈ initialIDs) :
    rootState (gather db.notes 8 initialIDs [] []).1 (gather db.notes 8 initialIDs [] []).2 key =
      some (reached db.notes key) := by
  have nothing : Read db.notes [] [] := fun id => by simp [stateOf]
  obtain ⟨read, _, queried⟩ := gather_read 8 initialIDs nothing
  have inside := queried (by decide) key asked
  rw [rootState, read key, if_pos inside, reached]
  cases found : db.notes.find key with
  | none => rw [if_pos inside]
  | some row =>
    have own : row.id = key := Table.find_key found
    have kept := sound.notes key row found
    cases rooted : row.rootSourceNoteID with
    | none =>
      simp only [rooted]
      rw [climb_top (kept.sourceKey.trans rooted)]
    | some root =>
      have named : row.sourceKey = some root := kept.sourceKey.trans rooted
      have also := gather_key 6 (own.symm ▸ asked) (own.symm ▸ found) named
      have up : Descends db.births row.id root := by
        have descends := kept.descends
        rwa [Note.rootID, rooted] at descends
      simp only [climb, named, List.not_mem_nil, if_false, rooted]
      rw [read root, if_pos also, live]
      cases there : db.notes.find root with
      | none => rfl
      | some source =>
        simp only [Option.elim_some]
        rw [climb_top (sound.top up there)]

/-- A row as the overlay leaves it. -/
def overlaid (notes : Rows) (note : Note) : Note :=
  match note.collectedFromNoteID, note.sourceKey with
  | some _, some key => note.follow (reached notes key)
  | _, _ => note

theorem overlay_rows (sound : Sound db) (rows : List Note) :
    overlayCollectedSourceState db.notes rows = rows.map (overlaid db.notes) := by
  rw [overlayCollectedSourceState]
  split
  · rename_i keyless
    have none' : ∀ note ∈ rows, overlaid db.notes note = note := by
      intro note member
      unfold overlaid
      split
      · rename_i key _ named
        have asked : key ∈ (rows.filterMap Note.sourceKey).dedup :=
          List.mem_dedup.mpr (List.mem_filterMap.mpr ⟨note, member, named⟩)
        rw [keyless] at asked
        cases asked
      · rfl
    exact (List.map_id' rows ▸ List.map_congr_left none').symm
  · apply List.map_congr_left
    intro note member
    cases copy : note.collectedFromNoteID with
    | none => simp only [overlaid, copy]
    | some parent =>
      cases named : note.sourceKey with
      | none => simp only [overlaid, copy, named]
      | some key =>
        have asked : key ∈ (rows.filterMap Note.sourceKey).dedup :=
          List.mem_dedup.mpr (List.mem_filterMap.mpr ⟨note, member, named⟩)
        simp only [overlaid, copy, named, rootState_gather sound asked, Option.elim_some]

theorem overlaid_id (notes : Rows) (note : Note) : (overlaid notes note).id = note.id := by
  unfold overlaid
  split <;> rfl

theorem stateOf_map {f : Note → Note} (same : ∀ row, (f row).id = row.id) (rows : List Note)
    (id : NoteId) : stateOf (rows.map f) id = (stateOf rows id).map f := by
  unfold stateOf
  rw [List.find?_map]
  congr 2
  funext row
  simp only [Function.comp_apply, same]

theorem stateOf_mem {rows : List Note} (stored : ∀ row ∈ rows, notes.find row.id = some row)
    (member : note ∈ rows) : stateOf rows note.id = some note := by
  cases found : stateOf rows note.id with
  | none =>
    have apart := List.find?_eq_none.mp found note member
    exact absurd (decide_eq_true rfl) apart
  | some row =>
    have seen : rows.find? (fun row => row.id = note.id) = some row := found
    have holds := List.find?_some seen
    have own : row.id = note.id := of_decide_eq_true holds
    have there := stored row (List.mem_of_find?_eq_some seen)
    rw [own, stored note member] at there
    exact there.symm

/-! ## The source a key leads to -/

section Reached

variable {db : Db} {note : Note} {root : NoteId}

/-- The key of a copy is the start of its chain. -/
theorem Sound.root_of (sound : Sound db) (found : db.notes.find note.id = some note)
    (copy : note.collectedFromNoteID.isSome) (descends : Descends db.births note.id root) :
    note.rootSourceNoteID = some root := by
  cases sound.notes _ _ found with
  | source _ apart _ =>
    rw [apart] at copy
    cases copy
  | copy _ _ rooted own _ => exact rooted.trans (congrArg some (own.unique descends))

theorem reached_root (sound : Sound db) (descends : Descends db.births note.id root) :
    reached db.notes root = live db.notes root := by
  unfold reached live
  cases found : db.notes.find root with
  | none => rfl
  | some row =>
    have top := sound.top descends found
    rw [(sound.notes root row found).sourceKey] at top
    simp only [top, Option.elim_some]

/-- By the note it was collected from a copy reaches its source, as long as that note is
there. -/
theorem reached_parent (sound : Sound db) {parent : NoteId}
    (found : db.notes.find note.id = some note) (copy : note.collectedFromNoteID = some parent)
    (descends : Descends db.births note.id root) :
    reached db.notes parent =
      if (db.notes.find parent).isSome then live db.notes root else purgedSource := by
  have up : Descends db.births parent root := by
    cases sound.notes _ _ found with
    | source _ apart _ =>
      rw [apart] at copy
      cases copy
    | copy _ collected _ own above =>
      rw [copy] at collected
      cases collected
      exact own.unique descends ▸ above
  unfold reached
  cases there : db.notes.find parent with
  | none => rfl
  | some row =>
    have own : row.id = parent := Table.find_key there
    have descends' := (sound.notes parent row there).descends
    rw [own] at descends'
    have same := descends'.unique up
    cases rooted : row.rootSourceNoteID with
    | none =>
      have here : row.rootID = parent := by rw [Note.rootID, rooted, Option.getD_none, own]
      have itself : parent = root := here.symm.trans same
      simp only [rooted, Option.isSome_some, if_true, live, ← itself, there, Option.elim_some]
    | some root' =>
      have named : row.rootID = root' := by rw [Note.rootID, rooted, Option.getD_some]
      simp only [rooted, Option.isSome_some, if_true, ← named, same]

end Reached

/-! ## The climb of a chat card -/

/-- The rows from a note up to a source note that are there, and how many there are. -/
inductive Linked (notes : Rows) (root : NoteId) : Nat → Note → Prop
  | here {note : Note} : note.id = root → note.collectedFromNoteID = none →
      Linked notes root 0 note
  | up {links : Nat} {note parent : Note} : note.collectedFromNoteID = some parent.id →
      notes.find parent.id = some parent → Linked notes root links parent →
      Linked notes root (links + 1) note

theorem Linked.unique {links links' : Nat}
    (h : Linked notes root links note) (k : Linked notes root links' note) : links = links' := by
  induction h generalizing links' with
  | here _ top =>
    cases k with
    | here _ _ => rfl
    | up collected _ _ =>
      rw [top] at collected
      cases collected
  | up collected found _ ih =>
    cases k with
    | here _ top =>
      rw [top] at collected
      cases collected
    | up collected' found' above =>
      rw [collected] at collected'
      have same := Option.some.inj collected'
      rw [same, found'] at found
      cases found
      exact congrArg (· + 1) (ih above)

/-- What is seen lies below: a chain that ends comes by no note twice. -/
theorem ascend_linked {links : Nat} (linked : Linked notes root links note) {depth : Nat}
    {seen : List NoteId} (bound : links ≤ depth) (found : notes.find note.id = some note)
    (below : ∀ level row, Linked notes root level row → notes.find row.id = some row →
      row.id ∈ seen → links ≤ level) : notes.find root = some (ascend notes depth seen note) := by
  induction linked generalizing depth seen with
  | here own top =>
    cases depth with
    | zero => exact own ▸ found
    | succ depth =>
      simp only [ascend, top]
      exact own ▸ found
  | @up links note parent collected there above ih =>
    obtain ⟨depth, rfl⟩ : ∃ less, depth = less + 1 := ⟨depth - 1, by omega⟩
    have unseen : parent.id ∉ seen := by
      intro member
      have := below links parent above there member
      omega
    simp only [ascend, collected, unseen, if_false, there]
    apply ih (by omega) there
    intro level row linked' found' member
    cases List.mem_cons.mp member with
    | inl same =>
      rw [same, there] at found'
      cases found'
      exact Nat.le_of_eq (above.unique linked')
    | inr older =>
      have := below level row linked' found' older
      omega

/-! ## One source for every read -/

/-- In every state of the notes a copy is reported with the state of the note its chain starts
at, and as deleted once that note is purged: by the overlay of whole rows whatever was purged
on the way, by the batched states as long as the note the copy now hangs on is there (otherwise
as deleted), by a chat card wherever the chain stands and is climbed to its end. -/
theorem copies_follow_source {events : List (Time × Act)} {db : Db}
    (run : Run Db.Next .empty events db) {note : Note} {parent root : NoteId}
    (found : db.notes.find note.id = some note) (copy : note.collectedFromNoteID = some parent)
    (descends : Descends db.births note.id root) :
    (∀ rows : List Note, (∀ row ∈ rows, db.notes.find row.id = some row) → note ∈ rows →
      stateOf (overlayCollectedSourceState db.notes rows) note.id =
        some (note.follow (live db.notes root))) ∧
    (∀ rows : List Note, (∀ row ∈ rows, db.notes.find row.id = some row) → note ∈ rows →
      stateOf (overlayCollectedSourceState db.notes (rows.map selected)) note.id =
        some ((selected note).follow
          (if (db.notes.find parent).isSome then live db.notes root else purgedSource))) ∧
    ∀ links ≤ 8, Linked db.notes root links note → ∀ viewerID, note.standing →
      note.readableBy viewerID →
      resolveNoteCardSourceState db.notes viewerID note.id =
        some ⟨root, (live db.notes root).workStatus, (live db.notes root).publicationStatus⟩ := by
  have sound := run_sound run
  have rooted := sound.root_of found (by rw [copy]; rfl) descends
  refine ⟨?_, ?_, ?_⟩
  · intro rows stored member
    have key : note.sourceKey = some root := by rw [(sound.notes _ _ found).sourceKey, rooted]
    rw [overlay_rows sound, stateOf_map (overlaid_id db.notes), stateOf_mem stored member,
      Option.map_some]
    simp only [overlaid, copy, key, reached_root sound descends]
  · intro rows stored member
    have key : (selected note).sourceKey = some parent := copy
    have copied : (selected note).collectedFromNoteID = some parent := copy
    rw [overlay_rows sound, stateOf_map (overlaid_id db.notes),
      stateOf_map (f := selected) (fun _ => rfl), stateOf_mem stored member, Option.map_some,
      Option.map_some]
    simp only [overlaid, copied, key, reached_parent sound found copy descends]
  · intro links bound linked viewerID standing readable
    have below : ∀ level row, Linked db.notes root level row → db.notes.find row.id = some row →
        row.id ∈ [note.id] → links ≤ level := by
      intro level row linked' found' member
      rw [List.mem_singleton.mp member, found] at found'
      cases found'
      exact Nat.le_of_eq (linked.unique linked')
    have top := ascend_linked linked bound found below
    have own : (ascend db.notes 8 [note.id] note).id = root := Table.find_key top
    have visible : (some note : Option Note).filter
        (fun row => row.standing && row.readableBy viewerID) = some note := by
      simp [Option.filter, standing, readable]
    rw [resolveNoteCardSourceState, found, visible, Option.map_some, live, top]
    simp only [Note.card, own, Option.elim_some]

def original : Note := ⟨⟨.active, true, none⟩, 1, 10, false, none, none, 1⟩

def firstCopy : Note := ⟨⟨.active, true, none⟩, 2, 11, false, some 1, some 1, 3⟩

/-- A copy of a copy. -/
def secondCopy : Note := ⟨⟨.active, true, none⟩, 3, 12, false, some 2, some 1, 5⟩

def collectedTwice : List (Time × Act) :=
  [(1, .createNote 1 10 none none), (2, .collectRead 11 1),
    (3, .collectNote 2 ⟨11, original, none⟩), (4, .collectRead 12 2),
    (5, .collectNote 3 ⟨12, firstCopy, none⟩)]

theorem copies_follow_source_twice : ∃ db note, Run Db.Next .empty collectedTwice db ∧
    db.notes.find 3 = some note ∧
    stateOf (overlayCollectedSourceState db.notes [note]) 3 =
      some (note.follow (live db.notes 1)) ∧
    resolveNoteCardSourceState db.notes 99 3 =
      some ⟨1, (live db.notes 1).workStatus, (live db.notes 1).publicationStatus⟩ := by
  have done : ((collectedTwice.foldlM Db.next .empty).any fun db =>
      decide (db.births.find 1 = some ⟨1, none⟩) && decide (db.births.find 2 = some ⟨2, some 1⟩) &&
      decide (db.births.find 3 = some ⟨3, some 2⟩) && decide (db.notes.find 1 = some original) &&
      decide (db.notes.find 2 = some firstCopy) &&
      decide (db.notes.find secondCopy.id = some secondCopy)) = true := by
    decide +kernel
  obtain ⟨db, ran, done⟩ := (Option.any_eq_true _ _).mp done
  simp only [Bool.and_eq_true, decide_eq_true_eq] at done
  obtain ⟨⟨⟨⟨⟨born, copied⟩, recopied⟩, source⟩, first⟩, second⟩ := done
  have top : Linked db.notes 1 0 original := .here rfl rfl
  have between : Linked db.notes 1 1 firstCopy := .up rfl source top
  have linked : Linked db.notes 1 2 secondCopy :=
    .up rfl first between
  have descends : Descends db.births secondCopy.id 1 := .copy recopied (.copy copied (.source born))
  obtain ⟨whole, _, card⟩ := copies_follow_source (Run.of_foldlM ran) second rfl descends
  refine ⟨db, _, Run.of_foldlM ran, second, whole _ ?_ (List.mem_singleton.mpr rfl),
    card 2 (by decide) linked 99 rfl rfl⟩
  intro row member
  rw [List.mem_singleton.mp member]
  exact second

/-- The reader of the second copy has the first note collected as well, when the copy between
the two is purged. -/
def collectedAside : List (Time × Act) :=
  collectedTwice ++ [(6, .collectRead 12 1), (7, .collectNote 4 ⟨12, original, none⟩),
    (8, .deleteNote 11 2), (9, .purgeNote 11 2)]

/-- The second copy still hangs on the note that is gone, and the batched states take its
source for deleted. -/
theorem collected_aside_taken_for_deleted : ∃ db note, Run Db.Next .empty collectedAside db ∧
    db.notes.find 3 = some note ∧ Descends db.births 3 1 ∧
    live db.notes 1 = ⟨.active, true, none⟩ ∧
    stateOf (overlayCollectedSourceState db.notes [selected note]) 3 =
      some ((selected note).follow purgedSource) ∧
    getSourceStates db.notes 99 [3] = [⟨3, none, .deleted⟩] := by
  have done : ((collectedAside.foldlM Db.next .empty).any fun db =>
      decide (db.births.find 1 = some ⟨1, none⟩) && decide (db.births.find 2 = some ⟨2, some 1⟩) &&
      decide (db.births.find 3 = some ⟨3, some 2⟩) &&
      decide (live db.notes 1 = ⟨.active, true, none⟩) &&
      decide (getSourceStates db.notes 99 [3] = [⟨3, none, .deleted⟩]) &&
      (db.notes.find 3).any fun note =>
        decide (stateOf (overlayCollectedSourceState db.notes [selected note]) 3 =
          some ((selected note).follow purgedSource))) = true := by
    decide +kernel
  obtain ⟨db, ran, done⟩ := (Option.any_eq_true _ _).mp done
  simp only [Bool.and_eq_true, decide_eq_true_eq] at done
  obtain ⟨⟨⟨⟨⟨born, copied⟩, recopied⟩, source⟩, states⟩, there⟩ := done
  obtain ⟨note, found, gone⟩ := (Option.any_eq_true _ _).mp there
  exact ⟨db, note, Run.of_foldlM ran, found, .copy recopied (.copy copied (.source born)), source,
    of_decide_eq_true gone, states⟩

theorem births_step {db' : Db} {event : Time × Act} (did : db.Next event db') :
    ∀ k b, db.births.find k = some b → db'.births.find k = some b := by
  obtain ⟨now, act⟩ := event
  cases next_effect did with
  | kept _ births => exact births ▸ fun _ _ born => born
  | written wrote => exact insert_grows (write_some wrote).1
  | edited => exact fun _ _ born => born
  | announced _ _ _ queued => exact (enqueue_some queued).2.1 ▸ fun _ _ born => born
  | purged did =>
    obtain ⟨_, _, _, births, _⟩ := purge_find did
    exact births ▸ fun _ _ born => born

/-- The note at the start of a copy's chain is settled when it is collected, whatever is edited,
deleted or purged later, and is no copy itself. -/
theorem root_stands {db' : Db} {note' : Note} {events later : List (Time × Act)}
    (run : Run Db.Next .empty events db) (on : Run Db.Next db later db')
    (found : db.notes.find note.id = some note)
    (found' : db'.notes.find note.id = some note') :
    note'.rootID = note.rootID ∧ db'.births.find note.rootID = some ⟨note.rootID, none⟩ := by
  have grown : ∀ k b, db.births.find k = some b → db'.births.find k = some b :=
    on.preserves (P := fun t => ∀ k b, db.births.find k = some b → t.births.find k = some b)
      (fun _ _ _ did so_far k b born => births_step did k b (so_far k b born)) fun _ _ born => born
  have before := ((run_sound run).notes _ _ found).descends.grow grown
  have after := ((run_sound (run.append on)).notes _ _ found').descends
  have key : note'.id = note.id := Table.find_key found'
  exact ⟨(key ▸ after).unique before, before.start⟩

/-- The note between is purged. -/
theorem root_stands_purged : ∃ db db' note', Run Db.Next .empty collectedTwice db ∧
    Run Db.Next db [(6, .deleteNote 11 2), (7, .purgeNote 11 2)] db' ∧
    db'.notes.find 3 = some note' ∧ note'.rootID = 1 := by
  have done : ((collectedTwice.foldlM Db.next .empty).any fun db =>
      decide (db.notes.find secondCopy.id = some secondCopy) &&
      ([(6, .deleteNote 11 2), (7, .purgeNote 11 2)].foldlM Db.next db).any fun db' =>
        (db'.notes.find 3).isSome) = true := by
    decide +kernel
  obtain ⟨db, ran, done⟩ := (Option.any_eq_true _ _).mp done
  obtain ⟨found, on⟩ := Bool.and_eq_true_iff.mp done
  obtain ⟨db', on, left⟩ := (Option.any_eq_true _ _).mp on
  obtain ⟨note', found'⟩ := Option.isSome_iff_exists.mp left
  exact ⟨db, db', note', .of_foldlM ran, .of_foldlM on, found',
    (root_stands (.of_foldlM ran) (.of_foldlM on) (of_decide_eq_true found) found').1⟩

end CircleBackend.Notes.Graph
