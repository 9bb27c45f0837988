import CircleBackend.Notes.Graph

/-!
# Where a copy comes from

The notes a copy was collected through end in one source note, which `rootSourceNoteID`
names. A purge may lead a copy past the note it came from, never out of its chain.
-/

namespace CircleBackend.Notes.Graph

open Library
open Session (UserId)

/-- The chain of collects from a note to the note at its start. -/
inductive Descends (births : Table Birth NoteId Birth.id) : NoteId → NoteId → Prop
  | source {id : NoteId} : births.find id = some ⟨id, none⟩ → Descends births id id
  | copy {id source root : NoteId} : births.find id = some ⟨id, some source⟩ →
      Descends births source root → Descends births id root

namespace Descends

variable {births births' : Table Birth NoteId Birth.id} {id root root' : NoteId}

theorem start (h : Descends births id root) : births.find root = some ⟨root, none⟩ := by
  induction h with
  | source found => exact found
  | copy _ _ ih => exact ih

theorem unique (h : Descends births id root) (k : Descends births id root') : root = root' := by
  induction h with
  | source found =>
    cases k with
    | source _ => rfl
    | copy other _ =>
      rw [found] at other
      cases other
  | copy found _ ih =>
    cases k with
    | source other =>
      rw [found] at other
      cases other
    | copy other rest =>
      rw [found] at other
      cases other
      exact ih rest

theorem grow (grown : ∀ k b, births.find k = some b → births'.find k = some b)
    (h : Descends births id root) : Descends births' id root := by
  induction h with
  | source found => exact .source (grown _ _ found)
  | copy found _ ih => exact .copy (grown _ _ found) ih

end Descends

/-- What the columns of a note say of its chain. -/
inductive Lineage (births : Table Birth NoteId Birth.id) (note : Note) : Prop
  | source : births.find note.id = some ⟨note.id, none⟩ → note.collectedFromNoteID = none →
      note.rootSourceNoteID = none → Lineage births note
  | copy {from' parent root : NoteId} : births.find note.id = some ⟨note.id, some from'⟩ →
      note.collectedFromNoteID = some parent → note.rootSourceNoteID = some root →
      Descends births note.id root → Descends births parent root → Lineage births note

/-- Two rows of one note that differ in what it shows. -/
structure Kin (old note : Note) : Prop where
  id : note.id = old.id
  ownerID : note.ownerID = old.ownerID
  collectedFromNoteID : note.collectedFromNoteID = old.collectedFromNoteID
  rootSourceNoteID : note.rootSourceNoteID = old.rootSourceNoteID

namespace Lineage

variable {births births' : Table Birth NoteId Birth.id} {note old : Note}

theorem grow (grown : ∀ k b, births.find k = some b → births'.find k = some b)
    (h : Lineage births note) : Lineage births' note := by
  cases h with
  | source found apart rootless => exact .source (grown _ _ found) apart rootless
  | copy found parent root own up =>
    exact .copy (grown _ _ found) parent root (own.grow grown) (up.grow grown)

theorem kin (h : Lineage births old) (kin : Kin old note) : Lineage births note := by
  obtain ⟨id, ownerID, collectedFrom, root⟩ := kin
  cases h with
  | source found apart rootless =>
    exact .source (id ▸ found) (collectedFrom.trans apart) (root.trans rootless)
  | copy found parent rooted own up =>
    exact .copy (id ▸ found) (collectedFrom.trans parent) (root.trans rooted) (id ▸ own) up

/-- The key `collectNote` hands on is the start of the chain. -/
theorem descends (h : Lineage births note) : Descends births note.id note.rootID := by
  cases h with
  | source found _ rootless =>
    rw [Note.rootID, rootless]
    exact .source found
  | copy _ _ root own _ =>
    rw [Note.rootID, root]
    exact own

/-- The note at the start of a chain is no copy. -/
theorem of_start (h : Lineage births note) (start : births.find note.id = some ⟨note.id, none⟩) :
    note.collectedFromNoteID = none ∧ note.rootSourceNoteID = none := by
  cases h with
  | source _ apart rootless => exact ⟨apart, rootless⟩
  | copy found _ _ _ _ =>
    rw [start] at found
    cases found

end Lineage

structure Sound (db : Db) : Prop where
  notes : ∀ id note, db.notes.find id = some note → Lineage db.births note
  readings : ∀ reading ∈ db.readings, Lineage db.births reading.source

theorem Sound.empty : Sound .empty where
  notes := by
    intro id note found
    cases found
  readings := nofun

/-! ## What a transaction may do -/

/-- The row a new note is written with, and the note it was collected from. -/
inductive Fresh (readings : List Reading) (note : Note) : Option NoteId → Prop
  | source : note.collectedFromNoteID = none → note.rootSourceNoteID = none →
      Fresh readings note none
  | copy {reading : Reading} : reading ∈ readings →
      note.collectedFromNoteID = some reading.source.id →
      note.rootSourceNoteID = some reading.source.rootID →
      Fresh readings note (some reading.source.id)

/-- The writes that announce themselves, with the note they are about. -/
def Act.announced : Act → Option NoteId
  | .setStatus _ noteId _ => some noteId
  | .setAvailable _ noteId _ => some noteId
  | .setWorkStatus _ noteId _ => some noteId
  | .deleteNote _ noteId => some noteId
  | .restoreNote _ noteId => some noteId
  | _ => none

/-- The note a purge is about. -/
def Act.purged : Act → Option NoteId
  | .purgeNote _ noteId => some noteId
  | .purgeExpired _ noteId => some noteId
  | _ => none

/-- A write of a note that does not: an edit or a pin, of the status it leaves. -/
inductive Act.Edits (old : Note) : Act → NoteStatus → Prop
  | updateNote (ownerID : UserId) (status : Option WritableStatus) (pinned : Option Bool) :
      Edits old (.updateNote ownerID old.id status pinned)
        ((status.map WritableStatus.status).getD old.status)
  | setPinned (ownerID : UserId) (pinned : Bool) :
      Edits old (.setPinned ownerID old.id pinned) old.status

inductive Effect (db : Db) (now : Time) : Act → Db → Prop
  | kept {act : Act} {db' : Db} : db'.notes = db.notes → db'.births = db.births →
      (∀ reading ∈ db'.readings, reading ∈ db.readings ∨
        ∃ id, db.notes.find id = some reading.source) →
      act.announced = none → (db'.outbox = db.outbox ∨ ∃ root job, act = .fanout root job) →
      Effect db now act db'
  | written {act : Act} {db' : Db} {note : Note} {source : Option NoteId} :
      db.write note source = some db' → Fresh db.readings note source → act.announced = none →
      Effect db now act db'
  | edited {act : Act} {old note : Note} : db.notes.find old.id = some old → Kin old note →
      Act.Edits old act note.status → note.available = old.available →
      note.workStatus = old.workStatus → Effect db now act (db.save now note)
  | announced {act : Act} {db' : Db} {old note : Note} {workStatusChanged : Bool} :
      db.notes.find old.id = some old → Kin old note → act.announced = some old.id →
      (db.save now note).enqueue now old.rootID workStatusChanged = some db' →
      Effect db now act db'
  | purged {act : Act} {db' : Db} {noteId : NoteId} {guard : Db.PurgeGuard} :
      db.purgeDeletedNote noteId guard = some db' → act.announced = none →
      act.purged = some noteId → Effect db now act db'

variable {db db' : Db} {note : Note}

theorem owned_some {ownerID : UserId} {noteId : NoteId} (h : db.owned ownerID noteId = some note) :
    db.notes.find note.id = some note ∧ note.id = noteId ∧ note.ownerID = ownerID ∧
      note.status ≠ .deleted := by
  obtain ⟨found, holds⟩ := Option.filter_eq_some_iff.mp h
  have own : note.id = noteId := Table.find_key found
  simp only [Note.standing, ne_eq, decide_not, Bool.and_eq_true, decide_eq_true_eq,
    Bool.not_eq_eq_eq_not, Bool.not_true, decide_eq_false_iff_not] at holds
  exact ⟨own ▸ found, own, holds.1, holds.2⟩

theorem next_effect {now : Time} {act : Act}
    (h : db.next (now, act) = some db') : Effect db now act db' := by
  cases act with
  | createNote id ownerID status pinned => exact .written h (.source rfl rfl) rfl
  | collectRead userID noteId =>
    obtain ⟨source, found, h⟩ := Option.bind_eq_some_iff.mp h
    obtain ⟨effective, _, rfl⟩ := Option.map_eq_some_iff.mp h
    refine .kept rfl rfl ?_ rfl (Or.inl rfl)
    intro reading member
    cases member with
    | head => exact Or.inr ⟨noteId, (Option.filter_eq_some_iff.mp found).1⟩
    | tail _ older => exact Or.inl older
  | collectNote id reading =>
    rw [Db.next, Db.collectNote] at h
    split at h
    · cases h
    · rename_i member
      split at h
      · cases h
        exact .kept rfl rfl (fun reading member => Or.inl member) rfl (Or.inl rfl)
      · exact .written h (.copy (of_not_not member) rfl rfl) rfl
  | updateNote ownerID noteId status pinned =>
    obtain ⟨note, own, rfl⟩ := Option.map_eq_some_iff.mp h
    obtain ⟨found, rfl, _, _⟩ := owned_some own
    exact .edited found ⟨rfl, rfl, rfl, rfl⟩ (.updateNote ownerID status pinned) rfl rfl
  | setPinned ownerID noteId pinned =>
    obtain ⟨note, own, rfl⟩ := Option.map_eq_some_iff.mp h
    obtain ⟨found, rfl, _, _⟩ := owned_some own
    exact .edited found ⟨rfl, rfl, rfl, rfl⟩ (.setPinned ownerID pinned) rfl rfl
  | setStatus ownerID noteId status =>
    obtain ⟨note, own, queued⟩ := Option.bind_eq_some_iff.mp h
    obtain ⟨found, rfl, _, _⟩ := owned_some own
    refine .announced found ?_ rfl queued
    exact ⟨rfl, rfl, rfl, rfl⟩
  | setAvailable ownerID noteId available =>
    obtain ⟨note, own, queued⟩ := Option.bind_eq_some_iff.mp h
    obtain ⟨found, rfl, _, _⟩ := owned_some own
    refine .announced found ?_ rfl queued
    exact ⟨rfl, rfl, rfl, rfl⟩
  | setWorkStatus ownerID noteId workStatus =>
    obtain ⟨note, own, queued⟩ := Option.bind_eq_some_iff.mp h
    obtain ⟨found, rfl, _, _⟩ := owned_some (Option.filter_eq_some_iff.mp own).1
    refine .announced found ?_ rfl queued
    exact ⟨rfl, rfl, rfl, rfl⟩
  | deleteNote ownerID noteId =>
    obtain ⟨note, own, queued⟩ := Option.bind_eq_some_iff.mp h
    obtain ⟨found, rfl, _, _⟩ := owned_some own
    refine .announced found ?_ rfl queued
    exact ⟨rfl, rfl, rfl, rfl⟩
  | restoreNote ownerID noteId =>
    obtain ⟨note, own, queued⟩ := Option.bind_eq_some_iff.mp h
    have found := (Option.filter_eq_some_iff.mp own).1
    obtain rfl : note.id = noteId := Table.find_key found
    split at queued
    · cases queued
    · refine .announced found ?_ rfl queued
      exact ⟨rfl, rfl, rfl, rfl⟩
  | purgeNote ownerID noteId => exact .purged h rfl rfl
  | purgeExpired deletedBefore noteId => exact .purged h rfl rfl
  | fanout rootNoteID job =>
    have kept : db'.notes = db.notes ∧ db'.births = db.births ∧ db'.readings = db.readings := by
      cases job with
      | none =>
        cases h
        exact ⟨rfl, rfl, rfl⟩
      | some job =>
        rw [Db.next, Db.worked] at h
        split at h
        · cases h
          exact ⟨rfl, rfl, rfl⟩
        · cases h
    exact .kept kept.1 kept.2.1 (fun reading member => Or.inl (kept.2.2 ▸ member)) rfl
      (Or.inr ⟨rootNoteID, job, rfl⟩)

theorem write_some {source : Option NoteId} (h : db.write note source = some db') :
    db.births.insert ⟨note.id, source⟩ = some db'.births ∧
      db.notes.insert note = some db'.notes ∧ db'.readings = db.readings ∧
      db'.outbox = db.outbox := by
  obtain ⟨births, born, h⟩ := Option.bind_eq_some_iff.mp h
  obtain ⟨notes, wrote, rfl⟩ := Option.map_eq_some_iff.mp h
  exact ⟨born, wrote, rfl, rfl⟩

theorem enqueue_some {now : Time} {root : NoteId} {changed : Bool}
    (h : db.enqueue now root changed = some db') :
    db'.notes = db.notes ∧ db'.births = db.births ∧ db'.readings = db.readings ∧
      ∀ key, db'.outbox.find key =
        if key = root then some (enqueued root changed now (db.outbox.find root))
        else db.outbox.find key := by
  have keyed : (enqueued root changed now (db.outbox.find root)).rootNoteID = root := by
    cases found : db.outbox.find root with
    | none => rfl
    | some job => exact (Table.find_key found : job.rootNoteID = root)
  unfold Db.enqueue at h
  split at h
  case h_1 job found =>
    cases h
    refine ⟨rfl, rfl, rfl, fun key => ?_⟩
    rw [Table.find_put_of_find (keyed.symm ▸ found), keyed]
  case h_2 absent =>
    obtain ⟨outbox, inserted, rfl⟩ := Option.map_eq_some_iff.mp h
    refine ⟨rfl, rfl, rfl, fun key => ?_⟩
    rw [Table.find_insert inserted, keyed]
    by_cases own : root = key
    · rw [if_pos own, if_pos own.symm]
    · rw [if_neg own, if_neg fun same => own same.symm]

theorem save_find (now : Time) {old : Note} (found : db.notes.find old.id = some old)
    (kin : Kin old note) (key : NoteId) :
    (db.save now note).notes.find key =
      if key = old.id then some { note with updatedAt := now } else db.notes.find key := by
  exact Table.find_put_own (a := { note with updatedAt := now }) found kin.id key

theorem relink_find (notes : Rows) (noteId parentID key : NoteId) :
    (Db.relink notes noteId parentID).find key = (notes.find key).map fun child =>
      if Db.relinks notes noteId parentID child then
        { child with collectedFromNoteID := some parentID }
      else child := by
  rw [Db.relink, Table.find_updateMany]

/-- What is left of the notes by a purge. -/
theorem purge_find {noteId : NoteId} {guard : Db.PurgeGuard}
    (h : db.purgeDeletedNote noteId guard = some db') :
    ∃ row, db.notes.find noteId = some row ∧ row.status = .deleted ∧ db'.births = db.births ∧
      db'.readings = db.readings ∧ db'.outbox = db.outbox ∧ db'.notes.find noteId = none ∧
      ∀ key, key ≠ noteId → db'.notes.find key = (db.notes.find key).map fun child =>
        row.collectedFromNoteID.elim child fun parentID =>
          if Db.relinks db.notes noteId parentID child then
            { child with collectedFromNoteID := some parentID }
          else child := by
  obtain ⟨row, found, rfl⟩ := Option.map_eq_some_iff.mp h
  obtain ⟨found, holds⟩ := Option.filter_eq_some_iff.mp found
  have deleted : row.status = .deleted := of_decide_eq_true (Bool.and_eq_true _ _ ▸ holds).1
  -- The rows the deletion starts from: the children led past the note, or the rows as they are.
  have led : ∀ key, ((row.collectedFromNoteID.elim db.notes fun parentID =>
      Db.relink db.notes noteId parentID).find key) =
      (db.notes.find key).map fun child => row.collectedFromNoteID.elim child fun parentID =>
          if Db.relinks db.notes noteId parentID child then
            { child with collectedFromNoteID := some parentID }
          else child := by
    intro key
    cases row.collectedFromNoteID with
    | none => exact Option.map_id'.symm
    | some parentID => exact relink_find db.notes noteId parentID key
  refine ⟨row, found, deleted, rfl, rfl, rfl, ?_, ?_⟩
  · rw [Table.find_deleteMany, led, found]
    cases row.collectedFromNoteID with
    | none => simp [Option.filter, deleted, Table.find_key found]
    | some parentID =>
      have own : row.id = noteId := Table.find_key found
      simp only [Option.map_some, Option.elim_some, Option.filter]
      split <;> simp [deleted, own]
  · intro key apart
    rw [Table.find_deleteMany, led]
    cases child : db.notes.find key with
    | none => rfl
    | some child' =>
      have own : child'.id = key := Table.find_key child
      rw [Option.map_some, Option.filter_eq_some_iff]
      refine ⟨rfl, ?_⟩
      cases row.collectedFromNoteID with
      | none => simp [own, apart]
      | some parentID =>
        simp only [Option.elim_some]
        split <;> simp [own, apart]

/-! ## Every chain starts where its notes say -/

theorem insert_grows {births births' : Table Birth NoteId Birth.id} {birth : Birth}
    (h : births.insert birth = some births') :
    ∀ k b, births.find k = some b → births'.find k = some b := by
  intro k b found
  rw [Table.find_insert h]
  split
  · rename_i same
    rw [← same, Table.insert_fresh h] at found
    cases found
  · exact found

theorem sound_step {event : Time × Act} (did : db.Next event db')
    (sound : Sound db) : Sound db' := by
  obtain ⟨now, act⟩ := event
  cases next_effect did with
  | kept notes births readings _ _ =>
    constructor
    · intro id note found
      rw [births]
      exact sound.notes id note (notes ▸ found)
    · intro reading member
      rw [births]
      cases readings reading member with
      | inl before => exact sound.readings reading before
      | inr row =>
        obtain ⟨id, found⟩ := row
        exact sound.notes id _ found
  | @written _ note source wrote fresh _ =>
    obtain ⟨born, wrote, readings, _⟩ := write_some wrote
    have grown := insert_grows born
    have own : db'.births.find note.id = some ⟨note.id, source⟩ := by
      rw [Table.find_insert born, if_pos rfl]
    constructor
    · intro id row found
      rw [Table.find_insert wrote] at found
      split at found
      · cases found
        cases fresh with
        | source apart rootless => exact .source own apart rootless
        | copy member parent root =>
          have up := ((sound.readings _ member).grow grown).descends
          exact .copy own parent root (.copy own up) up
      · exact (sound.notes id row found).grow grown
    · intro reading member
      exact (sound.readings reading (readings ▸ member)).grow grown
  | @edited old note found kin _ _ _ =>
    constructor
    · intro id row found'
      rw [save_find now found kin] at found'
      split at found'
      · cases found'
        exact (sound.notes _ _ found).kin ⟨kin.id, kin.ownerID, kin.collectedFromNoteID,
          kin.rootSourceNoteID⟩
      · exact sound.notes id row found'
    · exact sound.readings
  | @announced _ old note _ found kin _ queued =>
    obtain ⟨notes, births, readings, _⟩ := enqueue_some queued
    constructor
    · intro id row found'
      rw [notes, save_find now found kin] at found'
      rw [births]
      split at found'
      · cases found'
        exact (sound.notes _ _ found).kin ⟨kin.id, kin.ownerID, kin.collectedFromNoteID,
          kin.rootSourceNoteID⟩
      · exact sound.notes id row found'
    · intro reading member
      rw [births]
      exact sound.readings reading (readings ▸ member)
  | @purged _ noteId _ did _ _ =>
    obtain ⟨row, found, _, births, readings, _, gone, left⟩ := purge_find did
    constructor
    · intro id child found'
      rw [births]
      by_cases own : id = noteId
      · rw [own, gone] at found'
        cases found'
      · rw [left id own] at found'
        obtain ⟨old, stood, rfl⟩ := Option.map_eq_some_iff.mp found'
        have kept := sound.notes id old stood
        cases up : row.collectedFromNoteID with
        | none => exact kept
        | some parentID =>
          simp only [Option.elim_some]
          split
          · rename_i led
            have through : old.collectedFromNoteID = some noteId :=
              of_decide_eq_true (Bool.and_eq_true _ _ ▸ led).1
            cases kept with
            | source _ apart _ =>
              rw [apart] at through
              cases through
            | copy born parent root own' above =>
              rw [through] at parent
              cases parent
              -- The purged note is of the same chain, and so is what it was collected from.
              cases sound.notes _ _ found with
              | source _ apart _ =>
                rw [apart] at up
                cases up
              | copy _ parent' _ own'' above' =>
                rw [up] at parent'
                cases parent'
                have key : row.id = noteId := Table.find_key found
                have same := (key ▸ own'').unique above
                exact .copy born rfl root own' (same ▸ above')
          · exact kept
    · intro reading member
      rw [births]
      exact sound.readings reading (readings ▸ member)

theorem run_sound {events : List (Time × Act)} (run : Run Db.Next .empty events db) : Sound db :=
  run.preserves (P := Sound) (fun _ _ _ did sound => sound_step did sound) .empty

end CircleBackend.Notes.Graph
