import CircleBackend.Notes.Walks

/-!
# What is announced

A change of a source note is queued for everybody who follows it, in the transaction that
makes it. What another user is shown of a note is its own row and the source state over it.
-/

namespace CircleBackend.Notes.Graph

open Library
open Session (UserId)

/-- The state of the row, and what the overlay makes of it. -/
def shown (notes : Rows) (id : NoteId) : Option (SourceState × List SourceState) :=
  (notes.find id).map fun row =>
    (row.toSourceState, (overlayCollectedSourceState notes [row]).map Note.toSourceState)

variable {row old : Note} {db db' : Db}

theorem live_of_find {notes : Rows} {root : NoteId}
    (found : notes.find root = some row) : live notes root = row.toSourceState := by
  rw [live, found, Option.elim_some]

theorem shown_eq (sound : Sound db) {id : NoteId} (found : db.notes.find id = some row) :
    shown db.notes id = some (row.toSourceState, [live db.notes row.rootID]) := by
  have own : row.id = id := Table.find_key found
  have kept := sound.notes id row found
  rw [shown, found, Option.map_some, overlay_rows sound]
  simp only [List.map_cons, List.map_nil, overlaid]
  cases kept with
  | source _ apart rootless =>
    have itself : row.rootID = id := by rw [Note.rootID, rootless, Option.getD_none, own]
    simp only [apart, itself, live_of_find found]
  | copy born parent rooted own' up =>
    have key : row.sourceKey = some row.rootID := by
      rw [(sound.notes id row found).sourceKey, Note.rootID, rooted, Option.getD_some]
    have descends := (sound.notes id row found).descends
    simp only [parent, key, reached_root sound descends]
    rfl

/-- What a note shows is the rows of the note and of its source. -/
theorem shown_same (sound : Sound db) (sound' : Sound db') {id : NoteId}
    {row' : Note} (found : db.notes.find id = some row) (found' : db'.notes.find id = some row')
    (state : row'.toSourceState = row.toSourceState) (root : row'.rootID = row.rootID)
    (source : live db'.notes row.rootID = live db.notes row.rootID) :
    shown db'.notes id = shown db.notes id := by
  rw [shown_eq sound found, shown_eq sound' found', state, root, source]

/-- A job for everybody who follows a source, from the first page on and newer than any that
runs. -/
def Announced (db db' : Db) (root : NoteId) : Prop :=
  ∃ job, db'.outbox.find root = some job ∧ job.status = .pending ∧ job.stage = .owners ∧
    job.noteCursor = none ∧ job.chatConversationCursor = none ∧ job.chatUserCursor = none ∧
    ((db.outbox.find root).elim 0 FanoutJob.generation) < job.generation

theorem enqueue_announced {now : Time} {root : NoteId} {changed : Bool}
    (h : db.enqueue now root changed = some db') : Announced db db' root := by
  obtain ⟨_, _, _, outbox⟩ := enqueue_some h
  refine ⟨_, (outbox root).trans (if_pos rfl), ?_⟩
  cases db.outbox.find root with
  | none => exact ⟨rfl, rfl, rfl, rfl, rfl, Nat.zero_lt_one⟩
  | some job => exact ⟨rfl, rfl, rfl, rfl, rfl, Nat.lt_succ_self _⟩

/-- An edit that sends no status, or the one the note has. -/
def Act.keepsStatus (notes : Rows) : Act → Prop
  | .updateNote _ noteId (some status) _ =>
    ∀ row, notes.find noteId = some row → row.status = status.status
  | _ => True

theorem Act.Edits.status_kept {act : Act} {status : NoteStatus} {notes : Rows}
    (edits : Act.Edits old act status) (found : notes.find old.id = some old)
    (keeps : act.keepsStatus notes) : status = old.status := by
  cases edits with
  | updateNote ownerID status pinned =>
    cases status with
    | none => rfl
    | some status => exact (keeps old found).symm
  | setPinned ownerID pinned => rfl

theorem Act.Edits.silent {act : Act} {status : NoteStatus}
    (edits : Act.Edits old act status) : act.announced = none := by
  cases edits <;> rfl

/-- One note of a save, seen from all others. -/
theorem live_save {now : Time} {note : Note} (notes : db'.notes = (db.save now note).notes)
    (found : db.notes.find old.id = some old) (kin : Kin old note) (root : NoteId)
    (same : root = old.id → note.toSourceState = old.toSourceState) :
    live db'.notes root = live db.notes root := by
  by_cases here : root = old.id
  · have saved := save_find now found kin root
    rw [if_pos here, ← notes] at saved
    rw [live_of_find saved, here, live_of_find found]
    exact same here
  · rw [live, notes, save_find now found kin, if_neg here]
    rfl

theorem changes_announced {events : List (Time × Act)} {db db' : Db} {now : Time} {act : Act}
    (run : Run Db.Next .empty events db) (did : db.Next (now, act) db')
    (keeps : act.keepsStatus db.notes) :
    (∀ id row, db.notes.find id = some row → shown db'.notes id ≠ shown db.notes id →
      Announced db db' row.rootID ∨ ∃ noteId, act.purged = some noteId ∧
        (id = noteId ∨ row.rootID = noteId) ∧ (live db.notes noteId).status = .deleted ∧
        (live db'.notes noteId).status = .deleted) ∧
    (∀ noteId, act.announced = some noteId → ∃ row, db.notes.find noteId = some row ∧
      Announced db db' row.rootID ∧
      ∀ root, root ≠ row.rootID → db'.outbox.find root = db.outbox.find root) ∧
    (act.announced = none → (∀ root job, act ≠ .fanout root job) → db'.outbox = db.outbox) := by
  have sound := run_sound run
  have sound' := sound_step did sound
  cases next_effect did with
  | kept notes births _ silent outbox =>
    refine ⟨?_, ?_, ?_⟩
    · intro id row found changed
      rw [notes] at changed
      exact absurd rfl changed
    · intro noteId announced
      rw [silent] at announced
      cases announced
    · intro _ apart
      cases outbox with
      | inl same => exact same
      | inr worker =>
        obtain ⟨root, job, is⟩ := worker
        exact absurd is (apart root job)
  | @written _ note source wrote fresh silent =>
    obtain ⟨born, wrote, _, outbox⟩ := write_some wrote
    refine ⟨?_, ?_, fun _ _ => outbox⟩
    · intro id row found changed
      apply absurd _ changed
      have here : db'.notes.find id = some row := by
        rw [Table.find_insert wrote, if_neg, found]
        intro same
        rw [← same, Table.insert_fresh wrote] at found
        cases found
      apply shown_same sound sound' found here rfl rfl
      -- The note that is new is nobody's source yet.
      have start := (sound.notes id row found).descends.start
      rw [live, live, Table.find_insert wrote, if_neg]
      intro same
      rw [← same, Table.insert_fresh born] at start
      cases start
    · intro noteId announced
      rw [silent] at announced
      cases announced
  | @edited old note found kin edits available workStatus =>
    have status := edits.status_kept found keeps
    have state : note.toSourceState = old.toSourceState := by
      cases h : note.toSourceState
      cases h' : old.toSourceState
      simp_all
    refine ⟨?_, ?_, fun _ _ => rfl⟩
    · intro id row found' changed
      apply absurd _ changed
      have source : live (db.save now note).notes row.rootID = live db.notes row.rootID :=
        live_save rfl found kin row.rootID fun _ => state
      by_cases own : id = old.id
      · have saved := save_find now found kin id
        rw [if_pos own] at saved
        rw [own, found] at found'
        cases found'
        exact shown_same sound sound' (own ▸ found) saved state
          (by simp only [Note.rootID, kin.rootSourceNoteID, kin.id]) source
      · have there := save_find now found kin id
        rw [if_neg own, found'] at there
        exact shown_same sound sound' found' there rfl rfl source
    · intro noteId announced
      rw [edits.silent] at announced
      cases announced
  | @announced _ old note changed found kin announces queued =>
    obtain ⟨notes, _, _, outbox⟩ := enqueue_some queued
    have queued' : Announced db db' old.rootID := by
      obtain ⟨job, there, rest⟩ := enqueue_announced queued
      exact ⟨job, there, rest⟩
    refine ⟨?_, ?_, ?_⟩
    · intro id row found' changed
      apply Or.inl
      suffices same : row.rootID = old.rootID from same ▸ queued'
      by_contra other
      apply changed
      have apart : id ≠ old.id := by
        intro own
        rw [own, found] at found'
        exact other (congrArg Note.rootID (Option.some.inj found').symm)
      have there : db'.notes.find id = some row := by
        rw [notes, save_find now found kin, if_neg apart, found']
      apply shown_same sound sound' found' there rfl rfl
      apply live_save notes found kin
      -- A note with followers is its own source.
      intro leads
      have start := (sound.notes id row found').descends.start
      rw [leads] at start
      have rootless := ((sound.notes _ _ found).of_start start).2
      rw [leads, Note.rootID, rootless, Option.getD_none] at other
      exact absurd rfl other
    · intro noteId announced
      rw [announces] at announced
      cases announced
      exact ⟨old, found, queued', fun root apart => (outbox root).trans (if_neg apart)⟩
    · intro silent
      rw [announces] at silent
      cases silent
  | @purged _ noteId _ did silent purges =>
    obtain ⟨gone, found, deleted, _, _, outbox, absent, left⟩ := purge_find did
    refine ⟨?_, ?_, fun _ _ => outbox⟩
    · intro id row found' changed
      apply Or.inr
      refine ⟨noteId, purges, ?_, ?_, ?_⟩
      · by_contra apart
        obtain ⟨apart, elsewhere⟩ := not_or.mp apart
        apply changed
        have there := left id apart
        rw [found', Option.map_some] at there
        apply shown_same sound sound' found' there
        · cases gone.collectedFromNoteID with
          | none => rfl
          | some parentID =>
            simp only [Option.elim_some]
            split <;> rfl
        · cases gone.collectedFromNoteID with
          | none => rfl
          | some parentID =>
            simp only [Option.elim_some]
            split <;> rfl
        · rw [live, live, left _ elsewhere]
          cases db.notes.find row.rootID with
          | none => rfl
          | some source =>
            simp only [Option.map_some, Option.elim_some]
            cases gone.collectedFromNoteID with
            | none => rfl
            | some parentID =>
              simp only [Option.elim_some]
              split <;> rfl
      · rw [live_of_find found, deleted]
      · rw [live, absent]
        rfl
    · intro noteId announced
      rw [silent] at announced
      cases announced

theorem changes_announced_delisted : ∃ db db', Run Db.Next .empty collectedTwice db ∧
    db.Next (6, .setStatus 10 1 .unlisted) db' ∧ shown db'.notes 3 ≠ shown db.notes 3 ∧
      Announced db db' 1 := by
  have done : ((collectedTwice.foldlM Db.next .empty).any fun db =>
      decide (db.notes.find 1 = some original) &&
      (db.next (6, .setStatus 10 1 .unlisted)).any fun db' =>
        decide (shown db'.notes 3 ≠ shown db.notes 3)) = true := by
    decide +kernel
  obtain ⟨db, ran, done⟩ := (Option.any_eq_true _ _).mp done
  obtain ⟨there, done⟩ := Bool.and_eq_true _ _ ▸ done
  obtain ⟨db', did, changed⟩ := (Option.any_eq_true _ _).mp done
  obtain ⟨_, announced, _⟩ := changes_announced (Run.of_foldlM ran) did trivial
  obtain ⟨row, found, queued, _⟩ := announced 1 rfl
  rw [of_decide_eq_true there] at found
  cases found
  exact ⟨db, db', Run.of_foldlM ran, did, of_decide_eq_true changed, queued⟩

/-- A status that is set to what it was is announced as well. -/
theorem announced_unchanged : ∃ db db', Run Db.Next .empty [(1, .createNote 1 10 none none)] db ∧
    db.Next (2, .setStatus 10 1 .active) db' ∧
    (∀ id, shown db'.notes id = shown db.notes id) ∧ db'.outbox.find 1 ≠ db.outbox.find 1 := by
  have done : (([(1, .createNote 1 10 none none)].foldlM Db.next .empty).any fun db =>
      decide (db.notes.rows = [original]) &&
      (db.next (2, .setStatus 10 1 .active)).any fun db' =>
        decide (db'.notes.rows = [{ original with updatedAt := 2 }]) &&
        decide (db'.outbox.find 1 ≠ db.outbox.find 1)) = true := by
    decide +kernel
  obtain ⟨db, ran, done⟩ := (Option.any_eq_true _ _).mp done
  obtain ⟨only, done⟩ := Bool.and_eq_true _ _ ▸ done
  obtain ⟨db', did, done⟩ := (Option.any_eq_true _ _).mp done
  obtain ⟨only', queued⟩ := Bool.and_eq_true _ _ ▸ done
  refine ⟨db, db', Run.of_foldlM ran, did, fun id => ?_, of_decide_eq_true queued⟩
  rw [shown, shown, Table.find, Table.find, of_decide_eq_true only, of_decide_eq_true only']
  by_cases own : 1 = id
  · subst own
    rfl
  · rw [List.find?_cons_of_neg, List.find?_cons_of_neg]
    · rfl
    · exact fun same => own (of_decide_eq_true same)
    · exact fun same => own (of_decide_eq_true same)

end CircleBackend.Notes.Graph
