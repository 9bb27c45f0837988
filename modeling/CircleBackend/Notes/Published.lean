import CircleBackend.Notes.Drafts

/-!
# A draft is published at most once

What was published keeps its row, and with it its id; what was thrown away keeps it for the
time of retention. A retry finds the row and is told the note again.
-/

namespace CircleBackend.Notes.Drafts

open Library

/-- The note of an edit as its draft knows it: gone with the note. -/
def State.sourceOf (s : State) (o : Outcome) : Option NoteId :=
  if o.edited && (s.notes.find o.noteID).isSome then some o.noteID else none

structure Sound (s : State) : Prop where
  recorded : ∀ o ∈ s.outcomes, o.noteID ∈ s.used ∧ ∃ draft,
    s.drafts.find o.clientDraftID = some draft ∧ draft.publishedNoteID = some o.noteID ∧
      draft.sourceNoteID = s.sourceOf o
  settled : ∀ id draft, s.drafts.find id = some draft → draft.publishedNoteID.isSome →
    draft.consumedAt.isSome
  distinct : (s.outcomes.map Outcome.clientDraftID).Nodup
  used : ∀ id note, s.notes.find id = some note → id ∈ s.used
  sources : ∀ id draft note, s.drafts.find id = some draft → draft.sourceNoteID = some note →
    (s.notes.find note).isSome
  discarded : ∀ id consumedAt, (id, consumedAt) ∈ s.discards →
    s.now ≤ consumedAt + discardRetentionMs → ∃ draft, s.drafts.find id = some draft ∧
      draft.consumedAt = some consumedAt ∧ draft.publishedNoteID = none

theorem Sound.empty : Sound .empty where
  recorded := nofun
  settled := by
    intro id draft found
    cases found
  distinct := List.nodup_nil
  used := by
    intro id note found
    cases found
  sources := by
    intro id draft note found
    cases found
  discarded := nofun

/-- No draft under the id, or one that is still written. -/
def State.Free (s : State) (id : DraftId) : Prop :=
  ∀ draft, s.drafts.find id = some draft → draft.consumedAt = none

namespace Sound

variable {s : State}

variable {id : DraftId}

theorem apart (sound : Sound s) (free : s.Free id) {o : Outcome}
    (member : o ∈ s.outcomes) : o.clientDraftID ≠ id := by
  intro same
  obtain ⟨_, draft, found, published, _⟩ := sound.recorded o member
  have consumed := sound.settled _ draft found (by rw [published]; rfl)
  rw [free draft (same ▸ found)] at consumed
  cases consumed

theorem kept (sound : Sound s) (free : s.Free id) {id' : DraftId} {at' : Time}
    (member : (id', at') ∈ s.discards) (within : s.now ≤ at' + discardRetentionMs) : id' ≠ id := by
  intro same
  obtain ⟨draft, found, consumed, _⟩ := sound.discarded id' at' member within
  rw [free draft (same ▸ found)] at consumed
  cases consumed

theorem expire (sound : Sound s) : Sound s.expireDiscardedNoteDrafts := by
  have left : ∀ id draft, s.expireDiscardedNoteDrafts.drafts.find id = some draft →
      s.drafts.find id = some draft := by
    intro id draft found
    rw [State.expireDiscardedNoteDrafts, Table.find_deleteMany] at found
    exact (Option.filter_eq_some_iff.mp found).1
  have stays : ∀ id draft, s.drafts.find id = some draft → draft.expired s.now = false →
      s.expireDiscardedNoteDrafts.drafts.find id = some draft := by
    intro id draft found live
    rw [State.expireDiscardedNoteDrafts, Table.find_deleteMany, found]
    simp [Option.filter, live]
  constructor
  · intro o member
    obtain ⟨used, draft, found, published, source⟩ := sound.recorded o member
    refine ⟨used, draft, stays _ _ found ?_, published, source⟩
    rw [NoteDraft.expired, published]
    rfl
  · exact fun id draft found => sound.settled id draft (left id draft found)
  · exact sound.distinct
  · exact sound.used
  · exact fun id draft note found => sound.sources id draft note (left id draft found)
  · intro id consumedAt member within
    obtain ⟨draft, found, consumed, published⟩ := sound.discarded id consumedAt member within
    refine ⟨draft, stays _ _ found ?_, consumed, published⟩
    rw [NoteDraft.expired, consumed, Option.any_some]
    have late : ¬ consumedAt + discardRetentionMs < s.now := Nat.not_lt.mpr within
    rw [decide_eq_false late, Bool.and_false]

variable {row : NoteDraft}

/-- A draft that is free is written, or thrown away. -/
theorem store (sound : Sound s) (free : s.Free id)
    {drafts : Table NoteDraft DraftId NoteDraft.clientDraftID}
    (find : ∀ k, drafts.find k = if k = id then some row else s.drafts.find k)
    (open' : row.publishedNoteID = none)
    (source : ∀ note, row.sourceNoteID = some note → (s.notes.find note).isSome) :
    Sound { s with drafts := drafts } := by
  have others : ∀ k draft, drafts.find k = some draft →
      k = id ∧ draft = row ∨ s.drafts.find k = some draft := by
    intro k draft found
    rw [find] at found
    split at found
    · rename_i own
      exact Or.inl ⟨own, (Option.some.inj found).symm⟩
    · exact Or.inr found
  constructor
  · intro o member
    obtain ⟨used, draft, found, rest⟩ := sound.recorded o member
    exact ⟨used, draft, (find _).trans ((if_neg (sound.apart free member)).trans found), rest⟩
  · intro k draft found published
    obtain ⟨_, rfl⟩ | found := others k draft found
    · rw [open'] at published
      cases published
    · exact sound.settled k draft found published
  · exact sound.distinct
  · exact sound.used
  · intro k draft note found sourced
    obtain ⟨_, rfl⟩ | found := others k draft found
    · exact source note sourced
    · exact sound.sources k draft note found sourced
  · intro k consumedAt member within
    obtain ⟨draft, found, rest⟩ := sound.discarded k consumedAt member within
    exact ⟨draft, (find _).trans ((if_neg (sound.kept free member within)).trans found), rest⟩

theorem discard (sound : Sound s) (found : s.drafts.find id = some row)
    (consumed : row.consumedAt = some s.now) (open' : row.publishedNoteID = none) :
    Sound { s with discards := (id, s.now) :: s.discards } := by
  refine ⟨sound.recorded, sound.settled, sound.distinct, sound.used, sound.sources, ?_⟩
  intro k consumedAt member within
  cases member with
  | head => exact ⟨row, found, consumed, open'⟩
  | tail _ older => exact sound.discarded k consumedAt older within

/-- A draft that is free is consumed and named with its note. -/
theorem publish (sound : Sound s) {o : Outcome} (free : s.Free o.clientDraftID)
    {drafts : Table NoteDraft DraftId NoteDraft.clientDraftID}
    (find : ∀ k, drafts.find k = if k = o.clientDraftID then some row else s.drafts.find k)
    (consumed : row.consumedAt.isSome) (published : row.publishedNoteID = some o.noteID)
    (source : row.sourceNoteID = s.sourceOf o) (used : o.noteID ∈ s.used) :
    Sound { s with drafts := drafts, outcomes := s.outcomes ++ [o] } := by
  have others : ∀ k draft, drafts.find k = some draft →
      k = o.clientDraftID ∧ draft = row ∨ s.drafts.find k = some draft := by
    intro k draft found
    rw [find] at found
    split at found
    · rename_i own
      exact Or.inl ⟨own, (Option.some.inj found).symm⟩
    · exact Or.inr found
  constructor
  · intro o' member
    cases List.mem_append.mp member with
    | inl older =>
      obtain ⟨used, draft, found, rest⟩ := sound.recorded o' older
      exact ⟨used, draft, (find _).trans ((if_neg (sound.apart free older)).trans found), rest⟩
    | inr new =>
      cases List.mem_singleton.mp new
      exact ⟨used, row, (find _).trans (if_pos rfl), published, source⟩
  · intro k draft found published'
    obtain ⟨_, rfl⟩ | found := others k draft found
    · exact consumed
    · exact sound.settled k draft found published'
  · rw [List.map_append]
    apply List.Nodup.append sound.distinct (List.nodup_singleton _)
    intro id before new
    obtain ⟨o', member, rfl⟩ := List.mem_map.mp before
    exact sound.apart free member (List.mem_singleton.mp new)
  · exact sound.used
  · intro k draft note found sourced
    obtain ⟨_, rfl⟩ | found := others k draft found
    · rw [source, State.sourceOf] at sourced
      split at sourced
      · rename_i there
        cases sourced
        exact (Bool.and_eq_true _ _ ▸ there).2
      · cases sourced
    · exact sound.sources k draft note found sourced
  · intro k consumedAt member within
    obtain ⟨draft, found, rest⟩ := sound.discarded k consumedAt member within
    exact ⟨draft, (find _).trans ((if_neg (sound.kept free member within)).trans found), rest⟩

/-- Notes come, or change in what they say. -/
theorem renote (sound : Sound s) {notes : Table Note NoteId Note.id} {used : List NoteId}
    (grown : ∀ id ∈ s.used, id ∈ used) (all : ∀ id note, notes.find id = some note → id ∈ used)
    (same : ∀ id ∈ s.used, (notes.find id).isSome = (s.notes.find id).isSome) :
    Sound { s with notes := notes, used := used } := by
  constructor
  · intro o member
    obtain ⟨inside, draft, found, published, source⟩ := sound.recorded o member
    refine ⟨grown _ inside, draft, found, published, ?_⟩
    rw [source, State.sourceOf, State.sourceOf, same _ inside]
  · exact sound.settled
  · exact sound.distinct
  · exact all
  · intro k draft note found sourced
    have there := sound.sources k draft note found sourced
    obtain ⟨row, present⟩ := Option.isSome_iff_exists.mp there
    rw [same note (sound.used note row present)]
    exact there
  · exact sound.discarded

/-- A draft whose note is purged. -/
def orphaned (noteId : NoteId) (draft : NoteDraft) : NoteDraft :=
  if draft.sourceNoteID = some noteId then { draft with sourceNoteID := none } else draft

theorem orphaned_kept (noteId : NoteId) (draft : NoteDraft) :
    (orphaned noteId draft).consumedAt = draft.consumedAt ∧
      (orphaned noteId draft).publishedNoteID = draft.publishedNoteID ∧
      ∀ note, (orphaned noteId draft).sourceNoteID = some note ↔
        draft.sourceNoteID = some note ∧ note ≠ noteId := by
  unfold orphaned
  split
  · rename_i here
    refine ⟨rfl, rfl, fun note => ⟨nofun, fun ⟨named, apart⟩ => ?_⟩⟩
    rw [here] at named
    exact absurd (Option.some.inj named).symm apart
  · rename_i elsewhere
    refine ⟨rfl, rfl, fun note => ⟨fun named => ⟨named, ?_⟩, fun both => both.1⟩⟩
    intro same
    exact elsewhere (same ▸ named)

theorem purge_find {s' : State} {noteId : NoteId} (h : s.purgeNote noteId = some s') :
    s' = { s with notes := s'.notes, drafts := s'.drafts } ∧
      (∀ k, s'.notes.find k = if k = noteId then none else s.notes.find k) ∧
      ∀ k, s'.drafts.find k = (s.drafts.find k).map (orphaned noteId) := by
  obtain ⟨note, found, rfl⟩ := Option.map_eq_some_iff.mp h
  refine ⟨rfl, ?_, ?_⟩
  · intro k
    rw [Table.find_deleteMany]
    cases there : s.notes.find k with
    | none => simp
    | some row =>
      have own : row.id = k := Table.find_key there
      simp [Option.filter, own]
  · intro k
    rw [Table.find_updateMany]
    congr 1
    funext draft
    simp [orphaned]

theorem purge (sound : Sound s) {s' : State} {noteId : NoteId}
    (h : s.purgeNote noteId = some s') : Sound s' := by
  obtain ⟨same, notes, drafts⟩ := purge_find h
  have back : ∀ k draft', s'.drafts.find k = some draft' →
      ∃ draft, s.drafts.find k = some draft ∧ orphaned noteId draft = draft' := by
    intro k draft' found
    rw [drafts] at found
    exact Option.map_eq_some_iff.mp found
  constructor
  · intro o member
    rw [same] at member ⊢
    obtain ⟨used, draft, found, published, source⟩ := sound.recorded o member
    obtain ⟨_, published', sourced⟩ := orphaned_kept noteId draft
    refine ⟨used, orphaned noteId draft, ?_, published'.trans published, ?_⟩
    · rw [drafts, found, Option.map_some]
    · apply Option.ext
      intro note
      rw [sourced, source, State.sourceOf, State.sourceOf, notes]
      by_cases gone : o.noteID = noteId
      · simp [gone]
        intro _ _ named
        exact named.symm
      · simp only [gone, if_false]
        constructor
        · exact fun both => both.1
        · intro named
          refine ⟨named, fun here => ?_⟩
          split at named
          · exact gone ((Option.some.inj named).trans here)
          · cases named
  · intro k draft' found published
    obtain ⟨draft, there, rfl⟩ := back k draft' found
    obtain ⟨consumed, published', _⟩ := orphaned_kept noteId draft
    rw [consumed]
    exact sound.settled k draft there (published' ▸ published)
  · rw [same]
    exact sound.distinct
  · intro id note found
    rw [notes] at found
    split at found
    · cases found
    · rw [same]
      exact sound.used id note found
  · intro k draft' note found sourced
    obtain ⟨draft, there, rfl⟩ := back k draft' found
    obtain ⟨_, _, source⟩ := orphaned_kept noteId draft
    obtain ⟨named, apart⟩ := (source note).mp sourced
    rw [notes, if_neg apart]
    exact sound.sources k draft note there named
  · intro k consumedAt member within
    rw [same] at member within
    obtain ⟨draft, there, consumed, open'⟩ := sound.discarded k consumedAt member within
    obtain ⟨consumed', published', _⟩ := orphaned_kept noteId draft
    refine ⟨orphaned noteId draft, ?_, consumed'.trans consumed, published'.trans open'⟩
    rw [drafts, there, Option.map_some]

end Sound

/-! ## What the calls leave -/

section Calls

variable {s s' : State}

variable {clientDraftID : Option DraftId} {id : DraftId} {source : Option NoteId}
variable {noteId : NoteId} {note : Note} {payload : Payload}

variable {sourceNoteID : Option NoteId}

theorem publishedDraftNote_ok
    {replay : Option Note} (h : s.publishedDraftNote clientDraftID sourceNoteID = .ok (s', replay)) :
    (clientDraftID = none → s' = s) ∧
      ∀ id, clientDraftID = some id → s' = s.expireDiscardedNoteDrafts ∧
        (replay = none → s'.Free id) := by
  unfold State.publishedDraftNote at h
  split at h
  case h_1 =>
    cases h
    exact ⟨fun _ => rfl, by intros; contradiction⟩
  case h_2 id =>
    refine ⟨by intros; contradiction, fun id' same => ?_⟩
    cases same
    dsimp only at h
    split at h
    case h_1 none' =>
      cases h
      refine ⟨rfl, fun _ draft found => ?_⟩
      rw [found] at none'
      simpa [Option.filter] using none'
    case h_2 draft found =>
      split at h
      case h_1 => cases h
      case h_2 published named =>
        split at h
        · cases h
        · split at h
          · cases h
          · cases h
            exact ⟨rfl, by intros; contradiction⟩

theorem consumeNoteDraft_ok {source : Option (Option NoteId)}
    (h : s.consumeNoteDraft id source = .ok s') :
    (source = none ∧ s' = s ∧ ¬ s.Free id) ∨
      s.Free id ∧ s' = { s with drafts := s'.drafts } ∧ ∃ row : NoteDraft,
        (∀ k, s'.drafts.find k = if k = id then some row else s.drafts.find k) ∧
          row.consumedAt = some s.now ∧
          row.publishedNoteID = (s.drafts.find id).bind NoteDraft.publishedNoteID ∧
          row.sourceNoteID = source.getD ((s.drafts.find id).bind NoteDraft.sourceNoteID) := by
  unfold State.consumeNoteDraft at h
  dsimp only at h
  split at h
  case isTrue consumed =>
    split at h
    · cases h
    · rename_i discard
      cases h
      refine Or.inl ⟨Option.not_isSome_iff_eq_none.mp discard, rfl, fun free => ?_⟩
      obtain ⟨draft, found, consumed⟩ := (Option.any_eq_true _ _).mp consumed
      rw [free draft found] at consumed
      cases consumed
  case isFalse unconsumed =>
    split at h
    · cases h
    · split at h
      · cases h
      · rename_i own
        cases h
        apply Or.inr
        refine ⟨?_, rfl, (s.drafts.find id).elim ⟨id, source.join, .cleared, some s.now, none⟩
          (fun draft => { draft with payload := .cleared, consumedAt := some s.now }), ?_, ?_⟩
        · intro draft found
          rw [found, Option.any_some] at unconsumed
          exact Option.not_isSome_iff_eq_none.mp unconsumed
        · intro k
          rw [Table.find_upsert]
          by_cases here : k = id
          · rw [if_pos here.symm, if_pos here, here]
          · rw [if_neg fun same => here same.symm, if_neg here]
        · cases found : s.drafts.find id with
          | none =>
            refine ⟨rfl, rfl, ?_⟩
            cases source with
            | none => rfl
            | some source => rfl
          | some draft =>
            refine ⟨rfl, rfl, ?_⟩
            cases source with
            | none => rfl
            | some source =>
              rw [found, Option.any_some, Option.any_some] at own
              simp only [ne_eq, decide_not, Bool.not_eq_true, Bool.not_eq_false',
                decide_eq_true_eq] at own
              exact own.symm

theorem Sound.unpublished (sound : Sound s) (free : s.Free id) :
    (s.drafts.find id).bind NoteDraft.publishedNoteID = none := by
  cases found : s.drafts.find id with
  | none => rfl
  | some draft =>
    cases published : draft.publishedNoteID with
    | none => exact published
    | some note =>
      have consumed := sound.settled id draft found (by rw [published]; rfl)
      rw [free draft found] at consumed
      cases consumed

theorem named_find {drafts : Table NoteDraft DraftId NoteDraft.clientDraftID} (id : DraftId)
    (noteId : NoteId) (k : DraftId) :
    (drafts.updateMany (fun draft => draft.clientDraftID = id)
      (fun draft => { draft with publishedNoteID := some noteId }) fun _ => rfl).find k =
      if k = id then (drafts.find id).map fun draft => { draft with publishedNoteID := some noteId }
      else drafts.find k := by
  rw [Table.find_updateMany]
  by_cases here : k = id
  · rw [if_pos here, here]
    cases found : drafts.find id with
    | none => rfl
    | some draft =>
      have own : draft.clientDraftID = id := Table.find_key found
      simp [own]
  · rw [if_neg here]
    cases found : drafts.find k with
    | none => rfl
    | some draft =>
      have own : draft.clientDraftID = k := Table.find_key found
      simp [own, here]

theorem consumeFor_ok
    (h : s.consumeFor clientDraftID source = .ok s') : s' = { s with drafts := s'.drafts } := by
  cases clientDraftID with
  | none =>
    cases h
    rfl
  | some id =>
    obtain ⟨_, rfl, _⟩ | ⟨_, same, _⟩ := consumeNoteDraft_ok h
    · rfl
    · exact same

/-- A publication with its draft: consumed, and named with the note that is written beside. -/
theorem Sound.consumed {consumed : State} {notes : Table Note NoteId Note.id} {used : List NoteId}
    (sound : Sound { s with notes := notes, used := used }) (edited : Bool)
    (h : s.consumeFor clientDraftID (if edited then some noteId else none) = .ok consumed)
    (inside : noteId ∈ used) (there : edited → (notes.find noteId).isSome) :
    Sound (({ consumed with notes := notes, used := used } : State).publish clientDraftID
      noteId edited) := by
  cases clientDraftID with
  | none =>
    cases h
    exact sound
  | some id =>
    obtain ⟨none', _⟩ | ⟨free', same, row, find, consumedAt, published, source⟩ :=
      consumeNoteDraft_ok h
    · cases none'
    · have find' : ∀ k, (consumed.drafts.updateMany (fun draft => draft.clientDraftID = id)
          (fun draft => { draft with publishedNoteID := some noteId }) fun _ => rfl).find k =
          if k = id then some { row with publishedNoteID := some noteId }
          else s.drafts.find k := by
        intro k
        rw [named_find, find id, if_pos rfl, Option.map_some]
        by_cases here : k = id
        · rw [if_pos here, if_pos here]
        · rw [if_neg here, if_neg here, find, if_neg here]
      rw [same]
      apply sound.publish (o := ⟨id, noteId, edited⟩) free' find' ?_ rfl ?_ inside
      · rw [consumedAt]
        rfl
      · rw [source, State.sourceOf, Option.getD_some]
        cases edited with
        | false => rfl
        | true => simp [there rfl]

theorem written_ok (h : s.written note = .ok s') :
    note.id ∉ s.used ∧ ∃ notes, s.notes.insert note = some notes ∧
      s' = { s with notes := notes, used := note.id :: s.used } := by
  obtain ⟨_, fresh, h⟩ := bind_ok h
  obtain ⟨notes, inserted, h⟩ := bind_ok h
  cases h
  refine ⟨?_, notes, orThrow_ok inserted, rfl⟩
  have apart := throwIf_ok fresh
  simp only [Bool.or_eq_false_iff] at apart
  intro member
  rw [List.contains_iff_mem.mpr member] at apart
  cases apart.1

theorem Sound.insert (sound : Sound s) {notes : Table Note NoteId Note.id}
    (fresh : note.id ∉ s.used) (inserted : s.notes.insert note = some notes) :
    Sound { s with notes := notes, used := note.id :: s.used } := by
  apply sound.renote
  · exact fun id member => List.mem_cons_of_mem _ member
  · intro id row found
    rw [Table.find_insert inserted] at found
    split at found
    · rename_i own
      rw [← own]
      exact List.mem_cons_self
    · exact List.mem_cons_of_mem _ (sound.used id row found)
  · intro id member
    rw [Table.find_insert inserted, if_neg]
    intro same
    exact fresh (same ▸ member)

theorem Sound.rewrite (sound : Sound s) {old : Note}
    (found : s.notes.find note.id = some old) : Sound { s with notes := s.notes.put note } := by
  have held : ∀ id row, (s.notes.put note).find id = some row → id ∈ s.used := by
    intro id row found'
    rw [Table.find_put_of_find found] at found'
    split at found'
    · rename_i own
      exact own ▸ sound.used _ old found
    · exact sound.used id row found'
  apply sound.renote (fun _ member => member) held
  · intro id member
    rw [Table.find_put_of_find found]
    split
    · rename_i own
      rw [own, found]
      rfl
    · rfl

theorem createNote_ok (h : s.createNote clientDraftID noteId payload = .ok (s', note)) :
    ∃ checked replay, s.publishedDraftNote clientDraftID none = .ok (checked, replay) ∧
      (replay = some note ∧ s' = checked ∨ replay = none ∧ ∃ consumed written,
        checked.consumeFor clientDraftID none = .ok consumed ∧
          consumed.written ⟨noteId, clientDraftID, payload, false⟩ = .ok written ∧
          s' = written.publish clientDraftID noteId false) := by
  obtain ⟨⟨checked, replay⟩, replayed, h⟩ := bind_ok h
  refine ⟨checked, replay, replayed, ?_⟩
  cases replay with
  | some replay =>
    cases h
    exact Or.inl ⟨rfl, rfl⟩
  | none =>
    obtain ⟨consumed, took, h⟩ := bind_ok h
    obtain ⟨written, wrote, h⟩ := bind_ok h
    cases h
    exact Or.inr ⟨rfl, consumed, written, took, wrote, rfl⟩

theorem updateNote_ok (h : s.updateNote noteId clientDraftID payload = .ok (s', note)) :
    ∃ checked replay, s.publishedDraftNote clientDraftID (some noteId) = .ok (checked, replay) ∧
      (replay = some note ∧ s' = checked ∨ replay = none ∧ ∃ existing consumed,
        checked.notes.find noteId = some existing ∧
          checked.consumeFor clientDraftID (some noteId) = .ok consumed ∧
          s' = ({ consumed with
            notes := consumed.notes.put { existing with payload := payload } } : State).publish
              clientDraftID noteId true) := by
  obtain ⟨⟨checked, replay⟩, replayed, h⟩ := bind_ok h
  refine ⟨checked, replay, replayed, ?_⟩
  cases replay with
  | some replay =>
    cases h
    exact Or.inl ⟨rfl, rfl⟩
  | none =>
    obtain ⟨existing, there, h⟩ := bind_ok h
    obtain ⟨_, _, h⟩ := bind_ok h
    obtain ⟨consumed, took, h⟩ := bind_ok h
    cases h
    exact Or.inr ⟨rfl, existing, consumed,
      (Option.filter_eq_some_iff.mp (orThrow_ok there)).1, took, rfl⟩

theorem Sound.checked (sound : Sound s) {replay : Option Note}
    (h : s.publishedDraftNote clientDraftID sourceNoteID = .ok (s', replay)) : Sound s' := by
  obtain ⟨same, expired⟩ := publishedDraftNote_ok h
  cases clientDraftID with
  | none => exact same rfl ▸ sound
  | some id => exact (expired id rfl).1 ▸ sound.expire

theorem Sound.createNote (sound : Sound s)
    (h : s.createNote clientDraftID noteId payload = .ok (s', note)) : Sound s' := by
  obtain ⟨checked, replay, replayed, rest⟩ := createNote_ok h
  have sound₁ := sound.checked replayed
  obtain ⟨_, rfl⟩ | ⟨_, consumed, written, took, wrote, rfl⟩ := rest
  · exact sound₁
  · obtain ⟨fresh, notes, inserted, rfl⟩ := written_ok wrote
    have same := consumeFor_ok took
    rw [same] at fresh inserted
    have kept := (sound₁.insert fresh inserted).consumed false took List.mem_cons_self nofun
    rw [same] at kept ⊢
    exact kept

theorem Sound.updateNote (sound : Sound s)
    (h : s.updateNote noteId clientDraftID payload = .ok (s', note)) : Sound s' := by
  obtain ⟨checked, replay, replayed, rest⟩ := updateNote_ok h
  have sound₁ := sound.checked replayed
  obtain ⟨_, rfl⟩ | ⟨_, existing, consumed, found, took, rfl⟩ := rest
  · exact sound₁
  · have own : existing.id = noteId := Table.find_key found
    have found' : checked.notes.find ({ existing with payload := payload } : Note).id =
        some existing := own.symm ▸ found
    have kept := (sound₁.rewrite found').consumed true took (sound₁.used _ _ found) (by
      intro _
      rw [Table.find_put_of_find found', if_pos own.symm]
      rfl)
    rw [consumeFor_ok took] at kept ⊢
    exact kept

theorem saveNoteDraft_ok (h : s.saveNoteDraft id source payload = .ok s') :
    s.expireDiscardedNoteDrafts.Free id ∧
      (source.any fun note => (s.notes.find note).isNone) = false ∧
      s' = { s.expireDiscardedNoteDrafts with
        drafts := s.expireDiscardedNoteDrafts.drafts.upsert ⟨id, source, payload, none, none⟩
          (fun draft => { draft with sourceNoteID := source, payload := payload })
          fun _ => rfl } := by
  obtain ⟨_, there, h⟩ := bind_ok h
  obtain ⟨_, _, h⟩ := bind_ok h
  obtain ⟨_, unconsumed, h⟩ := bind_ok h
  obtain ⟨_, _, h⟩ := bind_ok h
  obtain ⟨_, _, h⟩ := bind_ok h
  cases h
  refine ⟨?_, throwIf_ok there, rfl⟩
  intro draft found
  have apart := throwIf_ok unconsumed
  rw [found, Option.any_some] at apart
  exact Option.not_isSome_iff_eq_none.mp (Bool.eq_false_iff.mp apart)

theorem Sound.saveNoteDraft (sound : Sound s)
    (h : s.saveNoteDraft id source payload = .ok s') : Sound s' := by
  obtain ⟨free, present, rfl⟩ := saveNoteDraft_ok h
  have row : ∀ k, (s.expireDiscardedNoteDrafts.drafts.upsert ⟨id, source, payload, none, none⟩
      (fun draft => { draft with sourceNoteID := source, payload := payload }) fun _ => rfl).find
        k = if k = id then some ((s.expireDiscardedNoteDrafts.drafts.find id).elim
          ⟨id, source, payload, none, none⟩
          fun draft => { draft with sourceNoteID := source, payload := payload })
        else s.expireDiscardedNoteDrafts.drafts.find k := by
    intro k
    rw [Table.find_upsert]
    by_cases here : k = id
    · rw [if_pos here.symm, if_pos here, here]
    · rw [if_neg fun same => here same.symm, if_neg here]
  apply sound.expire.store free row
  · have open' := sound.expire.unpublished free
    cases found : s.expireDiscardedNoteDrafts.drafts.find id with
    | none => rfl
    | some draft =>
      rw [found] at open'
      exact open'
  · intro note named
    have sourced : source = some note := by
      cases found : s.expireDiscardedNoteDrafts.drafts.find id with
      | none =>
        rw [found] at named
        exact named
      | some draft =>
        rw [found] at named
        exact named
    rw [sourced, Option.any_some] at present
    cases found : s.notes.find note with
    | none =>
      rw [found] at present
      cases present
    | some row => exact congrArg Option.isSome found

theorem Sound.deleteNoteDraft (sound : Sound s) (h : s.deleteNoteDraft id = .ok s') : Sound s' := by
  obtain ⟨consumed, took, h⟩ := bind_ok h
  obtain ⟨_, rfl, taken⟩ | ⟨free, same, row, find, consumedAt, published, source⟩ :=
    consumeNoteDraft_ok took
  · cases h
    split
    · rename_i active
      refine absurd (fun draft found => ?_) taken
      rw [found, Option.all_some] at active
      exact Option.isNone_iff_eq_none.mp active
    · exact sound.expire
  · have open' := published.trans (sound.expire.unpublished free)
    have kept : Sound consumed := by
      rw [same]
      apply sound.expire.store free find open'
      intro note named
      rw [source, Option.getD_none] at named
      obtain ⟨draft, found, named⟩ := Option.bind_eq_some_iff.mp named
      exact sound.expire.sources id draft note found named
    cases h
    split
    · apply kept.discard ((find id).trans (if_pos rfl)) ?_ open'
      rw [consumedAt, same]
    · exact kept

theorem sound_step {act : Act} (did : s.Next act s') (sound : Sound s) : Sound s' := by
  cases act with
  | tick ms =>
    cases did
    refine ⟨sound.recorded, sound.settled, sound.distinct, sound.used, sound.sources, ?_⟩
    intro id consumedAt member within
    exact sound.discarded id consumedAt member (Nat.le_trans (Nat.le_add_right _ ms) within)
  | check id =>
    cases did
    exact sound.expire
  | saveNoteDraft id source payload => exact sound.saveNoteDraft (toOption_some did)
  | deleteNoteDraft id => exact sound.deleteNoteDraft (toOption_some did)
  | createNote id noteId payload =>
    obtain ⟨⟨_, note⟩, made, rfl⟩ := map_ok (toOption_some did)
    exact sound.createNote made
  | updateNote noteId id payload =>
    obtain ⟨⟨_, note⟩, made, rfl⟩ := map_ok (toOption_some did)
    exact sound.updateNote made
  | deleteNote noteId =>
    obtain ⟨note, found, rfl⟩ := Option.map_eq_some_iff.mp did
    have there := (Option.filter_eq_some_iff.mp found).1
    have own : note.id = noteId := Table.find_key there
    have there' : s.notes.find ({ note with deleted := true } : Note).id = some note :=
      own.symm ▸ there
    exact sound.rewrite there'
  | restoreNote noteId =>
    obtain ⟨note, found, rfl⟩ := Option.map_eq_some_iff.mp did
    have there := (Option.filter_eq_some_iff.mp found).1
    have own : note.id = noteId := Table.find_key there
    have there' : s.notes.find ({ note with deleted := false } : Note).id = some note :=
      own.symm ▸ there
    exact sound.rewrite there'
  | purgeNote noteId => exact sound.purge did

theorem run_sound {acts : List Act} (run : Run State.Next .empty acts s) : Sound s :=
  run.preserves (P := Sound) (fun _ _ _ did sound => sound_step did sound) .empty

/-! ## What was settled stays -/

/-- Nothing that was published or thrown away is forgotten. -/
def Grows (s s' : State) : Prop :=
  (∀ o ∈ s.outcomes, o ∈ s'.outcomes) ∧ ∀ p ∈ s.discards, p ∈ s'.discards

theorem Grows.of_same (outcomes : s'.outcomes = s.outcomes) (discards : s'.discards = s.discards) :
    Grows s s' :=
  ⟨fun _ member => outcomes ▸ member, fun _ member => discards ▸ member⟩

theorem Grows.trans {t : State} (h : Grows s s') (k : Grows s' t) : Grows s t :=
  ⟨fun o member => k.1 o (h.1 o member), fun p member => k.2 p (h.2 p member)⟩

theorem Grows.publish (clientDraftID : Option DraftId) (noteId : NoteId) (edited : Bool) :
    Grows s (s.publish clientDraftID noteId edited) := by
  cases clientDraftID with
  | none => exact .of_same rfl rfl
  | some id => exact ⟨fun _ member => List.mem_append_left _ member, fun _ member => member⟩

theorem Grows.checked {replay : Option Note}
    (h : s.publishedDraftNote clientDraftID sourceNoteID = .ok (s', replay)) : Grows s s' := by
  obtain ⟨same, expired⟩ := publishedDraftNote_ok h
  cases clientDraftID with
  | none =>
    rw [same rfl]
    exact .of_same rfl rfl
  | some id =>
    rw [(expired id rfl).1]
    exact .of_same rfl rfl

theorem Grows.consumed (h : s.consumeFor clientDraftID source = .ok s') : Grows s s' := by
  rw [consumeFor_ok h]
  exact .of_same rfl rfl

theorem grows_step {act : Act} (did : s.Next act s') : Grows s s' := by
  cases act with
  | tick ms =>
    cases did
    exact .of_same rfl rfl
  | check id =>
    cases did
    exact .of_same rfl rfl
  | saveNoteDraft id source payload =>
    obtain ⟨_, _, rfl⟩ := saveNoteDraft_ok (toOption_some did)
    exact .of_same rfl rfl
  | deleteNoteDraft id =>
    obtain ⟨consumed, took, h⟩ := bind_ok (toOption_some did)
    have same : consumed.outcomes = s.outcomes ∧ consumed.discards = s.discards := by
      obtain ⟨_, rfl, _⟩ | ⟨_, same, _⟩ := consumeNoteDraft_ok took
      · exact ⟨rfl, rfl⟩
      · rw [same]
        exact ⟨rfl, rfl⟩
    cases h
    split
    · exact ⟨fun _ member => same.1 ▸ member,
        fun _ member => List.mem_cons_of_mem _ (same.2 ▸ member)⟩
    · exact .of_same same.1 same.2
  | createNote id noteId payload =>
    obtain ⟨⟨_, note⟩, made, rfl⟩ := map_ok (toOption_some did)
    obtain ⟨checked, replay, replayed, rest⟩ := createNote_ok made
    obtain ⟨_, rfl⟩ | ⟨_, consumed, written, took, wrote, rfl⟩ := rest
    · exact .checked replayed
    · obtain ⟨_, notes, _, rfl⟩ := written_ok wrote
      have beside : Grows consumed { consumed with notes := notes, used := noteId :: consumed.used } :=
        .of_same rfl rfl
      exact (Grows.checked replayed).trans
        ((Grows.consumed took).trans (beside.trans (.publish id noteId false)))
  | updateNote noteId id payload =>
    obtain ⟨⟨_, note⟩, made, rfl⟩ := map_ok (toOption_some did)
    obtain ⟨checked, replay, replayed, rest⟩ := updateNote_ok made
    obtain ⟨_, rfl⟩ | ⟨_, existing, consumed, _, took, rfl⟩ := rest
    · exact .checked replayed
    · have beside : Grows consumed { consumed with
          notes := consumed.notes.put { existing with payload := payload } } := .of_same rfl rfl
      exact (Grows.checked replayed).trans
        ((Grows.consumed took).trans (beside.trans (.publish id noteId true)))
  | deleteNote noteId =>
    obtain ⟨note, _, rfl⟩ := Option.map_eq_some_iff.mp did
    exact .of_same rfl rfl
  | restoreNote noteId =>
    obtain ⟨note, _, rfl⟩ := Option.map_eq_some_iff.mp did
    exact .of_same rfl rfl
  | purgeNote noteId =>
    obtain ⟨note, _, rfl⟩ := Option.map_eq_some_iff.mp did
    exact .of_same rfl rfl

theorem run_grows {acts : List Act} (run : Run State.Next s acts s') : Grows s s' :=
  run.preserves (P := Grows s) (fun _ _ _ did grown => grown.trans (grows_step did))
    ⟨fun _ member => member, fun _ member => member⟩

end Calls

/-! ## Replays -/

section Replays

variable {s : State}

/-- The note a publication came with: the one that was edited. -/
def Outcome.source (o : Outcome) : Option NoteId := if o.edited then some o.noteID else none

/-- The call of a publication made again; a note of its own is drawn anew. -/
def Outcome.retry (o : Outcome) (s : State) (noteId : NoteId) (payload : Payload) :
    Except Fault (State × Note) :=
  if o.edited then s.updateNote o.noteID (some o.clientDraftID) payload
  else s.createNote (some o.clientDraftID) noteId payload

variable {o : Outcome}

theorem Sound.replay (sound : Sound s) (member : o ∈ s.outcomes)
    (source : Option NoteId) : s.publishedDraftNote (some o.clientDraftID) source =
      if s.sourceOf o ≠ source ∨ source.any (· ≠ o.noteID) then .error .consumed
      else ((s.notes.find o.noteID).filter fun note => !note.deleted).elim (.error .noteNotFound)
        fun note => .ok (s.expireDiscardedNoteDrafts, some note) := by
  obtain ⟨_, draft, found, published, sourced⟩ := sound.expire.recorded o member
  have consumed := sound.expire.settled _ draft found (by rw [published]; rfl)
  have row : (s.expireDiscardedNoteDrafts.drafts.find o.clientDraftID).filter
      (fun draft => draft.consumedAt.isSome) = some draft := by
    rw [found]
    simp [Option.filter, consumed]
  have sourced' : draft.sourceNoteID = s.sourceOf o := sourced
  simp only [State.publishedDraftNote, row, published, sourced']
  have notes : s.expireDiscardedNoteDrafts.notes = s.notes := rfl
  rw [notes]
  split
  · rfl
  · cases (s.notes.find o.noteID).filter fun note => !note.deleted with
    | none => rfl
    | some note => rfl

/-- The answer to a retry: the note again and nothing else, or that the note is gone. -/
def Outcome.Told (o : Outcome) (s : State) (noteId : NoteId) (payload : Payload) : Prop :=
  (∃ note, s.notes.find o.noteID = some note ∧ note.deleted = false ∧
    o.retry s noteId payload = .ok (s.expireDiscardedNoteDrafts, note)) ∨
  (∀ note, s.notes.find o.noteID = some note → note.deleted = true) ∧
    o.retry s noteId payload = .error .noteNotFound

theorem Outcome.retry_of (o : Outcome) (s : State) (noteId : NoteId) (payload : Payload) :
    (∀ fault, s.publishedDraftNote (some o.clientDraftID) o.source = .error fault →
      o.retry s noteId payload = .error fault) ∧
    ∀ checked note, s.publishedDraftNote (some o.clientDraftID) o.source =
      .ok (checked, some note) → o.retry s noteId payload = .ok (checked, note) := by
  unfold Outcome.source Outcome.retry
  cases o.edited with
  | false =>
    constructor
    · intro fault failed
      simp only [Bool.false_eq_true, if_false, State.createNote] at failed ⊢
      rw [failed]
      rfl
    · intro checked note replayed
      simp only [Bool.false_eq_true, if_false, State.createNote] at replayed ⊢
      rw [replayed]
      rfl
  | true =>
    constructor
    · intro fault failed
      simp only [if_true, State.updateNote] at failed ⊢
      rw [failed]
      rfl
    · intro checked note replayed
      simp only [if_true, State.updateNote] at replayed ⊢
      rw [replayed]
      rfl

theorem Sound.told (sound : Sound s) (member : o ∈ s.outcomes) (noteId : NoteId)
    (payload : Payload) :
    o.Told s noteId payload ↔ (o.edited → (s.notes.find o.noteID).isSome) := by
  have replay := sound.replay member o.source
  obtain ⟨failed, told⟩ := o.retry_of s noteId payload
  have own : ¬ o.source.any (· ≠ o.noteID) := by
    unfold Outcome.source
    split <;> simp
  by_cases gone : o.edited ∧ s.notes.find o.noteID = none
  · have apart : s.sourceOf o ≠ o.source := by
      simp [State.sourceOf, Outcome.source, gone.1, gone.2]
    rw [if_pos (Or.inl apart)] at replay
    constructor
    · intro told edited
      obtain ⟨note, found, _⟩ | ⟨_, answered⟩ := told
      · rw [gone.2] at found
        cases found
      · rw [failed _ replay] at answered
        cases answered
    · intro there
      have present := there gone.1
      rw [gone.2] at present
      cases present
  · have same : s.sourceOf o = o.source := by
      unfold State.sourceOf Outcome.source
      cases edited : o.edited with
      | false => rfl
      | true =>
        have there : s.notes.find o.noteID ≠ none := fun none' => gone ⟨edited, none'⟩
        simp [Option.isSome_iff_ne_none.mpr there]
    rw [if_neg (not_or.mpr ⟨not_not.mpr same, own⟩)] at replay
    constructor
    · intro _ edited
      exact Option.isSome_iff_ne_none.mpr fun none' => gone ⟨edited, none'⟩
    · intro _
      cases standing : (s.notes.find o.noteID).filter fun note => !note.deleted with
      | none =>
        rw [standing] at replay
        refine Or.inr ⟨fun note found => ?_, failed _ replay⟩
        rw [found] at standing
        simpa [Option.filter] using standing
      | some note =>
        rw [standing] at replay
        obtain ⟨found, kept⟩ := Option.filter_eq_some_iff.mp standing
        exact Or.inl ⟨note, found, by simpa using kept, told _ _ replay⟩

/-- A call under a published id that succeeds tells its note. -/
theorem Sound.replayed (sound : Sound s) (member : o ∈ s.outcomes)
    {source : Option NoteId} {checked : State} {replay : Option Note}
    (h : s.publishedDraftNote (some o.clientDraftID) source = .ok (checked, replay)) :
    checked = s.expireDiscardedNoteDrafts ∧ ∃ note, replay = some note ∧ note.id = o.noteID := by
  rw [sound.replay member source] at h
  split at h
  · cases h
  · cases standing : (s.notes.find o.noteID).filter fun note => !note.deleted with
    | none =>
      rw [standing] at h
      cases h
    | some note =>
      rw [standing] at h
      cases h
      exact ⟨rfl, note, rfl, Table.find_key (Option.filter_eq_some_iff.mp standing).1⟩

theorem Sound.not_free (sound : Sound s) (member : o ∈ s.outcomes) :
    ¬ s.expireDiscardedNoteDrafts.Free o.clientDraftID := by
  intro free
  exact sound.expire.apart free member rfl

theorem Sound.retained (sound : Sound s) {id : DraftId} {consumedAt : Time}
    (member : (id, consumedAt) ∈ s.discards) (within : s.now ≤ consumedAt + discardRetentionMs) :
    ¬ s.expireDiscardedNoteDrafts.Free id ∧
      ∀ source, s.publishedDraftNote (some id) source = .error .consumed := by
  obtain ⟨draft, found, consumed, open'⟩ := sound.expire.discarded id consumedAt member within
  constructor
  · intro free
    rw [free draft found] at consumed
    cases consumed
  · intro source
    have row : (s.expireDiscardedNoteDrafts.drafts.find id).filter
        (fun draft => draft.consumedAt.isSome) = some draft := by
      rw [found]
      simp [Option.filter, consumed]
    simp only [State.publishedDraftNote, row, open']

/-- A draft id is published once, as one note or as one edit, and at any later time a call under
it is refused or tells that note again; a retry is told the note, or that it is gone, unless it
is of an edit whose note was purged. An id that was thrown away is refused for the time of
retention. -/
theorem drafts_published_once {acts later : List Act} {s s' : State}
    (run : Run State.Next .empty acts s) (on : Run State.Next s later s') :
    (∀ id, (s'.outcomes.filter fun o => o.clientDraftID = id).length ≤ 1) ∧
    (∀ o ∈ s.outcomes,
      (∀ source payload r, s'.saveNoteDraft o.clientDraftID source payload ≠ .ok r) ∧
      (∀ noteId payload r note, s'.createNote (some o.clientDraftID) noteId payload = .ok (r, note) →
        r = s'.expireDiscardedNoteDrafts ∧ note.id = o.noteID) ∧
      (∀ noteId payload r note, s'.updateNote noteId (some o.clientDraftID) payload = .ok (r, note) →
        r = s'.expireDiscardedNoteDrafts ∧ note.id = o.noteID) ∧
      ∀ noteId payload,
        o.Told s' noteId payload ↔ (o.edited → (s'.notes.find o.noteID).isSome)) ∧
    ∀ id consumedAt, (id, consumedAt) ∈ s.discards →
      s'.now ≤ consumedAt + discardRetentionMs →
      (∀ source payload r, s'.saveNoteDraft id source payload ≠ .ok r) ∧
      (∀ noteId payload r, s'.createNote (some id) noteId payload ≠ .ok r) ∧
      ∀ noteId payload r, s'.updateNote noteId (some id) payload ≠ .ok r := by
  have sound := run_sound (run.append on)
  obtain ⟨outcomes, discards⟩ := run_grows on
  refine ⟨?_, ?_, ?_⟩
  · intro id
    have once := List.nodup_iff_count_le_one.mp sound.distinct id
    rw [List.count, List.countP_map, List.countP_eq_length_filter] at once
    exact once
  · intro o member
    have member' := outcomes o member
    refine ⟨?_, ?_, ?_, fun noteId payload => sound.told member' noteId payload⟩
    · intro source payload r saved
      exact sound.not_free member' (saveNoteDraft_ok saved).1
    · intro noteId payload r note made
      obtain ⟨checked, replay, replayed, rest⟩ := createNote_ok made
      obtain ⟨rfl, note', rfl, own⟩ := sound.replayed member' replayed
      obtain ⟨same, rfl⟩ | ⟨none', _⟩ := rest
      · cases same
        exact ⟨rfl, own⟩
      · cases none'
    · intro noteId payload r note made
      obtain ⟨checked, replay, replayed, rest⟩ := updateNote_ok made
      obtain ⟨rfl, note', rfl, own⟩ := sound.replayed member' replayed
      obtain ⟨same, rfl⟩ | ⟨none', _⟩ := rest
      · cases same
        exact ⟨rfl, own⟩
      · cases none'
  · intro id consumedAt member within
    obtain ⟨taken, refused⟩ := sound.retained (discards _ member) within
    refine ⟨?_, ?_, ?_⟩
    · intro source payload r saved
      exact taken (saveNoteDraft_ok saved).1
    · intro noteId payload r made
      obtain ⟨checked, replay, replayed, _⟩ := createNote_ok made
      rw [refused] at replayed
      cases replayed
    · intro noteId payload r made
      obtain ⟨checked, replay, replayed, _⟩ := updateNote_ok made
      rw [refused] at replayed
      cases replayed

/-- A note, an edit of it under a draft id, and the note purged. -/
def editedThenPurged : List Act :=
  [.createNote none 1 .cleared, .updateNote 1 (some 7) .cleared, .deleteNote 1, .purgeNote 1]

theorem drafts_published_once_created : ∃ s s', Run State.Next .empty
      [.createNote (some 7) 1 .cleared, .deleteNoteDraft 8] s ∧
    Run State.Next s [.tick 5, .deleteNote 1] s' ∧
    (s'.outcomes.filter fun o => o.clientDraftID = 7).length ≤ 1 ∧
    (∀ source payload r, s'.saveNoteDraft 7 source payload ≠ .ok r) ∧
    (∀ noteId payload, Outcome.Told ⟨7, 1, false⟩ s' noteId payload) ∧
    ∀ source payload r, s'.saveNoteDraft 8 source payload ≠ .ok r := by
  have done : (([Act.createNote (some 7) 1 .cleared, .deleteNoteDraft 8].foldlM State.next .empty).any
      fun s => decide (⟨7, 1, false⟩ ∈ s.outcomes) && decide ((8, 0) ∈ s.discards) &&
        ([Act.tick 5, .deleteNote 1].foldlM State.next s).any fun s' =>
          decide (s'.now ≤ 0 + discardRetentionMs)) = true := by
    decide +kernel
  obtain ⟨s, ran, done⟩ := (Option.any_eq_true _ _).mp done
  obtain ⟨done, later⟩ := Bool.and_eq_true _ _ ▸ done
  obtain ⟨published, discarded⟩ := Bool.and_eq_true _ _ ▸ done
  obtain ⟨s', on, within⟩ := (Option.any_eq_true _ _).mp later
  obtain ⟨once, outcomes, discards⟩ :=
    drafts_published_once (Run.of_foldlM ran) (Run.of_foldlM on)
  obtain ⟨refused, _, _, told⟩ := outcomes _ (of_decide_eq_true published)
  exact ⟨s, s', Run.of_foldlM ran, Run.of_foldlM on, once 7, refused,
    fun noteId payload => (told noteId payload).mpr nofun,
    (discards 8 0 (of_decide_eq_true discarded) (of_decide_eq_true within)).1⟩

/-- The purge has taken the note from the row of the edit, and its retry is taken for a draft of
another note. -/
theorem purged_edit_refused : ∃ s, Run State.Next .empty editedThenPurged s ∧
    ⟨7, 1, true⟩ ∈ s.outcomes ∧ s.notes.find 1 = none ∧
    s.updateNote 1 (some 7) .cleared = .error .consumed := by
  have done : ((editedThenPurged.foldlM State.next .empty).any fun s =>
      decide (⟨7, 1, true⟩ ∈ s.outcomes) && (s.notes.find 1).isNone &&
        match s.updateNote 1 (some 7) .cleared with
        | .error fault => decide (fault = .consumed)
        | .ok _ => false) = true := by
    decide +kernel
  obtain ⟨s, ran, done⟩ := (Option.any_eq_true _ _).mp done
  obtain ⟨done, refused⟩ := Bool.and_eq_true _ _ ▸ done
  obtain ⟨published, gone⟩ := Bool.and_eq_true _ _ ▸ done
  refine ⟨s, Run.of_foldlM ran, of_decide_eq_true published, Option.isNone_iff_eq_none.mp gone, ?_⟩
  split at refused
  · rename_i fault answered
    rw [answered, of_decide_eq_true refused]
  · cases refused

end Replays

end CircleBackend.Notes.Drafts
