import CircleBackend.Notes.GroupCard

/-!
# Card and binding in step

What an update has decided when it comes to the lock (`Settled`), and what follows when the note
has changed by then. `card_in_step` is about all runs.
-/

namespace CircleBackend.Notes.GroupCard

open Library

variable {g g' : Groups} {s t : State} {id w : CallId} {call : Call} {act : Act}
variable {read existing note : NoteRow} {items : Option (List CardDto)} {binding : Option Binding}
variable {groups : Option (List NoteCardSnapshot)} {cardId conversationID : Id}

/-! ## Circles and conversations -/

theorem find_spec {α : Type} {p : α → Prop} [DecidablePred p] {l : List α} {a : α}
    (found : l.find? (fun x => decide (p x)) = some a) : p a := by
  have holds := List.find?_some found
  exact of_decide_eq_true holds

theorem Groups.Names.later (names : g.Names cardId conversationID) (later : g.later g' = true) :
    g'.Names cardId conversationID := by
  obtain ⟨circles, conversations⟩ := (Bool.and_eq_true ..).mp later
  obtain ⟨conversation, member, own, shows⟩ := names
  obtain ⟨after, member', same⟩ := List.any_eq_true.mp (List.all_eq_true.mp conversations _ member)
  simp only [Bool.and_eq_true, decide_eq_true_eq] at same
  refine ⟨after, member', same.1.trans own, ?_⟩
  rcases shows with same' | circleID | ⟨circle, there, groupID, circleID⟩
  · exact .inl same'
  · exact .inr (.inl (same.2.trans circleID))
  · obtain ⟨circle', there', same'⟩ := List.any_eq_true.mp (List.all_eq_true.mp circles _ there)
    simp only [Bool.and_eq_true, Bool.or_eq_true, decide_eq_true_eq] at same'
    have groupID' : circle'.groupID = some cardId := by
      rcases same'.2 with none' | kept
      · rw [groupID] at none'
        cases none'
      · exact kept.trans groupID
    refine .inr (.inr ⟨circle', there', groupID', ?_⟩)
    rw [same.2, circleID, same'.1]

theorem InStep.later (inStep : InStep g note) (later : g.later g' = true) : InStep g' note := by
  unfold InStep at inStep ⊢
  cases bound : note.sourceConversationID with
  | none =>
    rw [bound] at inStep
    exact inStep
  | some conversationID =>
    rw [bound] at inStep
    obtain ⟨card, only, names⟩ := inStep
    exact ⟨card, only, names.later later⟩

theorem inStep_unbound (unbound : note.sourceConversationID = none) :
    InStep g note ↔ note.cards = [] := by
  unfold InStep
  rw [unbound]

theorem inStep_bound (bound : note.sourceConversationID = some conversationID) :
    InStep g note ↔ ∃ card, note.cards = [card] ∧ g.Names card.id conversationID := by
  unfold InStep
  rw [bound]

theorem names_of_find (found : g.findGroupConversationIdForCard cardId = some conversationID) :
    g.Names cardId conversationID := by
  unfold Groups.findGroupConversationIdForCard at found
  split at found
  case h_1 conversation here =>
    cases found
    have member := List.mem_of_find?_eq_some here
    have shows := List.find?_some here
    simp only [Bool.or_eq_true, decide_eq_true_eq] at shows
    exact ⟨conversation, member, rfl, shows.imp Eq.symm .inl⟩
  case h_2 =>
    obtain ⟨circle, here, found⟩ := Option.bind_eq_some_iff.mp found
    obtain ⟨conversation, there, found⟩ := Option.bind_eq_some_iff.mp found
    cases found
    have groupID := List.find?_some here
    simp only [Bool.and_eq_true, decide_eq_true_eq] at groupID
    have circleID := find_spec there
    exact ⟨conversation, List.mem_of_find?_eq_some there, rfl, .inr (.inr ⟨circle,
      List.mem_of_find?_eq_some here, groupID.1, circleID⟩)⟩

theorem names_of_ensure (found : g.ensureOwnedCircleConversation cardId = some conversationID) :
    g.Names cardId conversationID := by
  unfold Groups.ensureOwnedCircleConversation at found
  obtain ⟨circle, here, found⟩ := Option.bind_eq_some_iff.mp found
  split at found
  case isFalse => cases found
  case isTrue =>
    obtain ⟨conversation, there, found⟩ := Option.bind_eq_some_iff.mp found
    cases found
    have shows := List.find?_some here
    simp only [Bool.and_eq_true, Bool.or_eq_true, decide_eq_true_eq] at shows
    have circleID := find_spec there
    refine ⟨conversation, List.mem_of_find?_eq_some there, rfl, .inr ?_⟩
    rcases shows.2 with own | groupID
    · exact .inl (own ▸ circleID)
    · exact .inr ⟨circle, List.mem_of_find?_eq_some here, groupID, circleID⟩

theorem names_of_origin {label : Option JsString} {card : NoteCardSnapshot}
    (found : g.resolveOriginGroupCard conversationID label = some card) :
    g.Names card.id conversationID := by
  unfold Groups.resolveOriginGroupCard at found
  obtain ⟨conversation, here, found⟩ := Option.bind_eq_some_iff.mp found
  have own := find_spec here
  refine ⟨conversation, List.mem_of_find?_eq_some here, own, ?_⟩
  split at found
  case h_1 circleID bound =>
    obtain ⟨row, there, found⟩ := Option.bind_eq_some_iff.mp found
    cases found
    have same := find_spec there
    exact .inr (.inl (bound.trans (congrArg some same.symm)))
  case h_2 =>
    obtain ⟨name, -, found⟩ := Option.bind_eq_some_iff.mp found
    cases found
    exact .inl rfl

/-! ## Canonical cards -/

variable {stored cards : List NoteCardSnapshot}

theorem canonicalCard_id {dtos : List CardDto} {card : NoteCardSnapshot}
    (found : g.canonicalCard stored dtos cardId = some card) : card.id = cardId := by
  unfold Groups.canonicalCard at found
  split at found
  case h_1 kept here =>
    cases found
    have same := find_spec here
    exact same
  case h_2 =>
    split at found
    case h_1 =>
      cases found
      rfl
    case h_2 =>
      obtain ⟨conversation, -, found⟩ := Option.bind_eq_some_iff.mp found
      obtain ⟨name, -, found⟩ := Option.bind_eq_some_iff.mp found
      cases found
      rfl

theorem canonicalize_one {item : CardDto}
    (found : g.canonicalizeNoteCards stored [item] = some cards) :
    ∃ card, cards = [card] ∧ card.id = item.id := by
  unfold Groups.canonicalizeNoteCards at found
  rw [List.mapM_cons] at found
  obtain ⟨card, here, found⟩ := Option.bind_eq_some_iff.mp found
  cases found
  exact ⟨card, rfl, canonicalCard_id here⟩

theorem canonicalize_nonempty {dtos : List CardDto} (nonempty : dtos ≠ [])
    (found : g.canonicalizeNoteCards stored dtos = some cards) : cards ≠ [] := by
  unfold Groups.canonicalizeNoteCards at found
  cases dtos with
  | nil => exact absurd rfl nonempty
  | cons item rest =>
    rw [List.mapM_cons] at found
    obtain ⟨card, -, found⟩ := Option.bind_eq_some_iff.mp found
    obtain ⟨others, -, found⟩ := Option.bind_eq_some_iff.mp found
    cases found
    exact List.cons_ne_nil _ _

/-! ## What an update decides -/

inductive Decided (g : Groups) (read : NoteRow) : Option (List CardDto) → Option Binding → Prop
  | absent : Decided g read none none
  | cleared : Decided g read (some []) (some ⟨none, none⟩)
  | kept {items : List CardDto} (nonempty : items ≠ []) (keeps : read.keepsBinding items = true) :
    Decided g read (some items) none
  | bound {item card : CardDto} {conversationID : Id} (asks : read.keepsBinding [item] = false)
    (same : card.id = item.id) (names : g.Names item.id conversationID) :
    Decided g read (some [item]) (some ⟨some conversationID, some card⟩)

inductive Settled (g : Groups) (read : NoteRow) :
    Option (List CardDto) → Option Binding → Option (List NoteCardSnapshot) → Prop
  | absent : Settled g read none none none
  | cleared : Settled g read (some []) (some ⟨none, none⟩) (some [])
  | kept {items : List CardDto} {cards : List NoteCardSnapshot} (nonempty : items ≠ [])
    (keeps : read.keepsBinding items = true) (shown : cards ≠ []) :
    Settled g read (some items) none (some cards)
  | bound {item card : CardDto} {conversationID : Id} {shown : NoteCardSnapshot}
    (asks : read.keepsBinding [item] = false) (names : g.Names shown.id conversationID) :
    Settled g read (some [item]) (some ⟨some conversationID, some card⟩) (some [shown])

/-- The card and the conversation of `setSourceConversation`. -/
inductive Chosen (g : Groups) : Option Id → Option NoteCardSnapshot → Prop
  | none : Chosen g none none
  | some {conversationID : Id} {card : NoteCardSnapshot} (names : g.Names card.id conversationID) :
    Chosen g (some conversationID) (some card)

theorem Decided.later (decided : Decided g read items binding) (later : g.later g' = true) :
    Decided g' read items binding := by
  cases decided with
  | absent => exact .absent
  | cleared => exact .cleared
  | kept nonempty keeps => exact .kept nonempty keeps
  | bound asks same names => exact .bound asks same (names.later later)

theorem Settled.later (settled : Settled g read items binding groups)
    (later : g.later g' = true) : Settled g' read items binding groups := by
  cases settled with
  | absent => exact .absent
  | cleared => exact .cleared
  | kept nonempty keeps shown => exact .kept nonempty keeps shown
  | bound asks names => exact .bound asks (names.later later)

theorem Chosen.later {chosenID : Option Id} {card : Option NoteCardSnapshot}
    (chosen : Chosen g chosenID card) (later : g.later g' = true) : Chosen g' chosenID card := by
  cases chosen with
  | none => exact .none
  | some names => exact .some (names.later later)

/-- Clearing the section never keeps the binding of a note in step. -/
theorem keepsBinding_nil (inStep : InStep g read) : read.keepsBinding [] = false := by
  cases bound : read.sourceConversationID with
  | none => simp [NoteRow.keepsBinding, bound]
  | some conversationID =>
    obtain ⟨card, only, -⟩ := (inStep_bound bound).mp inStep
    simp [NoteRow.keepsBinding, NoteRow.storedIds, only]

/-! ## States -/

/-- What a call has when it comes to a statement. -/
def Call.Proper (s : State) (id : CallId) : Call → Prop
  | .updateNote items stage =>
    match stage with
    | .findNote => True
    | .findConversation read item =>
      InStep s.groups read ∧ items = some [item] ∧ read.keepsBinding [item] = false
    | .ensureConversation read item =>
      InStep s.groups read ∧ items = some [item] ∧ read.keepsBinding [item] = false
    | .originCard read item conversationID =>
      InStep s.groups read ∧ items = some [item] ∧ read.keepsBinding [item] = false ∧
        s.groups.Names item.id conversationID
    | .canonicalize read binding => InStep s.groups read ∧ Decided s.groups read items binding
    | .lock read binding groups =>
      InStep s.groups read ∧ Settled s.groups read items binding groups
    | .save read binding groups existing =>
      InStep s.groups read ∧ Settled s.groups read items binding groups ∧ existing = s.note ∧
        s.locked = some id
  | .setSourceConversation conversationID _ stage =>
    match stage with
    | .originCard => True
    | .lock card => Chosen s.groups conversationID card
    | .save card => Chosen s.groups conversationID card ∧ s.locked = some id

structure Sound (s : State) : Prop where
  inStep : InStep s.groups s.note
  proper : ∀ id call, s.calls id = some call → call.Proper s id

theorem later_refl (g : Groups) : g.later g = true := by
  simp only [Groups.later, Bool.and_eq_true, List.all_eq_true, List.any_eq_true]
  constructor
  · intro circle member
    exact ⟨circle, member, by simp⟩
  · intro conversation member
    exact ⟨conversation, member, by simp⟩

theorem Call.Proper.onward (proper : call.Proper s w) (later : s.groups.later t.groups = true)
    (holds : s.locked = some w → t.note = s.note ∧ t.locked = some w) : call.Proper t w := by
  cases call with
  | updateNote items stage =>
    cases stage with
    | findNote => trivial
    | findConversation read item | ensureConversation read item =>
      obtain ⟨inStep, rest⟩ := proper
      exact ⟨inStep.later later, rest⟩
    | originCard read item conversationID =>
      obtain ⟨inStep, only, asks, names⟩ := proper
      exact ⟨inStep.later later, only, asks, names.later later⟩
    | canonicalize read binding =>
      obtain ⟨inStep, decided⟩ := proper
      exact ⟨inStep.later later, decided.later later⟩
    | lock read binding groups =>
      obtain ⟨inStep, settled⟩ := proper
      exact ⟨inStep.later later, settled.later later⟩
    | save read binding groups existing =>
      obtain ⟨inStep, settled, same, locked⟩ := proper
      obtain ⟨note, locked'⟩ := holds locked
      exact ⟨inStep.later later, settled.later later, same.trans note.symm, locked'⟩
  | setSourceConversation conversationID label stage =>
    cases stage with
    | originCard => trivial
    | lock card => exact Chosen.later proper later
    | save card =>
      obtain ⟨chosen, locked⟩ := proper
      exact ⟨chosen.later later, (holds locked).2⟩

/-- A statement of `id`, which goes on as `next` if it goes on. -/
theorem Sound.next {next : Option Call} (sound : Sound s)
    (calls : t.calls = Function.update s.calls id next) (groups : t.groups = s.groups)
    (inStep : InStep t.groups t.note)
    (others : ∀ w, w ≠ id → s.locked = some w → t.note = s.note ∧ t.locked = some w)
    (proper : ∀ call, next = some call → call.Proper t id) : Sound t where
  inStep := inStep
  proper w call there := by
    rw [calls] at there
    by_cases own : w = id
    · rw [own, Function.update_self] at there
      exact own ▸ proper call there
    · rw [Function.update_of_ne own] at there
      exact (sound.proper w call there).onward (groups ▸ later_refl _) (others w own)

theorem Sound.goto (sound : Sound s) (proper : call.Proper s id) : Sound (s.goto id call) := by
  apply sound.next (t := s.goto id call) rfl rfl sound.inStep
  · exact fun w _ locked => ⟨rfl, locked⟩
  · intro other own
    cases own
    exact proper.onward (later_refl _) fun locked => ⟨rfl, locked⟩

theorem Sound.finish (sound : Sound s) (id : CallId) : Sound (s.finish id) := by
  apply sound.next (t := s.finish id) rfl rfl sound.inStep
  · intro w other locked
    exact ⟨rfl, by simp [State.finish, locked, Option.filter, other]⟩
  · intro call own
    cases own

/-- A step that leaves the note alone. -/
theorem meets_of_note (sound : Sound s) (note : t.note = s.note)
    (later : s.groups.later t.groups = true) : Meets s act t where
  inStep := by
    rw [note]
    exact sound.inStep.later later
  binding _ _ := by rw [note]

/-! ## The write of an update -/

theorem cards_some {source : Option Id} : NoteRow.cards ⟨some cards, source⟩ = cards := rfl

/-- An update that keeps the binding writes the card it came with where there is none any more. -/
theorem savedNote_bound (bound : existing.sourceConversationID ≠ none) :
    State.savedNote none groups existing = existing := by
  simp [State.savedNote, bound]

theorem savedNote_unbound (unbound : existing.sourceConversationID = none) :
    State.savedNote none groups existing = ⟨groups, none⟩ := by
  simp [State.savedNote, unbound]

theorem savedNote_some {chosen : Binding} :
    State.savedNote (some chosen) groups existing = ⟨groups, chosen.conversationID⟩ := by
  simp [State.savedNote]

theorem save_meets (sound : Sound s)
    (here : s.calls id = some (.updateNote items (.save read binding groups existing)))
    (note : t.note = State.savedNote binding groups existing) (same : t.groups = s.groups) :
    Meets s (.turn id) t ↔ s.stale (.turn id) = false := by
  obtain ⟨-, settled, own, -⟩ := sound.proper id _ here
  have now : InStep s.groups existing := own ▸ sound.inStep
  cases settled with
  | absent =>
    have fresh : s.stale (.turn id) = false := by simp [State.stale, here]
    refine ⟨fun _ => fresh, fun _ => ?_⟩
    by_cases bound : existing.sourceConversationID = none
    · rw [savedNote_unbound bound] at note
      refine ⟨?_, fun _ _ => ?_⟩
      · rw [note, inStep_unbound rfl]
        rfl
      · rw [note, ← own, bound]
    · rw [savedNote_bound bound, own] at note
      exact meets_of_note sound note (same ▸ later_refl _)
  | cleared =>
    rw [savedNote_some] at note
    have inStep : InStep t.groups t.note := by
      rw [note, inStep_unbound rfl]
      rfl
    have stale : s.stale (.turn id) = (decide (read.storedIds = []) &&
        existing.sourceConversationID.isSome && s.managed) := by
      simp [State.stale, here]
    have asks : s.asks (.turn id) = !decide (read.storedIds = []) := by
      simp [State.asks, here, repeats]
    have gone : t.note.sourceConversationID = none := by rw [note]
    rw [stale]
    constructor
    · intro meets
      by_contra overtaken
      simp only [Bool.not_eq_false, Bool.and_eq_true, decide_eq_true_eq] at overtaken
      obtain ⟨⟨nothing, bound⟩, managed⟩ := overtaken
      have kept := meets.binding managed (by simp [asks, nothing])
      rw [gone, ← own] at kept
      rw [← kept] at bound
      cases bound
    · intro fresh
      refine ⟨inStep, fun managed quiet => ?_⟩
      rw [asks] at quiet
      simp only [Bool.not_eq_false', decide_eq_true_eq] at quiet
      simp only [managed, quiet, decide_true, Bool.true_and, Bool.and_true] at fresh
      rw [gone, ← own]
      exact (Option.isNone_iff_eq_none.mp (by simpa using fresh)).symm
  | @kept dtos cards nonempty keeps shown =>
    have stale : s.stale (.turn id) = decide (existing.sourceConversationID = none) := by
      cases dtos with
      | nil => exact absurd rfl nonempty
      | cons item rest => simp [State.stale, here, keeps]
    rw [stale]
    by_cases bound : existing.sourceConversationID = none
    · rw [savedNote_unbound bound] at note
      constructor
      · intro meets
        have inStep := meets.inStep
        rw [note, inStep_unbound rfl, cards_some] at inStep
        exact absurd inStep shown
      · intro fresh
        exact absurd bound (of_decide_eq_false fresh)
    · rw [savedNote_bound bound, own] at note
      exact ⟨fun _ => decide_eq_false bound,
        fun _ => meets_of_note sound note (same ▸ later_refl _)⟩
  | @bound item card conversationID shown asks names =>
    rw [savedNote_some] at note
    have fresh : s.stale (.turn id) = false := by simp [State.stale, here, asks]
    refine ⟨fun _ => fresh, fun _ => ⟨?_, fun _ quiet => ?_⟩⟩
    · rw [note, same, inStep_bound rfl]
      exact ⟨shown, rfl, names⟩
    · simp [State.asks, here, repeats, asks] at quiet

/-! ## Steps -/

theorem Sound.lock (sound : Sound s) (unlocked : s.locked = none)
    (proper : call.Proper { s with locked := some id } id) :
    Sound ({ s with locked := some id }.goto id call) := by
  apply sound.next (t := State.goto { s with locked := some id } id call) rfl rfl sound.inStep
  · intro w _ locked
    rw [unlocked] at locked
    cases locked
  · intro other own
    cases own
    exact proper.onward (later_refl _) fun locked => ⟨rfl, locked⟩

/-- The holder of the lock writes the note. -/
theorem Sound.save {managed : Bool} (sound : Sound s) (locked : s.locked = some id)
    (inStep : InStep s.groups note) : Sound ({ s with note, managed }.finish id) := by
  apply sound.next (t := State.finish { s with note, managed } id) rfl rfl inStep
  · intro w other held
    rw [locked] at held
    cases held
    exact absurd rfl other
  · intro call own
    cases own

/-- What a statement of a call leaves behind: a sound state, the note as it was. -/
def Plain (s t : State) : Prop := Sound t ∧ t.note = s.note ∧ t.groups = s.groups

theorem Sound.plain_goto (sound : Sound s) (proper : call.Proper s id) : Plain s (s.goto id call) :=
  ⟨sound.goto proper, rfl, rfl⟩

theorem Sound.plain_finish (sound : Sound s) (id : CallId) : Plain s (s.finish id) :=
  ⟨sound.finish id, rfl, rfl⟩

theorem Sound.findNote (sound : Sound s) (step : s.updateTurn id items .findNote = some t) :
    Plain s t := by
  simp only [State.updateTurn] at step
  split at step
  case h_1 =>
    cases step
    have proper : (Call.updateNote none (.canonicalize s.note none)).Proper s id :=
      ⟨sound.inStep, .absent⟩
    exact sound.plain_goto proper
  case h_2 dtos =>
    split at step
    case isTrue keeps =>
      cases step
      have nonempty : dtos ≠ [] := by
        intro empty
        rw [empty, keepsBinding_nil sound.inStep] at keeps
        cases keeps
      have proper : (Call.updateNote (some dtos) (.canonicalize s.note none)).Proper s id :=
        ⟨sound.inStep, .kept nonempty keeps⟩
      exact sound.plain_goto proper
    case isFalse asks =>
      split at step
      case h_1 =>
        cases step
        have proper : (Call.updateNote (some []) (.canonicalize s.note
            (some ⟨none, none⟩))).Proper s id :=
          ⟨sound.inStep, .cleared⟩
        exact sound.plain_goto proper
      case h_2 item =>
        cases step
        have proper : (Call.updateNote (some [item]) (.findConversation s.note item)).Proper s id :=
          ⟨sound.inStep, rfl, by simpa using asks⟩
        exact sound.plain_goto proper
      case h_3 =>
        cases step
        exact sound.plain_finish id

theorem Sound.canonicalize (sound : Sound s) (inStep : InStep s.groups read)
    (decided : Decided s.groups read items binding)
    (step : s.updateTurn id items (.canonicalize read binding) = some t) : Plain s t := by
  cases decided with
  | absent =>
    cases step
    have proper : (Call.updateNote none (.lock read none none)).Proper s id := ⟨inStep, .absent⟩
    exact sound.plain_goto proper
  | cleared =>
    cases step
    have proper : (Call.updateNote (some []) (.lock read (some ⟨none, none⟩) (some []))).Proper s
        id :=
      ⟨inStep, .cleared⟩
    exact sound.plain_goto proper
  | @kept dtos nonempty keeps =>
    simp only [State.updateTurn] at step
    split at step
    case h_1 cards found =>
      cases step
      have proper : (Call.updateNote (some dtos) (.lock read none (some cards))).Proper s id :=
        ⟨inStep, .kept nonempty keeps (canonicalize_nonempty nonempty found)⟩
      exact sound.plain_goto proper
    case h_2 =>
      cases step
      exact sound.plain_finish id
  | @bound item card conversationID asks same names =>
    simp only [State.updateTurn, Option.toList_some] at step
    split at step
    case h_1 cards found =>
      cases step
      obtain ⟨shown, rfl, own⟩ := canonicalize_one found
      have proper : (Call.updateNote (some [item]) (.lock read (some ⟨some conversationID,
          some card⟩) (some [shown]))).Proper s id := by
        refine ⟨inStep, .bound asks ?_⟩
        rw [own, same]
        exact names
      exact sound.plain_goto proper
    case h_2 =>
      cases step
      exact sound.plain_finish id

/-- The statements of an update before its write. -/
theorem Sound.updateTurn {stage : UpdateStage} (sound : Sound s)
    (here : s.calls id = some (.updateNote items stage))
    (early : ∀ read binding groups existing, stage ≠ .save read binding groups existing)
    (step : s.updateTurn id items stage = some t) : Plain s t := by
  have proper := sound.proper id _ here
  cases stage with
  | findNote => exact sound.findNote step
  | findConversation read item =>
    obtain ⟨inStep, rfl, asks⟩ := proper
    simp only [State.updateTurn] at step
    split at step
    case h_1 conversationID found =>
      cases step
      have next : (Call.updateNote (some [item]) (.originCard read item conversationID)).Proper s
          id :=
        ⟨inStep, rfl, asks, names_of_find found⟩
      exact sound.plain_goto next
    case h_2 =>
      cases step
      have next : (Call.updateNote (some [item]) (.ensureConversation read item)).Proper s id :=
        ⟨inStep, rfl, asks⟩
      exact sound.plain_goto next
  | ensureConversation read item =>
    obtain ⟨inStep, rfl, asks⟩ := proper
    simp only [State.updateTurn] at step
    split at step
    case h_1 conversationID found =>
      cases step
      have next : (Call.updateNote (some [item]) (.originCard read item conversationID)).Proper s
          id :=
        ⟨inStep, rfl, asks, names_of_ensure found⟩
      exact sound.plain_goto next
    case h_2 =>
      cases step
      exact sound.plain_finish id
  | originCard read item conversationID =>
    obtain ⟨inStep, rfl, asks, names⟩ := proper
    simp only [State.updateTurn] at step
    split at step
    case h_1 card found =>
      cases step
      have next : (Call.updateNote (some [item]) (.canonicalize read (some ⟨some conversationID,
          some ⟨item.id, card.name, card.faceURL⟩⟩))).Proper s id :=
        ⟨inStep, .bound asks rfl names⟩
      exact sound.plain_goto next
    case h_2 =>
      cases step
      exact sound.plain_finish id
  | canonicalize read binding => exact sound.canonicalize proper.1 proper.2 step
  | lock read binding groups =>
    simp only [State.updateTurn] at step
    split at step
    case isTrue unlocked =>
      cases step
      have next : (Call.updateNote items (.save read binding groups s.note)).Proper
          { s with locked := some id } id :=
        ⟨proper.1, proper.2, rfl, rfl⟩
      exact ⟨sound.lock unlocked next, rfl, rfl⟩
    case isFalse => cases step
  | save read binding groups existing => exact absurd rfl (early read binding groups existing)

theorem Sound.bindTurn {chosenID : Option Id} {label : Option JsString} {stage : BindStage}
    (sound : Sound s) (here : s.calls id = some (.setSourceConversation chosenID label stage))
    (step : s.bindTurn id chosenID label stage = some t) : Sound t ∧ Meets s (.turn id) t := by
  have proper := sound.proper id _ here
  have asks : s.asks (.turn id) = true := by simp [State.asks, here]
  have quiet : Plain s t → Sound t ∧ Meets s (.turn id) t := by
    rintro ⟨sound', note, groups⟩
    exact ⟨sound', meets_of_note sound note (groups ▸ later_refl _)⟩
  cases stage with
  | originCard =>
    simp only [State.bindTurn] at step
    split at step
    case h_1 conversationID =>
      split at step
      case h_1 card found =>
        cases step
        have next : (Call.setSourceConversation (some conversationID) label
            (.lock (some card))).Proper s id :=
          Chosen.some (names_of_origin found)
        exact quiet (sound.plain_goto next)
      case h_2 =>
        cases step
        exact quiet (sound.plain_finish id)
    case h_2 =>
      cases step
      have next : (Call.setSourceConversation none label (.lock none)).Proper s id := Chosen.none
      exact quiet (sound.plain_goto next)
  | lock card =>
    simp only [State.bindTurn] at step
    split at step
    case isTrue unlocked =>
      cases step
      have next : (Call.setSourceConversation chosenID label (.save card)).Proper
          { s with locked := some id } id :=
        ⟨proper, rfl⟩
      exact quiet ⟨sound.lock unlocked next, rfl, rfl⟩
    case isFalse => cases step
  | save card =>
    obtain ⟨chosen, locked⟩ := proper
    cases step
    have inStep : InStep s.groups ⟨card.map fun card => [card], chosenID⟩ := by
      cases chosen with
      | none => exact (inStep_unbound rfl).mpr rfl
      | @some conversationID card names => exact (inStep_bound rfl).mpr ⟨card, rfl, names⟩
    refine ⟨sound.save locked inStep, inStep, fun _ idle => ?_⟩
    rw [asks] at idle
    cases idle

theorem Sound.step (sound : Sound s) (step : Step s act t) :
    (s.stale act = false → Sound t) ∧ (Meets s act t ↔ s.stale act = false) := by
  have quiet : s.stale act = false → Plain s t →
      (s.stale act = false → Sound t) ∧ (Meets s act t ↔ s.stale act = false) := by
    rintro fresh ⟨sound', note, groups⟩
    exact ⟨fun _ => sound', fun _ => fresh,
      fun _ => meets_of_note sound note (groups ▸ later_refl _)⟩
  cases act with
  | updateNote id items =>
    simp only [Step, State.next] at step
    split at step
    case isTrue =>
      cases step
      have first : (Call.updateNote items .findNote).Proper s id := trivial
      exact quiet rfl (sound.plain_goto first)
    case isFalse => cases step
  | setSourceConversation id conversationID label =>
    simp only [Step, State.next] at step
    split at step
    case isTrue =>
      cases step
      have first : (Call.setSourceConversation conversationID label .originCard).Proper s id :=
        trivial
      exact quiet rfl (sound.plain_goto first)
    case isFalse => cases step
  | turn id =>
    simp only [Step, State.next, State.turn] at step
    obtain ⟨call, here, step⟩ := Option.bind_eq_some_iff.mp step
    cases call with
    | updateNote items stage =>
      by_cases early : ∀ read binding groups existing, stage ≠ .save read binding groups existing
      · have fresh : s.stale (.turn id) = false := by
          cases stage with
          | save read binding groups existing => exact absurd rfl (early read binding groups existing)
          | findNote | findConversation | ensureConversation | originCard | canonicalize | lock =>
            simp [State.stale, here]
        exact quiet fresh (sound.updateTurn here early step)
      · simp only [not_forall, not_not] at early
        obtain ⟨read, binding, groups, existing, rfl⟩ := early
        have locked := (sound.proper id _ here).2.2.2
        have meets : Meets s (.turn id) t ↔ s.stale (.turn id) = false := by
          cases step
          exact save_meets sound here rfl rfl
        refine ⟨fun fresh => ?_, meets⟩
        have inStep := (meets.mpr fresh).inStep
        cases step
        exact sound.save locked inStep
    | setSourceConversation conversationID label stage =>
      obtain ⟨sound', meets⟩ := sound.bindTurn here step
      have fresh : s.stale (.turn id) = false := by simp [State.stale, here]
      exact ⟨fun _ => sound', fun _ => fresh, fun _ => meets⟩
  | refuse id =>
    cases step
    exact quiet rfl (sound.plain_finish id)
  | change groups =>
    simp only [Step, State.next] at step
    split at step
    case isTrue later =>
      cases step
      refine ⟨fun _ => ⟨sound.inStep.later later, ?_⟩, fun _ => rfl,
        fun _ => meets_of_note sound rfl later⟩
      intro w call there
      exact (sound.proper w call there).onward later fun locked => ⟨rfl, locked⟩
    case isFalse => cases step

/-! ## Runs -/

/-- The note is in step and no call is under way. -/
structure Start (s : State) : Prop where
  inStep : InStep s.groups s.note
  calls : ∀ id, s.calls id = none

theorem Start.sound (start : Start s) : Sound s where
  inStep := start.inStep
  proper id call there := by
    rw [start.calls] at there
    cases there

/-- Where no update that keeps what it found comes too late, card and binding are in step and a
binding that `setSourceConversation` has made stays until a call asks for another; an update that
does come too late breaks the one or the other. -/
theorem card_in_step {s₀ : State} {acts : List Act} (start : Start s₀)
    (run : Run (Run.Where Step fun s act => (!s.stale act) = true) s₀ acts s) :
    InStep s.groups s.note ∧
      ∀ act t, Step s act t → (Meets s act t ↔ s.stale act = false) := by
  have sound : Sound s := by
    apply run.preserves _ start.sound
    intro s act t step sound
    exact (sound.step step.1).1 (by simpa using step.2)
  exact ⟨sound.inStep, fun act t step => (sound.step step).2⟩

/-- Circle 3 with conversation 7, and a standalone group 9; the note has no card. -/
def unboundNote : State where
  note := ⟨none, none⟩
  managed := false
  groups := ⟨[⟨3, some 3, [67], none, false, true, true⟩], [⟨7, some 3, none, none, true⟩,
    ⟨9, none, some [71], none, true⟩]⟩
  calls _ := none
  locked := none

def boundNote : State := { unboundNote with note := ⟨some [⟨3, none, none, [67], none⟩], some 7⟩ }

theorem unboundNote_start : Start unboundNote := ⟨rfl, fun _ => rfl⟩

theorem boundNote_start : Start boundNote where
  inStep := ⟨_, rfl, _, List.mem_cons_self, rfl, .inr (.inl rfl)⟩
  calls _ := rfl

def turns (id : CallId) (n : Nat) : List Act := List.replicate n (.turn id)

/-- The card of circle 3 is submitted, kept while the binding moves to group 9, and removed. -/
def cardMoves : List Act :=
  .updateNote 0 (some [⟨3, [], none⟩]) :: turns 0 6 ++
    .updateNote 1 (some [⟨3, [], none⟩]) :: turns 1 2 ++
    .setSourceConversation 2 (some 9) none :: turns 2 3 ++ turns 1 2 ++
    .updateNote 3 (some []) :: turns 3 4

theorem card_in_step_cardMoves : ∃ s, Run Step unboundNote cardMoves s ∧
    InStep s.groups s.note ∧ s.note = ⟨some [], none⟩ ∧ s.calls 3 = none := by
  have played : cardMoves.foldlM (Run.whenever (fun s act => !s.stale act) State.next)
      unboundNote = some _ := rfl
  have run := Run.where_of_foldlM played
  exact ⟨_, run.mono fun s act t step => step.1, (card_in_step unboundNote_start run).1, rfl, rfl⟩

/-- The binding is removed between the read and the lock of an update with the same card. -/
def removedBetween : List Act :=
  .updateNote 0 (some [⟨3, [67], none⟩]) :: turns 0 2 ++
    .setSourceConversation 1 none none :: turns 1 3 ++ turns 0 2

/-- A binding is made between the read and the lock of an update that has no card either. -/
def madeBetween : List Act :=
  .updateNote 0 (some []) :: turns 0 2 ++
    .setSourceConversation 1 (some 9) none :: turns 1 3 ++ turns 0 2

theorem card_out_of_step :
    (Start boundNote ∧ ∃ s, Run Step boundNote removedBetween s ∧ s.calls 0 = none ∧
      s.calls 1 = none ∧ s.locked = none ∧ s.note.storedIds = [3] ∧
        s.note.sourceConversationID = none) ∧
    Start unboundNote ∧ ∃ s t, Run Step unboundNote madeBetween.dropLast s ∧ s.managed = true ∧
      s.note.sourceConversationID = some 9 ∧ s.asks (.turn 0) = false ∧ Step s (.turn 0) t ∧
        t.note.sourceConversationID = none := by
  constructor
  · have played : removedBetween.foldlM State.next boundNote = some _ := rfl
    exact ⟨boundNote_start, _, Run.of_foldlM played, rfl, rfl, rfl, rfl, rfl⟩
  · have played : madeBetween.dropLast.foldlM State.next unboundNote = some _ := rfl
    exact ⟨unboundNote_start, _, _, Run.of_foldlM played, rfl, rfl, rfl, rfl, rfl⟩

end CircleBackend.Notes.GroupCard
