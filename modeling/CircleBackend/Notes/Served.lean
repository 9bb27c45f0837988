import CircleBackend.Library.Paging
import CircleBackend.Notes.Fanout

/-!
# The recipients that the fan-out serves

The cursors of the job are behind what has been broadcast since the last change. A worker
takes them from its snapshot: where that is of the row that it claims, or behind it,
nobody is passed over (`fanout_serves`); the snapshot of a row that was deleted since may
be ahead (`fanout_skips`).
-/

namespace CircleBackend.Notes.Fanout

open Library
open Session (UserId)

section Served

/-! ## What a cursor has passed -/

def past (job : FanoutJob) : Recipient → Bool
  | .owner note => job.stage = .chatMembers || !job.beforeNote note.id
  | .member seat =>
    job.stage = .chatMembers && !job.beforeMember seat.conversationID seat.userID

def passes : Progress → Recipient → Bool
  | .owners cursor, .owner note => note.id ≤ cursor
  | .owners _, .member _ => false
  | .chatMembers, .owner _ => true
  | .chatMembers, .member _ => false
  | .member _ _, .owner _ => true
  | .member conversation user, .member seat => seat.key ≤ toLex (conversation, user)
  | .done, _ => true

variable {s t : State} {job row : FanoutJob} {progress : Progress} {r : Recipient}

theorem mem_recipients : r ∈ s.recipients ↔
    match r with
    | .owner note => note ∈ s.notes.rows
    | .member seat => seat ∈ s.members.rows ∧ s.cards seat.conversationID = true := by
  unfold State.recipients
  cases r with
  | owner note => simp
  | member seat => simp [List.mem_filter]

theorem beforeMember_iff (job : FanoutJob) {seat : ChatMember} {conversation : ConversationId}
    {user : UserId} (first : job.chatConversationCursor = some conversation)
    (second : job.chatUserCursor = some user) :
    job.beforeMember seat.conversationID seat.userID = true ↔
      toLex (conversation, user) < seat.key := by
  unfold FanoutJob.beforeMember
  rw [first, second]
  simp only [Option.all_some, Bool.or_eq_true, decide_eq_true_eq, Bool.and_eq_true]
  show _ ↔ toLex (conversation, user) < toLex (seat.conversationID, seat.userID)
  rw [Prod.Lex.toLex_lt_toLex]

/-- A row after a page counts as served what the page has passed. -/
theorem progressed_past {now : Time} {row' : FanoutJob}
    (progressed : row.progressed now progress = some row') (counted : past row' r = true) :
    passes progress r = true := by
  unfold FanoutJob.progressed at progressed
  cases progress with
  | owners cursor =>
    cases progressed
    cases r with
    | owner note =>
      simpa [past, passes, FanoutJob.beforeNote, FanoutJob.released] using counted
    | member seat => simp [past] at counted
  | chatMembers =>
    cases progressed
    cases r with
    | owner note => rfl
    | member seat => simp [past, FanoutJob.beforeMember] at counted
  | member conversation user =>
    cases progressed
    cases r with
    | owner note => rfl
    | member seat =>
      have before : _ ↔ toLex (conversation, user) < seat.key :=
        beforeMember_iff { row.released now with
          stage := .chatMembers
          chatConversationCursor := some conversation
          chatUserCursor := some user } rfl rfl
      unfold past at counted
      obtain ⟨-, after⟩ := Bool.and_eq_true _ _ ▸ counted
      rw [Bool.not_eq_true', ← Bool.not_eq_true, before] at after
      exact decide_eq_true (not_lt.mp after)
  | done => cases progressed

/-! ## What a page passes -/

theorem ownerPage_passes {note : Note} (inside : note ∈ s.notes.rows)
    (passed : passes (s.ownerPage job).2 (.owner note) = true) :
    job.beforeNote note.id = false ∨ note.ownerID ∈ (s.ownerPage job).1 := by
  by_cases before : job.beforeNote note.id = true
  case neg => exact .inl (Bool.not_eq_true _ ▸ before)
  right
  unfold State.ownerPage State.ownerRows at passed ⊢
  refine List.mem_map.mpr ⟨note, ?_, rfl⟩
  refine mem_sorted_page s.notes.unique (fun note => job.beforeNote note.id) (by decide) inside before ?_
  intro last final more
  dsimp only at passed
  rw [final] at passed
  dsimp only at passed
  rw [if_pos more] at passed
  exact of_decide_eq_true passed

theorem memberPage_passes {seat : ChatMember} (inside : seat ∈ s.members.rows)
    (holds : s.cards seat.conversationID = true)
    (passed : passes (s.memberPage job).2 (.member seat) = true) :
    job.beforeMember seat.conversationID seat.userID = false ∨
      seat.userID ∈ (s.memberPage job).1 := by
  by_cases before : job.beforeMember seat.conversationID seat.userID = true
  case neg => exact .inl (Bool.not_eq_true _ ▸ before)
  right
  unfold State.memberPage State.memberRows at passed ⊢
  refine List.mem_map.mpr ⟨seat, ?_, rfl⟩
  refine mem_sorted_page s.members.unique (fun m => s.cards m.conversationID &&
    job.beforeMember m.conversationID m.userID) (by decide) inside ?_ ?_
  · rw [holds, before]
    rfl
  · intro last final more
    dsimp only at passed
    rw [final] at passed
    dsimp only at passed
    rw [if_pos more] at passed
    exact of_decide_eq_true passed

/-- Whom the next cursor has passed, the last one had, or the page has. -/
theorem page_passes (inside : r ∈ s.recipients) (passed : passes (s.page job).2 r = true) :
    past job r = true ∨ r.user ∈ (s.page job).1 := by
  rw [mem_recipients] at inside
  unfold State.page at passed ⊢
  cases stage : job.stage with
  | owners =>
    rw [stage] at passed
    cases r with
    | owner note =>
      rcases ownerPage_passes inside passed with before | there
      · exact .inl (by simp [past, before])
      · exact .inr there
    | member seat =>
      unfold State.ownerPage at passed
      dsimp only at passed
      split at passed
      · split at passed <;> cases passed
      · cases passed
  | chatMembers =>
    rw [stage] at passed
    cases r with
    | owner note => exact .inl (by simp [past, stage])
    | member seat =>
      rcases memberPage_passes inside.1 inside.2 passed with before | there
      · exact .inl (by simp [past, stage, before])
      · exact .inr there

/-! ## What has been broadcast -/

/-- A payload of the last change was sent to the recipient. -/
def State.told (s : State) (r : Recipient) : Prop :=
  ∃ payload, (r.user, payload) ∈ s.broadcasts ∧ s.changes ≤ payload.loadedAfter

def State.served (s : State) (counted : Recipient → Bool) : Prop :=
  ∀ r ∈ s.standing, counted r = true → s.told r

/-- What a worker with the lease has done. -/
def Worker.leads (w : Worker) (s : State) : Prop :=
  match w.stage with
  | .claiming => False
  | .paging payload => s.changes ≤ payload.loadedAfter
  | .broadcasting payload page progress => s.changes ≤ payload.loadedAfter ∧
    ∀ r ∈ s.standing, passes progress r = true → s.told r ∨ r.user ∈ page
  | .persisting progress => s.served (passes progress)
  | .loading | .failing | .finished => True

structure Sound (s : State) : Prop where
  standing : s.standing ⊆ s.recipients
  absent : s.row = none → ∀ r ∈ s.standing, s.told r
  row : ∀ row, s.row = some row → s.served (past row)
  seen : ∀ id w, s.workers.find id = some w → w.seen ≤ s.created
  snapshot : ∀ id w row, s.workers.find id = some w → s.row = some row → w.seen = s.created →
    w.job.generation ≤ row.generation ∧
      (w.job.generation = row.generation → s.served (past w.job))
  leased : ∀ row id, s.row = some row → row.leaseToken = some id → ∃ w,
    s.workers.find id = some w ∧ s.served (past w.job) ∧ w.leads s

variable {w : Worker} {counted : Recipient → Bool}

/-- A change of the recipients, or more that has been broadcast. -/
structure Onward (s t : State) : Prop where
  standing : t.standing ⊆ s.standing
  told : ∀ r, s.told r → t.told r
  changes : t.changes = s.changes

theorem served_onward (onward : Onward s t) (served : s.served counted) : t.served counted :=
  fun r inside own => onward.told r (served r (onward.standing inside) own)

theorem leads_onward (onward : Onward s t) (leads : w.leads s) : w.leads t := by
  unfold Worker.leads at leads ⊢
  rw [onward.changes]
  split at leads
  case h_1 => exact leads.elim
  case h_2 => exact leads
  case h_3 =>
    refine ⟨leads.1, fun r inside passed => ?_⟩
    exact (leads.2 r (onward.standing inside) passed).imp_left (onward.told r)
  case h_4 => exact served_onward onward leads
  all_goals trivial

theorem sound_onward (sound : Sound s) (onward : Onward s t) (remain : t.standing ⊆ t.recipients)
    (row : t.row = s.row) (workers : t.workers = s.workers) (created : t.created = s.created) :
    Sound t := by
  constructor
  case standing => exact remain
  case absent =>
    intro none' r inside
    exact onward.told r (sound.absent (row.symm.trans none') r (onward.standing inside))
  case row =>
    intro row' there
    exact served_onward onward (sound.row row' (row.symm.trans there))
  case seen =>
    rw [workers, created]
    exact sound.seen
  case snapshot =>
    intro id w row' calling there
    rw [workers] at calling
    rw [created]
    intro seen
    obtain ⟨generation, served⟩ := sound.snapshot id w row' calling (row.symm.trans there) seen
    exact ⟨generation, fun same => served_onward onward (served same)⟩
  case leased =>
    intro row' id there lease
    obtain ⟨w, calling, served, leads⟩ := sound.leased row' id (row.symm.trans there) lease
    exact ⟨w, workers.symm ▸ calling, served_onward onward served, leads_onward onward leads⟩

/-- A worker that goes on, with the row as it is. -/
theorem sound_goto (stage : Stage) (sound : Sound s) (calling : s.workers.find w.id = some w)
    (leads : ∀ row, s.row = some row → row.leaseToken = some w.id → s.served (past w.job) →
      w.leads s → ({ w with stage := stage } : Worker).leads s) : Sound (s.goto w stage) := by
  have there : s.workers.find ({ w with stage := stage } : Worker).id = some w := calling
  have at' (id : WorkerId) (w' : Worker) (after : (s.goto w stage).workers.find id = some w') :
      ∃ w₀, s.workers.find id = some w₀ ∧ w'.job = w₀.job ∧ w'.seen = w₀.seen := by
    dsimp only [State.goto] at after
    rw [Table.find_put_of_find there] at after
    split at after
    case isTrue here =>
      cases after
      exact ⟨w, here ▸ calling, rfl, rfl⟩
    case isFalse => exact ⟨w', after, rfl, rfl⟩
  constructor
  case standing => exact sound.standing
  case absent => exact sound.absent
  case row => exact sound.row
  case seen =>
    intro id w' after
    obtain ⟨w₀, calling₀, -, seen⟩ := at' id w' after
    rw [seen]
    exact sound.seen id w₀ calling₀
  case snapshot =>
    intro id w' row after own
    obtain ⟨w₀, calling₀, job, seen⟩ := at' id w' after
    rw [job, seen]
    exact sound.snapshot id w₀ row calling₀ own
  case leased =>
    intro row id own lease
    obtain ⟨w₀, calling₀, served, leads₀⟩ := sound.leased row id own lease
    by_cases here : id = w.id
    · subst here
      cases calling.symm.trans calling₀
      refine ⟨_, (Table.find_put_of_find there w.id).trans (if_pos rfl), served, ?_⟩
      exact leads row own lease served leads₀
    · exact ⟨w₀, (Table.find_put_of_find there id).trans ((if_neg here).trans calling₀), served,
        leads₀⟩

theorem sound_row {row' : FanoutJob} (sound : Sound s) (own : s.row = some row)
    (generation : row'.generation = row.generation) (served : s.served (past row'))
    (leased : ∀ id, row'.leaseToken = some id → ∃ w,
      s.workers.find id = some w ∧ s.served (past w.job) ∧ w.leads s) :
    Sound { s with row := some row' } := by
  constructor
  case standing => exact sound.standing
  case absent =>
    intro none'
    cases none'
  case row =>
    intro row'' after
    cases after
    exact served
  case seen => exact sound.seen
  case snapshot =>
    intro id w row'' calling after
    cases after
    rw [generation]
    exact sound.snapshot id w row calling own
  case leased =>
    intro row'' id after
    cases after
    exact leased id

theorem sound_gone (sound : Sound s) (told : ∀ r ∈ s.standing, s.told r) :
    Sound { s with row := none } := by
  constructor
  case standing => exact sound.standing
  case absent => exact fun _ => told
  case row =>
    intro row after
    cases after
  case seen => exact sound.seen
  case snapshot =>
    intro id w row calling after
    cases after
  case leased =>
    intro row id after
    cases after

/-! ## A step -/

/-- A claim is made with a snapshot of the row itself, or with one that counts nobody as
served whom the row does not. -/
def Fresh (s : State) : Act → Prop
  | .work id => ∀ w row, s.workers.find id = some w → w.stage = .claiming →
    s.row = some row → row.claimable w.job = true →
      w.seen = s.created ∨ ∀ r ∈ s.standing, past w.job r = true → past row r = true
  | _ => True

theorem held_some (held : s.held w = some row) : s.row = some row ∧ row.leaseToken = some w.id := by
  obtain ⟨own, claimed⟩ := Option.filter_eq_some_iff.mp held
  simp only [FanoutJob.claimed, Bool.and_eq_true, decide_eq_true_eq] at claimed
  exact ⟨own, claimed.1.2⟩

theorem sound_work (sound : Sound s) (calling : s.workers.find w.id = some w)
    (fresh : ∀ row, w.stage = .claiming → s.row = some row → row.claimable w.job = true →
      w.seen = s.created ∨ ∀ r ∈ s.standing, past w.job r = true → past row r = true)
    (did : s.work w = some t) : Sound t := by
  unfold State.work at did
  cases stage : w.stage with
  | claiming =>
    rw [stage] at did
    cases did
    split
    case h_1 row claimed =>
      obtain ⟨own, claimable⟩ := Option.filter_eq_some_iff.mp claimed
      have generation : row.generation = w.job.generation := by
        simp only [FanoutJob.claimable, Bool.and_eq_true, decide_eq_true_eq] at claimable
        exact claimable.1.1
      have served : s.served (past w.job) := by
        rcases fresh row stage own claimable with seen | behind
        · exact (sound.snapshot w.id w row calling own seen).2 generation.symm
        · exact fun r inside counted => sound.row row own r inside (behind r inside counted)
      have unleased : Sound { s with row := some { row with leaseToken := none } } :=
        sound_row sound own rfl (sound.row row own) nofun
      have moved : Sound (State.goto { s with row := some { row with leaseToken := none } } w
          .loading) := by
        refine sound_goto _ unleased calling fun row' after lease => ?_
        cases after
        cases lease
      suffices claimed : Sound { State.goto { s with row := some { row with leaseToken := none } } w
          .loading with row := some { row with
            status := .processing, leaseToken := some w.id, lockedAt := some s.clock } } from claimed
      refine sound_row moved rfl rfl (sound.row row own) fun id lease => ?_
      cases lease
      exact ⟨_, (Table.find_put_own calling (by rfl) w.id).trans (if_pos rfl), served, trivial⟩
    case h_2 => exact sound_goto _ sound calling fun _ _ _ _ _ => trivial
  | loading =>
    rw [stage] at did
    cases did
    refine sound_goto _ sound calling fun row own lease served leads => ?_
    unfold State.loadPayload
    split <;> exact Nat.le_refl _
  | paging payload =>
    rw [stage] at did
    cases did
    refine sound_goto _ sound calling fun row own lease served leads => ?_
    unfold Worker.leads at leads
    rw [stage] at leads
    refine ⟨leads, fun r inside passed => ?_⟩
    exact (page_passes (sound.standing inside) passed).imp_left (served r inside)
  | broadcasting payload page progress =>
    rw [stage] at did
    cases did
    have onward : Onward s { s with
        broadcasts := s.broadcasts ++ page.dedup.map fun user => (user, payload) } := by
      refine ⟨List.Subset.refl _, fun r told => ?_, rfl⟩
      obtain ⟨sent, inside, after⟩ := told
      exact ⟨sent, List.mem_append_left _ inside, after⟩
    have sent := sound_onward sound onward sound.standing rfl rfl rfl
    refine sound_goto _ sent calling fun row own lease served leads => ?_
    unfold Worker.leads at leads
    rw [stage] at leads
    intro r inside passed
    rcases leads.2 r inside passed with told | paged
    · exact told
    · refine ⟨payload, List.mem_append_right _ ?_, leads.1⟩
      exact List.mem_map.mpr ⟨r.user, List.mem_dedup.mpr paged, rfl⟩
  | persisting progress =>
    rw [stage] at did
    cases did
    split
    case h_1 row held =>
      obtain ⟨own, lease⟩ := held_some held
      obtain ⟨w', calling', -, leads⟩ := sound.leased row w.id own lease
      cases calling.symm.trans calling'
      unfold Worker.leads at leads
      rw [stage] at leads
      have finished := sound_goto .finished sound calling fun _ _ _ _ _ => trivial
      cases progressed : row.progressed s.clock progress with
      | none =>
        refine sound_gone finished fun r inside => leads r inside ?_
        cases progress with
        | done => rfl
        | owners | chatMembers | member => cases progressed
      | some row' =>
        refine sound_row finished own ?_ (fun r inside counted => ?_) ?_
        · unfold FanoutJob.progressed at progressed
          cases progress with
          | done => cases progressed
          | owners | chatMembers | member =>
            cases progressed
            rfl
        · exact leads r inside (progressed_past progressed counted)
        · intro id lease'
          unfold FanoutJob.progressed at progressed
          cases progress with
          | done => cases progressed
          | owners | chatMembers | member =>
            cases progressed
            cases lease'
    case h_2 => exact sound_goto _ sound calling fun _ _ _ _ _ => trivial
  | failing =>
    rw [stage] at did
    cases did
    split
    case h_1 row held =>
      obtain ⟨own, lease⟩ := held_some held
      have finished := sound_goto .finished sound calling fun _ _ _ _ _ => trivial
      exact sound_row finished own rfl (sound.row row own) nofun
    case h_2 => exact sound_goto _ sound calling fun _ _ _ _ _ => trivial
  | finished =>
    rw [stage] at did
    cases did

variable {root : NoteId} {act : Act}

theorem past_enqueued {changed : Bool} {now : Time} (old : Option FanoutJob) :
    past (enqueued root changed now old) r = false := by
  cases old <;> cases r <;> rfl

theorem sound_enqueue (changed : Bool) (sound : Sound s) : Sound { s with
    row := some (enqueued root changed s.clock s.row)
    changes := s.changes + 1
    created := if s.row.isNone then s.created + 1 else s.created
    standing := s.recipients } := by
  constructor
  case standing => exact List.Subset.refl _
  case absent =>
    intro none'
    cases none'
  case row =>
    intro row after r _ counted
    cases after
    rw [past_enqueued] at counted
    cases counted
  case seen =>
    intro id w calling
    dsimp only
    have seen := sound.seen id w calling
    split
    · exact Nat.le_succ_of_le seen
    · exact seen
  case snapshot =>
    intro id w row calling after seen
    cases after
    dsimp only at seen
    cases old : s.row with
    | none =>
      rw [old] at seen
      have before := sound.seen id w calling
      rw [seen] at before
      exact absurd before (Nat.not_succ_le_self _)
    | some row =>
      rw [old] at seen
      have older := (sound.snapshot id w row calling old seen).1
      refine ⟨Nat.le_succ_of_le older, fun same => ?_⟩
      rw [same] at older
      exact absurd older (Nat.not_succ_le_self _)
  case leased =>
    intro row id after lease
    cases after
    cases old : s.row <;> rw [old] at lease <;> cases lease

theorem sound_look {id : WorkerId} {workers : Table Worker WorkerId (·.id)} (sound : Sound s)
    (own : s.row = some row)
    (looked : s.workers.insert ⟨id, row, s.created, .claiming⟩ = some workers) :
    Sound { s with workers := workers } := by
  have at' (id' : WorkerId) (w : Worker) (after : workers.find id' = some w) :
      w = ⟨id, row, s.created, .claiming⟩ ∨ s.workers.find id' = some w := by
    rw [Table.find_insert looked] at after
    split at after
    · exact .inl (Option.some.inj after).symm
    · exact .inr after
  constructor
  case standing => exact sound.standing
  case absent => exact sound.absent
  case row => exact sound.row
  case seen =>
    intro id' w after
    rcases at' id' w after with rfl | old
    · exact Nat.le_refl _
    · exact sound.seen id' w old
  case snapshot =>
    intro id' w row' after own' seen
    rcases at' id' w after with rfl | old
    · cases own.symm.trans own'
      exact ⟨Nat.le_refl _, fun _ => sound.row row own⟩
    · exact sound.snapshot id' w row' old own' seen
  case leased =>
    intro row' id' own' lease
    obtain ⟨w, calling, rest⟩ := sound.leased row' id' own' lease
    have apart : id ≠ id' := by
      rintro rfl
      cases (Table.insert_fresh looked).symm.trans calling
    exact ⟨w, (Table.find_insert looked id').trans ((if_neg apart).trans calling), rest⟩

theorem sound_remaining (sound : Sound s) (u : State) (standing : u.standing = s.standing)
    (broadcasts : u.broadcasts = s.broadcasts) (changes : u.changes = s.changes)
    (row : u.row = s.row) (workers : u.workers = s.workers) (created : u.created = s.created) :
    Sound u.remaining := by
  refine sound_onward sound ⟨?_, fun r told => ?_, changes⟩ ?_ row workers created
  · rw [← standing]
    exact List.filter_sublist.subset
  · obtain ⟨payload, inside, after⟩ := told
    exact ⟨payload, broadcasts.symm ▸ inside, changes.symm ▸ after⟩
  · intro r inside
    exact of_decide_eq_true (List.mem_filter.mp inside).2

theorem sound_step (step : Step root s act t) (fresh : Fresh s act) (sound : Sound s) : Sound t := by
  have same : Onward s s := ⟨List.Subset.refl _, fun _ told => told, rfl⟩
  unfold Step State.next at step
  cases act with
  | enqueue changed =>
    cases step
    exact sound_enqueue changed sound
  | look id =>
    obtain ⟨row, chosen, step⟩ := Option.bind_eq_some_iff.mp step
    obtain ⟨workers, looked, rfl⟩ := Option.map_eq_some_iff.mp step
    exact sound_look sound (Option.filter_eq_some_iff.mp chosen).1 looked
  | work id =>
    obtain ⟨w, calling, did⟩ := Option.bind_eq_some_iff.mp step
    obtain rfl : w.id = id := Table.find_key calling
    exact sound_work sound calling (fun row stage own claimable =>
      fresh w row calling stage own claimable) did
  | throws id =>
    obtain ⟨w, calling, rfl⟩ := Option.map_eq_some_iff.mp step
    obtain rfl : w.id = id := Table.find_key calling
    refine sound_goto _ sound calling fun row own lease served leads => ?_
    unfold Stage.thrown
    split <;> trivial
  | crash id =>
    obtain ⟨w, calling, rfl⟩ := Option.map_eq_some_iff.mp step
    obtain rfl : w.id = id := Table.find_key calling
    exact sound_goto _ sound calling fun _ _ _ _ _ => trivial
  | edit source =>
    cases step
    exact sound_onward sound ⟨same.standing, same.told, rfl⟩ sound.standing rfl rfl rfl
  | add note =>
    obtain ⟨notes, inserted, rfl⟩ := Option.map_eq_some_iff.mp step
    refine sound_onward sound ⟨same.standing, same.told, rfl⟩ (fun r inside => ?_) rfl rfl rfl
    have there := sound.standing inside
    rw [mem_recipients] at there ⊢
    cases r with
    | owner note' => exact (Table.mem_insert inserted).mpr (.inl there)
    | member seat => exact there
  | remove id =>
    cases step
    exact sound_remaining sound _ rfl rfl rfl rfl rfl rfl
  | join member =>
    obtain ⟨members, inserted, rfl⟩ := Option.map_eq_some_iff.mp step
    refine sound_onward sound ⟨same.standing, same.told, rfl⟩ (fun r inside => ?_) rfl rfl rfl
    have there := sound.standing inside
    rw [mem_recipients] at there ⊢
    cases r with
    | owner note => exact there
    | member seat => exact ⟨(Table.mem_insert inserted).mpr (.inl there.1), there.2⟩
  | leave member =>
    cases step
    exact sound_remaining sound _ rfl rfl rfl rfl rfl rfl
  | card conversation holds =>
    cases step
    exact sound_remaining sound _ rfl rfl rfl rfl rfl rfl
  | tick now =>
    dsimp only at step
    split at step
    · cases step
      exact sound_onward sound ⟨same.standing, same.told, rfl⟩ sound.standing rfl rfl rfl
    · cases step

theorem sound_empty : Sound .empty where
  standing := List.nil_subset _
  absent := by
    intro _ r inside
    cases inside
  row := by
    intro row own
    cases own
  seen := by
    intro id w calling
    cases calling
  snapshot := by
    intro id w row calling
    cases calling
  leased := by
    intro row id own
    cases own

/-- Where no worker claims the row with the snapshot of an earlier one that is ahead of it,
whoever the row has passed has been told, and without a row everyone. -/
theorem fanout_serves {acts : List Act} (run : Run (Run.Where (Step root) Fresh) .empty acts s) :
    (s.row = none → ∀ r ∈ s.standing, s.told r) ∧
    ∀ row, s.row = some row → ∀ r ∈ s.standing, past row r = true → s.told r := by
  have sound : Sound s :=
    run.preserves (P := Sound) (fun _ _ _ step sound => sound_step step.1 step.2 sound) sound_empty
  exact ⟨sound.absent, sound.row⟩

end Served

/-! Two changes, each served by its own workers. -/

def fresh (s : State) : Act → Bool
  | .work id => (s.workers.find id).all fun w => w.stage ≠ .claiming || w.seen = s.created
  | _ => true

theorem fresh_of {s : State} {act : Act} (h : fresh s act = true) : Fresh s act := by
  cases act with
  | work id =>
    intro w row calling stage own claimable
    simp only [fresh, calling, Option.all_some, stage, ne_eq, not_true_eq_false, decide_false,
      Bool.false_or, decide_eq_true_eq] at h
    exact .inl h
  | enqueue | look | throws | crash | edit | add | remove | join | leave | card | tick => trivial

def served (w : WorkerId) : List Act := .look w :: List.replicate 5 (.work w)

def twoChanges : List Act :=
  [.add ⟨0, 1⟩, .add ⟨1, 2⟩, .join ⟨7, 3⟩, .card 7 true, .edit (some ⟨.active, true, some .working⟩),
    .enqueue false] ++ served 0 ++ served 1 ++ [.enqueue true] ++ served 2 ++ served 3

theorem fanout_serves_twice : ∃ s, Run (Step 0) .empty twoChanges s ∧ s.row = none ∧
    s.changes = 2 ∧ .member ⟨7, 3⟩ ∈ s.standing ∧ s.told (.member ⟨7, 3⟩) := by
  have played : ((twoChanges.foldlM (Run.whenever fresh (State.next 0)) .empty).any fun s =>
      s.row.isNone && decide (s.changes = 2) && decide (.member ⟨7, 3⟩ ∈ s.standing)) = true := by
    decide +kernel
  obtain ⟨s, ran, ends⟩ := (Option.any_eq_true _ _).mp played
  obtain ⟨ends, standing⟩ := Bool.and_eq_true _ _ ▸ ends
  obtain ⟨gone, changes⟩ := Bool.and_eq_true _ _ ▸ ends
  have run := Run.where_of_foldlM ran
  have gone : s.row = none := Option.isNone_iff_eq_none.mp gone
  have standing : Recipient.member ⟨7, 3⟩ ∈ s.standing := of_decide_eq_true standing
  have hold := fanout_serves (run.mono fun _ _ _ step => ⟨step.1, fresh_of step.2⟩)
  exact ⟨s, run.mono fun _ _ _ step => step.1, gone, of_decide_eq_true changes, standing,
    hold.1 gone _ standing⟩

/-- A worker holds the snapshot of the last page while another finishes the job; then the
note changes again. -/
def overtaken : List Act :=
  [.add ⟨0, 1⟩, .edit (some ⟨.active, true, some .working⟩), .enqueue false] ++ served 0 ++
    [.look 1] ++ served 2 ++ [.edit (some ⟨.active, true, some .closed⟩), .enqueue true] ++
      List.replicate 5 (.work 1)

theorem fanout_skips : ∃ s, Run (Step 0) .empty overtaken s ∧ s.row = none ∧
    .owner ⟨0, 1⟩ ∈ s.standing ∧ ∀ sent ∈ s.broadcasts, sent.2.loadedAfter < s.changes := by
  have played : ((overtaken.foldlM (State.next 0) .empty).any fun s =>
      s.row.isNone && decide (.owner ⟨0, 1⟩ ∈ s.standing) &&
        s.broadcasts.all fun sent => decide (sent.2.loadedAfter < s.changes)) = true := by
    decide +kernel
  obtain ⟨s, ran, ends⟩ := (Option.any_eq_true _ _).mp played
  obtain ⟨ends, stale⟩ := Bool.and_eq_true _ _ ▸ ends
  obtain ⟨gone, standing⟩ := Bool.and_eq_true _ _ ▸ ends
  refine ⟨s, Run.of_foldlM ran, Option.isNone_iff_eq_none.mp gone, of_decide_eq_true standing, ?_⟩
  exact fun sent inside => of_decide_eq_true (List.all_eq_true.mp stale sent inside)

end CircleBackend.Notes.Fanout
