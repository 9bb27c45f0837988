import CircleBackend.Push.Turns

/-!
# Settled deliveries

The outbox row is fenced by the lease, the deliveries are not: a call sends and writes
those it has selected, whoever holds the row by then. `deliveries_settle` is about the
runs in which nobody else selects them meanwhile and no deletion of the announcement
reaches those that are already released for sending.
-/

namespace CircleBackend.Push.Outbox

open Library
open Chat (jsString)
open NotificationPushDelivery (settle_token receipt_token)

/-! ## One statement and one delivery -/

theorem find_createDeliveries (deliveries : Deliveries) (tokens : List Token) (k : Token) :
    (createDeliveries deliveries tokens).find k =
      if k ∈ tokens then some ((deliveries.find k).getD (.create k)) else deliveries.find k := by
  induction tokens generalizing deliveries with
  | nil => rfl
  | cons token rest ih =>
    have first : ((deliveries.insert (.create token)).getD deliveries).find k =
        if k = token then some ((deliveries.find k).getD (.create k)) else deliveries.find k := by
      cases inserted : deliveries.insert (.create token) with
      | some t =>
        rw [Option.getD_some, Table.find_insert inserted]
        have fresh := Table.insert_fresh inserted
        by_cases own : k = token
        · subst own
          have fresh : deliveries.find k = none := fresh
          simp [NotificationPushDelivery.create, fresh]
        · simp [NotificationPushDelivery.create, own, Ne.symm own]
      | none =>
        rw [Option.getD_none]
        by_cases own : k = token
        · subst own
          cases found : deliveries.find k with
          | none =>
            obtain ⟨t, made⟩ := Table.insert_of_fresh (a := NotificationPushDelivery.create k) found
            rw [made] at inserted
            cases inserted
          | some d => simp
        · rw [if_neg own]
    have rest' := ih ((deliveries.insert (.create token)).getD deliveries)
    rw [createDeliveries, List.foldl_cons, ← createDeliveries, rest', first]
    by_cases own : k = token
    · subst own
      simp
    · simp [own]

section Fate

variable {n : Notification} {now : Time} {devices : List DevicePushToken} {db db' : Db}
  {w w' : Worker} {act : WorkerAct}

/-- What a statement of `processPending` does to the delivery of a token. -/
inductive Fate (db : Db) (w w' : Worker) (k : Token) :
    Option NotificationPushDelivery → Option NotificationPushDelivery → Prop
  | same (row : Option NotificationPushDelivery) : Fate db w w' k row row
  | created : Fate db w w' k none (some (.create k))
  | revoked {d : NotificationPushDelivery} (held : k ∈ w.stage.held)
      (early : w.stage.released = false) (lastError : Option JsString)
      (dropped : k ∉ w'.stage.held) :
      Fate db w w' k (some d) (some (d.settle .terminal lastError))
  | written {d : NotificationPushDelivery} (held : k ∈ w.stage.held)
      (released : w.stage.released = true) (write : OutcomeWrite) (sentAt : Time)
      (dropped : k ∉ w'.stage.held) :
      Fate db w w' k (some d) (some (write.apply sentAt d))
  | cancelled {d : NotificationPushDelivery} (unsettled : d.unsettled = true)
      (removed : db.outbox.completionReason = some .announcementDeleted)
      (lastError : Option JsString) (idle : w'.stage.held = []) :
      Fate db w w' k (some d) (some (d.settle .terminal lastError))

theorem Turn.fate (turn : Turn n now devices db w act db' w') (distinct : w.stage.held.Nodup)
    (k : Token) : Fate db w w' k (db.deliveries.find k) (db'.deliveries.find k) := by
  cases turn with
  | create stage =>
    dsimp only
    rw [find_createDeliveries]
    split
    · cases db.deliveries.find k with
      | none => exact .created
      | some d => exact .same (some d)
    · exact .same _
  | @revoke tokens retriableDeliveries stage =>
    dsimp only
    rw [Table.find_updateMany]
    cases found : db.deliveries.find k with
    | none => exact .same none
    | some d =>
      rw [Option.map_some]
      split
      · rename_i chosen
        rw [Table.find_key found, List.contains_iff_mem, List.mem_filter] at chosen
        refine .revoked ?_ ?_ _ ?_
        · rw [stage]
          exact chosen.1
        · rw [stage]
          rfl
        · dsimp only
          rw [held_afterRevocation, List.mem_filter]
          rintro ⟨-, active⟩
          rw [active] at chosen
          cases chosen.2
      · exact .same _
  | cancel stage =>
    dsimp only
    rw [Table.find_updateMany]
    cases found : db.deliveries.find k with
    | none => exact .same none
    | some d =>
      rw [Option.map_some]
      split
      · rename_i chosen
        rw [Bool.and_eq_true] at chosen
        exact .cancelled chosen.1 (of_decide_eq_true chosen.2) _ rfl
      · exact .same _
  | @write write ids rest sentAt retryable stage =>
    dsimp only
    rw [Table.find_updateMany]
    cases found : db.deliveries.find k with
    | none => exact .same none
    | some d =>
      rw [Option.map_some]
      split
      · rename_i chosen
        have member := List.contains_iff_mem.mp chosen
        rw [Table.find_key found] at member
        rw [stage] at distinct
        refine .written ?_ ?_ write sentAt ?_
        · rw [stage]
          exact List.mem_append_left _ member
        · rw [stage]
          rfl
        · exact (List.disjoint_of_nodup_append distinct) member
      · exact .same _
  | claim | miss | skip | list | select | countExhausted | countAwaiting | conclude | recheck
  | abandon | start | answer | collect | complete | fail | crash => exact .same _

/-- A selection apart, a call has less and less in hand. -/
theorem Turn.held (turn : Turn n now devices db w act db' w') :
    act = .select ∧ db' = db ∧ w'.stage.released = false ∧
        w'.stage.held = (db.deliveries.select (·.retriable)).map (·.token) ∨
      w'.stage.held.Subperm w.stage.held := by
  cases turn with
  | select stage => exact .inl ⟨rfl, rfl, rfl, rfl⟩
  | revoke stage =>
    right
    rw [stage]
    dsimp only
    rw [held_afterRevocation]
    exact List.filter_sublist.subperm
  | recheck stage | start stage | answer stage =>
    right
    rw [stage]
    exact List.Subperm.refl _
  | collect stage answered =>
    right
    rw [stage]
    dsimp only
    have perm := writesOf_tokens (outcomesOf _ _) |>.trans (.of_eq (outcomesOf_tokens answered))
    exact perm.subperm
  | write stage =>
    right
    rw [stage]
    exact (List.sublist_append_right _ _).subperm
  | claim | miss | skip | list | create | countExhausted | countAwaiting | conclude | abandon
  | cancel | complete | fail | crash => exact .inr (List.nil_subperm)

/-- What is released was before, or is not of a deleted announcement. -/
theorem Turn.released (turn : Turn n now devices db w act db' w')
    (released : w'.stage.released = true) :
    w.stage.released = true ∨ db.deleted = false ∨ n.announced = false := by
  cases turn with
  | recheck stage held present => exact .inr (.inl present)
  | revoke stage =>
    right
    right
    dsimp only [afterRevocation] at released
    split at released
    · cases released
    · split at released
      · cases released
      · exact Bool.eq_false_iff.mpr ‹_›
  | start stage | answer stage | collect stage | write stage =>
    left
    rw [stage]
    rfl
  | claim | miss | skip | list | create | select | countExhausted | countAwaiting | conclude
  | abandon | cancel | complete | fail | crash => cases released

theorem Turn.deleted (turn : Turn n now devices db w act db' w') : db'.deleted = db.deleted := by
  cases turn <;> rfl

theorem finishJob_reason {r : RunId} {status : OutboxStatus}
    {reason : Option CompletionReason} (other : reason ≠ some .announcementDeleted)
    (h : (db.finishJob r now status reason).outbox.completionReason = some .announcementDeleted) :
    db.outbox.completionReason = some .announcementDeleted := by
  dsimp only [Db.finishJob, NotificationPushOutbox.finishJob] at h
  split at h
  · exact absurd h other
  · exact h

theorem Turn.reason (turn : Turn n now devices db w act db' w')
    (h : db'.outbox.completionReason = some .announcementDeleted) :
    db.outbox.completionReason = some .announcementDeleted := by
  cases turn with
  | skip => exact finishJob_reason (by decide) h
  | complete => exact finishJob_reason (by decide) h
  | conclude =>
    refine finishJob_reason ?_ h
    split <;> nofun
  | fail =>
    dsimp only [NotificationPushOutbox.failJob] at h
    split at h <;> exact h
  | claim | miss | list | create | select | revoke | countExhausted | countAwaiting | recheck
  | abandon | cancel | start | answer | collect | write | crash => exact h

end Fate

/-! ## The rows that are in hand -/

/-- What the invariant needs of a step: no call selects what another one has in hand, and
no deletion reaches what is released for sending. -/
def fenced (s : State) : Act → Bool
  | .worker r .select =>
    s.workers.rows.all fun w => w.leaseToken = r ||
      w.stage.held.all fun k => !(s.db.deliveries.find k).any (·.retriable)
  | .remove =>
    s.workers.rows.all fun w => !w.stage.released ||
      w.stage.held.all fun k => !(s.db.deliveries.find k).any (·.unsettled)
  | _ => true

def Fenced (n : Notification) : State → Act → State → Prop :=
  Run.Where (Step n) fun s act => fenced s act = true

structure Sound (n : Notification) (s : State) : Prop where
  /-- A deletion may have come before the recheck. -/
  chosen : ∀ r w, s.workers.find r = some w → ∀ k ∈ w.stage.held,
    ∃ d, s.db.deliveries.find k = some d ∧ (d.retriable = true ∨
      w.stage.released = false ∧ s.db.deleted = true ∧ d.status = .terminal)
  apart : ∀ r r' w w', s.workers.find r = some w → s.workers.find r' = some w' → r ≠ r' →
    ∀ k ∈ w.stage.held, k ∉ w'.stage.held
  distinct : ∀ r w, s.workers.find r = some w → w.stage.held.Nodup
  gone : s.db.deleted = true → n.announced = true ∧
    ∀ r w, s.workers.find r = some w → w.stage.released = true → w.stage.held = []
  removed : s.db.outbox.completionReason = some .announcementDeleted → s.db.deleted = true
  bounded : ∀ k d, s.db.deliveries.find k = some d → d.attempts ≤ deliveryMaxAttempts

/-- How a step may change a delivery. -/
inductive Change (act : Act) (gone : Bool) (d d' : NotificationPushDelivery) : Prop
  | same (same : d' = d)
  | written (retriable : d.retriable = true) (counted : d'.attempts = d.attempts + 1)
  | polled {q : PollId} {a : PollAct} (poll : act = .poll q a) (sent : d.status = .sent)
      (moved : d'.status ≠ .sent ∧ d'.status ≠ .pending) (kept : d'.attempts = d.attempts)
  | closed
      (open' : d.retriable = true ∨ gone = true ∧ (d.unsettled = true ∨ d.status = .terminal))
      (closed : d'.status = .terminal) (kept : d'.attempts = d.attempts)

theorem Sound.created (n : Notification) (now : Time) (devices : List DevicePushToken) :
    Sound n (.created now devices) where
  chosen := nofun
  apart := nofun
  distinct := nofun
  gone := nofun
  removed := nofun
  bounded := nofun

variable {d : NotificationPushDelivery} {act : PollAct} {db db' : Db} {p p' : Poll}

theorem unsettled_of_retriable (h : d.retriable = true) : d.unsettled = true :=
  (Bool.and_eq_true _ _ ▸ h).1

theorem status_of_unsettled (h : d.unsettled = true) :
    d.status = .pending ∨ d.status = .failed := by
  rw [NotificationPushDelivery.unsettled, Bool.or_eq_true] at h
  exact h.imp of_decide_eq_true of_decide_eq_true

theorem attempts_of_retriable (h : d.retriable = true) : d.attempts < deliveryMaxAttempts :=
  of_decide_eq_true (Bool.and_eq_true _ _ ▸ h).2

theorem apply_attempts (write : OutcomeWrite) (sentAt : Time) (d : NotificationPushDelivery) :
    (write.apply sentAt d).attempts = d.attempts + 1 := by
  cases write <;> rfl

theorem PollTurn.absent (turn : PollTurn db p act db' p') {k : Token}
    (before : db.deliveries.find k = none) : db'.deliveries.find k = none := by
  cases turn with
  | settle | fail =>
    dsimp only
    rw [Table.find_updateMany, before]
    rfl
  | pass | readExhausted | terminate => exact before

/-- A batch of `pollReceipts` finds the delivery SENT, or leaves it. -/
theorem PollTurn.row (turn : PollTurn db p act db' p') {k : Token}
    (before : db.deliveries.find k = some d) :
    db'.deliveries.find k = some d ∨
      ∃ d', db'.deliveries.find k = some d' ∧ d.status = .sent ∧
        (d'.status ≠ .sent ∧ d'.status ≠ .pending) ∧ d'.attempts = d.attempts := by
  cases turn with
  | settle ids final lastError =>
    dsimp only
    rw [Table.find_updateMany_some (receipt_token _ _ _) before]
    split
    · rename_i taken
      refine .inr ⟨_, rfl, of_decide_eq_true (Bool.and_eq_true _ _ ▸ taken).2, ?_, rfl⟩
      rcases final with rfl | rfl <;> exact ⟨nofun, nofun⟩
    · exact .inl rfl
  | fail token lastError =>
    dsimp only
    rw [Table.find_updateMany_some (receipt_token _ _ _) before]
    split
    · rename_i taken
      exact .inr ⟨_, rfl, of_decide_eq_true (Bool.and_eq_true _ _ ▸ taken).2, ⟨nofun, nofun⟩, rfl⟩
    · exact .inl rfl
  | pass | readExhausted | terminate => exact .inl before

theorem PollTurn.reason (turn : PollTurn db p act db' p') :
    db'.outbox.completionReason = db.outbox.completionReason := by
  cases turn with
  | fail =>
    dsimp only [NotificationPushOutbox.reopen]
    split
    · split <;> rfl
    · rfl
  | terminate =>
    dsimp only [NotificationPushOutbox.exhaust]
    split <;> rfl
  | settle | pass | readExhausted => rfl

section Fence

variable {n : Notification} {s t : State} {act : Act}

theorem change_of_step (sound : Sound n s) (step : Step n s act t) (k : Token) :
    (s.db.deliveries.find k = none ∧
        ∀ d, t.db.deliveries.find k = some d → d = .create k) ∨
      ∃ d d', s.db.deliveries.find k = some d ∧ t.db.deliveries.find k = some d' ∧
        Change act t.db.deleted d d' := by
  have kept (same : t.db.deliveries = s.db.deliveries) :
      (s.db.deliveries.find k = none ∧
          ∀ d, t.db.deliveries.find k = some d → d = .create k) ∨
        ∃ d d', s.db.deliveries.find k = some d ∧ t.db.deliveries.find k = some d' ∧
          Change act t.db.deleted d d' := by
    rw [same]
    cases found : s.db.deliveries.find k with
    | none => exact .inl ⟨rfl, nofun⟩
    | some d => exact .inr ⟨d, d, rfl, rfl, .same rfl⟩
  cases act with
  | load r => exact kept (congrArg Db.deliveries (load_step step).2.1)
  | look q now taken => exact kept (congrArg Db.deliveries (look_step step).1)
  | devices rows => cases step; exact kept rfl
  | tick now =>
    rw [Step, State.next] at step
    split at step
    · cases step; exact kept rfl
    · cases step
  | remove =>
    rw [Step, State.next] at step
    split at step
    · cases step
      cases found : s.db.deliveries.find k with
      | none =>
        refine .inl ⟨rfl, fun d after => ?_⟩
        rw [State.db, Db.remove, Table.find_updateMany, found] at after
        cases after
      | some d =>
        refine .inr ⟨d, _, rfl, Table.find_updateMany_some (settle_token _ _) found, ?_⟩
        split
        · rename_i unsettled
          exact .closed (.inr ⟨rfl, .inl unsettled⟩) rfl rfl
        · exact .same rfl
    · cases step
  | poll q a =>
    obtain ⟨p, db, p', -, turn, rfl, -⟩ := poll_step step
    cases before : s.db.deliveries.find k with
    | none =>
      refine .inl ⟨rfl, fun d found => ?_⟩
      rw [turn.absent before] at found
      cases found
    | some d =>
      right
      rcases turn.row before with same | ⟨d', after, sent, moved, kept⟩
      · exact ⟨d, d, rfl, same, .same rfl⟩
      · exact ⟨d, d', rfl, after, .polled rfl sent moved kept⟩
  | worker r a =>
    obtain ⟨w, db, w', found, turn, rfl, -⟩ := worker_step step
    have fate := turn.fate (sound.distinct r w found) k
    dsimp only
    cases before : s.db.deliveries.find k with
    | none =>
      left
      rw [before] at fate
      refine ⟨rfl, fun d after => ?_⟩
      rw [after] at fate
      cases fate
      rfl
    | some d =>
      right
      rw [before] at fate
      generalize db.deliveries.find k = row at fate
      cases fate with
      | same => exact ⟨d, d, rfl, rfl, .same rfl⟩
      | revoked held =>
        refine ⟨d, _, rfl, rfl, ?_⟩
        obtain ⟨e, own, state⟩ := sound.chosen r w found k held
        cases before.symm.trans own
        refine .closed ?_ rfl rfl
        exact state.imp_right fun late => ⟨turn.deleted.trans late.2.1, .inr late.2.2⟩
      | written held released write sentAt =>
        refine ⟨d, _, rfl, rfl, ?_⟩
        obtain ⟨e, own, state⟩ := sound.chosen r w found k held
        cases before.symm.trans own
        rcases state with retriable | ⟨early, -⟩
        · exact .written retriable (apply_attempts write sentAt d)
        · rw [released] at early
          cases early
      | cancelled unsettled removed =>
        have gone := turn.deleted.trans (sound.removed removed)
        exact ⟨d, _, rfl, rfl, .closed (.inr ⟨gone, .inl unsettled⟩) rfl rfl⟩

theorem bounded_step (sound : Sound n s) (step : Step n s act t) (k : Token)
    (d' : NotificationPushDelivery) (found : t.db.deliveries.find k = some d') :
    d'.attempts ≤ deliveryMaxAttempts := by
  rcases change_of_step sound step k with ⟨-, fresh⟩ | ⟨d, d'', before, after, change⟩
  · rw [fresh d' found]
    exact Nat.zero_le _
  · cases found.symm.trans after
    have bound := sound.bounded k d before
    cases change with
    | same same => exact same ▸ bound
    | written retriable counted =>
      have room := attempts_of_retriable retriable
      omega
    | polled poll sent moved kept => exact kept ▸ bound
    | closed open' closed kept => exact kept ▸ bound

/-- A step that takes nothing in hand, and leaves alone what is in hand. -/
theorem Sound.frame (sound : Sound n s) (step : Step n s act t)
    (workers : ∀ r w, t.workers.find r = some w →
      w.stage.held = [] ∨ s.workers.find r = some w)
    (rows : ∀ k d, s.db.deliveries.find k = some d → d.status ≠ .sent →
      t.db.deliveries.find k = some d)
    (deleted : t.db.deleted = s.db.deleted)
    (reason : t.db.outbox.completionReason = s.db.outbox.completionReason) : Sound n t where
  chosen r w found k held := by
    rcases workers r w found with none' | old
    · rw [none'] at held
      cases held
    · obtain ⟨d, own, state⟩ := sound.chosen r w old k held
      refine ⟨d, rows k d own ?_, by rwa [deleted]⟩
      intro sent
      rcases state with retriable | ⟨-, -, terminal⟩
      · rcases status_of_unsettled (unsettled_of_retriable retriable) with status | status
        · rw [sent] at status
          cases status
        · rw [sent] at status
          cases status
      · rw [sent] at terminal
        cases terminal
  apart r r' w w' found found' other k held held' := by
    rcases workers r w found with none' | old
    · rw [none'] at held
      cases held
    · rcases workers r' w' found' with none' | old'
      · rw [none'] at held'
        cases held'
      · exact sound.apart r r' w w' old old' other k held held'
  distinct r w found := by
    rcases workers r w found with none' | old
    · rw [none']
      exact List.nodup_nil
    · exact sound.distinct r w old
  gone gone := by
    obtain ⟨announced, idle⟩ := sound.gone (deleted ▸ gone)
    refine ⟨announced, fun r w found released => ?_⟩
    rcases workers r w found with none' | old
    · exact none'
    · exact idle r w old released
  removed h := deleted ▸ sound.removed (reason ▸ h)
  bounded := bounded_step sound step

theorem Sound.remove (sound : Sound n s) (step : Step n s .remove t)
    (fence : fenced s .remove = true) : Sound n t := by
  have bounded := bounded_step sound step
  rw [Step, State.next] at step
  split at step
  case isFalse => cases step
  rename_i announced
  cases step
  have idle : ∀ r w, s.workers.find r = some w → w.stage.released = true → w.stage.held = [] := by
    intro r w found released
    have apart := List.all_eq_true.mp fence w (Table.find_mem found)
    rw [released] at apart
    by_contra some'
    obtain ⟨k, held⟩ := List.exists_mem_of_ne_nil _ some'
    have row := List.all_eq_true.mp apart k held
    obtain ⟨d, own, state⟩ := sound.chosen r w found k held
    rcases state with retriable | ⟨early, -⟩
    · rw [own, Option.any_some, unsettled_of_retriable retriable] at row
      cases row
    · rw [released] at early
      cases early
  constructor
  case chosen =>
    intro r w found k held
    obtain ⟨d, own, state⟩ := sound.chosen r w found k held
    have early : w.stage.released = false := by
      by_contra released
      rw [idle r w found (Bool.not_eq_false _ ▸ released)] at held
      cases held
    refine ⟨_, Table.find_updateMany_some (settle_token _ _) own, .inr ⟨early, rfl, ?_⟩⟩
    split
    · rfl
    · rename_i settled
      rcases state with retriable | ⟨-, -, terminal⟩
      · exact absurd (unsettled_of_retriable retriable) settled
      · exact terminal
  case apart => exact sound.apart
  case distinct => exact sound.distinct
  case gone => exact fun _ => ⟨announced, idle⟩
  case removed => exact fun _ => rfl
  case bounded => exact bounded

theorem Sound.worker (sound : Sound n s) {r : RunId} {a : WorkerAct}
    (step : Step n s (.worker r a) t) (fence : fenced s (.worker r a) = true) : Sound n t := by
  have bounded := bounded_step sound step
  obtain ⟨w, db, w', found, turn, same, workers⟩ := worker_step step
  have fate := turn.fate (sound.distinct r w found)
  have deleted : t.db.deleted = s.db.deleted := by rw [same]; exact turn.deleted
  have rows : t.db.deliveries = db.deliveries := by rw [same]
  have reason : t.db.outbox = db.outbox := by rw [same]
  clear same
  have mine : t.workers.find r = some w' := by rw [workers, if_pos rfl]
  have others : ∀ r', r' ≠ r → t.workers.find r' = s.workers.find r' := by
    intro r' other
    rw [workers, if_neg other]
  -- what another call has in hand is not touched
  have kept : ∀ r' v, r' ≠ r → s.workers.find r' = some v → ∀ k ∈ v.stage.held,
      ∃ d, t.db.deliveries.find k = some d ∧ (d.retriable = true ∨
        v.stage.released = false ∧ t.db.deleted = true ∧ d.status = .terminal) := by
    intro r' v other theirs k held
    obtain ⟨d, own, state⟩ := sound.chosen r' v theirs k held
    have apart := sound.apart r' r v w theirs found other k held
    have fate := fate k
    rw [own] at fate
    rw [rows, deleted]
    generalize db.deliveries.find k = row at fate
    cases fate with
    | same => exact ⟨d, rfl, state⟩
    | revoked mine' => exact absurd mine' apart
    | written mine' => exact absurd mine' apart
    | cancelled unsettled removed lastError =>
      have gone := sound.removed removed
      refine ⟨_, rfl, .inr ⟨?_, gone, rfl⟩⟩
      by_contra released
      rw [(sound.gone gone).2 r' v theirs (Bool.not_eq_false _ ▸ released)] at held
      cases held
  constructor
  case chosen =>
    intro r' v theirs k held
    by_cases own : r' = r
    · subst own
      cases mine.symm.trans theirs
      rcases turn.held with ⟨-, rfl, -, taken⟩ | less
      · rw [taken] at held
        obtain ⟨d, selected, rfl⟩ := List.mem_map.mp held
        obtain ⟨member, retriable⟩ := Table.mem_select.mp selected
        exact ⟨d, rows ▸ Table.mem_find member, .inl retriable⟩
      · have before := less.subset held
        obtain ⟨d, row, state⟩ := sound.chosen r' w found k before
        have fate := fate k
        rw [row] at fate
        rw [rows, deleted]
        generalize db.deliveries.find k = after at fate
        cases fate with
        | same =>
          refine ⟨d, rfl, state.imp_right fun ⟨early, gone, terminal⟩ => ⟨?_, gone, terminal⟩⟩
          by_contra released
          rcases turn.released (Bool.not_eq_false _ ▸ released) with was | present | plain
          · rw [was] at early
            cases early
          · rw [gone] at present
            cases present
          · rw [(sound.gone gone).1] at plain
            cases plain
        | revoked _ _ _ dropped => exact absurd held dropped
        | written _ _ _ _ dropped => exact absurd held dropped
        | cancelled _ _ _ idle =>
          rw [idle] at held
          cases held
    · exact kept r' v own (others r' own ▸ theirs) k held
  case apart =>
    -- the selection is apart from what the others have
    have fresh : ∀ r' v, r' ≠ r → s.workers.find r' = some v → ∀ k ∈ v.stage.held,
        k ∉ w'.stage.held := by
      intro r' v other theirs k held mine'
      rcases turn.held with ⟨rfl, -, -, taken⟩ | less
      · have apart := List.all_eq_true.mp fence v (Table.find_mem theirs)
        have named : v.leaseToken ≠ r := fun same => other ((Table.find_key theirs).symm.trans same)
        simp only [named, decide_false, Bool.false_or] at apart
        have row := List.all_eq_true.mp apart k held
        rw [taken] at mine'
        obtain ⟨d, selected, rfl⟩ := List.mem_map.mp mine'
        obtain ⟨member, retriable⟩ := Table.mem_select.mp selected
        rw [Table.mem_find member, Option.any_some, retriable] at row
        cases row
      · exact sound.apart r' r v w theirs found other k held (less.subset mine')
    intro r₁ r₂ v₁ v₂ found₁ found₂ other k held₁ held₂
    by_cases own₁ : r₁ = r
    · subst own₁
      cases mine.symm.trans found₁
      exact fresh r₂ v₂ (Ne.symm other) (others r₂ (Ne.symm other) ▸ found₂) k held₂ held₁
    · by_cases own₂ : r₂ = r
      · subst own₂
        cases mine.symm.trans found₂
        exact fresh r₁ v₁ own₁ (others r₁ own₁ ▸ found₁) k held₁ held₂
      · exact sound.apart r₁ r₂ v₁ v₂ (others r₁ own₁ ▸ found₁) (others r₂ own₂ ▸ found₂) other k
          held₁ held₂
  case distinct =>
    intro r' v theirs
    by_cases own : r' = r
    · subst own
      cases mine.symm.trans theirs
      rcases turn.held with ⟨-, -, -, taken⟩ | less
      · rw [taken]
        exact Table.keys_nodup _ _
      · obtain ⟨l, perm, within⟩ := less
        exact perm.nodup_iff.mp ((sound.distinct r' w found).sublist within)
    · exact sound.distinct r' v (others r' own ▸ theirs)
  case gone =>
    intro gone
    rw [deleted] at gone
    obtain ⟨announced, idle⟩ := sound.gone gone
    refine ⟨announced, fun r' v theirs released => ?_⟩
    by_cases own : r' = r
    · subst own
      cases mine.symm.trans theirs
      rcases turn.released released with was | present | plain
      · rcases turn.held with ⟨-, -, early, -⟩ | less
        · rw [released] at early
          cases early
        · rw [idle r' w found was] at less
          exact List.subperm_nil.mp less
      · rw [gone] at present
        cases present
      · rw [announced] at plain
        cases plain
    · exact idle r' v (others r' own ▸ theirs) released
  case removed =>
    intro h
    rw [reason] at h
    exact deleted ▸ sound.removed (turn.reason h)
  case bounded => exact bounded

theorem sound_step (sound : Sound n s) (step : Fenced n s act t) : Sound n t := by
  obtain ⟨step, fence⟩ := step
  cases act with
  | worker r a => exact sound.worker step fence
  | remove => exact sound.remove step fence
  | load r =>
    obtain ⟨-, db, -, -, workers⟩ := load_step step
    refine sound.frame step ?_ (fun k d found _ => by rwa [db]) (by rw [db]) (by rw [db])
    intro r' w found
    rw [workers] at found
    split at found
    · cases found
      exact .inl rfl
    · exact .inr found
  | look q now taken =>
    obtain ⟨db, workers, -, -⟩ := look_step step
    exact sound.frame step (fun r w found => .inr (workers ▸ found))
      (fun k d found _ => by rwa [db]) (by rw [db]) (by rw [db])
  | devices rows =>
    have turn := step
    cases step
    exact sound.frame turn (fun _ _ found => .inr found) (fun _ _ found _ => found) rfl rfl
  | tick now =>
    have turn := step
    rw [Step, State.next] at step
    split at step
    · cases step
      exact sound.frame turn (fun _ _ found => .inr found) (fun _ _ found _ => found) rfl rfl
    · cases step
  | poll q a =>
    obtain ⟨p, db, p', -, turn, rfl, -⟩ := poll_step step
    refine sound.frame step (fun _ _ found => .inr found) ?_ ?_ ?_
    · intro k d found settled
      rcases turn.row found with same | ⟨-, -, sent, -, -⟩
      · exact same
      · exact absurd sent settled
    · cases turn <;> rfl
    · exact turn.reason

theorem sound {now : Time} {devices : List DevicePushToken} {acts : List Act}
    (run : Run (Fenced n) (.created now devices) acts s) : Sound n s :=
  run.preserves (fun _ _ _ step sound => sound_step sound step) (.created n now devices)

/-- A send is begun of a delivery that may be retried. -/
theorem start_retriable (sound : Sound n s) {r : RunId} {k : Token}
    (step : Step n s (.worker r (.start k)) t) :
    ∃ d, s.db.deliveries.find k = some d ∧ d.retriable = true := by
  obtain ⟨w, db, w', found, turn, -, -⟩ := worker_step step
  cases turn with
  | start stage chosen =>
    have held : k ∈ w.stage.held := by rw [stage]; exact chosen
    obtain ⟨d, row, retriable | ⟨early, -⟩⟩ := sound.chosen r w found k held
    · exact ⟨d, row, retriable⟩
    · rw [stage] at early
      cases early

end Fence

/-! ## Whole runs -/

/-- On the way a statement of `pollReceipts` took the delivery from SENT. -/
def Polled (step : State → Act → State → Prop) (s : State) (acts : List Act) (t : State)
    (k : Token) (into : DeliveryStatus → Prop) : Prop :=
  ∃ front q a back u v d d', acts = front ++ .poll q a :: back ∧ Run step s front u ∧
    step u (.poll q a) v ∧ Run step v back t ∧ u.db.deliveries.find k = some d ∧
    d.status = .sent ∧ v.db.deliveries.find k = some d' ∧ into d'.status

/-- What the delivery `d` of `s` still is in `t`. -/
def Settles (n : Notification) (step : State → Act → State → Prop) (s : State) (acts : List Act)
    (t : State) (k : Token) (d : NotificationPushDelivery) : Prop :=
  d.attempts ≤ deliveryMaxAttempts ∧ ∃ d', t.db.deliveries.find k = some d' ∧
    (d.status = .confirmed → d'.status = .confirmed) ∧
    (d.status = .terminal → d'.status = .terminal) ∧
    (d.status = .sent → d'.status ≠ .sent → Polled step s acts t k (· ≠ .sent)) ∧
    (d.unsettled = false → ∀ r u, Step n t (.worker r (.start k)) u →
      Polled step s acts t k (· = .failed))

section Runs

variable {n : Notification} {step : State → Act → State → Prop} {s t u : State} {acts : List Act}
  {act : Act} {k : Token} {into : DeliveryStatus → Prop}

theorem Polled.snoc (polled : Polled step s acts t k into) (last : step t act u) :
    Polled step s (acts ++ [act]) u k into := by
  obtain ⟨front, q, a, back, x, y, d, d', rfl, before, here, after, rest⟩ := polled
  exact ⟨front, q, a, back ++ [act], x, y, d, d', by simp, before, here, after.snoc last, rest⟩

theorem Polled.last (run : Run step s acts t) {q : PollId} {a : PollAct}
    (last : step t (.poll q a) u) {d d' : NotificationPushDelivery}
    (before : t.db.deliveries.find k = some d) (sent : d.status = .sent)
    (after : u.db.deliveries.find k = some d') (moved : into d'.status) :
    Polled step s (acts ++ [.poll q a]) u k into :=
  ⟨acts, q, a, [], t, u, d, d', rfl, run, last, .nil u, before, sent, after, moved⟩

/-- What a run may do to a delivery. -/
theorem delivery_of_run (start : Sound n s) (run : Run (Fenced n) s acts t)
    {d : NotificationPushDelivery} (found : s.db.deliveries.find k = some d) :
    ∃ d', t.db.deliveries.find k = some d' ∧
      (d.status = .confirmed → d'.status = .confirmed) ∧
      (d.status = .terminal → d'.status = .terminal) ∧
      (d.status = .sent → d'.status ≠ .sent → Polled (Fenced n) s acts t k (· ≠ .sent)) ∧
      (d.unsettled = false → d'.unsettled = true →
        Polled (Fenced n) s acts t k (· = .failed)) := by
  induction run with
  | nil =>
    refine ⟨d, found, id, id, fun sent moved => absurd sent moved, fun settled open' => ?_⟩
    rw [settled] at open'
    cases open'
  | @snoc t u acts act run last ih =>
    obtain ⟨d', row, confirmed, terminal, left, again⟩ := ih
    have soundT := run.preserves (fun _ _ _ step sound => sound_step sound step) start
    rcases change_of_step soundT last.1 k with ⟨absent, -⟩ | ⟨e, e', before, after, change⟩
    · rw [row] at absent
      cases absent
    cases row.symm.trans before
    have late (into : DeliveryStatus → Prop) (polled : Polled (Fenced n) s acts t k into) :
        Polled (Fenced n) s (acts ++ [act]) u k into := polled.snoc last
    cases change with
    | same same =>
      subst same
      exact ⟨e', after, confirmed, terminal, fun sent moved => late _ (left sent moved),
        fun settled open' => late _ (again settled open')⟩
    | written retriable counted =>
      have unsettled := unsettled_of_retriable retriable
      have status := status_of_unsettled unsettled
      have unsent : d'.status ≠ .sent := by
        rcases status with h | h <;> rw [h] <;> nofun
      refine ⟨e', after, fun h => ?_, fun h => ?_, fun h _ => late _ (left h unsent),
        fun h _ => late _ (again h unsettled)⟩
      · rw [confirmed h] at status
        simp at status
      · rw [terminal h] at status
        simp at status
    | @polled q a poll sent moved kept =>
      subst poll
      refine ⟨e', after, fun h => ?_, fun h => ?_, fun _ _ => ?_, fun _ open' => ?_⟩
      · rw [confirmed h] at sent
        cases sent
      · rw [terminal h] at sent
        cases sent
      · exact .last run last row sent after moved.1
      · refine .last run last row sent after ?_
        exact (status_of_unsettled open').resolve_left moved.2
    | closed open' closed kept =>
      have open' : d'.unsettled = true ∨ d'.status = .terminal :=
        open'.elim (fun retriable => .inl (unsettled_of_retriable retriable)) fun gone => gone.2
      refine ⟨e', after, fun h => ?_, fun _ => closed, fun h _ => late _ (left h ?_),
        fun _ unsettled => ?_⟩
      · rw [NotificationPushDelivery.unsettled, confirmed h] at open'
        simp at open'
      · intro sent
        rw [NotificationPushDelivery.unsettled, sent] at open'
        simp at open'
      · rw [NotificationPushDelivery.unsettled, closed] at unsettled
        cases unsettled

theorem deliveries_settle {now : Time} {devices : List DevicePushToken} {before after : List Act}
    (run : Run (Fenced n) (.created now devices) before s) (later : Run (Fenced n) s after t)
    {d : NotificationPushDelivery} (found : s.db.deliveries.find k = some d) :
    Settles n (Fenced n) s after t k d := by
  have start := sound run
  obtain ⟨d', row, confirmed, terminal, left, again⟩ := delivery_of_run start later found
  refine ⟨start.bounded k d found, d', row, confirmed, terminal, left, fun settled r u step => ?_⟩
  have soundT := later.preserves (fun _ _ _ step sound => sound_step sound step) start
  obtain ⟨e, own, retriable⟩ := start_retriable soundT step
  cases own.symm.trans row
  exact again settled (unsettled_of_retriable retriable)

end Runs

/-! ## Runs within the condition, and outside of it -/

def phone : DevicePushToken where
  id := 1
  token := [97]
  userID := 1
  deviceKey := none
  platform := .ios
  provider := .expo
  projectId := none
  appVersion := none
  callPushVersion := none
  apnsEnvironment := none
  revocationSecretHash := none
  disabledAt := none
  updatedAt := 0

def follow : Notification where
  toUserID := 1
  announced := false
  skipped := false

def ticket (k : Token) : TokenDeliveryOutcome where
  token := k
  status := .sent
  ticketId := some [116]
  receiptFinal := false
  error := none

/-- A call as far as to the requests. -/
def selects (r : RunId) : List Act :=
  [.load r, .worker r .claim, .worker r .list, .worker r .create, .worker r .select,
    .worker r .revoke]

def sends (r : RunId) (k : Token) (outcome : TokenDeliveryOutcome) : List Act :=
  [.worker r (.start k), .worker r (.answer outcome), .worker r .collect, .worker r .write]

/-- The receipt of a ticket says that it can be tried again. -/
def retryLater (q : PollId) : List Act :=
  [.poll q .expire, .poll q (.ask (some [([116], ⟨false, none⟩)])),
    .poll q .judge]

def sent : List Act :=
  selects 1 ++ sends 1 [97] (ticket [97]) ++
    [.worker 1 .complete, .tick 900000, .look 7 900000 [[97]]]

theorem resent_plays :
    ((sent.foldlM (Run.whenever fenced (State.next follow)) (.created 0 [phone])).any fun s =>
      (s.db.deliveries.find [97]).any (fun d => d.status = .sent) &&
        ((retryLater 7 ++ selects 2).foldlM (Run.whenever fenced (State.next follow)) s).any
          fun t => (t.next follow (.worker 2 (.start [97]))).isSome) = true := by
  decide +kernel

theorem deliveries_settle_resent : ∃ before after s t d,
    Run (Fenced follow) (.created 0 [phone]) before s ∧ Run (Fenced follow) s after t ∧
      s.db.deliveries.find [97] = some d ∧ d.status = .sent ∧
      (t.next follow (.worker 2 (.start [97]))).isSome ∧
      Settles follow (Fenced follow) s after t [97] d := by
  obtain ⟨s, played, rest⟩ := (Option.any_eq_true _ _).mp resent_plays
  obtain ⟨row, rest⟩ := Bool.and_eq_true _ _ ▸ rest
  obtain ⟨d, found, sent⟩ := (Option.any_eq_true _ _).mp row
  obtain ⟨t, later, again⟩ := (Option.any_eq_true _ _).mp rest
  have run := Run.where_of_foldlM played
  have tail := Run.where_of_foldlM later
  exact ⟨_, _, s, t, d, run, tail, found, of_decide_eq_true sent, again,
    deliveries_settle run tail found⟩

def takeover : List Act :=
  selects 1 ++ [.tick 600001] ++ selects 2 ++ sends 1 [97] (ticket [97])

theorem takeover_sends : ((takeover.foldlM (State.next follow) (.created 0 [phone])).any fun s =>
    (s.db.deliveries.find [97]).any (fun d => d.status = .sent) &&
      (s.next follow (.worker 2 (.start [97]))).isSome) = true := by
  decide +kernel

/-- The second call sends what the first one has just written. -/
theorem sent_twice : ¬ ∀ (n : Notification) (now : Time) (devices : List DevicePushToken)
    (before after : List Act) (s t : State) (k : Token) (d : NotificationPushDelivery),
    Run (Step n) (.created now devices) before s → Run (Step n) s after t →
    s.db.deliveries.find k = some d → Settles n (Step n) s after t k d := by
  intro settles
  obtain ⟨s, played, ends⟩ := (Option.any_eq_true _ _).mp takeover_sends
  obtain ⟨row, next⟩ := Bool.and_eq_true _ _ ▸ ends
  obtain ⟨d, found, sent⟩ := (Option.any_eq_true _ _).mp row
  obtain ⟨u, next⟩ := Option.isSome_iff_exists.mp next
  have status : d.status = .sent := of_decide_eq_true sent
  have settled : d.unsettled = false := by
    rw [NotificationPushDelivery.unsettled, status]
    rfl
  obtain ⟨-, d', -, -, -, -, again⟩ :=
    settles follow 0 [phone] takeover [] s s [97] d (.of_foldlM played) (.nil s) found
  obtain ⟨front, q, a, back, -, -, -, -, split, -⟩ := again settled 2 u next
  exact absurd split (by simp)

end CircleBackend.Push.Outbox
