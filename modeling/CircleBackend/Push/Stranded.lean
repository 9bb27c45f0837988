import CircleBackend.Push.Settled

/-!
# Stranded pushes

Nothing is deleted here, and a call ends before its lease is stale (`prompt`). Two
statements of `pollReceipts` look at the outbox row while a call of `processPending`
holds it, or has held it meanwhile: a receipt that asks for another try reopens a row
that is COMPLETED and no other, and the row is made TERMINAL on the strength of an older
read. `no_push_stranded` is about the runs without either (`ordered`).
-/

namespace CircleBackend.Push.Outbox

open Library
open NotificationPushDelivery (settle_token receipt_token)

/-! ## The condition -/

/-- Whether the call has selected its deliveries. -/
def Stage.chosen : Stage → Bool
  | .loaded | .claimed | .listed .. | .created .. | .ended => false
  | _ => true

/-- Nothing is deleted, and no call goes on for as long as its lease is good. -/
def prompt (s : State) : Act → Bool
  | .tick now => s.workers.rows.all fun w =>
    !w.stage.working || w.claimedAt.all fun claimed => now < claimed + staleLockMs
  | .remove => false
  | _ => true

/-- A receipt does not ask for another try between the selection of a call and its end, and
a row is not made TERMINAL while a delivery of it waits for its receipt. -/
def ordered (s : State) : Act → Bool
  | .poll q .judge =>
    ((s.polls.find q).bind Poll.retried).all fun k =>
      !(s.db.deliveries.find k).any (fun d => d.awaiting && d.attempts < deliveryMaxAttempts) ||
        s.workers.rows.all fun w => !w.stage.chosen
  | .poll _ .terminate =>
    s.db.outbox.status ≠ .completed || s.db.deliveries.rows.all fun d => !d.awaiting
  | _ => true

def Ordered (n : Notification) : State → Act → State → Prop :=
  Run.Where (Step n) fun s act => (prompt s act && ordered s act) = true

/-! ## The invariant -/

/-- Which deliveries the call answers for, of those that may be tried again. -/
def Stage.covers (k : Token) : Stage → Prop
  | .claimed | .listed _ | .created _ => True
  | .writing writes _ retryable => k ∈ writes.flatMap Prod.snd ∨ 0 < retryable
  | stage => k ∈ stage.held

def Db.dead (db : Db) : Prop := ∃ k d, db.deliveries.find k = some d ∧ d.exhausted = true

def Db.answered (db : Db) : Prop := ∀ k d, db.deliveries.find k = some d → d.awaiting = false

def Db.done (db : Db) : Prop := ∀ k d, db.deliveries.find k = some d → d.retriable = false

/-- The outbox row against its deliveries. -/
structure Consistent (db : Db) : Prop where
  locked : db.outbox.status = .processing → ∃ r, db.outbox.leaseToken = some r
  closed : db.outbox.status = .completed ∨ db.outbox.status = .terminal → db.done
  final : db.outbox.status = .terminal → db.answered ∧ db.dead

/-- What a call knows of the two. -/
structure Answers (clock : Time) (db : Db) (w : Worker) : Prop where
  holder : w.stage.working = true →
    db.outbox.heldBy w.leaseToken = true ∧ ∃ claimed, w.claimedAt = some claimed ∧
      db.outbox.lockedAt = some claimed ∧ clock ≤ claimed + staleLockMs
  covered : w.stage.working = true →
    ∀ k d, db.deliveries.find k = some d → d.retriable = true → w.stage.covers k
  counted : ∀ tokens exhausted awaitingReceipt,
    w.stage = .counting tokens exhausted awaitingReceipt →
      (awaitingReceipt = some 0 → db.answered) ∧
        ∀ count, exhausted = some count → 0 < count → db.dead
  failing : ∀ writes sentAt retryable, w.stage = .writing writes sentAt retryable →
    ∀ lastError ids, (.failed false lastError, ids) ∈ writes → ids ≠ [] → 0 < retryable

structure Kept (n : Notification) (s : State) : Prop where
  sound : Sound n s
  present : s.db.deleted = false
  skipped : n.skipped = true → (∀ k, s.db.deliveries.find k = none) ∧
    ∀ r w, s.workers.find r = some w →
      w.stage = .loaded ∨ w.stage = .claimed ∨ w.stage = .ended
  consistent : Consistent s.db
  answers : ∀ r w, s.workers.find r = some w → Answers s.clock s.db w
  read : ∀ q p, s.polls.find q = some p → p.stage.exhaustion = some true → s.db.dead

theorem Kept.created (n : Notification) (now : Time) (devices : List DevicePushToken) :
    Kept n (.created now devices) where
  sound := .created n now devices
  present := rfl
  skipped _ := ⟨fun _ => rfl, nofun⟩
  consistent := ⟨nofun, nofun, nofun⟩
  answers := nofun
  read := nofun

/-! ## A call that holds the row -/

section Turn

variable {n : Notification} {now : Time} {devices : List DevicePushToken} {db db' : Db}
  {w w' : Worker} {act : WorkerAct} {r : RunId}

/-- A call that does not hold the row knows nothing of it. -/
theorem Answers.idle (idle : w.stage.working = false) : Answers now db w where
  holder working := by rw [idle] at working; cases working
  covered working := by rw [idle] at working; cases working
  counted tokens exhausted awaitingReceipt stage := by rw [stage] at idle; cases idle
  failing writes sentAt retryable stage := by rw [stage] at idle; cases idle

theorem status_of_held (held : db.outbox.heldBy r = true) : db.outbox.status = .processing :=
  of_decide_eq_true (Bool.and_eq_true _ _ ▸ held).2

theorem Consistent.held (held : db.outbox.heldBy r = true) : Consistent db where
  locked _ := ⟨r, of_decide_eq_true (Bool.and_eq_true _ _ ▸ held).1⟩
  closed finished := by
    rw [status_of_held held] at finished
    simp at finished
  final finished := by
    rw [status_of_held held] at finished
    cases finished

theorem Consistent.finish {status : OutboxStatus} {reason : Option CompletionReason}
    (held : db.outbox.heldBy r = true) (finished : status = .completed ∨ status = .terminal)
    (done : db.done) (final : status = .terminal → db.answered ∧ db.dead) :
    Consistent (db.finishJob r now status reason) := by
  have wrote : (db.finishJob r now status reason).outbox.status = status := by
    rw [Db.finishJob, NotificationPushOutbox.finishJob, if_pos held]
  constructor
  case locked =>
    intro processing
    rw [wrote] at processing
    rw [processing] at finished
    simp at finished
  case closed => exact fun _ => done
  case final =>
    intro terminal
    rw [wrote] at terminal
    exact final terminal

theorem Consistent.fail {attempts : Nat} {error : JsString} (held : db.outbox.heldBy r = true) :
    Consistent { db with outbox := db.outbox.failJob r now attempts error } := by
  have wrote : (db.outbox.failJob r now attempts error).status = .failed := by
    rw [NotificationPushOutbox.failJob, if_pos held]
  constructor
  case locked =>
    intro processing
    exact absurd (wrote.symm.trans processing) nofun
  case closed =>
    intro finished
    rcases finished with finished | finished
    · exact absurd (wrote.symm.trans finished) nofun
    · exact absurd (wrote.symm.trans finished) nofun
  case final =>
    intro terminal
    exact absurd (wrote.symm.trans terminal) nofun

theorem count_eq_zero {p : NotificationPushDelivery → Bool} (none' : db.deliveries.count p = 0)
    (k : Token) (d : NotificationPushDelivery) (found : db.deliveries.find k = some d) :
    p d = false :=
  Bool.eq_false_iff.mpr (List.countP_eq_zero.mp none' d (Table.find_mem found))

theorem dead_of_count (some' : 0 < db.deliveries.count (·.exhausted)) : db.dead := by
  obtain ⟨d, member, exhausted⟩ := List.countP_pos_iff.mp some'
  exact ⟨d.token, d, Table.mem_find member, exhausted⟩

theorem covers_afterRevocation {tokens pendingDeliveries : List Token} {k : Token} :
    (afterRevocation n tokens pendingDeliveries).covers k ↔ k ∈ pendingDeliveries := by
  unfold afterRevocation
  split
  · rename_i none'
    rw [none']
    exact Iff.rfl
  · split <;> exact Iff.rfl

theorem counting_afterRevocation {tokens tokens' pendingDeliveries : List Token}
    {exhausted awaitingReceipt : Option Nat}
    (h : afterRevocation n tokens pendingDeliveries = .counting tokens' exhausted awaitingReceipt) :
    exhausted = none ∧ awaitingReceipt = none := by
  unfold afterRevocation at h
  split at h
  · cases h
    exact ⟨rfl, rfl⟩
  · split at h <;> cases h

theorem writing_afterRevocation (tokens pendingDeliveries : List Token)
    {writes : List (OutcomeWrite × List Token)} {sentAt : Time} {retryable : Nat} :
    afterRevocation n tokens pendingDeliveries ≠ .writing writes sentAt retryable := by
  unfold afterRevocation
  split
  · nofun
  · split <;> nofun

theorem failed_of_retriable {write : OutcomeWrite} {sentAt : Time} {d : NotificationPushDelivery}
    (retriable : (write.apply sentAt d).retriable = true) :
    ∃ lastError, write = .failed false lastError := by
  have status := status_of_unsettled (unsettled_of_retriable retriable)
  match write with
  | .sent true _ | .sent false _ | .failed true _ => simp [OutcomeWrite.apply] at status
  | .failed false lastError => exact ⟨lastError, rfl⟩

/-- A statement of the call that holds the row. -/
theorem Turn.keeps (turn : Turn n now devices db w act db' w') (working : w.stage.working = true)
    (answers : Answers now db w) (present : db.deleted = false)
    (skipped : n.skipped = true → ∀ k, db.deliveries.find k = none) :
    Consistent db' ∧ Answers now db' w' := by
  obtain ⟨held, claimed, since, locked, fresh⟩ := answers.holder working
  have covered := answers.covered working
  -- nothing to try again is left where the call answers for nothing
  have done (idle : ∀ k, ¬ w.stage.covers k) : db.done := by
    intro k d found
    by_contra retriable
    exact idle k (covered k d found (Bool.not_eq_false _ ▸ retriable))
  cases turn with
  | claim stage | miss stage => rw [stage] at working; cases working
  | skip stage skips =>
    refine ⟨.finish held (.inl rfl) ?_ nofun, .idle rfl⟩
    intro k d found
    rw [skipped skips k] at found
    cases found
  | list stage sent =>
    refine ⟨.held held, fun _ => ⟨held, claimed, since, locked, fresh⟩, ?_, nofun, nofun⟩
    exact fun _ _ _ _ _ => trivial
  | create stage =>
    refine ⟨.held held, fun _ => ⟨held, claimed, since, locked, fresh⟩, ?_, nofun, nofun⟩
    exact fun _ _ _ _ _ => trivial
  | select stage =>
    refine ⟨.held held, fun _ => ⟨held, claimed, since, locked, fresh⟩, ?_, nofun, nofun⟩
    intro _ k d found retriable
    have selected := Table.mem_select.mpr ⟨Table.find_mem found, retriable⟩
    exact List.mem_map.mpr ⟨d, selected, Table.find_key found⟩
  | @revoke tokens retriableDeliveries stage =>
    refine ⟨.held held, fun _ => ⟨held, claimed, since, locked, fresh⟩, ?_, ?_, ?_⟩
    · intro _ k d found retriable
      rw [Table.find_updateMany, Option.map_eq_some_iff] at found
      obtain ⟨e, before, after⟩ := found
      rw [covers_afterRevocation, List.mem_filter]
      split at after
      · rw [← after] at retriable
        cases retriable
      · rename_i kept
        subst after
        have selected := covered k e before retriable
        rw [stage] at selected
        refine ⟨selected, ?_⟩
        rw [Table.find_key before, List.contains_iff_mem, List.mem_filter] at kept
        by_contra inactive
        exact kept ⟨selected, by simpa using inactive⟩
    · intro tokens' exhausted awaitingReceipt same
      obtain ⟨rfl, rfl⟩ := counting_afterRevocation same
      exact ⟨nofun, nofun⟩
    · intro writes sentAt retryable same
      exact absurd same (writing_afterRevocation _ _)
  | @countExhausted tokens awaitingReceipt stage =>
    refine ⟨.held held, fun _ => ⟨held, claimed, since, locked, fresh⟩, ?_, ?_, nofun⟩
    · rw [stage] at covered
      exact fun _ => covered
    · intro tokens' exhausted' awaitingReceipt' same
      cases same
      refine ⟨(answers.counted _ _ _ stage).1, fun count read positive => ?_⟩
      cases read
      exact dead_of_count positive
  | @countAwaiting tokens exhausted stage =>
    refine ⟨.held held, fun _ => ⟨held, claimed, since, locked, fresh⟩, ?_, ?_, nofun⟩
    · rw [stage] at covered
      exact fun _ => covered
    · intro tokens' exhausted' awaitingReceipt' same
      cases same
      refine ⟨fun read => ?_, (answers.counted _ _ _ stage).2⟩
      exact count_eq_zero (Option.some.inj read)
  | @conclude tokens exhausted awaitingReceipt stage =>
    have idle := done fun k covers => by rw [stage] at covers; cases covers
    obtain ⟨answered, dead⟩ := answers.counted _ _ _ stage
    refine ⟨.finish held ?_ idle ?_, .idle rfl⟩
    · split
      · exact .inr rfl
      · exact .inl rfl
    · split
      · rename_i both
        exact fun _ => ⟨answered (congrArg some both.2), dead exhausted rfl both.1⟩
      · nofun
  | recheck stage | start stage =>
    rw [stage] at covered
    exact ⟨.held held, fun _ => ⟨held, claimed, since, locked, fresh⟩, fun _ => covered, nofun, nofun⟩
  | answer stage =>
    rw [stage] at covered
    exact ⟨.held held, fun _ => ⟨held, claimed, since, locked, fresh⟩, fun _ => covered, nofun, nofun⟩
  | abandon stage lost => rw [lost held] at present; cases present
  | cancel stage => exact ⟨.held held, .idle rfl⟩
  | @collect pendingDeliveries started outcomes stage answered =>
    refine ⟨.held held, fun _ => ⟨held, claimed, since, locked, fresh⟩, ?_, nofun, ?_⟩
    · intro _ k d found retriable
      have chosen := covered k d found retriable
      rw [stage, ← outcomesOf_tokens answered] at chosen
      exact .inl ((writesOf_tokens _).symm.subset chosen)
    · intro writes sentAt retryable same lastError ids member some'
      cases same
      obtain ⟨k, inside⟩ := List.exists_mem_of_ne_nil ids some'
      exact writesOf_failed member inside
  | @write write ids rest sentAt retryable stage =>
    have failing := answers.failing _ _ _ stage
    refine ⟨.held held, fun _ => ⟨held, claimed, since, locked, fresh⟩, ?_, nofun, ?_⟩
    · intro _ k d found retriable
      rw [Table.find_updateMany, Option.map_eq_some_iff] at found
      obtain ⟨e, before, after⟩ := found
      split at after
      · rename_i written
        subst after
        refine .inr ?_
        obtain ⟨lastError, rfl⟩ := failed_of_retriable retriable
        refine failing lastError ids List.mem_cons_self ?_
        rintro rfl
        cases written
      · rename_i kept
        subst after
        rw [Table.find_key before, List.contains_iff_mem] at kept
        have chosen := covered k e before retriable
        rw [stage] at chosen
        rcases chosen with inside | positive
        · exact .inl ((List.mem_append.mp inside).resolve_left kept)
        · exact .inr positive
    · intro writes sentAt' retryable' same lastError ids' member
      cases same
      exact failing lastError ids' (List.mem_cons_of_mem _ member)
  | complete stage =>
    have idle := done fun k covers => by rw [stage] at covers; simp [Stage.covers] at covers
    exact ⟨.finish held (.inl rfl) idle nofun, .idle rfl⟩
  | fail error working => exact ⟨.fail held, .idle rfl⟩
  | crash => exact ⟨.held held, .idle rfl⟩

end Turn

/-! ## A batch of `pollReceipts` beside it -/

section PollTurn

variable {db db' : Db} {p p' : Poll} {act : PollAct}

/-- Every delivery is as it was, or no longer SENT. -/
theorem PollTurn.rows (turn : PollTurn db p act db' p') {k : Token}
    {d' : NotificationPushDelivery} (found : db'.deliveries.find k = some d') :
    db.deliveries.find k = some d' ∨
      ∃ d, db.deliveries.find k = some d ∧ d.awaiting = true ∧ d'.awaiting = false ∧
        d'.attempts = d.attempts ∧ (d'.retriable = true →
          act = .judge ∧ p.retried = some k ∧ db'.outbox.status ≠ .completed) := by
  cases turn with
  | settle ids final lastError =>
    dsimp only at found
    rw [Table.find_updateMany, Option.map_eq_some_iff] at found
    obtain ⟨d, before, after⟩ := found
    split at after
    · rename_i taken
      subst after
      refine .inr ⟨d, before, (Bool.and_eq_true _ _ ▸ taken).2, ?_, rfl, ?_⟩
      · rcases final with rfl | rfl <;> rfl
      · intro retriable
        have status := status_of_unsettled (unsettled_of_retriable retriable)
        rcases final with rfl | rfl <;> simp [NotificationPushDelivery.receipt] at status
    · exact .inl (after ▸ before)
  | fail token lastError retried =>
    dsimp only at found ⊢
    rw [Table.find_updateMany, Option.map_eq_some_iff] at found
    obtain ⟨d, before, after⟩ := found
    split at after
    · rename_i taken
      obtain ⟨own, awaiting⟩ := Bool.and_eq_true _ _ ▸ taken
      have own : token = k := (of_decide_eq_true own).symm.trans (Table.find_key before)
      subst after own
      refine .inr ⟨d, before, awaiting, rfl, rfl, fun _ => ⟨rfl, retried, ?_⟩⟩
      rw [before, Option.any_some, if_pos awaiting, NotificationPushOutbox.reopen]
      split
      · nofun
      · assumption
    · exact .inl (after ▸ before)
  | pass | readExhausted | terminate => exact .inl found

theorem PollTurn.outbox (turn : PollTurn db p act db' p') :
    db'.outbox = db.outbox ∨ db.outbox.status = .completed ∧
      (db'.outbox.status = .pending ∨
        db'.outbox.status = .terminal ∧ act = .terminate ∧ db'.deliveries = db.deliveries ∧
          p.stage.exhaustion = some true) := by
  cases turn with
  | fail token =>
    dsimp only [NotificationPushOutbox.reopen]
    split
    · split
      · rename_i completed
        exact .inr ⟨completed, .inl rfl⟩
      · exact .inl rfl
    · exact .inl rfl
  | terminate stage =>
    dsimp only [NotificationPushOutbox.exhaust]
    split
    · rename_i completed
      refine .inr ⟨completed, .inr ⟨rfl, rfl, rfl, ?_⟩⟩
      rw [stage]
      rfl
    · exact .inl rfl
  | settle | pass | readExhausted => exact .inl rfl

theorem PollTurn.read (turn : PollTurn db p act db' p')
    (read : p'.stage.exhaustion = some true) : p.stage.exhaustion = some true ∨ db.dead := by
  cases turn with
  | settle _ _ _ unread | fail _ _ _ unread =>
    rw [unread] at read
    cases read
  | pass kept =>
    rcases kept with unread | same
    · rw [unread] at read
      cases read
    · exact .inl (same.symm.trans read)
  | readExhausted =>
    obtain ⟨d, member, exhausted⟩ := List.any_eq_true.mp (Option.some.inj read)
    exact .inr ⟨d.token, d, Table.mem_find member, exhausted⟩
  | terminate => cases read

end PollTurn

section Step

variable {n : Notification} {s t : State} {act : Act}

theorem working_of_held {stage : Stage} {k : Token} (held : k ∈ stage.held) :
    stage.working = true := by
  cases stage <;> first | rfl | cases held

theorem Kept.alone (kept : Kept n s) {r r' : RunId} {w w' : Worker}
    (found : s.workers.find r = some w) (found' : s.workers.find r' = some w')
    (working : w.stage.working = true) (working' : w'.stage.working = true) : r = r' := by
  have mine := ((kept.answers r w found).holder working).1
  have other := ((kept.answers r' w' found').holder working').1
  rw [NotificationPushOutbox.heldBy, Bool.and_eq_true] at mine other
  have same := (of_decide_eq_true mine.1).symm.trans (of_decide_eq_true other.1)
  rw [Table.find_key found, Table.find_key found'] at same
  exact Option.some.inj same

theorem Kept.fenced (kept : Kept n s) (step : Step n s act t) (prompt' : prompt s act = true) :
    fenced s act = true := by
  cases act with
  | remove => cases prompt'
  | worker r a =>
    obtain ⟨w, db, w', found, turn, -, -⟩ := worker_step step
    cases turn with
    | select stage =>
      apply List.all_eq_true.mpr
      intro v listed
      rw [Bool.or_eq_true]
      by_cases own : v.leaseToken = r
      · exact .inl (decide_eq_true own)
      · right
        apply List.all_eq_true.mpr
        intro k held
        have theirs := Table.mem_find listed
        have same := kept.alone found theirs (by rw [stage]; rfl) (working_of_held held)
        exact absurd same.symm own
    | _ => rfl
  | load | look | devices | tick | poll => rfl

theorem dead_step (sound : Sound n s) (step : Step n s act t) (present : t.db.deleted = false)
    (dead : s.db.dead) : t.db.dead := by
  obtain ⟨k, d, found, exhausted⟩ := dead
  obtain ⟨failed, spent⟩ := Bool.and_eq_true _ _ ▸ exhausted
  have failed : d.status = .failed := of_decide_eq_true failed
  have spent : deliveryMaxAttempts ≤ d.attempts := of_decide_eq_true spent
  have finished : d.retriable ≠ true := fun retriable =>
    absurd (attempts_of_retriable retriable) (Nat.not_lt.mpr spent)
  rcases change_of_step sound step k with ⟨absent, -⟩ | ⟨e, e', before, after, change⟩
  · rw [found] at absent
    cases absent
  cases found.symm.trans before
  cases change with
  | same same => exact ⟨k, e', after, same ▸ exhausted⟩
  | written retriable => exact absurd retriable finished
  | polled poll sent =>
    rw [failed] at sent
    cases sent
  | closed open' =>
    rcases open' with retriable | ⟨gone, -⟩
    · exact absurd retriable finished
    · rw [present] at gone
      cases gone

/-- A row whose holder has not ended is not free. -/
theorem Kept.held_not_free (kept : Kept n s) {r : RunId} {w : Worker}
    (found : s.workers.find r = some w) (working : w.stage.working = true) :
    s.db.outbox.claimable s.clock = false := by
  obtain ⟨held, claimed, -, locked, fresh⟩ := (kept.answers r w found).holder working
  have status := status_of_held held
  have good : decide (claimed + staleLockMs < s.clock) = false :=
    decide_eq_false (Nat.not_lt.mpr fresh)
  rw [NotificationPushOutbox.claimable, status, locked, Option.any_some, good]
  rfl

theorem skipped_turn {w w' : Worker} {db : Db} {a : WorkerAct} (skips : n.skipped = true)
    (turn : Turn n s.clock s.devices s.db w a db w')
    (stage : w.stage = .loaded ∨ w.stage = .claimed ∨ w.stage = .ended) :
    db.deliveries = s.db.deliveries ∧
      (w'.stage = .loaded ∨ w'.stage = .claimed ∨ w'.stage = .ended) := by
  cases turn with
  | claim => exact ⟨rfl, .inr (.inl rfl)⟩
  | miss | skip | fail | crash => exact ⟨rfl, .inr (.inr rfl)⟩
  | list _ sent =>
    rw [skips] at sent
    cases sent
  | create own | select own | revoke own | countExhausted own | countAwaiting own | conclude own
  | recheck own | abandon own | cancel own | start own | answer own | collect own | write own
  | complete own => simp [own] at stage

theorem Kept.worker (kept : Kept n s) {r : RunId} {a : WorkerAct}
    (step : Step n s (.worker r a) t) (sound : Sound n t) : Kept n t := by
  obtain ⟨w, db, w', found, turn, same, workers⟩ := worker_step step
  have present : t.db.deleted = false := by
    rw [same]
    exact turn.deleted.trans kept.present
  have dead := dead_step kept.sound step present
  have polls : t.polls = s.polls := by rw [same]
  have clock : t.clock = s.clock := by rw [same]
  have named : w.leaseToken = r := Table.find_key found
  have skipped : n.skipped = true → (∀ k, t.db.deliveries.find k = none) ∧
      ∀ r' v, t.workers.find r' = some v →
        v.stage = .loaded ∨ v.stage = .claimed ∨ v.stage = .ended := by
    intro skips
    obtain ⟨empty, stages⟩ := kept.skipped skips
    obtain ⟨deliveries, stage⟩ := skipped_turn skips turn (stages r w found)
    constructor
    · rw [same]
      dsimp only
      rw [deliveries]
      exact empty
    · intro r' v theirs
      rw [workers] at theirs
      split at theirs
      · cases theirs
        exact stage
      · exact stages r' v theirs
  have row : t.db = db := by rw [same]
  clear same
  -- what is left to show is about the row and the call itself
  have suffices' (fresh : Consistent db ∧ Answers s.clock db w')
      (others : ∀ r' v, r' ≠ r → s.workers.find r' = some v → Answers s.clock db v) :
      Kept n t := by
    refine ⟨sound, present, skipped, row ▸ fresh.1, fun r' v theirs => ?_, fun q p listed read => ?_⟩
    · rw [workers] at theirs
      rw [clock, row]
      split at theirs
      · cases theirs
        exact fresh.2
      · rename_i other
        exact others r' v other theirs
    · rw [polls] at listed
      exact dead (kept.read q p listed read)
  by_cases working : w.stage.working = true
  · refine suffices' (turn.keeps working (kept.answers r w found) kept.present
      fun skips => (kept.skipped skips).1) fun r' v other theirs => ?_
    apply Answers.idle
    by_contra busy
    exact other (kept.alone theirs found (Bool.not_eq_false _ ▸ busy) working)
  · have plain (unchanged : db = s.db) (ended : w'.stage = .ended) : Kept n t := by
      refine suffices' ⟨unchanged ▸ kept.consistent, .idle (by rw [ended]; rfl)⟩ ?_
      exact fun r' v _ theirs => unchanged ▸ kept.answers r' v theirs
    cases turn with
    | claim stage free =>
      refine suffices' ⟨.held (r := r) ?_, fun _ => ⟨?_, s.clock, rfl, rfl, ?_⟩, ?_,
        by intros; contradiction, by intros; contradiction⟩ ?_
      · simp [NotificationPushOutbox.heldBy, NotificationPushOutbox.claim, named]
      · simp [NotificationPushOutbox.heldBy, NotificationPushOutbox.claim]
      · exact Nat.le_add_right _ _
      · exact fun _ _ _ _ _ => trivial
      · intro r' v _ theirs
        apply Answers.idle
        by_contra busy
        rw [kept.held_not_free theirs (Bool.not_eq_false _ ▸ busy)] at free
        cases free
    | miss stage => exact plain rfl rfl
    | crash => exact plain rfl rfl
    | fail error holds => exact absurd holds working
    | skip own | list own | create own | select own | revoke own | countExhausted own
    | countAwaiting own | conclude own | recheck own | abandon own | cancel own | start own
    | answer own | collect own | write own | complete own => exact absurd (by rw [own]; rfl) working

theorem chosen_of_not_covers {stage : Stage} {k : Token} (working : stage.working = true)
    (open' : ¬ stage.covers k) : stage.chosen = true := by
  cases stage <;> first | rfl | exact absurd trivial open' | cases working

theorem Kept.poll (kept : Kept n s) {q : PollId} {a : PollAct} (step : Step n s (.poll q a) t)
    (order : ordered s (.poll q a) = true) (sound : Sound n t) : Kept n t := by
  obtain ⟨p, db, p', found, turn, same, polls⟩ := poll_step step
  have deleted : t.db.deleted = s.db.deleted := by
    rw [same]
    cases turn <;> rfl
  have present : t.db.deleted = false := deleted.trans kept.present
  have dead := dead_step kept.sound step present
  have workers : t.workers = s.workers := by rw [same]
  have clock : t.clock = s.clock := by rw [same]
  have row : t.db = db := by rw [same]
  clear same
  rw [← row] at turn
  have rows {k : Token} {d' : NotificationPushDelivery}
      (after : t.db.deliveries.find k = some d') := turn.rows after
  have answered (before : s.db.answered) : t.db.answered := by
    intro k d' after
    rcases rows after with old | ⟨d, -, -, settled, -⟩
    · exact before k d' old
    · exact settled
  -- a receipt asks for another try
  have unchosen {k : Token} {d d' : NotificationPushDelivery}
      (before : s.db.deliveries.find k = some d) (awaiting : d.awaiting = true)
      (counted : d'.attempts = d.attempts) (retriable : d'.retriable = true)
      (judged : a = .judge) (retried : p.retried = some k) :
      ∀ r w, s.workers.find r = some w → w.stage.chosen = false := by
    subst judged
    have room : d.attempts < deliveryMaxAttempts := counted ▸ attempts_of_retriable retriable
    simp only [ordered, found, Option.bind_some, retried, Option.all_some, before,
      Option.any_some, awaiting, room, decide_true, Bool.and_self, Bool.not_true,
      Bool.false_or] at order
    intro r w theirs
    have idle := List.all_eq_true.mp order w (Table.find_mem theirs)
    rwa [Bool.not_eq_true'] at idle
  constructor
  case sound => exact sound
  case present => exact present
  case skipped =>
    intro skips
    obtain ⟨empty, stages⟩ := kept.skipped skips
    exact ⟨fun k => turn.absent (empty k), workers ▸ stages⟩
  case consistent =>
    constructor
    case locked =>
      intro processing
      rcases turn.outbox with same | ⟨-, pending | ⟨terminal, -⟩⟩
      · rw [same] at processing ⊢
        exact kept.consistent.locked processing
      · rw [processing] at pending
        cases pending
      · rw [processing] at terminal
        cases terminal
    case closed =>
      intro finished k d' after
      by_contra retriable
      have retriable : d'.retriable = true := Bool.not_eq_false _ ▸ retriable
      have fresh (done : s.db.done) : ∃ d, s.db.deliveries.find k = some d ∧
          d.awaiting = true ∧ t.db.outbox.status ≠ .completed := by
        rcases rows after with old | ⟨d, before, awaiting, -, -, new⟩
        · rw [done k d' old] at retriable
          cases retriable
        · exact ⟨d, before, awaiting, (new retriable).2.2⟩
      rcases turn.outbox with same | ⟨completed, pending | ⟨-, -, unchanged, -⟩⟩
      · rw [same] at finished
        obtain ⟨d, before, awaiting, open'⟩ := fresh (kept.consistent.closed finished)
        rw [same] at open'
        have terminal := finished.resolve_left open'
        rw [(kept.consistent.final terminal).1 k d before] at awaiting
        cases awaiting
      · rw [pending] at finished
        simp at finished
      · rw [unchanged] at after
        rw [kept.consistent.closed (.inl completed) k d' after] at retriable
        cases retriable
    case final =>
      intro terminal
      rcases turn.outbox with same | ⟨completed, pending | ⟨-, rfl, unchanged, exhausted⟩⟩
      · rw [same] at terminal
        have before := kept.consistent.final terminal
        exact ⟨answered before.1, dead before.2⟩
      · rw [pending] at terminal
        cases terminal
      · refine ⟨fun k d after => ?_, dead (kept.read q p found exhausted)⟩
        rw [unchanged] at after
        simp only [ordered, completed, ne_eq, not_true_eq_false, decide_false,
          Bool.false_or] at order
        have settled := List.all_eq_true.mp order d (Table.find_mem after)
        rwa [Bool.not_eq_true'] at settled
  case answers =>
    intro r w theirs
    rw [workers] at theirs
    rw [clock]
    have before := kept.answers r w theirs
    constructor
    case holder =>
      intro working
      have held := before.holder working
      rcases turn.outbox with same | ⟨completed, -⟩
      · rwa [same]
      · rw [status_of_held held.1] at completed
        cases completed
    case covered =>
      intro working k d' after retriable
      rcases rows after with old | ⟨d, row, awaiting, -, counted, new⟩
      · exact before.covered working k d' old retriable
      · obtain ⟨judged, retried, -⟩ := new retriable
        by_contra open'
        have chosen := chosen_of_not_covers working open'
        rw [unchosen row awaiting counted retriable judged retried r w theirs] at chosen
        cases chosen
    case counted =>
      intro tokens exhausted awaitingReceipt stage
      obtain ⟨quiet, lost⟩ := before.counted _ _ _ stage
      exact ⟨fun none' => answered (quiet none'), fun count read some' => dead (lost count read some')⟩
    case failing => exact before.failing
  case read =>
    intro q' p'' listed read
    rw [polls] at listed
    split at listed
    · cases listed
      rcases turn.read read with old | new
      · exact dead (kept.read q p found old)
      · exact dead new
    · exact dead (kept.read q' p'' listed read)

/-- A step that touches neither the row nor its deliveries. -/
theorem Kept.frame (kept : Kept n s) (sound : Sound n t) (db : t.db = s.db)
    (workers : ∀ r w, t.workers.find r = some w → w.stage = .loaded ∨ s.workers.find r = some w)
    (clock : ∀ r w, s.workers.find r = some w → w.stage.working = true →
      ∀ claimed, w.claimedAt = some claimed → s.clock ≤ claimed + staleLockMs →
        t.clock ≤ claimed + staleLockMs)
    (polls : ∀ q p, t.polls.find q = some p →
      p.stage.exhaustion = none ∨ s.polls.find q = some p) : Kept n t where
  sound := sound
  present := db ▸ kept.present
  skipped skips := by
    obtain ⟨empty, stages⟩ := kept.skipped skips
    refine ⟨db ▸ empty, fun r w found => ?_⟩
    rcases workers r w found with new | old
    · exact .inl new
    · exact stages r w old
  consistent := db ▸ kept.consistent
  answers r w found := by
    rw [db]
    rcases workers r w found with new | old
    · exact .idle (by rw [new]; rfl)
    · have before := kept.answers r w old
      refine ⟨fun working => ?_, before.covered, before.counted, before.failing⟩
      obtain ⟨held, claimed, since, locked, fresh⟩ := before.holder working
      exact ⟨held, claimed, since, locked, clock r w old working claimed since fresh⟩
  read q p found read := by
    rw [db]
    rcases polls q p found with new | old
    · rw [new] at read
      cases read
    · exact kept.read q p old read

theorem kept_step (kept : Kept n s) (step : Ordered n s act t) : Kept n t := by
  obtain ⟨step, conditions⟩ := step
  obtain ⟨prompt', order⟩ := Bool.and_eq_true _ _ ▸ conditions
  have sound := sound_step kept.sound ⟨step, kept.fenced step prompt'⟩
  cases act with
  | worker r a => exact kept.worker step sound
  | poll q a => exact kept.poll step order sound
  | remove => cases prompt'
  | load r =>
    obtain ⟨-, db, polls, clock, workers⟩ := load_step step
    refine kept.frame sound db ?_ (fun _ _ _ _ _ _ fresh => clock ▸ fresh)
      fun _ _ found => .inr (polls ▸ found)
    intro r' w found
    rw [workers] at found
    split at found
    · cases found
      exact .inl rfl
    · exact .inr found
  | look q now taken =>
    obtain ⟨db, workers, clock, polls⟩ := look_step step
    refine kept.frame sound db (fun _ _ found => .inr (workers ▸ found))
      (fun _ _ _ _ _ _ fresh => clock ▸ fresh) ?_
    intro q' p found
    rw [polls] at found
    split at found
    · cases found
      exact .inl rfl
    · exact .inr found
  | devices rows =>
    cases step
    exact kept.frame sound rfl (fun _ _ found => .inr found) (fun _ _ _ _ _ _ fresh => fresh)
      fun _ _ found => .inr found
  | tick now =>
    rw [Step, State.next] at step
    split at step
    · cases step
      refine kept.frame sound rfl (fun _ _ found => .inr found) ?_ fun _ _ found => .inr found
      intro r w found working claimed since _
      have within := List.all_eq_true.mp prompt' w (Table.find_mem found)
      rw [working, since, Option.all_some, Bool.not_true, Bool.false_or] at within
      exact Nat.le_of_lt (of_decide_eq_true within)
    · cases step

end Step

/-! ## Whole runs -/

/-- Whatever may still be sent is up for a later sweep, and what is given up is settled. -/
def Swept (n : Notification) (s : State) : Prop :=
  ((∀ r, s.db.outbox.heldBy r = false) → ∀ d ∈ s.db.deliveries.rows, d.retriable = true →
      (∃ row ∈ s.devices, active n.toUserID row = true ∧ row.token = d.token) →
        s.db.outbox.status = .pending ∨ s.db.outbox.status = .failed) ∧
    (s.db.outbox.status = .terminal →
      (∀ d ∈ s.db.deliveries.rows, d.status ≠ .sent) ∧
        ∃ d ∈ s.db.deliveries.rows, d.exhausted = true)

theorem Kept.swept {n : Notification} {s : State} (kept : Kept n s) : Swept n s := by
  constructor
  · intro free d member retriable _
    have done (finished : s.db.outbox.status = .completed ∨ s.db.outbox.status = .terminal) :
        False := by
      have closed := kept.consistent.closed finished d.token d (Table.mem_find member)
      rw [closed] at retriable
      cases retriable
    cases status : s.db.outbox.status with
    | pending => exact .inl rfl
    | failed => exact .inr rfl
    | completed => exact (done (.inl status)).elim
    | terminal => exact (done (.inr status)).elim
    | processing =>
      obtain ⟨r, lease⟩ := kept.consistent.locked status
      have idle := free r
      simp [NotificationPushOutbox.heldBy, lease, status] at idle
  · intro terminal
    obtain ⟨answered, k, d, found, exhausted⟩ := kept.consistent.final terminal
    refine ⟨fun e member sent => ?_, d, Table.find_mem found, exhausted⟩
    have settled := answered e.token e (Table.mem_find member)
    rw [NotificationPushDelivery.awaiting, sent] at settled
    cases settled

theorem no_push_stranded {n : Notification} {now : Time} {devices : List DevicePushToken}
    {acts : List Act} {s : State} (run : Run (Ordered n) (.created now devices) acts s) :
    Swept n s :=
  (run.preserves (fun _ _ _ step kept => kept_step kept step) (.created n now devices)).swept

/-! ## Runs within the condition, and outside of it -/

def tablet : DevicePushToken := { phone with id := 2, token := [98] }

def busy (k : Token) : TokenDeliveryOutcome where
  token := k
  status := .retryable
  ticketId := none
  receiptFinal := false
  error := none

/-- The first call has a ticket for the phone; the tablet is to be tried again. -/
def halfSent : List Act :=
  selects 1 ++ [.worker 1 (.start [97]), .worker 1 (.start [98]),
    .worker 1 (.answer (ticket [97])), .worker 1 (.answer (busy [98])), .worker 1 .collect,
    .worker 1 .write, .worker 1 .write, .worker 1 (.fail []), .tick 900000,
    .look 7 900000 [[97]]]

theorem no_push_stranded_retried : ∃ acts s, Run (Ordered follow) (.created 0 [phone, tablet]) acts s ∧
    s.db.outbox.status = .failed ∧ s.db.deliveries.rows.any (·.retriable) ∧ Swept follow s := by
  have plays : (((halfSent ++ retryLater 7).foldlM
      (Run.whenever (fun s act => prompt s act && ordered s act) (State.next follow))
      (.created 0 [phone, tablet])).any fun s =>
        s.db.outbox.status = .failed && s.db.deliveries.rows.any (·.retriable)) = true := by
    decide +kernel
  obtain ⟨s, played, ends⟩ := (Option.any_eq_true _ _).mp plays
  obtain ⟨status, open'⟩ := Bool.and_eq_true _ _ ▸ ends
  have run := Run.where_of_foldlM played
  exact ⟨_, s, run, of_decide_eq_true status, open', no_push_stranded run⟩

/-- The receipt for the phone comes while the second call sends to the tablet. -/
def crossed : List Act :=
  halfSent ++ selects 2 ++ retryLater 7 ++ sends 2 [98] (ticket [98]) ++ [.worker 2 .complete]

theorem crossed_plays : ((crossed.foldlM (Run.whenever prompt (State.next follow))
    (.created 0 [phone, tablet])).any fun s =>
      s.db.outbox.status = .completed && s.devices.contains phone &&
        (s.db.deliveries.find [97]).any (·.retriable)) = true := by
  decide +kernel

theorem receipt_stranded : ¬ ∀ (n : Notification) (now : Time) (devices : List DevicePushToken)
    (acts : List Act) (s : State),
    Run (Run.Where (Step n) fun s act => prompt s act = true) (.created now devices) acts s →
      Swept n s := by
  intro swept
  obtain ⟨s, played, ends⟩ := (Option.any_eq_true _ _).mp crossed_plays
  obtain ⟨ends, row⟩ := Bool.and_eq_true _ _ ▸ ends
  obtain ⟨status, listed⟩ := Bool.and_eq_true _ _ ▸ ends
  have status : s.db.outbox.status = .completed := of_decide_eq_true status
  obtain ⟨d, found, retriable⟩ := (Option.any_eq_true _ _).mp row
  have free : ∀ r, s.db.outbox.heldBy r = false := by simp [NotificationPushOutbox.heldBy, status]
  have owned : phone.token = d.token := (Table.find_key found).symm
  have up := (swept follow 0 _ _ s (Run.where_of_foldlM played)).1 free d (Table.find_mem found)
    retriable ⟨phone, List.contains_iff_mem.mp listed, by decide, owned⟩
  rw [status] at up
  simp at up

end CircleBackend.Push.Outbox
