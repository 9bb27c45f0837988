import CircleBackend.Recharge.Intake
import CircleBackend.Recharge.Stuck

/-!
# Orders opened and screenshots used

Nothing but the workers' own looks keeps a second order from being opened, an image from
being used again once another has taken its place, or a job from being given back after
its last attempt (`intake`).
-/

namespace CircleBackend.Recharge.Intake

open Library
open Session (UserId)
open Chat (ConversationId MessageId)

/-! ## The orders outside the intake -/

section Outside

variable {c c' : Recharge.State} {db : Db} {k : OrderId} {order order' : SupportRechargeOrder}

/-- What the approvals leave of an order. -/
structure Handled (order order' : SupportRechargeOrder) : Prop where
  conversationID : order'.conversationID = order.conversationID
  userID : order'.userID = order.userID
  evidence : order'.evidenceMessageID = order.evidenceMessageID
  active : active order' = true → active order = true

theorem Handled.refl (order : SupportRechargeOrder) : Handled order order := ⟨rfl, rfl, rfl, id⟩

/-- The order that an act outside the intake writes, if it writes one. -/
theorem core_orders {act : Recharge.Act} (allowed : outside act = true)
    (step : Recharge.Step c act c') : c'.db.orders = c.db.orders ∨
      ∃ k current order', c.db.orders.find k = some current ∧ order'.id = current.id ∧
        Handled current order' ∧ c'.db.orders = c.db.orders.put order' := by
  unfold Recharge.Step Recharge.State.next at step
  cases act with
  | create | evidence => cases allowed
  | register id =>
    obtain ⟨members, -, rfl⟩ := Option.map_eq_some_iff.mp step
    exact .inl rfl
  | setStatus id status =>
    cases step
    exact .inl rfl
  | approve id operator orderId dto =>
    dsimp only at step
    split at step
    · obtain ⟨calls, -, rfl⟩ := Option.map_eq_some_iff.mp step
      exact .inl rfl
    · cases step
  | step id =>
    obtain ⟨call, -, step⟩ := Option.bind_eq_some_iff.mp step
    obtain ⟨⟨db', call'⟩, next, rfl⟩ := Option.map_eq_some_iff.mp step
    have turn := (call_next next).2
    dsimp only at turn ⊢
    generalize call'.stage = stage' at turn
    have approved {k : OrderId} {current : SupportRechargeOrder}
        (found : c.db.orders.find k = some current) : ∃ k current' order',
          c.db.orders.find k = some current' ∧ order'.id = current'.id ∧ Handled current' order' ∧
            c.db.orders.put (current.approve c.clock) = c.db.orders.put order' := by
      refine ⟨k, current, current.approve c.clock, found, rfl, ⟨rfl, rfl, rfl, ?_⟩, rfl⟩
      simp [active, SupportRechargeOrder.approve]
    cases turn with
    | @claimed current _ found waiting =>
      refine .inr ⟨_, current, current.claim call.operator call.input, found, rfl,
        ⟨rfl, rfl, rfl, fun _ => ?_⟩, rfl⟩
      simp [active, waiting]
    | recredited _ _ found | credited _ _ found | finalized _ found => exact .inr (approved found)
    | _ => exact .inl rfl
  | crash id =>
    obtain ⟨call, -, rfl⟩ := Option.map_eq_some_iff.mp step
    exact .inl rfl
  | reject operator orderId reason =>
    obtain ⟨db', rejected, rfl⟩ := Option.map_eq_some_iff.mp step
    obtain ⟨before, found, -, ⟨-, rfl⟩ | ⟨-, rfl⟩⟩ := rejectOrder_ok (toOption_some rejected)
    · exact .inl rfl
    · refine .inr ⟨_, before, before.reject operator reason c.clock, found, rfl,
        ⟨rfl, rfl, rfl, ?_⟩, rfl⟩
      simp [active, SupportRechargeOrder.reject]
  | grant operator target dto =>
    obtain ⟨registry, -, rfl⟩ := Option.map_eq_some_iff.mp step
    exact .inl rfl
  | ledger id balance =>
    dsimp only at step
    split at step
    · cases step
      exact .inl rfl
    · cases step
  | tick now =>
    dsimp only at step
    split at step
    · cases step
      exact .inl rfl
    · cases step

theorem core_handled {act : Recharge.Act} (allowed : outside act = true)
    (step : Recharge.Step c act c') (k : OrderId) :
    (∀ order, c.db.orders.find k = some order →
      ∃ order', c'.db.orders.find k = some order' ∧ Handled order order') ∧
    ∀ order', c'.db.orders.find k = some order' →
      ∃ order, c.db.orders.find k = some order ∧ Handled order order' := by
  rcases core_orders allowed step with same | ⟨k', current, written, found, own, handled, same⟩
  · rw [same]
    exact ⟨fun order h => ⟨order, h, .refl order⟩, fun order h => ⟨order, h, .refl order⟩⟩
  · rw [same, Table.find_put_own found own]
    split
    · rename_i here
      rw [here, found]
      constructor
      · rintro order ⟨⟩
        exact ⟨written, rfl, handled⟩
      · rintro order ⟨⟩
        exact ⟨current, rfl, handled⟩
    · exact ⟨fun order h => ⟨order, h, .refl order⟩, fun order h => ⟨order, h, .refl order⟩⟩

end Outside

/-! ## A statement of a worker -/

section Worked

variable {lower : JsString → JsString} {s t : State} {w w' : Worker} {m : IncomingMessage}

def Stage.message : Stage → Option IncomingMessage
  | .agent m _ | .state m _ | .resume m _ _ | .handover m | .welcome m _ | .code m _ _
  | .finding m _ _ _ | .replaying m _ _ _ | .inserting m _ _ _ _ | .refinding m _ _ _ _
  | .proof m _ | .review m _ | .attaching m _ _ => some m
  | .claimed | .source | .completing | .failing | .stopped => none

/-- An image is attached to an order that was active when it was read. -/
def Stage.sound : Stage → Prop
  | .attaching _ _ seen => active seen = true
  | _ => True

/-- A stage past the read of the job, of no other message. -/
def Stage.of (m : IncomingMessage) (stage : Stage) : Prop :=
  stage ≠ .claimed ∧ (∀ m', stage.message = some m' → m' = m) ∧ stage.sound

theorem Stage.of.silent {stage : Stage} (none' : stage.message = none) (began : stage ≠ .claimed) :
    stage.of m := by
  refine ⟨began, fun _ some' => ?_, ?_⟩
  · rw [none'] at some'
    cases some'
  · cases stage with
    | attaching => cases none'
    | _ => trivial

theorem Stage.of.own {stage : Stage} (own : stage.message = some m) (sound : stage.sound) :
    stage.of m := by
  refine ⟨?_, fun m' other => Option.some.inj (other.symm.trans own), sound⟩
  rintro rfl
  cases own

theorem classified_of (now : Time) (a : UserId) (last : Option Time) :
    (classified lower now m a last).of m := by
  unfold classified
  split
  · exact .own rfl trivial
  · exact .own rfl trivial
  · exact .own rfl trivial
  · split
    · exact .silent rfl nofun
    · exact .own rfl trivial

theorem handled_of (now : Time) (a : UserId) (state : ConversationState) :
    (handled lower now m a state).of m := by
  unfold handled
  split
  · exact .silent rfl nofun
  split
  · cases messageObjectKey m with
    | none => exact .silent rfl nofun
    | some key => exact .own rfl trivial
  split
  · exact .silent rfl nofun
  split
  · exact .own rfl trivial
  split
  · exact .own rfl trivial
  split
  · exact .silent rfl nofun
  · exact classified_of now a _

theorem started_of (now : Time) (order : SupportRechargeOrder) : (started m now order).of m := by
  unfold started
  split
  · exact .silent rfl nofun
  · exact .own rfl trivial

/-- Nothing is written but the conversation's state. -/
structure Quiet (s t : State) : Prop where
  core : t.core = s.core
  jobs : t.jobs = s.jobs
  workers : t.workers = s.workers
  messages : t.messages = s.messages
  advanced : t.advanced = s.advanced

theorem Quiet.refl (s : State) : Quiet s s := ⟨rfl, rfl, rfl, rfl, rfl⟩

theorem update_quiet (id : ConversationId) (f : ConversationState → ConversationState) :
    Quiet s (s.update id f) := by
  unfold State.update
  split
  · exact ⟨rfl, rfl, rfl, rfl, rfl⟩
  · exact .refl s

theorem reads_ok {stage stage' : Stage} (h : reads lower s w stage = some (t, stage')) :
    Quiet s t ∧ stage ≠ .claimed ∧ stage' ≠ .claimed ∧ stage'.sound ∧
      (∀ m, stage'.message = some m → stage.message = some m ∨
        stage = .source ∧ s.messages.find w.source = some m) := by
  -- the stages that have their message keep it
  have keeps {m : IncomingMessage} (own : stage.message = some m) (quiet : Quiet s t)
      (of' : stage'.of m) : Quiet s t ∧ stage ≠ .claimed ∧ stage' ≠ .claimed ∧ stage'.sound ∧
        (∀ m, stage'.message = some m → stage.message = some m ∨
          stage = .source ∧ s.messages.find w.source = some m) := by
    refine ⟨quiet, ?_, of'.1, of'.2.2, fun m' other => .inl ?_⟩
    · rintro rfl
      cases own
    · rw [of'.2.1 m' other]
      exact own
  unfold reads at h
  split at h
  case h_1 =>
    split at h
    · rename_i m found
      cases h
      refine ⟨.refl s, by rintro ⟨⟩, ?_, ?_, fun m' own => .inr ⟨rfl, ?_⟩⟩
      · intro claimed
        cases agent : m.agent <;> rw [agent] at claimed <;> cases claimed
      · cases m.agent <;> trivial
      · cases agent : m.agent with
        | none =>
          rw [agent] at own
          cases own
        | some a =>
          rw [agent] at own
          cases own
          exact found
    · cases h
      exact ⟨.refl s, by rintro ⟨⟩, by rintro ⟨⟩, trivial, by rintro _ ⟨⟩⟩
  case h_2 m a =>
    cases h
    refine keeps rfl (.refl s) ?_
    split
    · exact .own rfl trivial
    · exact .silent rfl (by rintro ⟨⟩)
  case h_3 m a =>
    cases h
    exact keeps rfl ⟨rfl, rfl, rfl, rfl, rfl⟩ (handled_of _ _ _)
  case h_4 m a last =>
    cases h
    exact keeps rfl (update_quiet _ _) (classified_of _ _ _)
  case h_5 m =>
    cases h
    exact keeps rfl (update_quiet _ _) (.silent rfl (by rintro ⟨⟩))
  case h_6 m now =>
    cases h
    exact keeps rfl (update_quiet _ _) (.silent rfl (by rintro ⟨⟩))
  case h_7 m a kind =>
    cases h
    refine keeps rfl (.refl s) ?_
    split
    · exact .own rfl trivial
    · exact .own rfl trivial
  case h_8 m a kind now =>
    split at h
    · split at h
      · cases h
        exact keeps rfl (.refl s) (.silent rfl (by rintro ⟨⟩))
      · cases h
        exact keeps rfl (.refl s) (started_of _ _)
    · cases h
      exact keeps rfl (.refl s) (.own rfl trivial)
  case h_9 m a kind now =>
    cases h
    refine keeps rfl (.refl s) ?_
    cases bySource s m with
    | none => exact .own rfl trivial
    | some order => exact started_of _ _
  case h_10 m a kind now attempt =>
    cases h
    refine keeps rfl (.refl s) ?_
    cases bySource s m with
    | none =>
      dsimp only [Option.elim]
      split
      · exact .silent rfl (by rintro ⟨⟩)
      · exact .own rfl trivial
    | some order => exact started_of _ _
  case h_11 m key =>
    cases h
    refine keeps rfl (.refl s) ?_
    cases found : activeOf s m fun order => decide (order.status = .awaitingProof) with
    | none => exact .own rfl trivial
    | some order =>
      refine .own rfl ?_
      have awaiting := (Bool.and_eq_true _ _ ▸ (Table.findFirst_some found).2).2
      simp [Stage.sound, active, of_decide_eq_true awaiting]
  case h_12 m key =>
    split at h
    · rename_i order found
      cases h
      refine keeps rfl (.refl s) ?_
      split
      · exact .silent rfl (by rintro ⟨⟩)
      · refine .own rfl ?_
        have review := (Bool.and_eq_true _ _ ▸ (Table.findFirst_some found).2).2
        simp only [Bool.or_eq_true, decide_eq_true_eq] at review
        rcases review with waiting | processing
        · simp [Stage.sound, active, waiting]
        · simp [Stage.sound, active, processing]
    · cases h
      exact keeps rfl (.refl s) (.silent rfl (by rintro ⟨⟩))
  case h_13 => cases h

inductive Worked (lower : JsString → JsString) (s : State) (w : Worker) : State → Worker → Prop
  | began {job : SupportRechargeJob} (stage : w.stage = .claimed)
      (found : s.jobs.find w.job = some job) :
      Worked lower s w s
        { w with source := job.sourceMessageID, attempts := job.attempts, stage := .source }
  | read {t : State} {stage' : Stage} (quiet : Quiet s t) (live : w.stage ≠ .stopped)
      (later : w.stage ≠ .claimed ∨ stage' = .stopped) (claimed : stage' ≠ .claimed)
      (proof : stage'.sound)
      (message : ∀ m, stage'.message = some m → w.stage.message = some m ∨
        w.stage = .source ∧ s.messages.find w.source = some m) :
      Worked lower s w t { w with stage := stage' }
  | inserted {m : IncomingMessage} {a : UserId} {kind : RequestKind} {now : Time} {attempt : Nat}
      {id : OrderId} {orderNo : JsString} {db : Db} (stage : w.stage = .inserting m a kind now attempt)
      (created : createOrder s.core.db s.clock (opening m a kind id orderNo) = some db) :
      Worked lower s w { s with core := { s.core with db := db } }
        { w with stage := .welcome m now }
  | attached {m : IncomingMessage} {key : JsString} {order : SupportRechargeOrder} {db : Db}
      (stage : w.stage = .attaching m key order)
      (accepted : acceptEvidence s.core.db s.clock order.id order.status m.id
        (evidenceKey lower order.id m.id key) = some db) :
      Worked lower s w
        { s with
          core := { s.core with db := db }
          advanced := if (s.orders.find order.id).any (·.status = order.status) then
            (m.id, order.id) :: s.advanced else s.advanced }
        { w with stage := .completing }
  | settled {job : SupportRechargeJob} {status : JobStatus} {next : Time}
      (stage : w.stage = .completing ∧ status = .completed ∨
        w.stage = .failing ∧ status = if jobMaxAttempts ≤ w.attempts then .failed else .pending)
      (found : s.jobs.find w.job = some job) :
      Worked lower s w { s with jobs := s.jobs.put (job.settle status next) }
        { w with stage := .stopped }

theorem worked {id : OrderId} {orderNo : JsString} (h : work lower s w id orderNo = some (t, w')) :
    Worked lower s w t w' := by
  unfold work at h
  split at h
  case h_1 stage =>
    split at h
    · rename_i job found
      cases h
      exact .began stage found
    · cases h
      exact .read (.refl s) (by rw [stage]; nofun) (.inr rfl) nofun trivial nofun
  case h_2 m a kind now attempt stage =>
    split at h
    · rename_i db created
      cases h
      exact .inserted stage created
    · cases h
      refine .read (.refl s) (by rw [stage]; nofun) (.inl (by rw [stage]; nofun)) nofun trivial ?_
      intro m' own
      cases own
      exact .inl (by rw [stage]; rfl)
  case h_3 m key order stage =>
    split at h
    · rename_i db accepted
      cases h
      exact .attached stage accepted
    · cases h
      exact .read (.refl s) (by rw [stage]; nofun) (.inl (by rw [stage]; nofun)) nofun trivial nofun
  case h_4 stage =>
    split at h
    · rename_i job found
      cases h
      exact .settled (.inl ⟨stage, rfl⟩) found
    · cases h
      exact .read (.refl s) (by rw [stage]; nofun) (.inl (by rw [stage]; nofun)) nofun trivial nofun
  case h_5 stage =>
    split at h
    · rename_i job found
      cases h
      exact .settled (.inr ⟨stage, rfl⟩) found
    · cases h
      exact .read (.refl s) (by rw [stage]; nofun) (.inr rfl) nofun trivial nofun
  case h_6 => cases h
  case h_7 stage =>
    obtain ⟨⟨u, stage'⟩, read, same⟩ := Option.map_eq_some_iff.mp h
    cases same
    obtain ⟨quiet, began, claimed, proof, message⟩ := reads_ok read
    exact .read quiet stage (.inl began) claimed proof message

theorem thrown_message (stage : Stage) :
    stage.thrown.sound ∧ (stage = .claimed → stage.thrown = .stopped) ∧
      (stage = .stopped → stage.thrown = .stopped) ∧
      ∀ m, stage.thrown.message = some m → stage.message = some m := by
  cases stage with
  | inserting m => exact ⟨trivial, nofun, nofun, fun m' own => own⟩
  | claimed | stopped => exact ⟨trivial, fun _ => rfl, fun _ => rfl, nofun⟩
  | _ => exact ⟨trivial, nofun, nofun, nofun⟩

end Worked

/-! ## What always holds -/

section Sound

variable {lower : JsString → JsString} {s t : State} {act : Act}

/-- The message of a worker is its job's, and so is the one in hand. -/
def WorkerOk (s : State) (w : Worker) : Prop :=
  w.stage = .stopped ∨ ∃ job, s.jobs.find w.job = some job ∧
    (w.stage = .claimed ∨ job.sourceMessageID = w.source) ∧ w.stage.sound ∧
    ∀ m, w.stage.message = some m → m.id = w.source

structure Sound (s : State) : Prop where
  evidence : ∀ k k' order order' m, s.orders.find k = some order →
    s.orders.find k' = some order' → order.evidenceMessageID = some m →
    order'.evidenceMessageID = some m → k = k'
  sources : ∀ k k' job job', s.jobs.find k = some job → s.jobs.find k' = some job' →
    job.sourceMessageID = job'.sourceMessageID → k = k'
  workers : ∀ id w, s.workers.find id = some w → WorkerOk s w

/-- The message of a job stays, and a job stays. -/
def JobsKept (s t : State) : Prop :=
  ∀ k job, s.jobs.find k = some job →
    ∃ job', t.jobs.find k = some job' ∧ job'.sourceMessageID = job.sourceMessageID

theorem WorkerOk.kept {w : Worker} (ok : WorkerOk s w) (kept : JobsKept s t) : WorkerOk t w := by
  rcases ok with stopped | ⟨job, found, source, proof, message⟩
  · exact .inl stopped
  · obtain ⟨job', found', same⟩ := kept w.job job found
    exact .inr ⟨job', found', source.imp id same.trans, proof, message⟩

/-- What a step makes of a job. -/
inductive JobStep (s : State) : Act → JobId → SupportRechargeJob → Prop
  | kept {act : Act} {k : JobId} {job : SupportRechargeJob} (found : s.jobs.find k = some job) :
      JobStep s act k job
  | received {message : IncomingMessage} {k : JobId} {job : SupportRechargeJob}
      (fresh : ∀ k' job', s.jobs.find k' = some job' → job'.sourceMessageID ≠ job.sourceMessageID)
      (pending : job.status = .pending) (attempts : job.attempts = 0) :
      JobStep s (.receive message k) k job
  | reset {now : Time} {k : JobId} {job : SupportRechargeJob} (found : s.jobs.find k = some job)
      (stale : job.stale now = true) : JobStep s (.sweep now) k (job.reset now)
  | claimed {w : WorkerId} {k : JobId} {lockedAt : Time} {job : SupportRechargeJob}
      (found : s.jobs.find k = some job) (pending : job.status = .pending) :
      JobStep s (.claim w k lockedAt) k (job.claim lockedAt)
  | settled {w : WorkerId} {id : OrderId} {orderNo : JsString} {worker : Worker}
      {job : SupportRechargeJob} {status : JobStatus} {next : Time}
      (working : s.workers.find w = some worker) (found : s.jobs.find worker.job = some job)
      (stage : worker.stage = .completing ∧ status = .completed ∨ worker.stage = .failing ∧
        status = if jobMaxAttempts ≤ worker.attempts then .failed else .pending) :
      JobStep s (.work w id orderNo) worker.job (job.settle status next)

theorem put_job {jobs : Jobs} {job : SupportRechargeJob} (job' : SupportRechargeJob)
    (found : jobs.find job.id = some job) (own : job'.id = job.id) (k : JobId) :
    (jobs.put job').find k = if k = job.id then some job' else jobs.find k := by
  exact Table.find_put_own found own k

theorem jobs_step (step : Step lower s act t) : JobsKept s t ∧
    ∀ k job, t.jobs.find k = some job → JobStep s act k job := by
  have same (jobs : t.jobs = s.jobs) : JobsKept s t ∧
      ∀ k job, t.jobs.find k = some job → JobStep s act k job := by
    unfold JobsKept
    rw [jobs]
    exact ⟨fun k job found => ⟨job, found, rfl⟩, fun k job found => .kept found⟩
  unfold Step State.next at step
  cases act with
  | receive message id =>
    dsimp only at step
    split at step
    · cases step
    · rename_i fresh
      obtain ⟨messages, -, step⟩ := Option.bind_eq_some_iff.mp step
      obtain ⟨jobs, inserted, rfl⟩ := Option.map_eq_some_iff.mp step
      have finds := Table.find_insert inserted
      constructor
      · intro k job found
        refine ⟨job, ?_, rfl⟩
        dsimp only
        rw [finds, if_neg]
        · exact found
        · rintro rfl
          rw [Table.insert_fresh inserted] at found
          cases found
      · intro k job found
        dsimp only at found
        rw [finds] at found
        split at found
        · rename_i own
          subst own
          cases found
          refine .received (fun k' job' found' same => fresh ?_) rfl rfl
          exact List.any_eq_true.mpr ⟨job', Table.find_mem found', decide_eq_true same⟩
        · exact .kept found
  | remove message =>
    obtain ⟨m, -, rfl⟩ := Option.map_eq_some_iff.mp step
    exact same rfl
  | sweep now =>
    dsimp only at step
    split at step
    · cases step
      constructor
      · intro k job found
        refine ⟨if job.stale now then job.reset now else job, ?_, ?_⟩
        · dsimp only
          rw [Table.find_updateMany, found]
          rfl
        · split <;> rfl
      · intro k job found
        dsimp only at found
        rw [Table.find_updateMany] at found
        obtain ⟨job', found', rfl⟩ := Option.map_eq_some_iff.mp found
        split
        · rename_i stale
          exact .reset found' stale
        · exact .kept found'
    · cases step
  | claim w id lockedAt =>
    dsimp only at step
    split at step
    · obtain ⟨job, found, step⟩ := Option.bind_eq_some_iff.mp step
      obtain ⟨workers, -, rfl⟩ := Option.map_eq_some_iff.mp step
      obtain ⟨found, due⟩ := Option.filter_eq_some_iff.mp found
      obtain ⟨pending, -⟩ := Bool.and_eq_true _ _ ▸ due
      have key : job.id = id := Table.find_key found
      subst key
      have finds := put_job (job.claim lockedAt) found rfl
      constructor
      · intro k job' found'
        dsimp only
        rw [finds]
        split
        · rename_i own
          subst own
          cases found.symm.trans found'
          exact ⟨_, rfl, rfl⟩
        · exact ⟨job', found', rfl⟩
      · intro k job' found'
        dsimp only at found'
        rw [finds] at found'
        split at found'
        · rename_i own
          subst own
          cases found'
          exact .claimed found (of_decide_eq_true pending)
        · exact .kept found'
    · cases step
  | work w id orderNo =>
    obtain ⟨worker, working, step⟩ := Option.bind_eq_some_iff.mp step
    obtain ⟨⟨u, w'⟩, done, rfl⟩ := Option.map_eq_some_iff.mp step
    cases worked done with
    | began | inserted | attached => exact same rfl
    | read quiet => exact same quiet.jobs
    | @settled job status next stage found =>
      have key : job.id = worker.job := Table.find_key found
      have there : s.jobs.find job.id = some job := key ▸ found
      have finds := put_job (job.settle status next) there rfl
      constructor
      · intro k job' found'
        dsimp only
        rw [finds]
        split
        · rename_i own
          rw [own, key] at found'
          cases found.symm.trans found'
          exact ⟨_, rfl, rfl⟩
        · exact ⟨job', found', rfl⟩
      · intro k job' found'
        dsimp only at found'
        rw [finds] at found'
        split at found'
        · rename_i own
          rw [own, key]
          cases found'
          exact .settled working found stage
        · exact .kept found'
  | throws w =>
    obtain ⟨worker, -, rfl⟩ := Option.map_eq_some_iff.mp step
    exact same rfl
  | crash w =>
    obtain ⟨worker, -, rfl⟩ := Option.map_eq_some_iff.mp step
    exact same rfl
  | core act =>
    dsimp only at step
    split at step
    · obtain ⟨core, -, rfl⟩ := Option.map_eq_some_iff.mp step
      exact same rfl
    · cases step
  | configure agents code =>
    cases step
    exact same rfl

/-- A worker goes on, or it has just got a job that was pending. -/
def Onward (s : State) (id : WorkerId) (w' : Worker) : Prop :=
  (∃ w, s.workers.find id = some w ∧ w'.job = w.job ∧ (w.stage = .stopped → w'.stage = .stopped)) ∨
    ∃ job, s.jobs.find w'.job = some job ∧ job.status = .pending

theorem put_worker {workers : Table Worker WorkerId (·.id)} {id k : WorkerId} {w w₁ : Worker}
    (w' : Worker) (found : workers.find id = some w) (own : w'.id = w.id)
    (after : (workers.put w').find k = some w₁) : k = id ∧ w₁ = w' ∨ workers.find k = some w₁ := by
  rw [Table.find_put_own found own] at after
  split at after
  · rename_i same
    cases after
    exact .inl ⟨same, rfl⟩
  · exact .inr after

theorem workers_step (sound : Sound s) (step : Step lower s act t) :
    ∀ id w', t.workers.find id = some w' → WorkerOk t w' ∧ Onward s id w' := by
  have kept := (jobs_step step).1
  have before {id : WorkerId} {w' : Worker} (found : s.workers.find id = some w') :
      WorkerOk t w' ∧ Onward s id w' :=
    ⟨(sound.workers id w' found).kept kept, .inl ⟨w', found, rfl, fun stopped => stopped⟩⟩
  unfold Step State.next at step
  cases act with
  | receive message id =>
    dsimp only at step
    split at step
    · cases step
    · obtain ⟨messages, -, step⟩ := Option.bind_eq_some_iff.mp step
      obtain ⟨jobs, -, rfl⟩ := Option.map_eq_some_iff.mp step
      exact fun _ _ found => before found
  | remove message =>
    obtain ⟨m, -, rfl⟩ := Option.map_eq_some_iff.mp step
    exact fun _ _ found => before found
  | sweep now =>
    dsimp only at step
    split at step
    · cases step
      exact fun _ _ found => before found
    · cases step
  | claim w job lockedAt =>
    dsimp only at step
    split at step
    · obtain ⟨job, there, step⟩ := Option.bind_eq_some_iff.mp step
      obtain ⟨workers, inserted, rfl⟩ := Option.map_eq_some_iff.mp step
      obtain ⟨there, due⟩ := Option.filter_eq_some_iff.mp there
      obtain ⟨pending, -⟩ := Bool.and_eq_true _ _ ▸ due
      have there : s.jobs.find job.id = some job := Table.mem_find (Table.find_mem there)
      intro id w' found
      dsimp only at found
      rw [Table.find_insert inserted] at found
      split at found
      · cases found
        obtain ⟨job', after, -⟩ := kept job.id job there
        exact ⟨.inr ⟨job', after, .inl rfl, trivial, by intros; contradiction⟩,
          .inr ⟨job, there, of_decide_eq_true pending⟩⟩
      · exact before found
    · cases step
  | work w id orderNo =>
    obtain ⟨worker, working, step⟩ := Option.bind_eq_some_iff.mp step
    obtain ⟨⟨u, w'⟩, done, rfl⟩ := Option.map_eq_some_iff.mp step
    have ok := sound.workers w worker working
    have turn := worked done
    intro k w₁ found
    have own : w'.id = worker.id ∧ w'.job = worker.job := by
      cases turn <;> exact ⟨rfl, rfl⟩
    rcases put_worker w' working own.1 found with ⟨rfl, rfl⟩ | found
    case inr => exact before found
    have live : worker.stage ≠ .stopped := by
      intro stopped
      unfold work at done
      rw [stopped] at done
      cases done
    refine ⟨?_, .inl ⟨worker, working, own.2, fun stopped => absurd stopped live⟩⟩
    obtain ⟨job, there, source, -, message⟩ := ok.resolve_left live
    obtain ⟨job', after, same⟩ := kept worker.job job there
    cases turn with
    | @began job₀ _ there' =>
      cases there.symm.trans there'
      exact .inr ⟨job', after, .inr same, trivial, by intros; contradiction⟩
    | @read _ stage' quiet _ later claimed proof keeps =>
      by_cases stopped : stage' = .stopped
      · exact .inl stopped
      · have source := source.resolve_left (later.resolve_right stopped)
        refine .inr ⟨job', after, .inr (same.trans source), proof, fun m own => ?_⟩
        rcases keeps m own with before | ⟨-, here⟩
        · exact message m before
        · exact Table.find_key here
    | @inserted m a kind now attempt _ _ _ stage =>
      have source := source.resolve_left (by rw [stage]; rintro ⟨⟩)
      refine .inr ⟨job', after, .inr (same.trans source), trivial, ?_⟩
      intro m' own
      cases own
      exact message m (by rw [stage]; rfl)
    | attached stage =>
      have source := source.resolve_left (by rw [stage]; rintro ⟨⟩)
      exact .inr ⟨job', after, .inr (same.trans source), trivial, by intros; contradiction⟩
    | settled => exact .inl rfl
  | throws w =>
    obtain ⟨worker, working, rfl⟩ := Option.map_eq_some_iff.mp step
    intro k w₁ found
    rcases put_worker { worker with stage := worker.stage.thrown } working rfl found with
      ⟨rfl, rfl⟩ | found
    case inr => exact before found
    obtain ⟨proof, first, last, keeps⟩ := thrown_message worker.stage
    refine ⟨?_, .inl ⟨worker, working, rfl, last⟩⟩
    rcases sound.workers _ worker working with stopped | ⟨job, there, source, -, message⟩
    · exact .inl (last stopped)
    rcases source with fresh | source
    · exact .inl (first fresh)
    · exact .inr ⟨job, there, .inr source, proof, fun m own => message m (keeps m own)⟩
  | crash w =>
    obtain ⟨worker, working, rfl⟩ := Option.map_eq_some_iff.mp step
    intro k w₁ found
    rcases put_worker { worker with stage := .stopped } working rfl found with
      ⟨rfl, rfl⟩ | found
    · exact ⟨.inl rfl, .inl ⟨worker, working, rfl, fun _ => rfl⟩⟩
    · exact before found
  | core act =>
    dsimp only at step
    split at step
    · obtain ⟨core, -, rfl⟩ := Option.map_eq_some_iff.mp step
      exact fun _ _ found => before found
    · cases step
  | configure agents code =>
    cases step
    exact fun _ _ found => before found

/-- What a step makes of the orders. -/
inductive OrderStep (s : State) : Act → State → Prop
  | kept {act : Act} {t : State} (advanced : t.advanced = s.advanced)
      (stay : ∀ k order, s.orders.find k = some order →
        ∃ order', t.orders.find k = some order' ∧ Handled order order')
      (orders : ∀ k order', t.orders.find k = some order' →
        ∃ order, s.orders.find k = some order ∧ Handled order order') : OrderStep s act t
  | opened {w : WorkerId} {i : OrderId} {n : JsString} (id : OrderId) (orderNo : JsString)
      {worker : Worker}
      {m : IncomingMessage} {a : UserId} {kind : RequestKind} {now : Time} {attempt : Nat} {t : State}
      (working : s.workers.find w = some worker)
      (stage : worker.stage = .inserting m a kind now attempt) (advanced : t.advanced = s.advanced)
      (source : ∀ order ∈ s.orders.rows, order.sourceMessageID ≠ m.id)
      (fresh : s.orders.find id = none)
      (orders : ∀ k, t.orders.find k =
        if id = k then some ((opening m a kind id orderNo).order s.clock) else s.orders.find k) :
      OrderStep s (.work w i n) t
  | attached {w : WorkerId} {id : OrderId} {orderNo : JsString} {worker : Worker}
      {m : IncomingMessage} {key evidence : JsString} {seen order : SupportRechargeOrder} {t : State}
      (working : s.workers.find w = some worker) (stage : worker.stage = .attaching m key seen)
      (found : s.orders.find seen.id = some order) (status : order.status = seen.status)
      (unused : ∀ k order', s.orders.find k = some order' → k ≠ seen.id →
        order'.evidenceMessageID ≠ some m.id)
      (advanced : t.advanced = (m.id, seen.id) :: s.advanced)
      (orders : ∀ k, t.orders.find k =
        if k = seen.id then some (order.evidenced m.id evidence s.clock) else s.orders.find k) :
      OrderStep s (.work w id orderNo) t

theorem createOrder_fresh {db db' : Db} {now : Time} {o : Opening}
    (h : createOrder db now o = some db') :
    ∀ order ∈ db.orders.rows, order.sourceMessageID ≠ o.sourceMessageID := by
  unfold createOrder at h
  split at h
  · cases h
  · rename_i fresh
    intro order member same
    exact fresh (List.any_eq_true.mpr ⟨order, member, by simp [same]⟩)

theorem put_order {orders : Orders} {k : OrderId} {order : SupportRechargeOrder}
    (order' : SupportRechargeOrder) (found : orders.find k = some order)
    (own : order'.id = order.id) (k' : OrderId) :
    (orders.put order').find k' = if k' = k then some order' else orders.find k' := by
  exact Table.find_put_own found own k'

theorem orders_step (step : Step lower s act t) : OrderStep s act t := by
  have same (orders : t.orders = s.orders) (advanced : t.advanced = s.advanced) :
      OrderStep s act t :=
    .kept advanced (fun k order found => ⟨order, orders.symm ▸ found, .refl order⟩)
      fun k order found => ⟨order, orders ▸ found, .refl order⟩
  unfold Step State.next at step
  cases act with
  | receive message id =>
    dsimp only at step
    split at step
    · cases step
    · obtain ⟨messages, -, step⟩ := Option.bind_eq_some_iff.mp step
      obtain ⟨jobs, -, rfl⟩ := Option.map_eq_some_iff.mp step
      exact same rfl rfl
  | remove message =>
    obtain ⟨m, -, rfl⟩ := Option.map_eq_some_iff.mp step
    exact same rfl rfl
  | sweep now =>
    dsimp only at step
    split at step
    · cases step
      exact same rfl rfl
    · cases step
  | claim w id lockedAt =>
    dsimp only at step
    split at step
    · obtain ⟨job, -, step⟩ := Option.bind_eq_some_iff.mp step
      obtain ⟨workers, -, rfl⟩ := Option.map_eq_some_iff.mp step
      exact same rfl rfl
    · cases step
  | work w id orderNo =>
    obtain ⟨worker, working, step⟩ := Option.bind_eq_some_iff.mp step
    obtain ⟨⟨u, w'⟩, done, rfl⟩ := Option.map_eq_some_iff.mp step
    have turn := worked done
    clear done
    cases turn with
    | began | settled => exact same rfl rfl
    | read quiet =>
      exact same (congrArg (fun core : Recharge.State => core.db.orders) quiet.core) quiet.advanced
    | @inserted m a kind now attempt id' no db stage created =>
      obtain ⟨orders, inserted, rfl⟩ := createOrder_ok created
      exact .opened id' no working stage rfl (createOrder_fresh created)
        (Table.insert_fresh inserted) (Table.find_insert inserted)
    | @attached m key seen db stage accepted =>
      obtain ⟨missing, rfl⟩ | ⟨order, found, status, unused, rfl⟩ := acceptEvidence_ok accepted
      · exact same rfl (if_neg fun changed => Bool.false_ne_true (missing.symm.trans changed))
      · have found : s.orders.find seen.id = some order := found
        have own : order.id = seen.id := Table.find_key found
        let evidence := evidenceKey lower seen.id m.id key
        have finds := put_order (order.evidenced m.id evidence s.clock) found rfl
        refine .attached working stage found status (fun k other there apart => ?_) ?_ finds
        · exact unused other (Table.find_mem there) (by rw [Table.find_key there]; exact apart)
        · simp only [found, Option.any_some, status, decide_true, if_true]
  | throws w =>
    obtain ⟨worker, -, rfl⟩ := Option.map_eq_some_iff.mp step
    exact same rfl rfl
  | crash w =>
    obtain ⟨worker, -, rfl⟩ := Option.map_eq_some_iff.mp step
    exact same rfl rfl
  | core act =>
    dsimp only at step
    split at step
    · rename_i allowed
      obtain ⟨core, next, rfl⟩ := Option.map_eq_some_iff.mp step
      exact .kept rfl (fun k => (core_handled allowed next k).1)
        fun k => (core_handled allowed next k).2
    · cases step
  | configure agents code =>
    cases step
    exact same rfl rfl

theorem step_sound (sound : Sound s) (step : Step lower s act t) : Sound t where
  evidence := by
    cases orders_step step with
    | kept _ _ orders =>
      intro k k' order order' m found found' used used'
      obtain ⟨before, there, handled⟩ := orders k order found
      obtain ⟨before', there', handled'⟩ := orders k' order' found'
      exact sound.evidence k k' before before' m there there' (handled.evidence.symm.trans used)
        (handled'.evidence.symm.trans used')
    | opened _ _ _ _ _ _ _ orders =>
      intro k k' order order' m found found' used used'
      rw [orders] at found found'
      split at found
      · cases found
        cases used
      · split at found'
        · cases found'
          cases used'
        · exact sound.evidence k k' order order' m found found' used used'
    | attached _ _ _ _ unused _ orders =>
      intro k k' order order' m found found' used used'
      rw [orders] at found found'
      split at found
      · rename_i own
        cases found
        cases used
        split at found'
        · rename_i own'
          exact own.trans own'.symm
        · rename_i apart
          exact absurd used' (unused k' order' found' apart)
      · rename_i apart
        split at found'
        · cases found'
          cases used'
          exact absurd used (unused k order found apart)
        · exact sound.evidence k k' order order' m found found' used used'
  sources := by
    obtain ⟨-, jobs⟩ := jobs_step step
    -- a job has the message it had, or a new one
    have back (k : JobId) (job : SupportRechargeJob) (found : t.jobs.find k = some job) :
        (∃ job', s.jobs.find k = some job' ∧ job'.sourceMessageID = job.sourceMessageID) ∨
          (∃ message, act = .receive message k) ∧ ∀ k' job', s.jobs.find k' = some job' →
            job'.sourceMessageID ≠ job.sourceMessageID := by
      cases jobs k job found with
      | kept there => exact .inl ⟨job, there, rfl⟩
      | received fresh => exact .inr ⟨⟨_, rfl⟩, fresh⟩
      | reset there | claimed there => exact .inl ⟨_, there, rfl⟩
      | settled _ there => exact .inl ⟨_, there, rfl⟩
    intro k k' job job' found found' same
    rcases back k job found with ⟨before, there, source⟩ | ⟨⟨m, received⟩, fresh⟩
    · rcases back k' job' found' with ⟨before', there', source'⟩ | ⟨-, fresh'⟩
      · exact sound.sources k k' before before' there there'
          (source.trans (same.trans source'.symm))
      · exact absurd (source.trans same) (fresh' k before there)
    · rcases back k' job' found' with ⟨before', there', source'⟩ | ⟨⟨m', received'⟩, -⟩
      · exact absurd (source'.trans same.symm) (fresh k' before' there')
      · cases received.symm.trans received'
        rfl
  workers id w found := (workers_step sound step id w found).1

theorem empty_sound : Sound .empty := by
  constructor
  · intro k k' order order' m found
    cases found
  · intro k k' job job' found
    cases found
  · intro id w found
    cases found

end Sound

/-! ## What holds in an orderly run -/

section Intact

variable {lower : JsString → JsString} {s t : State} {act : Act}

/-- No worker has the job of the message, and none will. -/
def Closed (s : State) (m : MessageId) : Prop :=
  ∃ k job, s.jobs.find k = some job ∧ job.sourceMessageID = m ∧
    (job.status = .completed ∨ job.status = .failed) ∧
    ∀ id w, s.workers.find id = some w → w.job = k → w.stage = .stopped

/-- An order is opened only where none is active; an image takes the place of another only
once that one's job is closed; and no job is given back after its last attempt. -/
def Orderly (s : State) : Act → Prop
  | .sweep now => ∀ job ∈ s.jobs.rows, job.stale now = true → job.attempts < jobMaxAttempts
  | .work w _ _ => ∀ worker, s.workers.find w = some worker →
    match worker.stage with
    | .inserting m _ _ _ _ =>
      (∃ order ∈ s.orders.rows, order.sourceMessageID = m.id) ∨
        ∀ order ∈ s.orders.rows, order.conversationID = m.conversationID →
          order.userID = m.senderID.getD 0 → active order = false
    | .attaching m _ seen => ∀ order m', s.orders.find seen.id = some order →
      order.status = seen.status → order.evidenceMessageID = some m' → m' ≠ m.id → Closed s m'
    | .failing => jobMaxAttempts ≤ worker.attempts ∨
      ∀ job, s.jobs.find worker.job = some job → job.attempts < jobMaxAttempts
    | _ => True
  | _ => True

structure Intact (s : State) : Prop where
  single : ∀ k k' order order', s.orders.find k = some order → s.orders.find k' = some order' →
    active order = true → active order' = true → order.conversationID = order'.conversationID →
    order.userID = order'.userID → k = k'
  once : ∀ m k k', (m, k) ∈ s.advanced → (m, k') ∈ s.advanced → k = k'
  picked : ∀ k job, s.jobs.find k = some job → job.status = .pending →
    job.attempts < jobMaxAttempts

/-- An image that has advanced an order is its evidence, or is done with. -/
def Spent (s : State) : Prop :=
  ∀ m k, (m, k) ∈ s.advanced →
    (∃ order, s.orders.find k = some order ∧ order.evidenceMessageID = some m) ∨ Closed s m

theorem closed_step {m : MessageId} (sound : Sound s) (closed : Closed s m)
    (step : Step lower s act t) : Closed t m := by
  obtain ⟨k, job, found, source, ended, stopped⟩ := closed
  have open' : job.status ≠ .pending ∧ job.status ≠ .processing := by
    rcases ended with completed | failed
    · rw [completed]
      exact ⟨nofun, nofun⟩
    · rw [failed]
      exact ⟨nofun, nofun⟩
  obtain ⟨kept, jobs⟩ := jobs_step step
  obtain ⟨job', found', source'⟩ := kept k job found
  have source' := source'.trans source
  refine ⟨k, job', found', source', ?_, fun id w working own => ?_⟩
  · cases jobs k job' found' with
    | kept there =>
      cases found.symm.trans there
      exact ended
    | received fresh => exact absurd (source.trans source'.symm) (fresh k job found)
    | reset there stale =>
      cases found.symm.trans there
      exact absurd (of_decide_eq_true (Bool.and_eq_true _ _ ▸ stale).1) open'.2
    | claimed there pending =>
      cases found.symm.trans there
      exact absurd pending open'.1
    | settled working _ stage =>
      have done := stopped _ _ working rfl
      rw [done] at stage
      rcases stage with ⟨stage, -⟩ | ⟨stage, -⟩
      · cases stage
      · cases stage
  · rcases (workers_step sound step id w working).2 with ⟨w', before, same, last⟩ | ⟨job₀, there, pending⟩
    · exact last (stopped id w' before (same.symm.trans own))
    · rw [own] at there
      cases found.symm.trans there
      exact absurd pending open'.1

theorem single_step (intact : Intact s) (sound : Sound s) (step : Step lower s act t)
    (orderly : Orderly s act) : ∀ k k' order order', t.orders.find k = some order →
      t.orders.find k' = some order' → active order = true → active order' = true →
      order.conversationID = order'.conversationID → order.userID = order'.userID → k = k' := by
  cases orders_step step with
  | kept _ _ orders =>
    intro k k' order order' found found' open' open'' conversation user
    obtain ⟨before, there, handled⟩ := orders k order found
    obtain ⟨before', there', handled'⟩ := orders k' order' found'
    refine intact.single k k' before before' there there' (handled.active open')
      (handled'.active open'') ?_ ?_
    · rw [← handled.conversationID, ← handled'.conversationID, conversation]
    · rw [← handled.userID, ← handled'.userID, user]
  | @opened w i n id orderNo worker m a kind now attempt t working stage _ source _ orders =>
    -- the new order is the only active one
    have alone (k : OrderId) (order : SupportRechargeOrder) (found : s.orders.find k = some order)
        (open' : active order = true) : order.conversationID ≠ m.conversationID ∨
          order.userID ≠ m.senderID.getD 0 := by
      have turn := orderly worker working
      rw [stage] at turn
      rcases turn with ⟨other, member, used⟩ | none'
      · exact absurd used (source other member)
      · by_contra both
        simp only [not_or, not_not] at both
        rw [none' order (Table.find_mem found) both.1 both.2] at open'
        cases open'
    intro k k' order order' found found' open' open'' conversation user
    rw [orders] at found found'
    split at found
    · rename_i own
      split at found'
      · rename_i own'
        exact own.symm.trans own'
      · cases found
        rcases alone k' order' found' open'' with other | other
        · exact absurd conversation.symm other
        · exact absurd user.symm other
    · split at found'
      · cases found'
        rcases alone k order found open' with other | other
        · exact absurd conversation other
        · exact absurd user other
      · exact intact.single k k' order order' found found' open' open'' conversation user
  | @attached w id orderNo worker m key evidence seen order t working stage found status unused _
      orders =>
    have was : active order = true := by
      rcases sound.workers w worker working with stopped | ⟨-, -, -, proof, -⟩
      · rw [stage] at stopped
        cases stopped
      · rw [stage] at proof
        rwa [Stage.sound, active, ← status] at proof
    have back (k : OrderId) (order' : SupportRechargeOrder) (after : t.orders.find k = some order')
        (open' : active order' = true) : ∃ before, s.orders.find k = some before ∧
          active before = true ∧ order'.conversationID = before.conversationID ∧
          order'.userID = before.userID := by
      rw [orders] at after
      split at after
      · rename_i own
        cases after
        exact ⟨order, own ▸ found, was, rfl, rfl⟩
      · exact ⟨order', after, open', rfl, rfl⟩
    intro k k' order₁ order₂ found₁ found₂ open₁ open₂ conversation user
    obtain ⟨before, there, active₁, conversation₁, user₁⟩ := back k order₁ found₁ open₁
    obtain ⟨before', there', active₂, conversation₂, user₂⟩ := back k' order₂ found₂ open₂
    refine intact.single k k' before before' there there' active₁ active₂ ?_ ?_
    · rw [← conversation₁, ← conversation₂, conversation]
    · rw [← user₁, ← user₂, user]

theorem spent_step (spent : Spent s) (sound : Sound s) (step : Step lower s act t)
    (orderly : Orderly s act) : Spent t := by
  cases orders_step step with
  | kept advanced stay =>
    intro m k used
    rw [advanced] at used
    rcases spent m k used with ⟨order, found, evidence⟩ | closed
    · obtain ⟨order', found', handled⟩ := stay k order found
      exact .inl ⟨order', found', handled.evidence.trans evidence⟩
    · exact .inr (closed_step sound closed step)
  | opened _ _ _ _ advanced _ fresh orders =>
    intro m k used
    rw [advanced] at used
    rcases spent m k used with ⟨order, found, evidence⟩ | closed
    · refine .inl ⟨order, ?_, evidence⟩
      rw [orders, if_neg]
      · exact found
      · rintro rfl
        rw [fresh] at found
        cases found
    · exact .inr (closed_step sound closed step)
  | @attached w id orderNo worker m key evidence seen order t working stage found status unused
      advanced orders =>
    intro m' k used
    rw [advanced] at used
    rcases List.mem_cons.mp used with new | old
    · obtain ⟨rfl, rfl⟩ := Prod.mk.inj new
      refine .inl ⟨order.evidenced m.id evidence s.clock, ?_, rfl⟩
      rw [orders, if_pos rfl]
    rcases spent m' k old with ⟨order', found', own⟩ | closed
    · by_cases here : k = seen.id
      · subst here
        cases found.symm.trans found'
        by_cases same : m' = m.id
        · refine .inl ⟨order.evidenced m.id evidence s.clock, ?_, ?_⟩
          · rw [orders, if_pos rfl]
          · rw [same]
            rfl
        · -- the image whose place is taken
          have turn := orderly worker working
          rw [stage] at turn
          exact .inr (closed_step sound (turn order m' found status own same) step)
      · refine .inl ⟨order', ?_, own⟩
        rw [orders, if_neg here]
        exact found'
    · exact .inr (closed_step sound closed step)

theorem once_step (intact : Intact s) (spent : Spent s) (sound : Sound s)
    (step : Step lower s act t) :
    ∀ m k k', (m, k) ∈ t.advanced → (m, k') ∈ t.advanced → k = k' := by
  cases orders_step step with
  | kept advanced => rw [advanced]; exact intact.once
  | opened _ _ _ _ advanced => rw [advanced]; exact intact.once
  | @attached w id orderNo worker m key evidence seen order t working stage found status unused
      advanced orders =>
    -- an image that has a worker is not done with
    have own (k : OrderId) (used : (m.id, k) ∈ s.advanced) : k = seen.id := by
      rcases spent m.id k used with ⟨order', found', evidence'⟩ | ⟨j, job, there, source, -, stopped⟩
      · by_contra apart
        exact unused k order' found' apart evidence'
      · exfalso
        rcases sound.workers w worker working with done | ⟨job', there', source', -, message⟩
        · rw [stage] at done
          cases done
        · have source' := source'.resolve_left (by rw [stage]; nofun)
          have mine := message m (by rw [stage]; rfl)
          have same := sound.sources j worker.job job job' there there'
            (source.trans (mine.trans source'.symm))
          have done := stopped w worker working same.symm
          rw [stage] at done
          cases done
    rw [advanced]
    intro m' k k' used used'
    rcases List.mem_cons.mp used with new | old
    · obtain ⟨rfl, rfl⟩ := Prod.mk.inj new
      rcases List.mem_cons.mp used' with new' | old'
      · exact (Prod.mk.inj new').2.symm
      · exact (own k' old').symm
    · rcases List.mem_cons.mp used' with new' | old'
      · obtain ⟨rfl, rfl⟩ := Prod.mk.inj new'
        exact own k old
      · exact intact.once m' k k' old old'

theorem picked_step (intact : Intact s) (step : Step lower s act t) (orderly : Orderly s act) :
    ∀ k job, t.jobs.find k = some job → job.status = .pending → job.attempts < jobMaxAttempts := by
  intro k job found pending
  cases (jobs_step step).2 k job found with
  | kept there => exact intact.picked k job there pending
  | received _ _ attempts =>
    rw [attempts]
    decide
  | @reset now k before there stale => exact orderly before (Table.find_mem there) stale
  | claimed => cases pending
  | @settled w id orderNo worker job status next working there stage =>
    have turn := orderly worker working
    have given : status = .pending := pending
    rcases stage with ⟨-, completed⟩ | ⟨stage, ended⟩
    · rw [completed] at given
      cases given
    · rw [stage] at turn
      rw [ended] at given
      split at given
      · cases given
      · rename_i below
        exact turn.resolve_left below job there

theorem intact_step (intact : Intact s) (spent : Spent s) (sound : Sound s)
    (step : Step lower s act t) (orderly : Orderly s act) : Intact t :=
  ⟨single_step intact sound step orderly, once_step intact spent sound step,
    picked_step intact step orderly⟩

/-- In an orderly run there is one active order for a user of a conversation, an image
advances one order, and a job that is pending is picked up. -/
theorem intake {acts : List Act}
    (run : Run (Run.Where (Step lower) Orderly) .empty acts s) : Intact s := by
  have kept : Intact s ∧ Spent s := by
    refine run.preserves_where (I := Sound) (P := fun s => Intact s ∧ Spent s) ?_ ?_ empty_sound ?_
    · exact fun s act t step sound => step_sound sound step
    · intro s act t step orderly sound kept
      exact ⟨intact_step kept.1 kept.2 sound step orderly, spent_step kept.2 sound step orderly⟩
    · refine ⟨⟨?_, ?_, ?_⟩, ?_⟩
      · intro k k' order order' found
        cases found
      · intro m k k' used
        cases used
      · intro k job found
        cases found
      · intro m k used
        cases used
  exact kept.1

/-! ### Runs -/

def say (id : MessageId) (type : Chat.MessageType) (content : Chat.Content) : IncomingMessage where
  id := id
  conversationID := 3
  senderID := some 1
  type := type
  content := content
  deleted := false
  revoked := false
  direct := true
  directKey := some [1, 2]

def menu (id : MessageId) : IncomingMessage :=
  say id .text [(Chat.textField, .string (Chat.jsString "1"))]

def screenshot (id : MessageId) : IncomingMessage :=
  say id imageType [(Chat.jsString "key", .string (Chat.jsString "chat/1/a.png"))]

/-- A message, and the worker that has its job. -/
def asks (message : IncomingMessage) (w : WorkerId) : List Act :=
  [.receive message message.id, .claim w message.id 0]

/-- So many statements of a worker; an order that it creates has this id. -/
def works (w : WorkerId) (n : Nat) (id : OrderId) : List Act :=
  List.replicate n (.work w id [id.toUInt16])

/-- A check of a step that is enough for it to be orderly. -/
def calm (s : State) : Act → Bool
  | .sweep _ => false
  | .work w _ _ => (s.workers.find w).all fun worker =>
    match worker.stage with
    | .inserting _ _ _ _ _ => s.orders.rows.isEmpty
    | .attaching _ _ _ | .failing => false
    | _ => true
  | _ => true

theorem calm_orderly (h : calm s act = true) : Orderly s act := by
  cases act with
  | sweep => cases h
  | work w id orderNo =>
    intro worker working
    rw [calm, working] at h
    dsimp only [Option.all] at h
    split at h
    · refine .inr fun order member => ?_
      rw [List.isEmpty_iff.mp h] at member
      cases member
    · cases h
    · cases h
    · trivial
  | _ => trivial

def opens : List Act := .configure [2] true :: (asks (menu 10) 1 ++ works 1 8 7)

theorem opens_play : ((opens.foldlM (Run.whenever calm (State.next id)) .empty).any fun s =>
    (s.orders.find 7).any active) = true := by
  decide +kernel

theorem intake_opens : ∃ s, Run (Run.Where (Step id) Orderly) .empty opens s ∧ Intact s ∧
    ∃ order, s.orders.find 7 = some order ∧ active order = true := by
  obtain ⟨s, played, ends⟩ := (Option.any_eq_true _ _).mp opens_play
  obtain ⟨order, found, open'⟩ := (Option.any_eq_true _ _).mp ends
  have run : Run (Run.Where (Step id) Orderly) .empty opens s :=
    (Run.where_of_foldlM played).mono fun _ _ _ h => ⟨h.1, calm_orderly h.2⟩
  exact ⟨s, run, intake run, order, found, open'⟩

/-- Both workers look for an active order before either has created one. -/
def twice : List Act :=
  .configure [2] true :: (asks (menu 10) 1 ++ asks (menu 11) 2 ++ works 1 7 7 ++ works 2 7 8 ++
    works 1 1 7 ++ works 2 1 8)

theorem twice_play : ((twice.foldlM (State.next id) .empty).any fun s =>
    (s.orders.find 7).any fun order => active order && (s.orders.find 8).any fun order' =>
      active order' && order.conversationID = order'.conversationID &&
        order.userID = order'.userID) = true := by
  decide +kernel

/-- The first image's job is to be retried when the second one takes its place; the order is
rejected, and the retry finds the next one. -/
def reuse : List Act :=
  .configure [2] true :: (asks (menu 10) 1 ++ works 1 10 7 ++
    asks (screenshot 20) 2 ++ works 2 6 0 ++ [.throws 2] ++ works 2 1 0 ++
    asks (screenshot 21) 3 ++ works 3 8 0 ++ [.core (.reject 9 7 [])] ++
    asks (menu 11) 4 ++ works 4 10 8 ++
    [.core (.tick 2000), .claim 5 20 2000] ++ works 5 6 0)

theorem reuse_play : ((reuse.foldlM (State.next id) .empty).any fun s =>
    s.advanced.contains (20, 7) && s.advanced.contains (20, 8)) = true := by
  decide +kernel

/-- Five workers die with the job, and each time the sweep gives it back. -/
def abandons : List Act :=
  .receive (menu 10) 10 :: (List.range 5).flatMap fun n =>
    [.claim n 10 (n * 200000), .core (.tick ((n + 1) * 200000)), .sweep ((n + 1) * 200000)]

theorem abandons_play : ((abandons.foldlM (State.next id) .empty).any fun s =>
    (s.jobs.find 10).any fun job => job.status = .pending && job.attempts = jobMaxAttempts) =
      true := by
  decide +kernel

/-- Each of the three parts fails in a run. -/
theorem intake_fails :
    (∃ acts s k k' order order', Run (Step id) .empty acts s ∧ s.orders.find k = some order ∧
      s.orders.find k' = some order' ∧ active order = true ∧ active order' = true ∧
      order.conversationID = order'.conversationID ∧ order.userID = order'.userID ∧ k ≠ k') ∧
    (∃ acts s m k k', Run (Step id) .empty acts s ∧ (m, k) ∈ s.advanced ∧ (m, k') ∈ s.advanced ∧
      k ≠ k') ∧
    ∃ acts s k job, Run (Step id) .empty acts s ∧ s.jobs.find k = some job ∧
      job.status = .pending ∧ job.attempts = jobMaxAttempts := by
  refine ⟨?_, ?_, ?_⟩
  · obtain ⟨s, played, ends⟩ := (Option.any_eq_true _ _).mp twice_play
    obtain ⟨order, found, ends⟩ := (Option.any_eq_true _ _).mp ends
    obtain ⟨open₁, ends⟩ := Bool.and_eq_true _ _ ▸ ends
    obtain ⟨order', found', ends⟩ := (Option.any_eq_true _ _).mp ends
    simp only [Bool.and_eq_true, decide_eq_true_eq] at ends
    exact ⟨twice, s, 7, 8, order, order', .of_foldlM played, found, found', open₁, ends.1.1,
      ends.1.2, ends.2, by decide⟩
  · obtain ⟨s, played, ends⟩ := (Option.any_eq_true _ _).mp reuse_play
    simp only [Bool.and_eq_true, List.contains_iff_mem] at ends
    exact ⟨reuse, s, 20, 7, 8, .of_foldlM played, ends.1, ends.2, by decide⟩
  · obtain ⟨s, played, ends⟩ := (Option.any_eq_true _ _).mp abandons_play
    obtain ⟨job, found, ends⟩ := (Option.any_eq_true _ _).mp ends
    simp only [Bool.and_eq_true, decide_eq_true_eq] at ends
    exact ⟨abandons, s, 10, job, .of_foldlM played, found, ends.1, ends.2⟩

end Intact

end CircleBackend.Recharge.Intake
