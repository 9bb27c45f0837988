import CircleBackend.Push.Outbox

/-!
# What a call may do

One inversion for the statements of `processPending` and one for those of
`pollReceipts`, and the rows that a call has selected and not written yet.
-/

namespace CircleBackend.Push.Outbox

open Library
open Chat (jsString)
open NotificationPushDelivery (settle_token receipt_token)

/-! ## A call of `processPending` -/

section Worker

variable (n : Notification) (now : Time) (devices : List DevicePushToken) (db : Db) (w : Worker)

/-- A statement of a call with its answer. -/
inductive Turn : WorkerAct → Db → Worker → Prop
  | claim (stage : w.stage = .loaded) (free : db.outbox.claimable now = true) :
      Turn .claim { db with outbox := db.outbox.claim w.leaseToken now }
        { w with claimedAt := some now, stage := .claimed }
  | miss (stage : w.stage = .loaded) : Turn .claim db { w with stage := .ended }
  | skip (stage : w.stage = .claimed) (skipped : n.skipped = true) :
      Turn .skip (db.finishJob w.leaseToken now .completed (some .circlePushDisabled))
        { w with stage := .ended }
  | list (stage : w.stage = .claimed) (sent : n.skipped = false) :
      Turn .list db { w with stage := .listed (listActiveTokens n.toUserID devices) }
  | create {tokens : List Token} (stage : w.stage = .listed tokens) :
      Turn .create { db with deliveries := createDeliveries db.deliveries tokens }
        { w with stage := .created tokens }
  | select {tokens : List Token} (stage : w.stage = .created tokens) :
      Turn .select db
        { w with stage := .selected tokens ((db.deliveries.select (·.retriable)).map (·.token)) }
  | revoke {tokens retriableDeliveries : List Token}
      (stage : w.stage = .selected tokens retriableDeliveries) :
      Turn .revoke
        { db with
          deliveries := db.deliveries.updateMany
            (fun d => (retriableDeliveries.filter fun k => !tokens.contains k).contains d.token)
            (.settle .terminal (some (jsString "token-revoked"))) (settle_token _ _) }
        { w with
          stage :=
            afterRevocation n tokens (retriableDeliveries.filter fun k => tokens.contains k) }
  | countExhausted {tokens : List Token} {awaitingReceipt : Option Nat}
      (stage : w.stage = .counting tokens none awaitingReceipt) :
      Turn .countExhausted db
        { w with
          stage := .counting tokens (some (db.deliveries.count (·.exhausted))) awaitingReceipt }
  | countAwaiting {tokens : List Token} {exhausted : Option Nat}
      (stage : w.stage = .counting tokens exhausted none) :
      Turn .countAwaiting db
        { w with stage := .counting tokens exhausted (some (db.deliveries.count (·.awaiting))) }
  | conclude {tokens : List Token} {exhausted awaitingReceipt : Nat}
      (stage : w.stage = .counting tokens (some exhausted) (some awaitingReceipt)) :
      Turn .conclude
        (db.finishJob w.leaseToken now
          (if 0 < exhausted ∧ awaitingReceipt = 0 then .terminal else .completed)
          (if tokens = [] then some .noActiveDevice else none))
        { w with stage := .ended }
  | recheck {pendingDeliveries : List Token} (stage : w.stage = .rechecking pendingDeliveries)
      (held : db.outbox.heldBy w.leaseToken = true) (present : db.deleted = false) :
      Turn .recheck db { w with stage := .sending pendingDeliveries [] [] }
  | abandon {pendingDeliveries : List Token} (stage : w.stage = .rechecking pendingDeliveries)
      (lost : db.outbox.heldBy w.leaseToken = true → db.deleted = true) :
      Turn .recheck db { w with stage := .cancelling }
  | cancel (stage : w.stage = .cancelling) :
      Turn .cancel
        { db with
          deliveries := db.deliveries.updateMany
            (fun d => d.unsettled && db.outbox.completionReason = some .announcementDeleted)
            (.settle .terminal (some (jsString "ANNOUNCEMENT_DELETED"))) (settle_token _ _) }
        { w with stage := .ended }
  | start {token : Token} {pendingDeliveries started : List Token}
      {outcomes : List TokenDeliveryOutcome}
      (stage : w.stage = .sending pendingDeliveries started outcomes)
      (chosen : token ∈ pendingDeliveries) :
      Turn (.start token) db
        { w with stage := .sending pendingDeliveries (token :: started) outcomes }
  | answer {outcome : TokenDeliveryOutcome} {pendingDeliveries started : List Token}
      {outcomes : List TokenDeliveryOutcome}
      (stage : w.stage = .sending pendingDeliveries started outcomes) :
      Turn (.answer outcome) db
        { w with stage := .sending pendingDeliveries started (outcome :: outcomes) }
  | collect {pendingDeliveries started : List Token} {outcomes : List TokenDeliveryOutcome}
      (stage : w.stage = .sending pendingDeliveries started outcomes)
      (answered : ∀ k ∈ pendingDeliveries, ∃ o ∈ outcomes, o.token = k) :
      Turn .collect db
        { w with
          stage := .writing (writesOf (outcomesOf pendingDeliveries outcomes)) now
            ((outcomesOf pendingDeliveries outcomes).countP (·.status = .retryable)) }
  | write {write : OutcomeWrite} {ids : List Token} {rest : List (OutcomeWrite × List Token)}
      {sentAt : Time} {retryable : Nat}
      (stage : w.stage = .writing ((write, ids) :: rest) sentAt retryable) :
      Turn .write
        { db with
          deliveries := db.deliveries.updateMany (fun d => ids.contains d.token)
            (write.apply sentAt ·) (write.apply_token sentAt) }
        { w with stage := .writing rest sentAt retryable }
  | complete {sentAt : Time} (stage : w.stage = .writing [] sentAt 0) :
      Turn .complete (db.finishJob w.leaseToken now .completed none) { w with stage := .ended }
  | fail (error : JsString) (working : w.stage.working = true) :
      Turn (.fail error)
        { db with outbox := db.outbox.failJob w.leaseToken now (w.attempts + 1) error }
        { w with stage := .ended }
  | crash : Turn .crash db { w with stage := .ended }

variable {n now devices db w}

theorem turns {act : WorkerAct} {result : Db × Worker}
    (h : w.next n now devices db act = some result) :
    Turn n now devices db w act result.1 result.2 := by
  unfold Worker.next at h
  split at h
  case h_1 stage =>
    split at h
    · cases h
      exact .claim stage ‹_›
    · cases h
      exact .miss stage
  case h_2 stage =>
    split at h
    · cases h
      exact .skip stage ‹_›
    · cases h
  case h_3 stage =>
    split at h
    · cases h
    · cases h
      exact .list stage (Bool.eq_false_iff.mpr ‹_›)
  case h_4 tokens stage => cases h; exact .create stage
  case h_5 tokens stage => cases h; exact .select stage
  case h_6 tokens retriableDeliveries stage => cases h; exact .revoke stage
  case h_7 tokens awaitingReceipt stage => cases h; exact .countExhausted stage
  case h_8 tokens exhausted stage => cases h; exact .countAwaiting stage
  case h_9 tokens exhausted awaitingReceipt stage => cases h; exact .conclude stage
  case h_10 pendingDeliveries stage =>
    split at h
    · rename_i active
      cases h
      exact .recheck stage active.1 (Bool.eq_false_iff.mpr active.2)
    · rename_i inactive
      cases h
      refine .abandon stage fun held => ?_
      by_contra present
      exact inactive ⟨held, present⟩
  case h_11 stage => cases h; exact .cancel stage
  case h_12 token pendingDeliveries started outcomes stage =>
    split at h
    · rename_i chosen
      cases h
      exact .start stage chosen.1
    · cases h
  case h_13 outcome pendingDeliveries started outcomes stage =>
    split at h
    · cases h
      exact .answer stage
    · cases h
  case h_14 pendingDeliveries started outcomes stage =>
    split at h
    · cases h
      exact .collect stage ‹_›
    · cases h
  case h_15 write ids rest sentAt retryable stage => cases h; exact .write stage
  case h_16 sentAt retryable stage =>
    split at h
    · rename_i none'
      cases h
      exact .complete (none' ▸ stage)
    · cases h
  case h_17 error =>
    split at h
    · cases h
      exact .fail error ‹_›
    · cases h
  case h_18 => cases h; exact .crash
  case h_19 => cases h

end Worker

/-! ## A batch of `pollReceipts` -/

section Poll

/-- What the batch has read of the exhausted deliveries. -/
def PollStage.exhaustion : PollStage → Option Bool
  | .reconciling _ exhausted => exhausted
  | _ => none

/-- The delivery whose receipt is next and says that it can be tried again. -/
def Poll.retried (p : Poll) : Option Token :=
  match p.stage with
  | .judging (d :: _) receipts _ _ _ =>
    (d.ticketID.bind fun ticket => receipts.lookup ticket).bind fun receipt =>
      if receipt.ok || terminalTokenErrors.contains receipt.errorCode then none else some d.token
  | _ => none

variable (db : Db) (p : Poll)

/-- A statement of a batch changes only rows that it finds SENT. -/
inductive PollTurn : PollAct → Db → Poll → Prop
  | settle {act : PollAct} {stage : PollStage} (ids : List Token) {status : DeliveryStatus}
      (final : status = .confirmed ∨ status = .terminal) (lastError : Option JsString)
      (unread : stage.exhaustion = none) :
      PollTurn act
        { db with
          deliveries := db.deliveries.updateMany (fun d => ids.contains d.token && d.awaiting)
            (.receipt status p.now lastError) (receipt_token _ _ _) }
        { p with stage := stage }
  | fail {stage : PollStage} (token : Token) (lastError : Option JsString)
      (retried : p.retried = some token) (unread : stage.exhaustion = none) :
      PollTurn .judge
        { db with
          deliveries := db.deliveries.updateMany (fun e => e.token = token && e.awaiting)
            (.receipt .failed p.now lastError) (receipt_token _ _ _)
          outbox :=
            if (db.deliveries.find token).any (·.awaiting) then db.outbox.reopen p.now
            else db.outbox }
        { p with stage := stage }
  | pass {act : PollAct} {stage : PollStage}
      (kept : stage.exhaustion = none ∨ stage.exhaustion = p.stage.exhaustion) :
      PollTurn act db { p with stage := stage }
  | readExhausted {stillAwaiting : Option Bool} :
      PollTurn .readExhausted db
        { p with
          stage := .reconciling stillAwaiting (some (db.deliveries.rows.any (·.exhausted))) }
  | terminate {stillAwaiting : Bool}
      (stage : p.stage = .reconciling (some stillAwaiting) (some true)) :
      PollTurn .terminate { db with outbox := db.outbox.exhaust } { p with stage := .ended }

variable {db p}

theorem exhaustion_afterSettling (settled : Bool) : (afterSettling settled).exhaustion = none := by
  cases settled <;> rfl

theorem pollTurns {act : PollAct} {result : Db × Poll} (h : p.next db act = some result) :
    PollTurn db p act result.1 result.2 := by
  unfold Poll.next at h
  split at h
  case h_1 expired pending stage =>
    cases h
    refine .settle (expired.map (·.token)) (.inl rfl) _ ?_
    split
    · exact exhaustion_afterSettling _
    · rfl
  case h_2 pending settled stage => cases h; exact .pass (.inl (exhaustion_afterSettling settled))
  case h_3 receipts pending settled stage => cases h; exact .pass (.inl rfl)
  case h_4 d rest receipts confirmedIDs terminalIDs settled stage =>
    split at h
    · cases h
      exact .pass (.inl rfl)
    · rename_i receipt answer
      dsimp only at h
      split at h
      · cases h
        exact .pass (.inl rfl)
      · rename_i bad
        split at h
        · cases h
          exact .pass (.inl rfl)
        · rename_i alive
          cases h
          refine .fail d.token _ ?_ rfl
          simp only [Poll.retried, stage, answer, Option.bind_some]
          rw [if_neg]
          simp only [Bool.or_eq_true, not_or]
          exact ⟨bad, alive⟩
  case h_5 receipts confirmedIDs terminalIDs settled stage =>
    cases h
    exact .settle confirmedIDs (.inl rfl) none rfl
  case h_6 errorCode ids rest settled stage =>
    cases h
    exact .settle ids (.inr rfl) (some errorCode) rfl
  case h_7 settled stage => cases h; exact .pass (.inl (exhaustion_afterSettling settled))
  case h_8 exhausted stage =>
    cases h
    refine .pass (.inr ?_)
    rw [stage]
    rfl
  case h_9 stillAwaiting stage => cases h; exact .readExhausted
  case h_10 stillAwaiting exhausted stage =>
    cases h
    dsimp only
    split
    · rename_i last
      have read : exhausted = true := (Bool.and_eq_true _ _ ▸ last).1
      exact .terminate (read ▸ stage)
    · exact .pass (.inl rfl)
  case h_11 => cases h; exact .pass (.inl rfl)
  case h_12 => cases h

end Poll

/-! ## What a call has in hand -/

/-- The deliveries that the call has selected and not written yet. -/
def Stage.held : Stage → List Token
  | .selected _ tokens | .rechecking tokens | .sending tokens _ _ => tokens
  | .writing writes _ _ => writes.flatMap Prod.snd
  | _ => []

/-- Whether what the call has in hand may be sent. -/
def Stage.released : Stage → Bool
  | .sending .. | .writing .. => true
  | _ => false

theorem outcomesOf_tokens {pendingDeliveries : List Token} {outcomes : List TokenDeliveryOutcome}
    (answered : ∀ k ∈ pendingDeliveries, ∃ o ∈ outcomes, o.token = k) :
    (outcomesOf pendingDeliveries outcomes).map (·.token) = pendingDeliveries := by
  induction pendingDeliveries with
  | nil => rfl
  | cons k rest ih =>
    obtain ⟨o, member, own⟩ := answered k List.mem_cons_self
    have found : ∃ o, outcomes.find? (·.token = k) = some o := by
      rw [← Option.isSome_iff_exists, List.find?_isSome]
      exact ⟨o, member, by simpa using own⟩
    obtain ⟨o, found⟩ := found
    have named : o.token = k := by simpa using List.find?_some found
    have later := ih fun k' member => answered k' (List.mem_cons_of_mem k member)
    rw [outcomesOf] at later ⊢
    rw [List.filterMap_cons, found, List.map_cons, named, later]

theorem writesOf_tokens (outcomes : List TokenDeliveryOutcome) :
    ((writesOf outcomes).flatMap Prod.snd).Perm (outcomes.map (·.token)) := by
  have whole : ((grouped deliveryOutcomeWrite outcomes).flatMap Prod.snd).Perm outcomes :=
    grouped_perm outcomes
  have perm := whole.map (·.token)
  rw [List.map_flatMap] at perm
  rw [writesOf, List.flatMap_map]
  exact perm

/-- A write that leaves its deliveries FAILED is that of a retryable outcome. -/
theorem writesOf_failed {outcomes : List TokenDeliveryOutcome} {lastError : JsString}
    {ids : List Token} (member : (.failed false lastError, ids) ∈ writesOf outcomes) {k : Token}
    (inside : k ∈ ids) : 0 < outcomes.countP (·.status = .retryable) := by
  obtain ⟨g, grouped, same⟩ := List.mem_map.mp member
  obtain ⟨own, rfl⟩ := Prod.mk.inj same
  obtain ⟨o, named, -⟩ := List.mem_map.mp inside
  have key := grouped_key outcomes g grouped o named
  rw [own] at key
  have listed : o ∈ outcomes :=
    (grouped_perm outcomes).subset (List.mem_flatMap.mpr ⟨g, grouped, named⟩)
  refine List.countP_pos_iff.mpr ⟨o, listed, ?_⟩
  unfold deliveryOutcomeWrite at key
  split at key
  · cases key
  · rename_i unsent
    have rest : o.status ≠ .terminal := by
      intro terminal
      simp [terminal] at key
    cases status : o.status with
    | sent => exact absurd status unsent
    | terminal => exact absurd status rest
    | retryable => rfl

theorem held_afterRevocation {n : Notification} (tokens pendingDeliveries : List Token) :
    (afterRevocation n tokens pendingDeliveries).held = pendingDeliveries := by
  unfold afterRevocation
  split
  · rename_i none'
    exact none'.symm
  · split <;> rfl

/-! ## The steps of a call, in the whole -/

variable {n : Notification} {s t : State}

theorem worker_step {r : RunId} {act : WorkerAct} (h : Step n s (.worker r act) t) :
    ∃ w db w', s.workers.find r = some w ∧ Turn n s.clock s.devices s.db w act db w' ∧
      t = { s with db := db, workers := s.workers.put w' } ∧
      ∀ r', t.workers.find r' = if r' = r then some w' else s.workers.find r' := by
  obtain ⟨w, found, h⟩ := Option.bind_eq_some_iff.mp h
  obtain ⟨⟨db, w'⟩, made, rfl⟩ := Option.map_eq_some_iff.mp h
  have turn := turns made
  have kept : w'.leaseToken = w.leaseToken := by cases turn <;> rfl
  exact ⟨w, db, w', found, turn, rfl, Table.find_put_own found kept⟩

theorem poll_step {q : PollId} {act : PollAct} (h : Step n s (.poll q act) t) :
    ∃ p db p', s.polls.find q = some p ∧ PollTurn s.db p act db p' ∧
      t = { s with db := db, polls := s.polls.put p' } ∧
      ∀ q', t.polls.find q' = if q' = q then some p' else s.polls.find q' := by
  obtain ⟨p, found, h⟩ := Option.bind_eq_some_iff.mp h
  obtain ⟨⟨db, p'⟩, made, rfl⟩ := Option.map_eq_some_iff.mp h
  have turn := pollTurns made
  have kept : p'.id = p.id := by cases turn <;> rfl
  exact ⟨p, db, p', found, turn, rfl, Table.find_put_own found kept⟩

theorem load_step {r : RunId} (h : Step n s (.load r) t) :
    s.workers.find r = none ∧ t.db = s.db ∧ t.polls = s.polls ∧ t.clock = s.clock ∧
      ∀ r', t.workers.find r' =
        if r' = r then some (.load r s.db.outbox.attempts) else s.workers.find r' := by
  obtain ⟨workers, inserted, rfl⟩ := Option.map_eq_some_iff.mp h
  refine ⟨Table.insert_fresh inserted, rfl, rfl, rfl, fun r' => ?_⟩
  rw [Table.find_insert inserted r']
  by_cases own : r' = r
  · subst own
    simp [Worker.load]
  · simp [Worker.load, own, Ne.symm own]

theorem look_step {q : PollId} {now : Time} {taken : List Token}
    (h : Step n s (.look q now taken) t) :
    t.db = s.db ∧ t.workers = s.workers ∧ t.clock = s.clock ∧
      ∀ q', t.polls.find q' =
        if q' = q then some (.look s.db q now taken) else s.polls.find q' := by
  rw [Step, State.next] at h
  split at h
  · obtain ⟨polls, inserted, rfl⟩ := Option.map_eq_some_iff.mp h
    refine ⟨rfl, rfl, rfl, fun q' => ?_⟩
    rw [Table.find_insert inserted q']
    by_cases own : q' = q
    · subst own
      simp [Poll.look]
    · simp [Poll.look, own, Ne.symm own]
  · cases h

end CircleBackend.Push.Outbox
