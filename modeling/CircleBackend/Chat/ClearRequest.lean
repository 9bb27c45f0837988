import CircleBackend.Chat.Groups
import CircleBackend.Chat.Receipts

/-!
# Requests to clear both sides

A member of a direct conversation asks the other one to clear its history too.
Both flows read first and lock the conversation's row afterwards; nobody sees
what a transaction writes before it gives the lock back, and no other one runs
meanwhile, so a transaction is one step here. The reads before it are steps of
their own, and so is the clearing, a second transaction.

The clearing goes to the height that the first read of the answer found.
`Steady` is what keeps that the height of the accepted request.
-/

namespace CircleBackend.Chat

open Library
open Session (UserId)

abbrev RequestId := Nat

inductive ChatClearRequestStatus
  | pending
  | accepted
  | declined
  deriving DecidableEq, Repr

structure ChatClearRequest where
  id : RequestId
  conversationID : ConversationId
  requesterID : UserId
  targetHeight : Nat
  status : ChatClearRequestStatus
  respondedAt : Option Time
  deriving DecidableEq, Repr

abbrev Requests := Table ChatClearRequest RequestId (·.id)

/-- How far a call is. `asked` and `allowed` belong to `requestClear`, with the
height it will ask for; the others to `respond`, with the row it has read. -/
inductive ClearCall
  | idle
  | asked (requesterId : UserId) (conversationId : ConversationId) (clearThrough : Nat)
  | allowed (requesterId : UserId) (conversationId : ConversationId) (clearThrough : Nat)
  | requested (requestId : RequestId)
  | read (responderId : UserId) (request : ChatClearRequest) (accept : Bool)
  | recognised (responderId : UserId) (request : ChatClearRequest) (accept : Bool)
  | permitted (responderId : UserId) (request : ChatClearRequest) (accept : Bool)
  | clearing (responderId : UserId) (request : ChatClearRequest)
  | answered (responderId : UserId) (requestId : RequestId) (accepted : Bool)
  | refused
  deriving DecidableEq, Repr

structure ClearState where
  db : Db
  requests : Requests
  calls : Nat → ClearCall

inductive ClearEvent
  | write (op : Op)
  | ask (call : Nat) (requesterId : UserId) (conversationId : ConversationId) (targetHeight : Nat)
  | permit (call : Nat)
  | submit (call : Nat) (requestId : RequestId) (notice : Notice)
  | answer (call : Nat) (responderId : UserId) (requestId : RequestId) (accept : Bool)
  | recognise (call : Nat)
  | claim (call : Nat) (notice : Notice)
  | clear (call : Nat) (scan : Scan) (now : Time) (clock : MessageId → Time)

/-- `assertDirectMutationAllowed` -/
def Db.mutationRefusal (db : Db) (conversationId : ConversationId) (userId : UserId) :
    Option Fault :=
  (db.conversations.find conversationId).bind (db.directRefusal · userId)

def ClearState.move (s : ClearState) (call : Nat) (phase : ClearCall) : ClearState :=
  { s with calls := Function.update s.calls call phase }

/-- The transaction of `requestClear`. -/
def ClearState.requestClear (s : ClearState) (requesterId : UserId)
    (conversationId : ConversationId) (clearThrough : Nat) (requestId : RequestId)
    (notice : Notice) : Except Fault (RequestId × Db × Requests) :=
  let pending := s.requests.select fun r =>
    r.conversationID = conversationId && r.requesterID = requesterId && r.status = .pending
  match pending.head? with
  | some found =>
    .ok (found.id, s.db, s.requests.updateMany
      (fun r => r.id = found.id && r.targetHeight < clearThrough)
      (fun r => { r with targetHeight := clearThrough }) fun _ => rfl)
  | none =>
    let created :=
      { id := requestId, conversationID := conversationId, requesterID := requesterId,
        targetHeight := clearThrough, status := .pending, respondedAt := none }
    match s.requests.insert created, s.db.conversations.find conversationId with
    | some requests, some c =>
      s.db.insertSystemMessage c notice.id notice.content notice.now >>= fun db =>
        .ok (requestId, db, requests)
    | none, _ => .error .uniqueViolation
    | _, none => .error (.raised "Cannot read properties of undefined")

/-- The transaction of `respond`: of two devices only one wins. -/
def ClearState.claim (s : ClearState) (request : ChatClearRequest) (accept : Bool)
    (notice : Notice) : Except Fault (Db × Requests) :=
  let claimable := fun r : ChatClearRequest => r.id = request.id && r.status = .pending
  if s.requests.count claimable = 0 then
    .error (.refused "这条申请已经处理过了" .clearRequestHandled)
  else
    let claimed := s.requests.updateMany claimable
      (fun r =>
        { r with
          status := if accept then .accepted else .declined
          respondedAt := some notice.now }) fun _ => rfl
    match s.db.conversations.find request.conversationID with
    | none => .error (.raised "Cannot read properties of undefined")
    | some c =>
      s.db.insertSystemMessage c notice.id notice.content notice.now >>= fun db => .ok (db, claimed)

/-- A refused request ends its call; what a call is not ready for does not happen. -/
def ClearState.next (s : ClearState) : ClearEvent → Option ClearState
  | .write op => if op.onMessages then some { s with db := after s.db op } else none
  | .ask i requesterId cid targetHeight =>
    match s.calls i with
    | .idle =>
      match s.db.requireMembershipSeat cid requesterId with
      | none => some (s.move i .refused)
      | some (c, _) =>
        if c.type ≠ .direct then some (s.move i .refused)
        else some (s.move i (.asked requesterId cid (min targetHeight c.nextHeight)))
    | _ => none
  | .permit i =>
    match s.calls i with
    | .asked requesterId cid clearThrough =>
      if (s.db.mutationRefusal cid requesterId).isSome then some (s.move i .refused)
      else some (s.move i (.allowed requesterId cid clearThrough))
    | .recognised responderId request accept =>
      if (s.db.mutationRefusal request.conversationID responderId).isSome then
        some (s.move i .refused)
      else some (s.move i (.permitted responderId request accept))
    | _ => none
  | .submit i requestId notice =>
    match s.calls i with
    | .allowed requesterId cid clearThrough =>
      match s.requestClear requesterId cid clearThrough requestId notice with
      | .error _ => some (s.move i .refused)
      | .ok (id, db, requests) =>
        some ({ s with db := db, requests := requests }.move i (.requested id))
    | _ => none
  | .answer i responderId requestId accept =>
    match s.calls i with
    | .idle =>
      match s.requests.find requestId with
      | none => some (s.move i .refused)
      | some request => some (s.move i (.read responderId request accept))
    | _ => none
  | .recognise i =>
    match s.calls i with
    | .read responderId request accept =>
      let seat := s.db.members.find (request.conversationID, responderId)
      if request.requesterID = responderId || (seat.filter (·.leftAt.isNone)).isNone then
        some (s.move i .refused)
      -- the clearing of an earlier answer may have failed
      else if request.status = .accepted && accept then
        some (s.move i (.clearing responderId request))
      else some (s.move i (.recognised responderId request accept))
    | _ => none
  | .claim i notice =>
    match s.calls i with
    | .permitted responderId request accept =>
      match s.claim request accept notice with
      | .error _ => some (s.move i .refused)
      | .ok (db, requests) =>
        some ({ s with db := db, requests := requests }.move i
          (if accept then .clearing responderId request
          else .answered responderId request.id false))
    | _ => none
  | .clear i scan now clock =>
    match s.calls i with
    | .clearing responderId request =>
      match s.db.clearHistory scan
          { userId := responderId, conversationId := request.conversationID, forEveryone := false,
            targetHeight := some request.targetHeight, noticeId := 0, notice := [], now := now }
          clock with
      | .error _ => some (s.move i .refused)
      | .ok db => some ({ s with db := db }.move i (.answered responderId request.id true))
    | _ => none

def ClearStep (s : ClearState) (e : ClearEvent) (t : ClearState) : Prop := s.next e = some t

structure ClearInitial (s : ClearState) : Prop where
  requests : s.requests.rows = []
  calls : ∀ i, s.calls i = .idle

/-! ## What a step does -/

inductive ClearTaken (s : ClearState) : ClearEvent → ClearState → Prop
  | write {op : Op} : op.onMessages = true → ClearTaken s (.write op) { s with db := after s.db op }
  | refused {e : ClearEvent} (i : Nat) : ClearTaken s e (s.move i .refused)
  | asked {i : Nat} {requesterId : UserId} {cid : ConversationId} {c : ChatConversation}
      (targetHeight : Nat) : s.db.conversations.find cid = some c →
      ClearTaken s (.ask i requesterId cid targetHeight)
        (s.move i (.asked requesterId cid (min targetHeight c.nextHeight)))
  | allowed {i : Nat} {requesterId : UserId} {cid : ConversationId} {clearThrough : Nat} :
      s.calls i = .asked requesterId cid clearThrough →
      ClearTaken s (.permit i) (s.move i (.allowed requesterId cid clearThrough))
  | permitted {i : Nat} {u : UserId} {q : ChatClearRequest} {accept : Bool} :
      s.calls i = .recognised u q accept →
      ClearTaken s (.permit i) (s.move i (.permitted u q accept))
  | submitted {i : Nat} {requesterId : UserId} {cid : ConversationId} {clearThrough : Nat}
      {requestId id : RequestId} {notice : Notice} {db : Db} {requests : Requests} :
      s.calls i = .allowed requesterId cid clearThrough →
      s.requestClear requesterId cid clearThrough requestId notice = .ok (id, db, requests) →
      ClearTaken s (.submit i requestId notice)
        ({ s with db := db, requests := requests }.move i (.requested id))
  | read {i : Nat} {u : UserId} {q : ChatClearRequest} (accept : Bool) :
      s.requests.find q.id = some q →
      ClearTaken s (.answer i u q.id accept) (s.move i (.read u q accept))
  | recognised {i : Nat} {u : UserId} {q : ChatClearRequest} {accept : Bool} :
      s.calls i = .read u q accept →
      ClearTaken s (.recognise i) (s.move i (.recognised u q accept))
  | again {i : Nat} {u : UserId} {q : ChatClearRequest} :
      s.calls i = .read u q true → q.status = .accepted →
      ClearTaken s (.recognise i) (s.move i (.clearing u q))
  | claimed {i : Nat} {u : UserId} {q : ChatClearRequest} {accept : Bool} {notice : Notice}
      {db : Db} {requests : Requests} : s.calls i = .permitted u q accept →
      s.claim q accept notice = .ok (db, requests) →
      ClearTaken s (.claim i notice)
        ({ s with db := db, requests := requests }.move i
          (if accept then .clearing u q else .answered u q.id false))
  | cleared {i : Nat} {u : UserId} {q : ChatClearRequest} {scan : Scan} {now : Time}
      {clock : MessageId → Time} {db : Db} : s.calls i = .clearing u q →
      s.db.clearHistory scan
        { userId := u, conversationId := q.conversationID, forEveryone := false,
          targetHeight := some q.targetHeight, noticeId := 0, notice := [], now := now } clock =
        .ok db →
      ClearTaken s (.clear i scan now clock) ({ s with db := db }.move i (.answered u q.id true))

variable {e : ClearEvent} {s t : ClearState} {db db' : Db} {cid : ConversationId}
variable {clearThrough i : Nat} {id requestId : RequestId} {notice : Notice}
variable {requesterId : UserId} {requests : Requests} {accept : Bool} {q : ChatClearRequest}

theorem clear_taken (h : ClearStep s e t) : ClearTaken s e t := by
  simp only [ClearStep, ClearState.next] at h
  cases e with
  | write op =>
    simp only [Option.ite_none_right_eq_some, Option.some.injEq] at h
    obtain ⟨own, rfl⟩ := h
    exact .write own
  | ask i requesterId cid targetHeight =>
    dsimp only at h
    split at h
    · split at h
      · cases h
        exact .refused i
      · rename_i c seat seated
        split at h
        · cases h
          exact .refused i
        · cases h
          exact .asked targetHeight (seat_some seated).1
    · cases h
  | permit i =>
    dsimp only at h
    split at h
    · rename_i phase
      split at h
      · cases h
        exact .refused i
      · cases h
        exact .allowed phase
    · rename_i phase
      split at h
      · cases h
        exact .refused i
      · cases h
        exact .permitted phase
    · cases h
  | submit i requestId notice =>
    dsimp only at h
    split at h
    · rename_i phase
      split at h
      · cases h
        exact .refused i
      · rename_i submitted
        cases h
        exact .submitted phase submitted
    · cases h
  | answer i u requestId accept =>
    dsimp only at h
    split at h
    · split at h
      · cases h
        exact .refused i
      · rename_i q found
        cases h
        cases Table.find_key found
        exact .read accept found
    · cases h
  | recognise i =>
    dsimp only at h
    split at h
    · rename_i u q accept phase
      split at h
      · cases h
        exact .refused i
      · split at h
        · rename_i both
          simp only [Bool.and_eq_true, decide_eq_true_eq] at both
          obtain ⟨status, rfl⟩ := both
          cases h
          exact .again phase status
        · cases h
          exact .recognised phase
    · cases h
  | claim i notice =>
    dsimp only at h
    split at h
    · rename_i phase
      split at h
      · cases h
        exact .refused i
      · rename_i claimed
        cases h
        exact .claimed phase claimed
    · cases h
  | clear i scan now clock =>
    dsimp only at h
    split at h
    · rename_i phase
      split at h
      · cases h
        exact .refused i
      · rename_i cleared
        cases h
        exact .cleared phase cleared
    · cases h

/-- What becomes of a request row: once answered it stays as it is. -/
structure ChatClearRequest.Follows (r r' : ChatClearRequest) : Prop where
  id : r'.id = r.id
  conversationID : r'.conversationID = r.conversationID
  requesterID : r'.requesterID = r.requesterID
  answered : r.status ≠ .pending → r' = r

theorem ChatClearRequest.Follows.refl (r : ChatClearRequest) : r.Follows r :=
  ⟨rfl, rfl, rfl, fun _ => rfl⟩

/-- What any step does to the rows. -/
structure ClearMoved (db : Db) (requests : Requests) (db' : Db) (requests' : Requests) : Prop where
  advances : Advances db db'
  height : ∀ k n, db.heightOf k = some n → ∃ n', db'.heightOf k = some n' ∧ n ≤ n'
  kept : ∀ id r, requests.find id = some r → ∃ r', requests'.find id = some r' ∧ r.Follows r'

theorem ClearMoved.refl (db : Db) (requests : Requests) : ClearMoved db requests db requests :=
  ⟨.refl db, fun _ n counted => ⟨n, counted, Nat.le_refl n⟩, fun _ r found => ⟨r, found, .refl r⟩⟩

theorem Effect.cleared (effect : Effect db db') (advances : Advances db db')
    (requests : Requests) : ClearMoved db requests db' requests :=
  ⟨advances, fun _ _ counted => effect.height counted, fun _ r found => ⟨r, found, .refl r⟩⟩

theorem insertSystemMessage_moved {c : ChatConversation} {k : ConversationId}
    {id : MessageId} {content : Content} {now : Time} (found : db.conversations.find k = some c)
    (h : db.insertSystemMessage c id content now = .ok db') (requests : Requests) :
    ClearMoved db requests db' requests := by
  have own : c.id = k := Table.find_key found
  subst own
  obtain ⟨effect, beside⟩ := insertSystemMessage_effect h (heightOf_found found)
  exact effect.cleared beside.advances requests

/-- Either the pending request is raised, or there was none and one is created. -/
theorem requestClear_ok
    (h : s.requestClear requesterId cid clearThrough requestId notice = .ok (id, db, requests)) :
    (∃ found ∈ s.requests.rows, found.conversationID = cid ∧ found.requesterID = requesterId ∧
      found.status = .pending ∧ db = s.db ∧
      requests = s.requests.updateMany (fun r => r.id = found.id && r.targetHeight < clearThrough)
        (fun r => { r with targetHeight := clearThrough }) fun _ => rfl) ∨
    (∀ r ∈ s.requests.rows, r.conversationID = cid → r.requesterID = requesterId →
        r.status ≠ .pending) ∧
      s.requests.insert
        { id := requestId, conversationID := cid, requesterID := requesterId,
          targetHeight := clearThrough, status := .pending, respondedAt := none } = some requests ∧
      ∃ c, s.db.conversations.find cid = some c ∧
        s.db.insertSystemMessage c notice.id notice.content notice.now = .ok db := by
  unfold ClearState.requestClear at h
  dsimp only at h
  split at h
  · rename_i found first
    cases h
    obtain ⟨member, matched⟩ := Table.mem_select.mp (List.mem_of_mem_head? first)
    simp only [Bool.and_eq_true, decide_eq_true_eq] at matched
    exact Or.inl ⟨found, member, matched.1.1, matched.1.2, matched.2, rfl, rfl⟩
  · rename_i nothing
    rw [List.head?_eq_none_iff] at nothing
    have alone : ∀ r ∈ s.requests.rows, r.conversationID = cid → r.requesterID = requesterId →
        r.status ≠ .pending := by
      intro r hr own mine pending
      have : r ∈ s.requests.select fun r =>
          r.conversationID = cid && r.requesterID = requesterId && r.status = .pending :=
        Table.mem_select.mpr ⟨hr, by simp [own, mine, pending]⟩
      rw [nothing] at this
      cases this
    split at h
    · rename_i inserted found
      obtain ⟨db, noticed, done⟩ := bind_ok h
      cases done
      exact Or.inr ⟨alone, inserted, _, found, noticed⟩
    · cases h
    · cases h

theorem claim_ok (h : s.claim q accept notice = .ok (db, requests)) :
    (∃ r, s.requests.find q.id = some r ∧ r.status = .pending) ∧
      requests = s.requests.updateMany (fun r => r.id = q.id && r.status = .pending)
        (fun r =>
          { r with
            status := if accept then .accepted else .declined
            respondedAt := some notice.now }) (fun _ => rfl) ∧
      ∃ c, s.db.conversations.find q.conversationID = some c ∧
        s.db.insertSystemMessage c notice.id notice.content notice.now = .ok db := by
  unfold ClearState.claim at h
  dsimp only at h
  split at h
  · cases h
  · rename_i some_match
    have matched : ∃ r ∈ s.requests.rows, r.id = q.id ∧ r.status = .pending := by
      by_contra no
      refine some_match (List.countP_eq_zero.mpr fun r hr chosen => no ⟨r, hr, ?_⟩)
      simpa using chosen
    obtain ⟨r, hr, named, pending⟩ := matched
    split at h
    · cases h
    · rename_i c found
      obtain ⟨db, noticed, done⟩ := bind_ok h
      cases done
      exact ⟨⟨r, named ▸ Table.mem_find hr, pending⟩, rfl, c, found, noticed⟩

/-- The row that was claimed, before and after. -/
theorem claim_found (h : s.claim q accept notice = .ok (db, requests)) :
    ∃ r r', s.requests.find q.id = some r ∧ r.status = .pending ∧ requests.find q.id = some r' ∧
      r'.conversationID = r.conversationID ∧ r'.targetHeight = r.targetHeight ∧
      r'.status = if accept then .accepted else .declined := by
  obtain ⟨⟨r, found, pending⟩, rfl, -⟩ := claim_ok h
  have named : r.id = q.id := Table.find_key found
  rw [Table.find_updateMany, found, Option.map_some]
  simp only [named, pending, decide_true, Bool.and_self, ↓reduceIte]
  exact ⟨r, _, rfl, pending, rfl, rfl, rfl, rfl⟩

/-- An update of pending rows only. -/
theorem update_follows {p : ChatClearRequest → Bool} {f : ChatClearRequest → ChatClearRequest}
    (hf : ∀ r, (f r).id = r.id) (conversation : ∀ r, (f r).conversationID = r.conversationID)
    (requester : ∀ r, (f r).requesterID = r.requesterID)
    (pending : ∀ r ∈ requests.rows, p r = true → r.status = .pending) (id : RequestId)
    (r : ChatClearRequest) (found : requests.find id = some r) :
    ∃ r', (requests.updateMany p f hf).find id = some r' ∧ r.Follows r' := by
  rw [Table.find_updateMany, found, Option.map_some]
  refine ⟨_, rfl, ?_⟩
  cases chosen : p r with
  | false => exact .refl r
  | true =>
    refine ⟨hf r, conversation r, requester r, fun answered => ?_⟩
    exact absurd (pending r (Table.find_mem found) chosen) answered

theorem requestClear_moved
    (h : s.requestClear requesterId cid clearThrough requestId notice = .ok (id, db, requests)) :
    ClearMoved s.db s.requests db requests := by
  rcases requestClear_ok h with ⟨found, hfound, -, -, pending, rfl, rfl⟩ | ⟨-, inserted, c, found, noticed⟩
  · refine { ClearMoved.refl s.db s.requests with kept := update_follows _ (fun _ => rfl) (fun _ => rfl) ?_ }
    intro r hr chosen
    simp only [Bool.and_eq_true, decide_eq_true_eq] at chosen
    rw [s.requests.row_unique hr hfound chosen.1]
    exact pending
  · refine { insertSystemMessage_moved found noticed s.requests with kept := fun id r there => ?_ }
    refine ⟨r, ?_, .refl r⟩
    rw [Table.find_insert inserted, if_neg]
    · exact there
    · rintro rfl
      cases (Table.insert_fresh inserted).symm.trans there

theorem claim_moved (h : s.claim q accept notice = .ok (db, requests)) :
    ClearMoved s.db s.requests db requests := by
  obtain ⟨-, rfl, c, found, noticed⟩ := claim_ok h
  refine { insertSystemMessage_moved found noticed s.requests with
    kept := update_follows _ (fun _ => rfl) (fun _ => rfl) ?_ }
  intro r _ chosen
  simp only [Bool.and_eq_true, decide_eq_true_eq] at chosen
  exact chosen.2

theorem clear_moved (h : ClearStep s e t) : ClearMoved s.db s.requests t.db t.requests := by
  cases clear_taken h with
  | @write op own =>
    have step := step_after s.db op
    generalize after s.db op = db' at step
    cases step with
    | committed ok =>
      obtain ⟨effect, advances⟩ := perform_effect ok own
      exact effect.cleared advances s.requests
    | rolledBack => exact .refl s.db s.requests
  | submitted _ submitted => exact requestClear_moved submitted
  | claimed _ claimed => exact claim_moved claimed
  | cleared _ cleared =>
    obtain ⟨effect, advances⟩ := clearHistory_effect cleared
    exact effect.cleared advances s.requests
  | _ => exact .refl s.db s.requests

/-! ## One pending request, answered once -/

/-- The row a call has read, as it may be by now. -/
structure ChatClearRequest.Since (q r : ChatClearRequest) : Prop where
  conversationID : r.conversationID = q.conversationID
  answered : q.status ≠ .pending → r = q

/-- What holds of the rows while a call is where it is. -/
def ClearCall.Fits (db : Db) (requests : Requests) : ClearCall → Prop
  | .asked _ cid clearThrough | .allowed _ cid clearThrough =>
    ∃ n, db.heightOf cid = some n ∧ clearThrough ≤ n
  | .read _ q _ | .recognised _ q _ | .permitted _ q _ =>
    ∃ r, requests.find q.id = some r ∧ q.Since r
  | .clearing _ q =>
    ∃ r, requests.find q.id = some r ∧ r.conversationID = q.conversationID ∧ r.status = .accepted
  | _ => True

structure ClearKept (s : ClearState) : Prop where
  once : ∀ r ∈ s.requests.rows, ∀ r' ∈ s.requests.rows, r.status = .pending →
    r'.status = .pending → r.conversationID = r'.conversationID →
    r.requesterID = r'.requesterID → r = r'
  reached : ∀ r ∈ s.requests.rows, ∃ n, s.db.heightOf r.conversationID = some n ∧ r.targetHeight ≤ n
  fits : ∀ i, (s.calls i).Fits s.db s.requests

variable {call : ClearCall} {es : List ClearEvent}

theorem ClearCall.Fits.moved {requests' : Requests} (moved : ClearMoved db requests db' requests')
    (h : call.Fits db requests) : call.Fits db' requests' := by
  cases call with
  | asked | allowed =>
    obtain ⟨n, counted, low⟩ := h
    obtain ⟨n', counted', up⟩ := moved.height _ n counted
    exact ⟨n', counted', by omega⟩
  | read | recognised | permitted =>
    obtain ⟨r, found, since⟩ := h
    obtain ⟨r', found', follows⟩ := moved.kept _ r found
    refine ⟨r', found', follows.conversationID.trans since.conversationID, fun answered => ?_⟩
    cases since.answered answered
    exact follows.answered answered
  | clearing =>
    obtain ⟨r, found, own, accepted⟩ := h
    obtain ⟨r', found', follows⟩ := moved.kept _ r found
    cases follows.answered (by rw [accepted]; decide)
    exact ⟨r, found', own, accepted⟩
  | idle | requested | answered | refused => trivial

@[simp] theorem move_self (s : ClearState) (i : Nat) (phase : ClearCall) :
    (s.move i phase).calls i = phase := Function.update_self ..

theorem move_other {j : Nat} (other : j ≠ i) (phase : ClearCall) :
    (s.move i phase).calls j = s.calls j := Function.update_of_ne other ..

/-- A call moves on, and the others see the rows that it leaves. -/
theorem fits_move {phase : ClearCall}
    (fits : ∀ j, (s.calls j).Fits s.db s.requests) (own : phase.Fits s.db s.requests) (j : Nat) :
    ((s.move i phase).calls j).Fits s.db s.requests := by
  by_cases here : j = i
  · subst here
    rw [move_self]
    exact own
  · rw [move_other here]
    exact fits j

theorem heightOf_some {k : ConversationId} {c : ChatConversation}
    (found : db.conversations.find k = some c) : db.heightOf k = some c.nextHeight := by
  have own : c.id = k := Table.find_key found
  subst own
  exact heightOf_found found

theorem requestClear_kept (kept : ClearKept s)
    (fits : ∃ n, s.db.heightOf cid = some n ∧ clearThrough ≤ n)
    (h : s.requestClear requesterId cid clearThrough requestId notice = .ok (id, db, requests)) :
    (∀ r ∈ requests.rows, ∀ r' ∈ requests.rows, r.status = .pending → r'.status = .pending →
      r.conversationID = r'.conversationID → r.requesterID = r'.requesterID → r = r') ∧
    ∀ r ∈ requests.rows, ∃ n, db.heightOf r.conversationID = some n ∧ r.targetHeight ≤ n := by
  have moved := requestClear_moved h
  obtain ⟨top, counted, low⟩ := fits
  obtain ⟨top', counted', up⟩ := moved.height cid top counted
  rcases requestClear_ok h with ⟨found, hfound, own, mine, pending, rfl, rfl⟩ | ⟨alone, inserted, -⟩
  · -- the row that is raised is the one that was pending
    have origin : ∀ r' ∈ (s.requests.updateMany
        (fun r => r.id = found.id && r.targetHeight < clearThrough)
        (fun r => { r with targetHeight := clearThrough }) fun _ => rfl).rows,
        ∃ r ∈ s.requests.rows, r'.id = r.id ∧ r'.status = r.status ∧
          r'.conversationID = r.conversationID ∧ r'.requesterID = r.requesterID ∧
          (r'.targetHeight = r.targetHeight ∨ r.id = found.id ∧ r'.targetHeight = clearThrough) := by
      intro r' hr'
      obtain ⟨r, hr, rfl⟩ := (Table.mem_updateMany ..).mp hr'
      refine ⟨r, hr, ?_⟩
      split
      · rename_i chosen
        simp only [Bool.and_eq_true, decide_eq_true_eq] at chosen
        exact ⟨rfl, rfl, rfl, rfl, Or.inr ⟨chosen.1, rfl⟩⟩
      · exact ⟨rfl, rfl, rfl, rfl, Or.inl rfl⟩
    constructor
    · intro r hr r' hr' pend pend' conv req
      obtain ⟨q, hq, id, status, conversation, requester, -⟩ := origin r hr
      obtain ⟨q', hq', id', status', conversation', requester', -⟩ := origin r' hr'
      have same : q = q' := kept.once q hq q' hq' (status ▸ pend) (status' ▸ pend')
        (conversation.symm.trans (conv.trans conversation'))
        (requester.symm.trans (req.trans requester'))
      exact Table.row_unique _ hr hr' (id.trans ((congrArg _ same).trans id'.symm))
    · intro r hr
      obtain ⟨q, hq, -, -, conversation, -, target⟩ := origin r hr
      obtain ⟨n, counted₀, low₀⟩ := kept.reached q hq
      rw [conversation]
      rcases target with same | ⟨named, raised⟩
      · exact ⟨n, counted₀, by omega⟩
      · cases s.requests.row_unique hq hfound named
        rw [own]
        exact ⟨top, counted, by omega⟩
  · constructor
    · intro r hr r' hr' pend pend' conv req
      rcases (Table.mem_insert inserted).mp hr with old | rfl <;>
        rcases (Table.mem_insert inserted).mp hr' with old' | rfl
      · exact kept.once r old r' old' pend pend' conv req
      · exact absurd pend (alone r old conv req)
      · exact absurd pend' (alone r' old' conv.symm req.symm)
      · rfl
    · intro r hr
      rcases (Table.mem_insert inserted).mp hr with old | rfl
      · obtain ⟨n, counted₀, low₀⟩ := kept.reached r old
        obtain ⟨n', counted₁, up₁⟩ := moved.height _ n counted₀
        exact ⟨n', counted₁, by omega⟩
      · exact ⟨top', counted', Nat.le_trans low up⟩

theorem claim_kept (kept : ClearKept s) (h : s.claim q accept notice = .ok (db, requests)) :
    (∀ r ∈ requests.rows, ∀ r' ∈ requests.rows, r.status = .pending → r'.status = .pending →
      r.conversationID = r'.conversationID → r.requesterID = r'.requesterID → r = r') ∧
    ∀ r ∈ requests.rows, ∃ n, db.heightOf r.conversationID = some n ∧ r.targetHeight ≤ n := by
  have moved := claim_moved h
  obtain ⟨-, rfl, -⟩ := claim_ok h
  have answer : (if accept then ChatClearRequestStatus.accepted else .declined) ≠ .pending := by
    cases accept <;> decide
  constructor
  · intro r hr r' hr' pend pend' conv req
    obtain ⟨p, hp, rfl⟩ := (Table.mem_updateMany ..).mp hr
    obtain ⟨p', hp', rfl⟩ := (Table.mem_updateMany ..).mp hr'
    split at pend
    · exact absurd pend answer
    · rename_i out
      split at pend'
      · exact absurd pend' answer
      · rename_i out'
        rw [if_neg out, if_neg out'] at conv req ⊢
        exact kept.once p hp p' hp' pend pend' conv req
  · intro r hr
    obtain ⟨p, hp, rfl⟩ := (Table.mem_updateMany ..).mp hr
    obtain ⟨n, counted, low⟩ := kept.reached p hp
    obtain ⟨n', counted', up⟩ := moved.height _ n counted
    refine ⟨n', ?_, ?_⟩ <;> split <;> first | exact counted' | exact Nat.le_trans low up

theorem kept_step (h : ClearStep s e t) (kept : ClearKept s) : ClearKept t := by
  have moved := clear_moved h
  have fits : ∀ j, (s.calls j).Fits t.db t.requests := fun j => (kept.fits j).moved moved
  have reached : ∀ r ∈ s.requests.rows,
      ∃ n, t.db.heightOf r.conversationID = some n ∧ r.targetHeight ≤ n := by
    intro r hr
    obtain ⟨n, counted, low⟩ := kept.reached r hr
    obtain ⟨n', counted', up⟩ := moved.height _ n counted
    exact ⟨n', counted', Nat.le_trans low up⟩
  cases clear_taken h with
  | write _ => exact ⟨kept.once, reached, fits⟩
  | refused i => exact ⟨kept.once, reached, fits_move kept.fits trivial⟩
  | asked targetHeight found =>
    exact ⟨kept.once, reached, fits_move kept.fits ⟨_, heightOf_some found, Nat.min_le_right _ _⟩⟩
  | @allowed i _ _ _ phase =>
    have own := kept.fits i
    rw [phase] at own
    exact ⟨kept.once, reached, fits_move kept.fits own⟩
  | @permitted i _ _ _ phase =>
    have own := kept.fits i
    rw [phase] at own
    exact ⟨kept.once, reached, fits_move kept.fits own⟩
  | @submitted i _ _ _ _ _ _ _ _ phase submitted =>
    have own := kept.fits i
    rw [phase] at own
    obtain ⟨once, reached⟩ := requestClear_kept kept own submitted
    exact ⟨once, reached, fits_move fits trivial⟩
  | read accept found =>
    exact ⟨kept.once, reached, fits_move kept.fits ⟨_, found, rfl, fun _ => rfl⟩⟩
  | @recognised i _ _ _ phase =>
    have own := kept.fits i
    rw [phase] at own
    exact ⟨kept.once, reached, fits_move kept.fits own⟩
  | @again i _ q phase status =>
    have own := kept.fits i
    rw [phase] at own
    obtain ⟨r, found, since⟩ := own
    cases since.answered (by rw [status]; decide)
    exact ⟨kept.once, reached, fits_move kept.fits ⟨q, found, rfl, status⟩⟩
  | @claimed i u q accept notice db requests phase claimed =>
    have own := kept.fits i
    rw [phase] at own
    obtain ⟨once, reached⟩ := claim_kept kept claimed
    refine ⟨once, reached, fits_move fits ?_⟩
    cases accept with
    | false => trivial
    | true =>
      obtain ⟨r₀, found₀, since⟩ := own
      obtain ⟨r, r', found, pending, found', conversation, -, status⟩ := claim_found claimed
      refine ⟨r', found', ?_, status⟩
      rw [conversation, ← Option.some.inj (found₀.symm.trans found)]
      exact since.conversationID
  | cleared => exact ⟨kept.once, reached, fits_move fits trivial⟩

/-! ## The height that was agreed -/

/-- What a clearing of one's own side does to the floors. -/
theorem clearHistory_floors {scan : Scan} {r : ClearRequestArgs} {clock : MessageId → Time}
    (own : r.forEveryone = false) (h : db.clearHistory scan r clock = .ok db') :
    ∃ c seat, db.conversations.find r.conversationId = some c ∧
      db.members.find (r.conversationId, r.userId) = some seat ∧ seat.leftAt = none ∧
      ∀ k s, db.members.find k = some s → ∃ s', db'.members.find k = some s' ∧
        s'.clearedBeforeHeight = if k = (r.conversationId, r.userId) then
          max s.clearedBeforeHeight (min c.nextHeight (r.targetHeight.getD c.nextHeight))
        else s.clearedBeforeHeight := by
  obtain ⟨c, seat, found, seated, present, ⟨nothing, rfl⟩ | ⟨timed, beside, -, -, -, cleared, hcleared,
    rest⟩⟩ := clearHistory_ok h
  · refine ⟨c, seat, found, seated, present, fun k s there => ⟨s, there, ?_⟩⟩
    rw [nothing]
    simp
  · refine ⟨c, seat, found, seated, present, fun k s there => ?_⟩
    have key := Table.find_key there
    have alone : (r.forEveryone && decide (c.type = .group)) = false := by simp [own]
    rw [clearHistory_members rest, hcleared, alone, advanceRead_find, raiseFloors_find, beside.members,
      there]
    refine ⟨_, rfl, ?_⟩
    have chosen : r.targets false s = true ↔ k = (r.conversationId, r.userId) := by
      rw [targets_own, ← key, Prod.mk.injEq]
    by_cases here : k = (r.conversationId, r.userId)
    · simp only [chosen.mpr here, here, Bool.true_and, decide_eq_true_eq, ↓reduceIte,
        apply_ite ChatMember.clearedBeforeHeight, ite_self]
      split <;> omega
    · have out : r.targets false s = false := by
        rw [← Bool.not_eq_true, chosen]
        exact here
      simp [out, here]

/-- The row that an accepting call has read and not claimed yet. -/
def ClearCall.accepting : ClearCall → Option ChatClearRequest
  | .read _ q true | .recognised _ q true | .permitted _ q true => some q
  | _ => none

/-- The call is about to raise the target of the pending request. -/
def ClearState.raises (s : ClearState) (i : Nat) (requestId : RequestId) : Bool :=
  match s.calls i with
  | .allowed requesterId cid clearThrough =>
    (s.requests.find requestId).any fun r =>
      r.conversationID = cid && r.requesterID = requesterId && r.status = .pending &&
        r.targetHeight < clearThrough
  | _ => false

/-- No request is raised between the first read of an accepting answer and its claim. -/
def Steady (s : ClearState) (e : ClearEvent) : Prop :=
  match e with
  | .submit i _ _ => ∀ j q, (s.calls j).accepting = some q → s.raises i q.id = false
  | _ => True

/-- What a call knows of the target while `Steady` holds. -/
def ClearCall.Agrees (db : Db) (requests : Requests) : ClearCall → Prop
  | .read _ q true | .recognised _ q true | .permitted _ q true =>
    ∀ r, requests.find q.id = some r → r.status = .pending → r.targetHeight = q.targetHeight
  | .clearing _ q => ∀ r, requests.find q.id = some r → r.targetHeight = q.targetHeight
  | .answered u id true =>
    ∃ r seat, requests.find id = some r ∧ r.status = .accepted ∧
      db.members.find (r.conversationID, u) = some seat ∧ seat.leftAt = none ∧
      r.targetHeight ≤ seat.clearedBeforeHeight
  | _ => True

theorem ClearCall.Agrees.moved {requests' : Requests}
    (moved : ClearMoved db requests db' requests') (fits : call.Fits db requests)
    (steady : ∀ q, call.accepting = some q → ∀ r r', requests.find q.id = some r →
      requests'.find q.id = some r' → r'.status = .pending → r'.targetHeight = r.targetHeight)
    (h : call.Agrees db requests) : call.Agrees db' requests' := by
  cases call with
  | read u q accept | recognised u q accept | permitted u q accept =>
    cases accept with
    | false => trivial
    | true =>
      intro r' found' pending'
      obtain ⟨r, found, -⟩ := fits
      obtain ⟨r'', found'', follows⟩ := moved.kept _ r found
      have same : r'' = r' := Option.some.inj (found''.symm.trans found')
      rw [same] at follows
      have pending : r.status = .pending := by
        by_contra answered
        rw [follows.answered answered] at pending'
        exact answered pending'
      exact (steady q rfl r r' found found' pending').trans (h r found pending)
  | clearing u q =>
    intro r' found'
    obtain ⟨r, found, -, accepted⟩ := fits
    obtain ⟨r'', found'', follows⟩ := moved.kept _ r found
    have same : r' = r'' := Option.some.inj (found'.symm.trans found'')
    rw [same, follows.answered (by rw [accepted]; decide)]
    exact h r found
  | answered u id accepted =>
    cases accepted with
    | false => trivial
    | true =>
      obtain ⟨r, seat, found, accepted, seated, present, floor⟩ := h
      obtain ⟨r', found', follows⟩ := moved.kept _ r found
      obtain ⟨seat', seated', advanced⟩ := moved.advances.seat _ seat seated
      have same := follows.answered (by rw [accepted]; decide)
      subst same
      exact ⟨_, seat', found', accepted, seated', advanced.leftAt.trans present,
        Nat.le_trans floor advanced.clearedBeforeHeight⟩
  | idle | asked | allowed | requested | refused => trivial

theorem agrees_move {phase : ClearCall}
    (agrees : ∀ j, (s.calls j).Agrees s.db s.requests) (own : phase.Agrees s.db s.requests) (j : Nat) :
    ((s.move i phase).calls j).Agrees s.db s.requests := by
  by_cases here : j = i
  · subst here
    rw [move_self]
    exact own
  · rw [move_other here]
    exact agrees j

theorem requestClear_steady (phase : s.calls i = .allowed requesterId cid clearThrough)
    (h : s.requestClear requesterId cid clearThrough requestId notice = .ok (id, db, requests))
    {k : RequestId} (quiet : s.raises i k = false) {r r' : ChatClearRequest}
    (found : s.requests.find k = some r) (found' : requests.find k = some r') :
    r'.targetHeight = r.targetHeight := by
  rcases requestClear_ok h with ⟨row, hrow, own, mine, pending, -, rfl⟩ | ⟨-, inserted, -⟩
  · rw [Table.find_updateMany, found, Option.map_some] at found'
    cases found'
    split
    · rename_i chosen
      simp only [Bool.and_eq_true, decide_eq_true_eq] at chosen
      have same : r = row := s.requests.row_unique (Table.find_mem found) hrow chosen.1
      have low : clearThrough ≤ row.targetHeight := by
        simpa [ClearState.raises, phase, found, same, own, mine, pending] using quiet
      rw [same] at chosen
      omega
    · rfl
  · rw [Table.find_insert inserted] at found'
    split at found'
    · rename_i named
      have fresh := Table.insert_fresh inserted
      rw [named, found] at fresh
      cases fresh
    · cases found.symm.trans found'
      rfl

theorem claim_steady (h : s.claim q accept notice = .ok (db, requests)) {k : RequestId}
    {r r' : ChatClearRequest} (found : s.requests.find k = some r)
    (found' : requests.find k = some r') : r'.targetHeight = r.targetHeight := by
  obtain ⟨-, rfl, -⟩ := claim_ok h
  rw [Table.find_updateMany, found, Option.map_some] at found'
  cases found'
  split <;> rfl

theorem agrees_step (h : ClearStep s e t) (steady : Steady s e)
    (kept : ClearKept s) (agrees : ∀ i, (s.calls i).Agrees s.db s.requests) :
    ∀ i, (t.calls i).Agrees t.db t.requests := by
  have moved := clear_moved h
  cases clear_taken h with
  | write _ =>
    intro i
    refine (agrees i).moved moved (kept.fits i) fun q _ r r' found found' _ => ?_
    cases found.symm.trans found'
    rfl
  | refused i => exact agrees_move agrees trivial
  | asked => exact agrees_move agrees trivial
  | allowed => exact agrees_move agrees trivial
  | @permitted i _ _ accept phase =>
    have own := agrees i
    rw [phase] at own
    refine agrees_move agrees ?_
    cases accept with
    | false => trivial
    | true => exact own
  | @submitted i _ _ _ _ _ _ _ _ phase submitted =>
    apply agrees_move
    · intro j
      refine (agrees j).moved moved (kept.fits j) fun q holds r r' found found' _ => ?_
      exact requestClear_steady phase submitted (steady j q holds) found found'
    · trivial
  | @read i u q accept found =>
    refine agrees_move agrees ?_
    cases accept with
    | false => trivial
    | true =>
      intro r found' _
      cases found.symm.trans found'
      rfl
  | @recognised i _ _ accept phase =>
    have own := agrees i
    rw [phase] at own
    refine agrees_move agrees ?_
    cases accept with
    | false => trivial
    | true => exact own
  | @again i _ q phase status =>
    have fits := kept.fits i
    rw [phase] at fits
    obtain ⟨r, found, since⟩ := fits
    refine agrees_move agrees fun r' found' => ?_
    cases found.symm.trans found'
    rw [since.answered (by rw [status]; decide)]
  | @claimed i u q accept notice db requests phase claimed =>
    have own := agrees i
    rw [phase] at own
    apply agrees_move
    · intro j
      refine (agrees j).moved moved (kept.fits j) fun q _ r r' found found' _ => ?_
      exact claim_steady claimed found found'
    · cases accept with
      | false => trivial
      | true =>
        intro r' found'
        obtain ⟨r, r'', found, pending, found'', -, target, -⟩ := claim_found claimed
        have same : r' = r'' := Option.some.inj (found'.symm.trans found'')
        rw [same, target]
        exact own r found pending
  | @cleared i u q scan now clock db phase cleared =>
    have own := agrees i
    have fits := kept.fits i
    rw [phase] at own fits
    obtain ⟨r, found, conversation, accepted⟩ := fits
    apply agrees_move
    · intro j
      refine (agrees j).moved moved (kept.fits j) fun q _ r r' found found' _ => ?_
      cases found.symm.trans found'
      rfl
    · obtain ⟨c, seat, locked, seated, present, floors⟩ := clearHistory_floors rfl cleared
      obtain ⟨seat', seated', floor⟩ := floors _ seat seated
      obtain ⟨_, there, advanced⟩ := moved.advances.seat _ seat seated
      have same : seat' = _ := Option.some.inj (seated'.symm.trans there)
      obtain ⟨n, counted, low⟩ := kept.reached r (Table.find_mem found)
      rw [conversation, heightOf_some locked] at counted
      cases counted
      have target := own r found
      refine ⟨r, seat', found, accepted, conversation ▸ seated', ?_, ?_⟩
      · rw [same, advanced.leftAt, present]
      · rw [floor, if_pos rfl, Option.getD_some]
        omega

/-! ## Only after the responder's own accept -/

/-- Where a call that may clear has come from. -/
def ClearCall.Invited (es : List ClearEvent) (i : Nat) : ClearCall → Prop
  | .read u q true | .recognised u q true | .permitted u q true | .clearing u q =>
    .answer i u q.id true ∈ es
  | _ => True

theorem ClearCall.Invited.later
    (h : call.Invited es i) (e : ClearEvent) : call.Invited (es ++ [e]) i := by
  unfold ClearCall.Invited at h ⊢
  split <;> first | exact List.mem_append_left _ h | trivial

theorem invited_step (h : ClearStep s e t)
    (invited : ∀ i, (s.calls i).Invited es i) : ∀ i, (t.calls i).Invited (es ++ [e]) i := by
  have later := fun i => (invited i).later e
  have move : ∀ {db : Db} {requests : Requests} {i : Nat} {phase : ClearCall},
      phase.Invited (es ++ [e]) i → ∀ j,
        ((ClearState.move ⟨db, requests, s.calls⟩ i phase).calls j).Invited (es ++ [e]) j := by
    intro db requests i phase own j
    by_cases here : j = i
    · subst here
      rw [move_self]
      exact own
    · rw [move_other here]
      exact later j
  cases clear_taken h with
  | write _ => exact later
  | @permitted i _ _ accept phase =>
    have own := later i
    rw [phase] at own
    apply move
    cases accept with
    | false => trivial
    | true => exact own
  | read accept found =>
    apply move
    cases accept with
    | false => trivial
    | true => exact List.mem_append_right _ (List.mem_singleton.mpr rfl)
  | @recognised i _ _ accept phase =>
    have own := later i
    rw [phase] at own
    apply move
    cases accept with
    | false => trivial
    | true => exact own
  | @again i _ _ phase _ =>
    have own := later i
    rw [phase] at own
    exact move own
  | @claimed i _ _ accept _ _ _ phase _ =>
    have own := later i
    rw [phase] at own
    apply move
    cases accept with
    | false => trivial
    | true => exact own
  | _ => exact move trivial

/-- A floor moves only by the clearing of a call that was an accept, or by what
its owner does otherwise. -/
theorem floor_step (h : ClearStep s e t)
    (invited : ∀ i, (s.calls i).Invited es i) {k : ConversationId × UserId} {seat seat' : ChatMember}
    (found : s.db.members.find k = some seat) (found' : t.db.members.find k = some seat')
    (differs : seat'.clearedBeforeHeight ≠ seat.clearedBeforeHeight) :
    (∃ op, e = .write op) ∨ ∃ i id, .answer i k.2 id true ∈ es := by
  have still : t.db.members ≠ s.db.members := by
    intro same
    rw [same, found] at found'
    cases found'
    exact differs rfl
  cases clear_taken h with
  | write _ => exact Or.inl ⟨_, rfl⟩
  | submitted _ submitted =>
    rcases requestClear_ok submitted with ⟨_, -, -, -, -, rfl, -⟩ | ⟨-, -, c, -, noticed⟩
    · exact absurd rfl still
    · exact absurd (insertSystemMessage_beside noticed).members still
  | claimed _ claimed =>
    obtain ⟨-, -, c, -, noticed⟩ := claim_ok claimed
    exact absurd (insertSystemMessage_beside noticed).members still
  | @cleared i u q _ _ _ _ phase cleared =>
    have own := invited i
    rw [phase] at own
    obtain ⟨_, _, -, -, -, floors⟩ := clearHistory_floors rfl cleared
    obtain ⟨seat'', found'', floor⟩ := floors k seat found
    have same : seat' = seat'' := Option.some.inj (found'.symm.trans found'')
    rw [same] at differs
    by_cases here : k = (q.conversationID, u)
    · rw [here]
      exact Or.inr ⟨i, q.id, own⟩
    · rw [if_neg here] at floor
      exact absurd floor differs
  | _ => exact absurd rfl still

/-! ## Every run -/

theorem initial_kept (h : ClearInitial s) : ClearKept s := by
  constructor
  · intro r hr
    rw [h.requests] at hr
    cases hr
  · intro r hr
    rw [h.requests] at hr
    cases hr
  · intro i
    rw [h.calls]
    trivial

/-- A request is pending once, is answered once, clears only after the accept of
the one it clears for, and, if it is not raised while an accept is between its
read and its claim, clears up to the height on its row. -/
theorem clear_agreed {s₀ s : ClearState} {es : List ClearEvent} (init : ClearInitial s₀)
    (run : Run ClearStep s₀ es s) :
    (∀ r ∈ s.requests.rows, ∀ r' ∈ s.requests.rows, r.status = .pending → r'.status = .pending →
      r.conversationID = r'.conversationID → r.requesterID = r'.requesterID → r = r') ∧
    (∀ r ∈ s.requests.rows, r.status ≠ .pending → ∀ es' t, Run ClearStep s es' t →
      t.requests.find r.id = some r) ∧
    (∀ e t k seat seat', ClearStep s e t → s.db.members.find k = some seat →
      t.db.members.find k = some seat' → seat'.clearedBeforeHeight ≠ seat.clearedBeforeHeight →
      (∃ op, e = .write op) ∨ ∃ i id, .answer i k.2 id true ∈ es) ∧
    (Run (Run.Where ClearStep Steady) s₀ es s → ∀ i u id, s.calls i = .answered u id true →
      ∃ r seat, s.requests.find id = some r ∧ r.status = .accepted ∧
        s.db.members.find (r.conversationID, u) = some seat ∧
        r.targetHeight ≤ seat.clearedBeforeHeight ∧
        r.targetHeight ≤ s.db.floorOf r.conversationID u) := by
  have kept : ClearKept s := run.preserves (fun _ _ _ step => kept_step step) (initial_kept init)
  refine ⟨kept.once, ?_, ?_, ?_⟩
  · intro r hr answered es' t run'
    have same : t.requests.find r.id = some r := by
      refine run'.preserves (P := fun t => t.requests.find r.id = some r) ?_ (Table.mem_find hr)
      intro t e u step found
      obtain ⟨r', found', follows⟩ := (clear_moved step).kept _ r found
      rw [found', follows.answered answered]
    exact same
  · intro e t k seat seat' step found found' differs
    have invited : ∀ i, (s.calls i).Invited es i := by
      refine run.history (P := fun es s => ∀ i, (s.calls i).Invited es i)
        (fun _ _ _ _ step => invited_step step) ?_
      intro i
      rw [init.calls]
      trivial
    exact floor_step step invited found found' differs
  · intro steady i u id answered
    have agrees : ∀ i, (s.calls i).Agrees s.db s.requests := by
      have keep : ∀ s e t, ClearStep s e t → ClearKept s → ClearKept t := fun _ _ _ => kept_step
      have agree : ∀ s e t, ClearStep s e t → Steady s e → ClearKept s →
          (∀ i, (s.calls i).Agrees s.db s.requests) → ∀ i, (t.calls i).Agrees t.db t.requests :=
        fun _ _ _ => agrees_step
      refine steady.preserves_where keep agree (initial_kept init) ?_
      intro i
      rw [init.calls]
      trivial
    have own := agrees i
    rw [answered] at own
    obtain ⟨r, seat, found, accepted, seated, present, floor⟩ := own
    obtain ⟨n, counted, -⟩ := kept.reached r (Table.find_mem found)
    refine ⟨r, seat, found, accepted, seated, floor, ?_⟩
    cases here : s.db.conversations.find r.conversationID with
    | none =>
      rw [Db.heightOf, here] at counted
      cases counted
    | some c =>
      simp only [Db.floorOf, Db.requireMembershipSeat, here, seated, Option.filter, present,
        Option.isNone_none, ↓reduceIte, Option.map_some, Option.getD_some]
      omega

/-! ## Two runs -/

/-- The two members of a direct conversation, before any request. -/
def uncleared : ClearState := ⟨pair, .empty, fun _ => .idle⟩

theorem uncleared_initial : ClearInitial uncleared := ⟨rfl, fun _ => rfl⟩

/-- The second member reads a request up to height one, the first raises it to
three, and only then the accept claims it. -/
def raisedBetween : List ClearEvent :=
  [.write (.sendMessage false (pairSend 1 [100] 5)), .ask 0 1 1 1, .permit 0, .submit 0 7 ⟨2, [], 6⟩,
    .answer 1 2 7 true, .write (.sendMessage false (pairSend 3 [101] 7)), .ask 2 1 1 3, .permit 2,
    .submit 2 8 ⟨4, [], 8⟩, .recognise 1, .permit 1, .claim 1 ⟨5, [], 9⟩,
    .clear 1 .asStored 10 fun _ => 10]

theorem accepted_below_target : ∃ s, ClearInitial uncleared ∧ Run ClearStep uncleared raisedBetween s ∧
    s.calls 1 = .answered 2 7 true ∧ ∃ r seat, s.requests.find 7 = some r ∧ r.status = .accepted ∧
      s.db.members.find (r.conversationID, 2) = some seat ∧
      seat.clearedBeforeHeight = 1 ∧ r.targetHeight = 3 := by
  have ends : ∃ s, raisedBetween.foldlM ClearState.next uncleared = some s ∧
      s.calls 1 = .answered 2 7 true ∧ ∃ r seat, s.requests.find 7 = some r ∧ r.status = .accepted ∧
      s.db.members.find (r.conversationID, 2) = some seat ∧
      seat.clearedBeforeHeight = 1 ∧ r.targetHeight = 3 :=
    ⟨_, rfl, rfl, _, _, rfl, rfl, rfl, rfl, rfl⟩
  obtain ⟨s, played, rest⟩ := ends
  exact ⟨s, uncleared_initial, .of_foldlM played, rest⟩

/-- Without the raise the accept clears what was asked for. -/
theorem clear_agreed_pair : ∃ s : ClearState, s.calls 1 = .answered 2 7 true ∧
    ∃ r seat, s.requests.find 7 = some r ∧ r.status = .accepted ∧
      s.db.members.find (r.conversationID, 2) = some seat ∧
      r.targetHeight ≤ seat.clearedBeforeHeight := by
  have run : ∃ s, Run (Run.Where ClearStep Steady) uncleared
      [.write (.sendMessage false (pairSend 1 [100] 5)), .ask 0 1 1 1, .permit 0,
        .submit 0 7 ⟨2, [], 6⟩, .answer 1 2 7 true, .recognise 1, .permit 1, .claim 1 ⟨5, [], 9⟩,
        .clear 1 .asStored 10 fun _ => 10] s ∧ s.calls 1 = .answered 2 7 true := by
    refine ⟨_, .cons ⟨rfl, trivial⟩ <| .cons ⟨rfl, trivial⟩ <| .cons ⟨rfl, trivial⟩ <|
      .cons ⟨rfl, ?_⟩ <| .cons ⟨rfl, trivial⟩ <| .cons ⟨rfl, trivial⟩ <| .cons ⟨rfl, trivial⟩ <|
      .cons ⟨rfl, trivial⟩ <| .single ⟨rfl, trivial⟩, rfl⟩
    rintro (_ | j) q holds <;> cases holds
  obtain ⟨s, run, answered⟩ := run
  have plain : Run ClearStep uncleared _ s := run.mono fun _ _ _ step => step.1
  obtain ⟨r, seat, found, accepted, seated, floor, -⟩ :=
    (clear_agreed uncleared_initial plain).2.2.2 run 1 2 7 answered
  exact ⟨s, answered, r, seat, found, accepted, seated, floor⟩

end CircleBackend.Chat
