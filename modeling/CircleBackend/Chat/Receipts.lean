import CircleBackend.Chat.Sync

/-!
# Receipts and burn timers

A receipt on a direct conversation reads its ceiling, asks without the lock
whether a timer is to be started, and only then locks or does without. In
between anything may be sent, cleared or read by another device. Whether a
timer is to be started below a height that was reached can only turn from yes to
no (`Db.timed`), so the answer stays good.
-/

namespace CircleBackend.Chat

open Library
open Session (UserId)

/-! ## Receipts -/

/-- How far a receipt is: its watermark clamped, or also answered whether a
timer is pending. -/
inductive Receipt
  | idle
  | clamped (userId : UserId) (height : Nat)
  | answered (userId : UserId) (height : Nat) (pending : Bool)

def receiptCeiling (conversation : ChatConversation) : Nat := conversation.nextHeight

/-- The stricter floor of a seat. -/
def Db.clearFloor (db : Db) (cid : ConversationId) (uid : UserId) : Nat :=
  match db.conversations.find cid, db.members.find (cid, uid) with
  | some c, some seat => max seat.clearedBeforeHeight c.clearedBeforeHeight
  | _, _ => 0

def Db.watermark (db : Db) (cid : ConversationId) (uid : UserId) : Nat :=
  ((db.members.find (cid, uid)).map (·.lastReadHeight)).getD 0

/-- `floors` remembers the stricter floor a seat had when its watermark was set. -/
structure ReceiptState where
  db : Db
  calls : Nat → Receipt
  floors : UserId → Nat

def Op.isReceipt : Op → Bool
  | .markReadLocked .. | .advanceDirectReadWithoutTimers .. => true
  | _ => false

inductive ReceiptEvent
  | write (op : Op)
  | read (call : Nat) (userId : UserId) (height : Nat)
  | check (call : Nat)
  | receipt (call : Nat)

section
variable (cid : ConversationId)

def ReceiptState.wrote (s : ReceiptState) (db : Db) : ReceiptState :=
  { s with
    db := db
    floors := fun uid =>
      if db.watermark cid uid = s.db.watermark cid uid then s.floors uid
      else s.db.clearFloor cid uid }

/-- The statements of `markRead` on a direct conversation, among everything else
that writes messages. -/
inductive ReceiptStep : ReceiptState → ReceiptEvent → ReceiptState → Prop
  | write {s : ReceiptState} {op : Op} {db' : Db} : op.onMessages = true → op.isReceipt = false →
      Step s.db op db' → ReceiptStep s (.write op) (s.wrote cid db')
  | read {s : ReceiptState} {i : Nat} {userId : UserId} {c : ChatConversation} {seat : ChatMember}
      (height : Nat) : s.calls i = .idle → s.db.requireMembershipSeat cid userId = some (c, seat) →
      0 < min height (receiptCeiling c) →
      ReceiptStep s (.read i userId height)
        { s with
          calls := Function.update s.calls i (.clamped userId (min height (receiptCeiling c))) }
  | check {s : ReceiptState} {i : Nat} {userId : UserId} {clamped : Nat} :
      s.calls i = .clamped userId clamped →
      ReceiptStep s (.check i)
        { s with
          calls := Function.update s.calls i
            (.answered userId clamped (s.db.pendingReadBurnTimers cid userId clamped)) }
  | locked {s : ReceiptState} {i : Nat} {userId : UserId} {clamped : Nat} {db' : Db} (scan : Scan)
      (clock : MessageId → Time) : s.calls i = .answered userId clamped true →
      Step s.db (.markReadLocked scan userId cid clamped clock) db' →
      ReceiptStep s (.receipt i)
        { s.wrote cid db' with calls := Function.update s.calls i .idle }
  | unlocked {s : ReceiptState} {i : Nat} {userId : UserId} {clamped : Nat} {db' : Db} :
      s.calls i = .answered userId clamped false →
      Step s.db (.advanceDirectReadWithoutTimers userId cid clamped) db' →
      ReceiptStep s (.receipt i)
        { s.wrote cid db' with calls := Function.update s.calls i .idle }

/-- A direct conversation nothing was sent in. -/
structure ReceiptInitial (s : ReceiptState) : Prop where
  direct : ∃ c, s.db.conversations.find cid = some c ∧ c.type = .direct
  unwritten : ∀ m ∈ s.db.messages.rows, m.conversationID ≠ cid
  unread : ∀ seat ∈ s.db.members.rows, seat.conversationID = cid → seat.lastReadHeight = 0
  idle : ∀ i, s.calls i = .idle

end

/-! ## What waits for its timer -/

/-- The reader's reading starts the timer of the message, if it has none. -/
structure ChatMessage.BurnsFor (m : ChatMessage) (reader : ChatMember) : Prop where
  sender : m.senderID.any (· ≠ reader.userID) = true
  joined : reader.joinedAt ≤ m.createdAt
  duration : m.burnDurationSec.any (0 < ·) = true
  deleted : m.deleted = false
  revoked : m.revokedAt = none

/-- No message of the range waits for a timer that the reader's reading starts. -/
def Db.timed (db : Db) (cid : ConversationId) (reader : ChatMember) (floor height : Nat) : Prop :=
  ∀ m ∈ db.messages.rows, m.conversationID = cid → floor < m.height → m.height ≤ height →
    m.BurnsFor reader → m.burnExpiresAt.isSome = true

variable {c : ChatConversation} {height : Nat} {m : ChatMessage} {cid : ConversationId}
variable {db db' : Db} {seat seat' : ChatMember} {uid : UserId} {s : ReceiptState}

theorem pendingReadBurn_iff {reader : ChatMember} : m.pendingReadBurn c reader height = true ↔
      m.conversationID = c.id ∧ m.height ≤ height ∧ c.type = .direct ∧ reader.leftAt = none ∧
        max reader.clearedBeforeHeight c.clearedBeforeHeight < m.height ∧ m.BurnsFor reader ∧
        m.burnExpiresAt = none := by
  simp only [ChatMessage.pendingReadBurn, Bool.and_eq_true, decide_eq_true_eq,
    Option.isNone_iff_eq_none, Bool.not_eq_true']
  constructor
  · rintro ⟨⟨⟨⟨⟨⟨⟨⟨⟨⟨own, low⟩, direct⟩, present⟩, above⟩, sender⟩, joined⟩, duration⟩, unset⟩, live⟩, shown⟩
    exact ⟨own, low, direct, present, above, ⟨sender, joined, duration, live, shown⟩, unset⟩
  · rintro ⟨own, low, direct, present, above, ⟨sender, joined, duration, live, shown⟩, unset⟩
    exact ⟨⟨⟨⟨⟨⟨⟨⟨⟨⟨own, low⟩, direct⟩, present⟩, above⟩, sender⟩, joined⟩, duration⟩, unset⟩, live⟩, shown⟩

theorem clearFloor_found (found : db.conversations.find cid = some c)
    (seated : db.members.find (cid, uid) = some seat) :
    db.clearFloor cid uid = max seat.clearedBeforeHeight c.clearedBeforeHeight := by
  simp [Db.clearFloor, found, seated]

/-- A negative answer. -/
theorem unpending_timed (h : db.pendingReadBurnTimers cid uid height = false)
    (found : db.conversations.find cid = some c) (direct : c.type = .direct)
    (seated : db.members.find (cid, uid) = some seat) (present : seat.leftAt = none) :
    db.timed cid seat (db.clearFloor cid uid) height := by
  intro m hm own above low burns
  have own' : c.id = cid := Table.find_key found
  by_contra unset
  have pending : m.pendingReadBurn c seat height = true := by
    rw [pendingReadBurn_iff]
    rw [clearFloor_found found seated] at above
    exact ⟨own.trans own'.symm, low, direct, present, above, burns, by simpa using unset⟩
  simp only [Db.pendingReadBurnTimers, found, seated, List.any_eq_false] at h
  exact absurd pending (h m hm)

variable {clock : MessageId → Time} {scan : Scan} {floor : Nat} {r : ClearRequestArgs}
variable {t : ReceiptState}

/-- The statement that starts the timers leaves none to be started. -/
theorem startReadBurnTimers_timed (h : db.startReadBurnTimers scan cid uid height clock = .ok db')
    (found : db.conversations.find cid = some c) (direct : c.type = .direct)
    (seated : db.members.find (cid, uid) = some seat) (present : seat.leftAt = none) :
    db'.timed cid seat (db.clearFloor cid uid) height := by
  have own' : c.id = cid := Table.find_key found
  simp only [Db.startReadBurnTimers, found, seated] at h
  obtain ⟨ids, writes, selected⟩ := updateMessages_writes h
  intro m' hm' own above low burns
  have found' := Table.mem_find hm'
  cases old : db.messages.find m'.id with
  | none => cases (writes.absent _ old).symm.trans found'
  | some m =>
    by_cases member : m'.id ∈ ids
    · obtain ⟨n, written⟩ := writes.written _ m old member
      cases written.symm.trans found'
      rfl
    · cases (writes.other _ m old member).symm.trans found'
      by_contra unset
      apply member
      rw [selected _ m' old, pendingReadBurn_iff]
      rw [clearFloor_found found seated] at above
      exact ⟨own.trans own'.symm, low, direct, present, above, burns, by simpa using unset⟩

theorem Amended.burnsFor {m' : ChatMessage} (h : Amended m m')
    (moved : SeatAdvanced seat seat') (user : seat'.userID = seat.userID)
    (burns : m'.BurnsFor seat') : m.BurnsFor seat where
  sender := by rw [← h.senderID, ← user]; exact burns.sender
  joined := by rw [← h.createdAt, ← moved.joinedAt]; exact burns.joined
  duration := by rw [← h.burnDurationSec]; exact burns.duration
  deleted := by
    cases gone : m.deleted with
    | false => rfl
    | true => cases burns.deleted.symm.trans (h.deleted gone)
  revoked := by
    cases gone : m.revokedAt with
    | none => rfl
    | some t => cases burns.revoked.symm.trans ((h.revoked (by rw [gone]; rfl)).1.trans gone)

/-- Below a height that was reached nothing new waits for a timer. -/
theorem Db.timed.step {n : Nat} (h : db.timed cid seat floor height) (effect : Effect db db')
    (moved : SeatAdvanced seat seat') (user : seat'.userID = seat.userID)
    (counted : db.heightOf cid = some n) (reached : height ≤ n) :
    db'.timed cid seat' floor height := by
  intro m' hm' own above low burns
  rcases effect.origin hm' with ⟨m, hm, amended⟩ | ⟨k, counted', next⟩
  · have before := h m hm (amended.conversationID.symm.trans own) (amended.height ▸ above)
      (amended.height ▸ low) (amended.burnsFor moved user burns)
    rw [amended.burning before]
    exact before
  · rw [own, counted] at counted'
    cases counted'
    omega

theorem Db.timed.mono {floor' : Nat}
    (h : db.timed cid seat floor height) (up : floor ≤ floor') : db.timed cid seat floor' height :=
  fun m hm own above => h m hm own (Nat.lt_of_le_of_lt up above)

/-! ## What moves a watermark -/

/-- A watermark that moves leaves no timer to be started up to it. -/
structure Watermarked (cid : ConversationId) (db db' : Db) : Prop where
  effect : Effect db db'
  advances : Advances db db'
  moved : ∀ uid seat seat', db.members.find (cid, uid) = some seat →
    db'.members.find (cid, uid) = some seat' → seat'.lastReadHeight ≠ seat.lastReadHeight →
    (∀ n, db.heightOf cid = some n → seat'.lastReadHeight ≤ n) ∧
      db'.timed cid seat' (db.clearFloor cid uid) seat'.lastReadHeight

theorem Watermarked.refl (cid : ConversationId) (db : Db) : Watermarked cid db db := by
  refine ⟨.rewrites (.refl _), .refl _, fun uid seat seat' found found' differs => ?_⟩
  cases found.symm.trans found'
  exact absurd rfl differs

theorem Watermarked.still (effect : Effect db db')
    (advances : Advances db db') (still : ∀ uid seat, db.members.find (cid, uid) = some seat →
      ∃ seat', db'.members.find (cid, uid) = some seat' ∧
        seat'.lastReadHeight = seat.lastReadHeight) : Watermarked cid db db' := by
  refine ⟨effect, advances, fun uid seat seat' found found' differs => ?_⟩
  obtain ⟨now, found'', same⟩ := still uid seat found
  cases found'.symm.trans found''
  exact absurd same differs

theorem Beside.watermarked (beside : Beside db db')
    (effect : Effect db db') : Watermarked cid db db' :=
  .still effect beside.advances fun _ seat found => ⟨seat, by rw [beside.members, found], rfl⟩

theorem advanceRead_find (db : Db) (conversationId : ConversationId) (selected : ChatMember → Bool)
    (height : Nat) (k : ConversationId × UserId) :
    (db.advanceRead conversationId selected height).members.find k =
      (db.members.find k).map fun m =>
        if m.conversationID = conversationId && selected m && m.lastReadHeight < height then
          { m with lastReadHeight := height }
        else m := by
  rw [Db.advanceRead, Table.find_updateMany]

theorem raiseFloors_find (db : Db) (selected : ChatMember → Bool) (height : Nat)
    (k : ConversationId × UserId) :
    (db.raiseFloors selected height).members.find k =
      (db.members.find k).map fun m =>
        if selected m && m.clearedBeforeHeight < height then
          { m with clearedBeforeHeight := height }
        else m := by
  rw [Db.raiseFloors, Table.find_updateMany]

/-- One reader's watermark went up to `height`, and his timers had been started. -/
theorem read_watermarked (uid : UserId) (height : Nat)
    (effect : Effect db db') (advances : Advances db db')
    (seats : ∀ k seat, db.members.find k = some seat → ∃ seat', db'.members.find k = some seat' ∧
      seat'.lastReadHeight = if k = (cid, uid) then max seat.lastReadHeight height
        else seat.lastReadHeight)
    (reached : ∀ n, db.heightOf cid = some n → height ≤ n)
    (timed : ∀ seat seat', db.members.find (cid, uid) = some seat →
      db'.members.find (cid, uid) = some seat' → db'.timed cid seat' (db.clearFloor cid uid) height) :
    Watermarked cid db db' := by
  refine ⟨effect, advances, fun other seat seat' found found' differs => ?_⟩
  obtain ⟨now, found'', height'⟩ := seats _ seat found
  cases found'.symm.trans found''
  split at height'
  · rename_i own
    cases own
    have set : seat'.lastReadHeight = height := by omega
    rw [set]
    exact ⟨reached, timed seat seat' found found'⟩
  · exact absurd height' differs

theorem advanceRead_seats {selected : ChatMember → Bool}
    (own : ∀ m, selected m = true → m.userID = uid) {reader : ChatMember}
    (seated : db.members.find (cid, uid) = some reader) (chosen : selected reader = true)
    {k : ConversationId × UserId} (found : db.members.find k = some seat) :
    ∃ seat', (db.advanceRead cid selected height).members.find k = some seat' ∧
      seat'.lastReadHeight = if k = (cid, uid) then max seat.lastReadHeight height
        else seat.lastReadHeight := by
  have key := Table.find_key found
  rw [advanceRead_find, found, Option.map_some]
  refine ⟨_, rfl, ?_⟩
  by_cases hk : k = (cid, uid)
  · subst hk
    cases seated.symm.trans found
    have conv : seat.conversationID = cid := congrArg Prod.fst key
    simp only [conv, chosen, decide_true, Bool.true_and, decide_eq_true_eq, ↓reduceIte]
    split
    · exact (Nat.max_eq_right (Nat.le_of_lt ‹_›)).symm
    · exact (Nat.max_eq_left (Nat.le_of_not_lt ‹_›)).symm
  · have other : ¬(seat.conversationID = cid ∧ selected seat = true) := by
      rintro ⟨conv, selected⟩
      exact hk (key.symm.trans (Prod.ext conv (own seat selected)))
    rw [if_neg hk, if_neg]
    simp only [Bool.and_eq_true, decide_eq_true_eq]
    exact fun all => other all.1

/-- The branches that select the reader alone. -/
theorem advanceRead_own {reader : ChatMember} (seated : db.members.find (cid, uid) = some reader)
    (present : reader.leftAt = none) {k : ConversationId × UserId}
    (found : db.members.find k = some seat) :
    ∃ seat', (db.advanceRead cid (fun m => decide (m.userID = uid) && m.leftAt.isNone)
        height).members.find k = some seat' ∧
      seat'.lastReadHeight = if k = (cid, uid) then max seat.lastReadHeight height
        else seat.lastReadHeight := by
  apply advanceRead_seats _ seated _ found
  · intro m selected
    simp only [Bool.and_eq_true, decide_eq_true_eq] at selected
    exact selected.1
  · simpa [present] using congrArg Prod.snd (Table.find_key seated)

/-- Who reads and when he joined is all that counts of a seat. -/
theorem Db.timed.reseat (h : db.timed cid seat floor height) (messages : db'.messages = db.messages)
    (user : seat'.userID = seat.userID) (joined : seat'.joinedAt = seat.joinedAt) :
    db'.timed cid seat' floor height := by
  intro m hm own above low burns
  rw [messages] at hm
  exact h m hm own above low
    ⟨user ▸ burns.sender, joined ▸ burns.joined, burns.duration, burns.deleted, burns.revoked⟩

theorem targets_own {m : ChatMember} :
    r.targets false m = true ↔ m.conversationID = r.conversationId ∧ m.userID = r.userId := by
  simp [ClearRequestArgs.targets]

/-- The members after a clearing, whoever it is for. -/
theorem clearHistory_members {cleared : Db} {globalClear : Bool}
    (h : globalClear = false ∧ db' = cleared ∨
      c.type = .group ∧ ∃ floored, floored = cleared.raiseConversationFloor c height ∧
        (db' = floored ∨ floored.insertSystemMessage c r.noticeId r.notice r.now = .ok db')) :
    db'.members = cleared.members := by
  rcases h with ⟨-, rfl⟩ | ⟨-, floored, rfl, rfl | announced⟩
  · rfl
  · rfl
  · exact (insertSystemMessage_beside announced).members

theorem clearHistory_watermarked (h : db.clearHistory scan r clock = .ok db')
    (found : db.conversations.find cid = some c) (direct : c.type = .direct) :
    Watermarked cid db db' := by
  obtain ⟨effect, advances⟩ := clearHistory_effect h
  obtain ⟨c', seat, found', seated, present, ⟨-, rfl⟩ | ⟨timed, beside, rewrites, started, -, cleared,
    hcleared, rest⟩⟩ := clearHistory_ok h
  · exact .refl cid _
  have members := clearHistory_members rest
  have key := Table.find_key seated
  by_cases here : r.conversationId = cid
  · subst here
    cases found.symm.trans found'
    have alone : (r.forEveryone && decide (c.type = .group)) = false := by simp [direct]
    have done : db' = cleared := by
      rcases rest with ⟨-, done⟩ | ⟨group, -⟩
      · exact done
      · cases direct.symm.trans group
    rw [alone] at hcleared
    subst done
    -- raising the floors keeps the watermarks
    have floors : ∀ k s, db.members.find k = some s → ∃ s₁,
        (timed.raiseFloors (r.targets false)
          (min c.nextHeight (r.targetHeight.getD c.nextHeight))).members.find k = some s₁ ∧
        s₁.lastReadHeight = s.lastReadHeight := by
      intro k s seated
      rw [raiseFloors_find, beside.members, seated, Option.map_some]
      refine ⟨_, rfl, ?_⟩
      split <;> rfl
    obtain ⟨reader, sits, -⟩ := floors _ seat seated
    have readerKey := Table.find_key sits
    have chosen : r.targets false reader = true :=
      targets_own.mpr ⟨congrArg Prod.fst readerKey, congrArg Prod.snd readerKey⟩
    refine read_watermarked r.userId (min c.nextHeight (r.targetHeight.getD c.nextHeight)) effect
      advances ?_ ?_ ?_
    · intro k s seated
      obtain ⟨s₁, found₁, same⟩ := floors k s seated
      rw [hcleared, ← same]
      exact advanceRead_seats (fun m selected => (targets_own.mp selected).2) sits chosen found₁
    · intro n counted
      rw [Db.heightOf, found] at counted
      cases counted
      exact Nat.min_le_left ..
    · intro s s' seated' now
      cases seated.symm.trans seated'
      obtain ⟨now', found₂, moved⟩ := advances.seat _ _ seated
      cases now.symm.trans found₂
      have user := (congrArg Prod.snd (Table.find_key now)).trans (congrArg Prod.snd key).symm
      have before := startReadBurnTimers_timed (started direct) found direct seated present
      refine before.reseat ?_ user moved.joinedAt
      rw [hcleared]
      rfl
  · refine .still effect advances fun uid s seated => ?_
    have conv := congrArg Prod.fst (Table.find_key seated)
    rw [members, hcleared, advanceRead_find, raiseFloors_find, beside.members, seated,
      Option.map_some, Option.map_some]
    refine ⟨_, rfl, ?_⟩
    have away : ¬s.conversationID = r.conversationId := fun own => here (own.symm.trans conv)
    simp [ClearRequestArgs.targets, away]

/-- An operation that is not a receipt. -/
theorem perform_watermarked {op : Op} (h : perform db op = .ok db') (own : op.onMessages = true)
    (other : op.isReceipt = false) (found : db.conversations.find cid = some c)
    (direct : c.type = .direct) : Watermarked cid db db' := by
  cases op with
  | setBurnDuration userId conversationId seconds noticeId notice now =>
    obtain ⟨effect, mid, beside, advances, seats⟩ := setBurnDuration_ok h
    refine .still effect (advances.trans beside.advances) fun uid seat seated => ?_
    rw [beside.members, seats, seated, Option.map_some]
    refine ⟨_, rfl, ?_⟩
    split <;> rfl
  | clearHistory => exact clearHistory_watermarked h found direct
  | markReadLocked => cases other
  | advanceDirectReadWithoutTimers => cases other
  | seats => cases own
  | configure => cases own
  | _ =>
    obtain ⟨effect, beside⟩ := perform_beside h rfl
    exact beside.watermarked effect

/-! ## The two branches of a receipt -/

theorem markReadLocked_watermarked (h : db.markReadLocked scan uid cid height clock = .ok db')
    (found : db.conversations.find cid = some c) (direct : c.type = .direct)
    (reached : ∀ n, db.heightOf cid = some n → height ≤ n) : Watermarked cid db db' := by
  have done : perform db (.markReadLocked scan uid cid height clock) = .ok db' := h
  obtain ⟨effect, advances⟩ := perform_effect done rfl
  unfold Db.markReadLocked at h
  split at h
  · cases h
  · rename_i seat sits
    obtain ⟨seated, present⟩ := seat_of_filter sits
    have beside := (startReadBurnTimers_effect h).2
    refine read_watermarked uid height effect advances ?_ reached ?_
    · intro k s found
      rw [beside.members]
      exact advanceRead_own seated present found
    · intro s s' seated' now
      cases seated.symm.trans seated'
      rw [beside.members] at now
      have moved : ∃ reader, (db.advanceRead cid (fun m => decide (m.userID = uid) && m.leftAt.isNone)
          height).members.find (cid, uid) = some reader ∧ SeatAdvanced seat reader :=
        (advanceRead_advances db cid _ height).seat _ seat seated
      obtain ⟨reader, sits', moved⟩ := moved
      cases now.symm.trans sits'
      have found' : (db.advanceRead cid (fun m => decide (m.userID = uid) && m.leftAt.isNone)
          height).conversations.find cid = some c := found
      have before := startReadBurnTimers_timed h found' direct now (moved.leftAt.trans present)
      have floor : (db.advanceRead cid (fun m => decide (m.userID = uid) && m.leftAt.isNone)
          height).clearFloor cid uid = db.clearFloor cid uid := by
        rw [clearFloor_found found' now, clearFloor_found found seated]
        rw [advanceRead_find, seated, Option.map_some, Option.some_inj] at now
        rw [← now]
        split <;> rfl
      rwa [floor] at before

/-- The unlocked branch, on an answer that is still good. -/
theorem advanceDirectRead_watermarked
    (h : db.advanceDirectReadWithoutTimers uid cid height = .ok db')
    (reached : ∀ n, db.heightOf cid = some n → height ≤ n)
    (timed : ∀ seat, db.members.find (cid, uid) = some seat → seat.leftAt = none →
      db.timed cid seat (db.clearFloor cid uid) height) : Watermarked cid db db' := by
  have done : perform db (.advanceDirectReadWithoutTimers uid cid height) = .ok db' := h
  obtain ⟨effect, advances⟩ := perform_effect done rfl
  unfold Db.advanceDirectReadWithoutTimers at h
  split at h
  · cases h
  · rename_i seat sits
    cases h
    obtain ⟨seated, present⟩ := seat_of_filter sits
    have key := Table.find_key seated
    refine read_watermarked uid height effect advances ?_ reached ?_
    · intro k s found
      exact advanceRead_own seated present found
    · intro s s' seated' now
      cases seated.symm.trans seated'
      obtain ⟨reader, sits', moved⟩ := advances.seat _ _ seated
      cases now.symm.trans sits'
      have user := (congrArg Prod.snd (Table.find_key now)).trans (congrArg Prod.snd key).symm
      exact (timed seat seated present).reseat rfl user moved.joinedAt

/-! ## The invariant -/

section
variable (cid : ConversationId)

/-- What a receipt in flight has read stays true. -/
def ReceiptOk (db : Db) (n : Nat) : Receipt → Prop
  | .idle => True
  | .clamped _ height => height ≤ n
  | .answered uid height pending => height ≤ n ∧ (pending = false →
      ∀ seat, db.members.find (cid, uid) = some seat → seat.leftAt = none →
        db.timed cid seat (db.clearFloor cid uid) height)

structure TimersKept (s : ReceiptState) : Prop where
  direct : ∃ c, s.db.conversations.find cid = some c ∧ c.type = .direct
  read : ∀ uid n, s.db.heightOf cid = some n → s.db.watermark cid uid ≤ n
  timed : ∀ uid seat, s.db.members.find (cid, uid) = some seat →
    s.db.timed cid seat (s.floors uid) seat.lastReadHeight
  calls : ∀ i n, s.db.heightOf cid = some n → ReceiptOk cid s.db n (s.calls i)

end

variable {cid : ConversationId}

theorem watermark_found (seated : db.members.find (cid, uid) = some seat) :
    db.watermark cid uid = seat.lastReadHeight := by
  simp [Db.watermark, seated]

/-- A seat after a step, with the seat it was. -/
theorem Advances.seat_back (h : Advances db db') {k : ConversationId × UserId}
    (seated' : db'.members.find k = some seat') :
    ∃ seat, db.members.find k = some seat ∧ SeatAdvanced seat seat' ∧ seat'.userID = seat.userID := by
  cases seated : db.members.find k with
  | none => cases (h.seatless k seated).symm.trans seated'
  | some seat =>
    obtain ⟨now, found, moved⟩ := h.seat k seat seated
    cases found.symm.trans seated'
    have key := congrArg Prod.snd (Table.find_key seated)
    have key' := congrArg Prod.snd (Table.find_key seated')
    exact ⟨seat, rfl, moved, key'.trans key.symm⟩

theorem Advances.clearFloor (h : Advances db db') (found : db.conversations.find cid = some c)
    (seated : db.members.find (cid, uid) = some seat) :
    db.clearFloor cid uid ≤ db'.clearFloor cid uid := by
  obtain ⟨c', found', settled⟩ := h.conversation cid c found
  obtain ⟨seat', seated', moved⟩ := h.seat _ seat seated
  rw [clearFloor_found found seated, clearFloor_found found' seated']
  have := settled.clearedBeforeHeight
  have := moved.clearedBeforeHeight
  omega

theorem ReceiptOk.wrote {n n' : Nat} {call : Receipt} (h : ReceiptOk cid db n call)
    (effect : Effect db db') (advances : Advances db db')
    (found : db.conversations.find cid = some c) (counted : db.heightOf cid = some n) (up : n ≤ n') :
    ReceiptOk cid db' n' call := by
  cases call with
  | idle => trivial
  | clamped uid height => exact Nat.le_trans h up
  | answered uid height pending =>
    refine ⟨Nat.le_trans h.1 up, fun no seat' seated' present' => ?_⟩
    obtain ⟨seat, seated, moved, user⟩ := advances.seat_back seated'
    have before := h.2 no seat seated (moved.leftAt.symm.trans present')
    have after := before.step effect moved user counted h.1
    exact after.mono (advances.clearFloor found seated)

theorem timersKept_wrote (inv : TimersKept cid s)
    (h : Watermarked cid s.db db') : TimersKept cid (s.wrote cid db') := by
  obtain ⟨c, found, direct⟩ := inv.direct
  obtain ⟨c', found', settled⟩ := h.advances.conversation cid c found
  have own : c.id = cid := Table.find_key found
  have counted : s.db.heightOf cid = some c.nextHeight := by rw [Db.heightOf, found]; rfl
  obtain ⟨n', counted', up⟩ := h.effect.height counted
  refine ⟨⟨c', found', settled.judges.1.trans direct⟩, ?_, ?_, ?_⟩
  · intro uid n now
    cases counted'.symm.trans now
    change db'.watermark cid uid ≤ _
    cases seated' : db'.members.find (cid, uid) with
    | none => simp [Db.watermark, seated']
    | some seat' =>
      obtain ⟨seat, seated, moved, -⟩ := h.advances.seat_back seated'
      have before := inv.read uid _ counted
      rw [watermark_found seated] at before
      rw [watermark_found seated']
      by_cases same : seat'.lastReadHeight = seat.lastReadHeight
      · omega
      · have reached := (h.moved uid seat seat' seated seated' same).1 _ counted
        omega
  · intro uid seat' seated'
    change db'.members.find (cid, uid) = some seat' at seated'
    obtain ⟨seat, seated, moved, user⟩ := h.advances.seat_back seated'
    change db'.timed cid seat' (if _ then _ else _) _
    rw [watermark_found seated, watermark_found seated']
    split
    · rename_i same
      rw [same]
      have before := inv.read uid _ counted
      rw [watermark_found seated] at before
      exact (inv.timed uid seat seated).step h.effect moved user counted before
    · rename_i differs
      exact (h.moved uid seat seat' seated seated' differs).2
  · intro i n now
    cases counted'.symm.trans now
    exact (inv.calls i _ counted).wrote h.effect h.advances found counted up

/-- Another stage of one call. -/
theorem TimersKept.call (inv : TimersKept cid s) {i : Nat} {call : Receipt}
    (ok : ∀ n, s.db.heightOf cid = some n → ReceiptOk cid s.db n call) :
    TimersKept cid { s with calls := Function.update s.calls i call } := by
  refine ⟨inv.direct, inv.read, inv.timed, fun j n counted => ?_⟩
  change ReceiptOk cid s.db n (Function.update s.calls i call j)
  by_cases hj : j = i
  · subst hj
    rw [Function.update_self]
    exact ok n counted
  · rw [Function.update_of_ne hj]
    exact inv.calls j n counted

theorem timersKept_step {e : ReceiptEvent} (h : ReceiptStep cid s e t)
    (inv : TimersKept cid s) : TimersKept cid t := by
  obtain ⟨c, found, direct⟩ := inv.direct
  have counted : s.db.heightOf cid = some c.nextHeight := by rw [Db.heightOf, found]; rfl
  cases h with
  | write own other step =>
    cases step with
    | committed ok => exact timersKept_wrote inv (perform_watermarked ok own other found direct)
    | rolledBack => exact timersKept_wrote inv (.refl cid _)
  | read height idle seated positive =>
    apply inv.call
    intro n now
    cases counted.symm.trans now
    cases (seat_some seated).1.symm.trans found
    exact Nat.min_le_right ..
  | @check i uid clamped stage =>
    apply inv.call
    intro n now
    have ok := inv.calls i n now
    rw [stage] at ok
    refine ⟨ok, fun no seat seated present => ?_⟩
    exact unpending_timed no found direct seated present
  | @locked i uid clamped db' scan clock stage step =>
    have reached : ∀ n, s.db.heightOf cid = some n → clamped ≤ n := by
      intro n now
      have ok := inv.calls i n now
      rw [stage] at ok
      exact ok.1
    have kept : TimersKept cid (s.wrote cid db') := by
      cases step with
      | committed ok => exact timersKept_wrote inv (markReadLocked_watermarked ok found direct reached)
      | rolledBack => exact timersKept_wrote inv (.refl cid _)
    exact kept.call fun _ _ => trivial
  | @unlocked i uid clamped db' stage step =>
    have ok := inv.calls i _ counted
    rw [stage] at ok
    have kept : TimersKept cid (s.wrote cid db') := by
      cases step with
      | committed done =>
        refine timersKept_wrote inv (advanceDirectRead_watermarked done ?_ (ok.2 rfl))
        intro n now
        cases counted.symm.trans now
        exact ok.1
      | rolledBack => exact timersKept_wrote inv (.refl cid _)
    exact kept.call fun _ _ => trivial

theorem receiptInitial_kept (h : ReceiptInitial cid s) : TimersKept cid s := by
  refine ⟨h.direct, fun uid n _ => ?_, fun uid seat seated m hm own => ?_, fun i n _ => ?_⟩
  · cases seated : s.db.members.find (cid, uid) with
    | none => simp [Db.watermark, seated]
    | some seat =>
      have unread := h.unread seat (Table.find_mem seated) (congrArg Prod.fst (Table.find_key seated))
      rw [watermark_found seated, unread]
      exact Nat.zero_le n
  · exact absurd own (h.unwritten m hm)
  · rw [h.idle i]
    trivial

theorem reachable_timersKept
    (h : Library.Reachable (ReceiptInitial cid) (ReceiptStep cid) s) : TimersKept cid s := by
  apply h.invariant
  · intro start initial
    exact receiptInitial_kept initial
  · intro s e t step
    exact timersKept_step step

/-! ## No message read without its timer -/

theorem receipt_kept {e : ReceiptEvent} (h : ReceiptStep cid s e t)
    {id : MessageId} (found : s.db.messages.find id = some m) :
    ∃ m', t.db.messages.find id = some m' ∧ Amended m m' := by
  have step_kept : ∀ {op : Op} {db' : Db}, op.onMessages = true → Step s.db op db' →
      ∃ m', db'.messages.find id = some m' ∧ Amended m m' := by
    intro op db' own step
    cases step with
    | committed ok => exact (perform_effect ok own).1.kept found
    | rolledBack => exact ⟨m, found, .refl m⟩
  cases h with
  | write own _ step => exact step_kept own step
  | read | check => exact ⟨m, found, .refl m⟩
  | locked scan clock _ step => exact step_kept rfl step
  | unlocked _ step => exact step_kept rfl step

theorem receipts_kept {es : List ReceiptEvent} (h : Run (ReceiptStep cid) s es t) {id : MessageId}
    (found : s.db.messages.find id = some m) :
    ∃ m', t.db.messages.find id = some m' ∧ Amended m m' := by
  induction h with
  | nil => exact ⟨m, found, .refl m⟩
  | snoc _ last ih =>
    obtain ⟨m₁, found₁, amended₁⟩ := ih
    obtain ⟨m₂, found₂, amended₂⟩ := receipt_kept last found₁
    exact ⟨m₂, found₂, amended₁.trans amended₂⟩

theorem read_starts_timer {s : ReceiptState}
    (h : Library.Reachable (ReceiptInitial cid) (ReceiptStep cid) s) :
    (∀ uid seat, s.db.members.find (cid, uid) = some seat → ∀ m ∈ s.db.messages.rows,
      m.conversationID = cid → m.deleted = false → m.revokedAt = none →
      m.burnDurationSec.any (0 < ·) = true → m.senderID.any (· ≠ uid) = true →
      seat.joinedAt ≤ m.createdAt → m.height ≤ seat.lastReadHeight → s.floors uid < m.height →
      m.burnExpiresAt.isSome = true) ∧
    ∀ es t, Run (ReceiptStep cid) s es t → ∀ id m, s.db.messages.find id = some m →
      m.burnExpiresAt.isSome = true →
      ∃ m', t.db.messages.find id = some m' ∧ m'.burnExpiresAt = m.burnExpiresAt := by
  have inv := reachable_timersKept h
  constructor
  · intro uid seat seated m hm own live shown duration sender joined low above
    have user : seat.userID = uid := congrArg Prod.snd (Table.find_key seated)
    exact inv.timed uid seat seated m hm own above low ⟨by rwa [user], joined, duration, live, shown⟩
  · intro es t run id m found set
    obtain ⟨m', found', amended⟩ := receipts_kept run found
    exact ⟨m', found', amended.burning set⟩

/-! ## One message, one receipt -/

def pairSeat (userID : UserId) (burnDurationSec : Option Nat) : ChatMember where
  conversationID := 1
  userID := userID
  role := .member
  silencedAt := none
  silencedUntil := none
  burnDurationSec := burnDurationSec
  burnStartedAt := none
  lastReadHeight := 0
  clearedBeforeHeight := 0
  joinedAt := 0
  leftAt := none

/-- Two users, the first of whom sends messages of one second's life. -/
def pair : Db where
  conversations :=
    ⟨[{ id := 1, type := .direct, directKey := some (1, 2), circleID := none, ownerID := none,
        muteAllAt := none, memberCanInvite := true, qrJoinEnabled := true, cardJoinEnabled := true,
        joinApprovalRequired := true, nextHeight := 0, nextRevision := 0,
        clearedBeforeHeight := 0 }], by decide⟩
  members := ⟨[pairSeat 1 (some 1), pairSeat 2 none], by decide⟩
  circleMembers := .empty
  blocks := []
  messages := .empty
  reactions := .empty

def pairSend (id : MessageId) (d : JsString) (now : Time) : SendRequest where
  id := id
  conversationId := 1
  senderUserId := 1
  type := .text
  content := []
  d := d
  requestHash := d
  replyToID := none
  policySec := 0
  roomActive := true
  now := now

def unread : ReceiptState := ⟨pair, fun _ => .idle, fun _ => 0⟩

theorem unread_initial : ReceiptInitial 1 unread := by
  refine ⟨⟨_, rfl, rfl⟩, ?_, ?_, fun _ => rfl⟩
  · intro m hm
    cases hm
  · decide

/-- The message sent and read. -/
def sentOne : Db := after pair (.sendMessage false (pairSend 1 [100] 5))

def readOne : Db := after sentOne (.markReadLocked .asStored 2 1 1 fun _ => 9)

theorem run_readOne : ∃ s es, Run (ReceiptStep 1) unread es s ∧ s.db = readOne ∧ s.floors 2 = 0 := by
  have written : (unread.wrote 1 sentOne).floors 2 = 0 := by decide
  generalize hw : unread.wrote 1 sentOne = w at written
  have db : w.db = sentOne := by rw [← hw]; rfl
  have sent : ReceiptStep 1 unread (.write (.sendMessage false (pairSend 1 [100] 5))) w := by
    rw [← hw]
    exact .write rfl rfl (step_after _ _)
  have read : ReceiptStep 1 w (.read 0 2 1)
      { w with calls := Function.update w.calls 0 (.clamped 2 1) } := by
    obtain ⟨c, m, seated, ceiling⟩ : ∃ c m, w.db.requireMembershipSeat 1 2 = some (c, m) ∧
        min 1 (receiptCeiling c) = 1 := by
      rw [db]
      exact ⟨_, _, rfl, rfl⟩
    have idle : w.calls 0 = .idle := by rw [← hw]; rfl
    have step : ReceiptStep 1 w (.read 0 2 1) _ := .read 1 idle seated (by omega)
    rwa [ceiling] at step
  have check : ReceiptStep 1 { w with calls := Function.update w.calls 0 (.clamped 2 1) } (.check 0)
      { w with
        calls := Function.update (Function.update w.calls 0 (.clamped 2 1)) 0
          (.answered 2 1 (w.db.pendingReadBurnTimers 1 2 1)) } := by
    have clamped := Function.update_self (0 : Nat) (Receipt.clamped 2 1) w.calls
    exact .check clamped
  have waits : w.db.pendingReadBurnTimers 1 2 1 = true := by
    rw [db]
    decide
  rw [waits] at check
  have answer := Function.update_self (0 : Nat) (Receipt.answered 2 1 true)
    (Function.update w.calls 0 (.clamped 2 1))
  have step := step_after w.db (.markReadLocked .asStored 2 1 1 fun _ => 9)
  have last : ReceiptStep 1 { w with
      calls := Function.update (Function.update w.calls 0 (.clamped 2 1)) 0 (.answered 2 1 true) }
      (.receipt 0) _ := .locked .asStored (fun _ => 9) answer step
  refine ⟨_, _, .cons sent (.cons read (.cons check (.single last))), ?_, ?_⟩
  · change after w.db _ = _
    rw [db]
    rfl
  · change (if _ then _ else _) = 0
    rw [db, written]
    split <;> rfl

/-- The message that was read has its timer. -/
theorem read_starts_timer_once :
    ∃ m ∈ readOne.messages.rows, m.id = 1 ∧ m.burnExpiresAt.isSome = true := by
  obtain ⟨s, es, run, db, floor⟩ := run_readOne
  have started := (read_starts_timer ⟨unread, es, unread_initial, run⟩).1 2
  rw [db, floor] at started
  exact ⟨_, List.mem_singleton.mpr rfl, rfl, started _ rfl _ (List.mem_singleton.mpr rfl) rfl rfl
    rfl (by decide) (by decide) (by decide) (by decide) (by decide)⟩

end CircleBackend.Chat
