import CircleBackend.Chat.Rows
import CircleBackend.Library.Paging
import Mathlib.Data.List.Sort

/-!
# Incremental sync

A client pages through the revisions of a conversation while others write to
it. One call reads three times: the seat with the conversation's row, then the
messages, then their reactions; anything may commit in between. The invariant
`Synced` says what the client's copy is worth at its cursor: every message not
changed since is held as it is, whatever the reads were interleaved with.
-/

namespace CircleBackend.Chat

open Library
open Session (UserId)

def syncPageMax : Nat := 200

/-! ## A page -/

/-- A message as it is delivered, without the names and links that are looked up
for it. -/
structure MessageDto where
  id : MessageId
  conversationId : ConversationId
  height : Nat
  type : MessageType
  content : Content
  sender : Option UserId
  replyToId : Option MessageId
  revokedAt : Option Time
  revokedBy : Option UserId
  deleted : Bool
  revision : Nat
  editedAt : Option Time
  burnDurationSec : Option Nat
  burnExpiresAt : Option Time
  d : Option JsString
  createdAt : Time
  reactions : List ChatMessageReaction
  deriving DecidableEq, Repr

/-- The key of the send goes to its author alone. -/
def toMessageDto (row : ChatMessage) (viewerId : UserId) (reactions : List ChatMessageReaction) :
    MessageDto where
  id := row.id
  conversationId := row.conversationID
  height := row.height
  type := row.type
  content := row.content
  sender := row.senderID
  replyToId := row.replyToID
  revokedAt := row.revokedAt
  revokedBy := row.revokedBy
  deleted := row.deleted
  revision := row.revision
  editedAt := row.editedAt
  burnDurationSec := row.burnDurationSec
  burnExpiresAt := row.burnExpiresAt
  d := if row.senderID = some viewerId then row.clientMessageId else none
  createdAt := row.createdAt
  reactions := reactions

def isChatMessageVisible (burnExpiresAt : Option Time) (now : Time) : Bool :=
  burnExpiresAt.all (now < ·)

/-- The seat of a member, its floor the stricter of the two. -/
def Db.requireMembershipSeat (db : Db) (conversationId : ConversationId) (userId : UserId) :
    Option (ChatConversation × ChatMember) :=
  match db.conversations.find conversationId,
    (db.members.find (conversationId, userId)).filter (·.leftAt.isNone) with
  | some c, some m =>
    some (c, { m with clearedBeforeHeight := max m.clearedBeforeHeight c.clearedBeforeHeight })
  | _, _ => none

def byRevision (a b : ChatMessage) : Prop := a.revision ≤ b.revision

instance : DecidableRel byRevision := fun a b => inferInstanceAs (Decidable (a.revision ≤ b.revision))
instance : Std.Total byRevision := ⟨fun a b => Nat.le_total a.revision b.revision⟩
instance : IsTrans ChatMessage byRevision := ⟨fun _ _ _ => Nat.le_trans⟩

/-- The rows of `(afterRevision, throughRevision]` in order. -/
def Db.changed (db : Db) (conversationId : ConversationId) (afterRevision throughRevision : Nat) :
    List ChatMessage :=
  (db.messages.select fun m =>
    m.conversationID = conversationId && afterRevision < m.revision &&
      m.revision ≤ throughRevision).insertionSort byRevision

def syncTake (limit : Nat) : Nat := min (max limit 1) syncPageMax

structure SyncPage where
  messages : List MessageDto
  throughRevision : Nat
  readHeight : Nat
  clearedBeforeHeight : Nat
  nextRevision : Nat
  hasMore : Bool
  resetRequired : Bool
  deriving DecidableEq, Repr

/-- The rest of `syncConversation`, on what its three reads answered: the seat,
the first `take + 1` rows at the time `now`, and the reactions. -/
def syncPage (userId : UserId) (c : ChatConversation) (member : ChatMember)
    (afterRevision limit : Nat) (rows : List ChatMessage) (now : Time)
    (reactionsOf : MessageId → List ChatMessageReaction) : SyncPage :=
  let throughRevision := conversationSyncRevision c
  if throughRevision < afterRevision then
    { messages := []
      throughRevision := throughRevision
      readHeight := member.lastReadHeight
      clearedBeforeHeight := member.clearedBeforeHeight
      nextRevision := throughRevision
      hasMore := false
      resetRequired := true }
  else
    let take := syncTake limit
    let hasMore := decide (take < rows.length)
    let page := if hasMore then rows.take take else rows
    let floor := member.clearedBeforeHeight
    let tombstones := page.filter fun row => row.deleted && floor < row.height
    let visible := page.filter fun row =>
      !row.deleted && floor < row.height && isChatMessageVisible row.burnExpiresAt now
    let live := visible.map fun row => toMessageDto row userId (reactionsOf row.id)
    let dead := tombstones.map fun row => toMessageDto { row with content := [] } userId []
    { messages := (live ++ dead).insertionSort fun a b => a.revision ≤ b.revision
      throughRevision := throughRevision
      readHeight := member.lastReadHeight
      clearedBeforeHeight := floor
      nextRevision := if hasMore then (page.getLast?.map (·.revision)).getD 0 else throughRevision
      hasMore := hasMore
      resetRequired := false }

/-! ## The client -/

/-- `clearedBeforeHeight` is the floor the last page came with. -/
structure Client where
  cursor : Nat
  clearedBeforeHeight : Nat
  copy : MessageId → Option MessageDto

def Client.empty : Client := ⟨0, 0, fun _ => none⟩

/-- How far a call is: nothing read, the seat read, the rows read too. -/
inductive Reading
  | idle
  | seated (c : ChatConversation) (member : ChatMember) (limit : Nat)
  | paged (c : ChatConversation) (member : ChatMember) (limit : Nat) (rows : List ChatMessage)
      (now : Time)

inductive SyncEvent
  | write (op : Op)
  | seat (limit : Nat)
  | rows (now : Time)
  | page (p : SyncPage)

section
variable (cid : ConversationId) (uid : UserId)

end

/-! ## What a page does to the copy -/

variable {m : ChatMessage} {op : Op} {all : List ChatMessage}

theorem toMessageDto_eq {m' : ChatMessage} (amended : Amended m m')
    (columns : m'.columns = m.columns) (revision : m'.revision = m.revision) (uid : UserId)
    (reactions : List ChatMessageReaction) :
    toMessageDto m' uid reactions = toMessageDto m uid reactions := by
  have content : m'.content = m.content := congrArg Columns.content columns
  have deleted : m'.deleted = m.deleted := congrArg Columns.deleted columns
  have revokedAt : m'.revokedAt = m.revokedAt := congrArg Columns.revokedAt columns
  have editedAt : m'.editedAt = m.editedAt := congrArg Columns.editedAt columns
  have burnExpiresAt : m'.burnExpiresAt = m.burnExpiresAt := congrArg Columns.burnExpiresAt columns
  have revokedBy : m'.revokedBy = m.revokedBy := by
    cases h : m.revokedAt with
    | none => exact amended.unrevoked (revokedAt.trans h)
    | some t => exact (amended.revoked (by rw [h]; rfl)).2
  simp only [toMessageDto, amended.id, amended.conversationID, amended.height, amended.senderID,
    amended.type, amended.clientMessageId, amended.replyToID, amended.burnDurationSec,
    amended.createdAt, content, deleted, revokedAt, editedAt, burnExpiresAt, revokedBy, revision]

/-- How the messages of two states relate when writers come between. -/
structure Moved (db db' : Db) : Prop where
  sync : ∀ cid, db.syncRevision cid ≤ db'.syncRevision cid
  later : ∀ m ∈ db.messages.rows, ∃ m' ∈ db'.messages.rows,
    m'.id = m.id ∧ m'.conversationID = m.conversationID ∧ m'.height = m.height ∧
      m.revision ≤ m'.revision
  same : ∀ m' ∈ db'.messages.rows, m'.revision ≤ db.syncRevision m'.conversationID →
    ∃ m ∈ db.messages.rows, m.id = m'.id ∧ m.conversationID = m'.conversationID ∧
      db'.reactionsOf m.id = db.reactionsOf m.id ∧
      ∀ uid reactions, toMessageDto m' uid reactions = toMessageDto m uid reactions

theorem Moved.refl (db : Db) : Moved db db :=
  ⟨fun _ => Nat.le_refl _, fun m hm => ⟨m, hm, rfl, rfl, rfl, Nat.le_refl _⟩,
    fun m hm _ => ⟨m, hm, rfl, rfl, rfl, fun _ _ => rfl⟩⟩

variable {db db' : Db} {c : ChatConversation} {member : ChatMember} {client : Client}
variable {clock now : Time} {s t : SyncState} {limit : Nat} {p : SyncPage}

theorem revision_le_sync (logged : Logged db)
    (hm : m ∈ db.messages.rows) : m.revision ≤ db.syncRevision m.conversationID := by
  obtain ⟨log, logs⟩ := logged m.conversationID
  rw [← logs.mark]
  exact log.bounded _ _ ((logs.entry m.id).trans (Db.entry_own (Table.mem_find hm)))

theorem sync_mono (logged : Logged db) (h : Amends db db') (cid : ConversationId) :
    db.syncRevision cid ≤ db'.syncRevision cid := by
  obtain ⟨ids, -, grown⟩ := h
  obtain ⟨log, logs⟩ := logged cid
  obtain ⟨_, later, -, grew, logs'⟩ := grown cid log logs
  rw [← logs.mark, ← logs'.mark]
  exact grew.mark_le

theorem step_moved (logged : Logged db) (own : op.onMessages = true)
    (h : Step db op db') : Moved db db' := by
  have amends := step_amends h
  have faithful := amends.faithful logged
  cases h with
  | rolledBack => exact .refl db
  | committed ok =>
    have effect := (perform_effect ok own).1
    refine ⟨sync_mono logged amends, fun m hm => ?_, fun m' hm' low => ?_⟩
    · obtain ⟨m', found', own', revision⟩ := faithful.kept m.id m (Table.mem_find hm)
      obtain ⟨n, found, amended⟩ := effect.kept (Table.mem_find hm)
      cases found.symm.trans found'
      have bound := revision_le_sync logged hm
      refine ⟨m', Table.find_mem found', Table.find_key found', own', amended.height, ?_⟩
      split at revision
      · exact Nat.le_of_eq revision.symm
      · omega
    · cases found : db.messages.find m'.id with
      | none =>
        have := faithful.new m'.id m' found (Table.mem_find hm')
        omega
      | some m =>
        obtain ⟨n, found', own', revision⟩ := faithful.kept m'.id m found
        cases found'.symm.trans (Table.mem_find hm')
        obtain ⟨n, found', amended⟩ := effect.kept found
        cases found'.symm.trans (Table.mem_find hm')
        split at revision
        · rename_i shown
          have reactions : db'.reactionsOf m'.id = db.reactionsOf m.id :=
            congrArg Shown.reactions shown
          rw [amended.id] at reactions
          exact ⟨m, Table.find_mem found, amended.id.symm, own'.symm, reactions,
            toMessageDto_eq amended (congrArg Shown.columns shown) revision⟩
        · rw [← own'] at revision
          omega

/-! ## The invariant -/

section
variable (cid : ConversationId) (uid : UserId)

/-- The floor a call would read now. -/
def Db.floorOf (db : Db) : Nat :=
  ((db.requireMembershipSeat cid uid).map fun seat => seat.2.clearedBeforeHeight).getD 0

/-- What the client has of a message it is up to date with. Past its expiry a
message is no longer delivered, and what the client had of it stays until the
tombstone. -/
def Holds (db : Db) (client : Client) (clock : Time) (m : ChatMessage) : Prop :=
  if m.deleted then client.copy m.id = none
  else client.copy m.id = some (toMessageDto m uid (db.reactionsOf m.id)) ∨
    isChatMessageVisible m.burnExpiresAt clock = false

structure Held (db : Db) (client : Client) (clock : Time) : Prop where
  current : ∀ m ∈ db.messages.rows, m.conversationID = cid → m.revision ≤ client.cursor →
    client.clearedBeforeHeight < m.height → Holds uid db client clock m
  known : ∀ id dto, client.copy id = some dto → dto.deleted = false ∧
    ∃ m ∈ db.messages.rows, m.id = id ∧ m.conversationID = cid ∧ m.height = dto.height

/-- What the first read of a call is still worth. -/
structure SeatRead (db : Db) (client : Client) (c : ChatConversation) (member : ChatMember) :
    Prop where
  after : client.cursor ≤ conversationSyncRevision c
  through : conversationSyncRevision c ≤ db.syncRevision cid
  floor : client.clearedBeforeHeight ≤ member.clearedBeforeHeight
  raised : member.clearedBeforeHeight ≤ db.floorOf cid uid

/-- What the second read is still worth: the rows of the range as they stand now,
except that some have moved out of it. -/
structure RowsRead (db : Db) (after through : Nat) (all : List ChatMessage) : Prop where
  sorted : all.Pairwise fun a b => a.revision ≤ b.revision
  distinct : ∀ a ∈ all, ∀ b ∈ all, a.revision = b.revision → a = b
  ids : (all.map (·.id)).Nodup
  range : ∀ r ∈ all, after < r.revision ∧ r.revision ≤ through
  source : ∀ r ∈ all, ∃ m ∈ db.messages.rows,
    m.id = r.id ∧ m.conversationID = cid ∧ m.height = r.height ∧ r.revision ≤ m.revision
  complete : ∀ m ∈ db.messages.rows, m.conversationID = cid → after < m.revision →
    m.revision ≤ through →
    ∃ r ∈ all, ∀ uid reactions, toMessageDto m uid reactions = toMessageDto r uid reactions

end

variable {cid : ConversationId} {uid : UserId}

theorem seat_some (h : db.requireMembershipSeat cid uid = some (c, member)) :
    db.conversations.find cid = some c ∧ member.clearedBeforeHeight = db.floorOf cid uid := by
  refine ⟨?_, by simp [Db.floorOf, h]⟩
  unfold Db.requireMembershipSeat at h
  split at h
  · cases h
    assumption
  · cases h

theorem Advances.floorOf (h : Advances db db') : db.floorOf cid uid ≤ db'.floorOf cid uid := by
  unfold Db.floorOf Db.requireMembershipSeat
  cases found : db.conversations.find cid with
  | none => simp
  | some c =>
    obtain ⟨c', found', settled⟩ := h.conversation cid c found
    cases seat : db.members.find (cid, uid) with
    | none => simp
    | some m =>
      obtain ⟨m', seat', moved⟩ := h.seat (cid, uid) m seat
      rw [found', seat']
      by_cases present : m.leftAt.isNone = true
      · have present' : m'.leftAt.isNone = true := moved.leftAt ▸ present
        have := settled.clearedBeforeHeight
        have := moved.clearedBeforeHeight
        simp only [Option.filter, present, present', ↓reduceIte, Option.map_some, Option.getD_some]
        omega
      · simp [Option.filter, present]

/-- What was read stays worth as much whatever is written meanwhile. -/
theorem RowsRead.moved {after through : Nat}
    (h : RowsRead cid db after through all) (moved : Moved db db')
    (bound : through ≤ db.syncRevision cid) : RowsRead cid db' after through all := by
  refine { h with source := fun r hr => ?_, complete := fun m' hm' own low up => ?_ }
  · obtain ⟨m, hm, id, own, height, up⟩ := h.source r hr
    obtain ⟨m', hm', id', own', height', up'⟩ := moved.later m hm
    exact ⟨m', hm', id'.trans id, own'.trans own, height'.trans height, Nat.le_trans up up'⟩
  · obtain ⟨m, hm, -, own', -, same⟩ := moved.same m' hm' (own ▸ Nat.le_trans up bound)
    have revision : m'.revision = m.revision := congrArg MessageDto.revision (same 0 [])
    obtain ⟨r, hr, equal⟩ := h.complete m hm (own'.trans own) (by omega) (by omega)
    exact ⟨r, hr, fun uid reactions => (same uid reactions).trans (equal uid reactions)⟩

theorem SeatRead.moved (h : SeatRead cid uid db client c member) (moved : Moved db db')
    (raised : db.floorOf cid uid ≤ db'.floorOf cid uid) : SeatRead cid uid db' client c member :=
  ⟨h.after, Nat.le_trans h.through (moved.sync cid), h.floor, Nat.le_trans h.raised raised⟩

theorem Held.moved (h : Held cid uid db client clock) (moved : Moved db db')
    (cursor : client.cursor ≤ db.syncRevision cid) : Held cid uid db' client clock := by
  constructor
  · intro m' hm' own' low above
    obtain ⟨m, hm, id, conv, reactions, same⟩ := moved.same m' hm' (own' ▸ Nat.le_trans low cursor)
    have dto := same uid (db'.reactionsOf m'.id)
    have revision : m'.revision = m.revision := congrArg MessageDto.revision dto
    have height : m'.height = m.height := congrArg MessageDto.height dto
    have deleted : m'.deleted = m.deleted := congrArg MessageDto.deleted dto
    have expires : m'.burnExpiresAt = m.burnExpiresAt := congrArg MessageDto.burnExpiresAt dto
    have before := h.current m hm (conv.trans own') (revision ▸ low) (height ▸ above)
    unfold Holds at before ⊢
    rw [deleted, expires, dto, ← id, reactions]
    exact before
  · intro id dto held
    obtain ⟨live, m, hm, hid, conv, height⟩ := h.known id dto held
    obtain ⟨m', hm', hid', conv', height', -⟩ := moved.later m hm
    exact ⟨live, m', hm', hid'.trans hid, conv'.trans conv, height'.trans height⟩

/-- What a row of the page is delivered as. -/
def deliver (uid : UserId) (reactionsOf : MessageId → List ChatMessageReaction)
    (row : ChatMessage) : MessageDto :=
  if row.deleted then toMessageDto { row with content := [] } uid []
  else toMessageDto row uid (reactionsOf row.id)

theorem deliver_id (uid : UserId) (reactionsOf : MessageId → List ChatMessageReaction)
    (row : ChatMessage) : (deliver uid reactionsOf row).id = row.id := by
  unfold deliver
  split <;> rfl

theorem deliver_deleted (uid : UserId) (reactionsOf : MessageId → List ChatMessageReaction)
    (row : ChatMessage) : (deliver uid reactionsOf row).deleted = row.deleted := by
  unfold deliver
  split <;> rfl

/-- Whether it is delivered. -/
def delivered (floor : Nat) (now : Time) (row : ChatMessage) : Prop :=
  floor < row.height ∧ (row.deleted = true ∨ isChatMessageVisible row.burnExpiresAt now = true)

/-- The two kinds of message of a page of rows. -/
theorem mem_delivered {page : List ChatMessage} {uid : UserId} {floor : Nat}
    {reactionsOf : MessageId → List ChatMessageReaction} {dto : MessageDto} :
    dto ∈ ((page.filter fun row => !row.deleted && floor < row.height &&
          isChatMessageVisible row.burnExpiresAt now).map fun row =>
            toMessageDto row uid (reactionsOf row.id)) ++
        ((page.filter fun row => row.deleted && floor < row.height).map fun row =>
          toMessageDto { row with content := [] } uid []) ↔
      ∃ r ∈ page, delivered floor now r ∧ dto = deliver uid reactionsOf r := by
  simp only [List.mem_append, List.mem_map, List.mem_filter, delivered, deliver]
  constructor
  · rintro (⟨r, ⟨hr, shown⟩, rfl⟩ | ⟨r, ⟨hr, shown⟩, rfl⟩)
    · simp only [Bool.and_eq_true, Bool.not_eq_true', decide_eq_true_eq] at shown
      exact ⟨r, hr, ⟨shown.1.2, Or.inr shown.2⟩, by simp [shown.1.1]⟩
    · simp only [Bool.and_eq_true, decide_eq_true_eq] at shown
      exact ⟨r, hr, ⟨shown.2, Or.inl shown.1⟩, by simp [shown.1]⟩
  · rintro ⟨r, hr, ⟨above, shown⟩, rfl⟩
    cases gone : r.deleted with
    | true => exact Or.inr ⟨r, ⟨hr, by simp [gone, above]⟩, by simp [gone]⟩
    | false =>
      have visible := shown.resolve_left (by simp [gone])
      exact Or.inl ⟨r, ⟨hr, by simp [gone, above, visible]⟩, by simp⟩

theorem expired_later {burnExpiresAt : Option Time}
    (h : isChatMessageVisible burnExpiresAt clock = false) (after : clock ≤ now) :
    isChatMessageVisible burnExpiresAt now = false := by
  cases burnExpiresAt with
  | none => cases h
  | some t =>
    simp only [isChatMessageVisible, Option.all_some, decide_eq_false_iff_not, Nat.not_lt] at h ⊢
    exact Nat.le_trans h after

theorem Holds.later
    (h : Holds uid db client clock m) (after : clock ≤ now) : Holds uid db client now m := by
  unfold Holds at h ⊢
  split
  · rwa [if_pos ‹_›] at h
  · rw [if_neg ‹_›] at h
    exact h.imp_right fun expired => expired_later expired after

theorem Held.later
    (h : Held cid uid db client clock) (after : clock ≤ now) : Held cid uid db client now :=
  ⟨fun m hm own low above => (h.current m hm own low above).later after, h.known⟩

def SyncEvent.hasMore : SyncEvent → Bool
  | .page p => p.hasMore
  | _ => false

def SyncEvent.writes : SyncEvent → Bool
  | .write _ => true
  | _ => false

/-- The row a call has read, while nobody writes. -/
def Reading.conversation : Reading → Option ChatConversation
  | .idle => none
  | .seated c .. => some c
  | .paged c .. => some c

/-- A group with one more message, of one second's life. -/
def burning : Db :=
  after (after legacy (.setBurnDuration 1 1 (some 1) 3 [] 5)) (.sendMessage false
    { id := 4, conversationId := 1, senderUserId := 1, type := .text, content := [], d := [100],
      requestHash := [1], replyToID := none, policySec := 0, roomActive := true, now := 6 })

end CircleBackend.Chat
