import CircleBackend.Chat.Model

/-!
# Operations on a conversation

Each operation is one transaction that holds the lock on the conversation's row
from its first statement, so it reads the state it writes to. What a request
reads before the lock is either a column that never changes, and is read again
here, or an argument.

Checks that only refuse a request (forbidden words, payload shapes) are left
out: a refused request leaves the rows as they were.
-/

namespace CircleBackend.Chat

open Library
open Session (UserId)

/-! ## Who may speak -/

def standaloneGroupRole (ownerID : Option UserId) (seat : ChatMember) : Option GroupRole :=
  if seat.leftAt.isSome then none
  else if ownerID = some seat.userID then some .owner
  else some (match seat.role with | .admin => .admin | .member => .member)

def circleGroupRole (membership : Option CircleMember) : Option GroupRole :=
  (membership.filter (·.active)).map (·.role)

def isGroupManager (role : Option GroupRole) : Bool := role = some .owner || role = some .admin

def isSeatSilenced (seat : ChatMember) (now : Time) : Bool :=
  seat.silencedAt.isSome && seat.silencedUntil.all (now < ·)

/-- The role that exempts from `muteAllAt`. -/
def Db.speechRole (db : Db) (c : ChatConversation) (seat : ChatMember) : Option GroupRole :=
  match c.circleID with
  | some circleID => circleGroupRole (db.circleMembers.find (seat.userID, circleID))
  | none => standaloneGroupRole c.ownerID seat

def Db.speechRefusal (db : Db) (c : ChatConversation) (seat : ChatMember) (now : Time) :
    Option Fault :=
  if c.type ≠ .group then none
  else if isSeatSilenced seat now then some (.refused "你已被禁言" .memberSilenced)
  else if c.muteAllAt.isNone then none
  else if isGroupManager (db.speechRole c seat) then none
  else some (.refused "该群已被禁言" .conversationMuted)

def peerOf (directKey : Option (UserId × UserId)) (userId : UserId) : Option UserId :=
  directKey.bind fun pair => [pair.1, pair.2].find? (· ≠ userId)

def Db.directRefusal (db : Db) (c : ChatConversation) (userId : UserId) : Option Fault :=
  match peerOf c.directKey userId with
  | none => none
  | some peer =>
    if c.type = .direct ∧ (db.blocks.contains (userId, peer) ∨ db.blocks.contains (peer, userId))
    then some (.refused "对方不可用" .blocked)
    else none

/-- `assertStillSendable`: the seat under the lock. `roomActive` is what the room
of a temporary chat answers. -/
def Db.assertStillSendable (db : Db) (c : ChatConversation) (userId : UserId) (roomActive : Bool)
    (now : Time) : Except Fault ChatMember :=
  match (db.members.find (c.id, userId)).filter (·.leftAt.isNone) with
  | none => .error (.refused "不是会话成员" .notMember)
  | some seat =>
    match db.speechRefusal c seat now with
    | some fault => .error fault
    | none =>
      match db.directRefusal c userId with
      | some fault => .error fault
      | none =>
        if c.type = .temp ∧ !roomActive then
          .error (.refused "临时聊天已结束" .conversationNotFound)
        else .ok seat

/-! ## New messages -/

/-- A message before it has a height. -/
structure Draft where
  id : MessageId
  conversationID : ConversationId
  senderID : Option UserId
  type : MessageType
  content : Content
  clientMessageId : Option JsString
  requestHash : Option JsString
  replyToID : Option MessageId
  burnDurationSec : Option Nat
  burnExpiresAt : Option Time
  createdAt : Time

def Draft.row (d : Draft) (height : Nat) : ChatMessage where
  id := d.id
  conversationID := d.conversationID
  height := height
  senderID := d.senderID
  type := d.type
  content := d.content
  clientMessageId := d.clientMessageId
  requestHash := d.requestHash
  replyToID := d.replyToID
  burnDurationSec := d.burnDurationSec
  burnExpiresAt := d.burnExpiresAt
  deleted := false
  deletedAt := none
  revokedAt := none
  revokedBy := none
  editedAt := none
  contentHistory := none
  revision := 0
  createdAt := d.createdAt

/-- The row under the unique index `(conversationID, senderID, clientMessageId)`. -/
def Db.sentAs (db : Db) (conversationId : ConversationId) (senderID : UserId) (d : JsString) :
    Option ChatMessage :=
  db.messages.rows.find? fun m =>
    m.conversationID = conversationId && m.senderID = some senderID &&
      m.clientMessageId = some d

/-- Under the lock: the next height, the row and the counter. Instances of the
previous release still move the counter before they write the row. -/
def Db.appendMessage (db : Db) (counterFirst : Bool) (c : ChatConversation) (d : Draft) :
    Except Fault (ChatMessage × Db) :=
  if counterFirst then
    db.advanceConversation c (c.nextHeight + 1) >>= fun db =>
      db.createMessage (d.row (c.nextHeight + 1))
  else
    db.createMessage (d.row (c.nextHeight + 1)) >>= fun (row, db) =>
      db.advanceConversation c (c.nextHeight + 1) >>= fun db => .ok (row, db)

/-- `Math.min` over the durations above zero. -/
def shortest (durations : List Nat) : Option Nat := (durations.filter (0 < ·)).min?

/-- `replyToID` is what `resolveReplyTarget` answered and `policySec` the sender's
self-destruct policy, both read before the lock. -/
structure SendRequest where
  id : MessageId
  conversationId : ConversationId
  senderUserId : UserId
  type : MessageType
  content : Content
  d : JsString
  requestHash : JsString
  replyToID : Option MessageId
  policySec : Nat
  roomActive : Bool
  now : Time

def SendRequest.draft (r : SendRequest) (c : ChatConversation) (seat : ChatMember) : Draft :=
  let burnDurationSec :=
    if c.type = .temp then none else shortest [seat.burnDurationSec.getD 0, r.policySec]
  { id := r.id
    conversationID := r.conversationId
    senderID := some r.senderUserId
    type := r.type
    content := r.content
    clientMessageId := some r.d
    requestHash := some r.requestHash
    replyToID := r.replyToID
    burnDurationSec := burnDurationSec
    burnExpiresAt :=
      if c.type = .direct then none else burnDurationSec.map fun sec => r.now + sec * 1000
    createdAt := r.now }

/-- A row from before the hashes compares with anything. -/
def ChatMessage.sameSendRequest (existing : ChatMessage) (requestHash : JsString) : Bool :=
  existing.requestHash.all (· = requestHash)

structure SendResult where
  row : ChatMessage
  reused : Bool
  deriving DecidableEq, Repr

/-- What a request finds under its own key. -/
def ChatMessage.replayed (existing : ChatMessage) (requestHash : JsString) :
    Except Fault SendResult :=
  if existing.sameSendRequest requestHash then .ok ⟨existing, true⟩
  else .error (.refused "这个消息标识已经用于另一条内容" .deliveryIdConflict)

def Db.sendMessage (db : Db) (counterFirst : Bool) (r : SendRequest) :
    Except Fault (SendResult × Db) :=
  match db.conversations.find r.conversationId with
  | none => .error (.refused "会话不存在" .conversationNotFound)
  | some c =>
    db.assertStillSendable c r.senderUserId r.roomActive r.now >>= fun seat =>
      match db.sentAs r.conversationId r.senderUserId r.d with
      | some existing => existing.replayed r.requestHash >>= fun sent => .ok (sent, db)
      | none =>
        db.appendMessage counterFirst c (r.draft c seat) >>= fun (row, db) => .ok (⟨row, false⟩, db)

/-- `insertServerMessage`. -/
def Db.insertServerMessage (db : Db) (counterFirst : Bool) (id : MessageId)
    (conversationId : ConversationId) (senderID : Option UserId) (type : MessageType)
    (content : Content) (clientMessageId : Option JsString) (now : Time) :
    Except Fault (SendResult × Db) :=
  match db.conversations.find conversationId with
  | none => .error (.raised "conversation not found")
  | some c =>
    let key := senderID.bind fun _ => clientMessageId
    match senderID.bind fun sender => key.bind fun d => db.sentAs conversationId sender d with
    | some existing => .ok (⟨existing, true⟩, db)
    | none =>
      db.appendMessage counterFirst c
        { id := id
          conversationID := conversationId
          senderID := senderID
          type := type
          content := content
          clientMessageId := key
          requestHash := none
          replyToID := none
          burnDurationSec := none
          burnExpiresAt := none
          createdAt := now } >>= fun (row, db) => .ok (⟨row, false⟩, db)

/-- `insertSystemMessageAfterLockedConversationInTx`, with the row that was locked. -/
def Db.insertSystemMessage (db : Db) (c : ChatConversation) (id : MessageId) (content : Content)
    (now : Time) : Except Fault Db :=
  db.appendMessage false c
    { id := id
      conversationID := c.id
      senderID := none
      type := .system
      content := content
      clientMessageId := none
      requestHash := none
      replyToID := none
      burnDurationSec := none
      burnExpiresAt := none
      createdAt := now } >>= fun (_, db) => .ok db

def Db.autoReply (db : Db) (counterFirst : Bool) (id : MessageId) (conversationId : ConversationId)
    (responderID : UserId) (content : Content) (clientMessageId : JsString) (policySec : Nat)
    (now : Time) : Except Fault Db :=
  match db.conversations.find conversationId with
  | none => .ok db
  | some c =>
    match db.sentAs conversationId responderID clientMessageId with
    | some _ => .ok db
    | none =>
      let seat := db.members.find (conversationId, responderID)
      db.appendMessage counterFirst c
        { id := id
          conversationID := conversationId
          senderID := some responderID
          type := .text
          content := content
          clientMessageId := some clientMessageId
          requestHash := none
          replyToID := none
          burnDurationSec := shortest [(seat.bind (·.burnDurationSec)).getD 0, policySec]
          burnExpiresAt := none
          createdAt := now } >>= fun (_, db) => .ok db

/-! ## Changes of a message -/

/-- The message a request names, when it is one of the conversation. Its id, its
conversation, its sender and its time of creation never change, so it does not
matter that they are read before the lock. What can still change by then,
`deleted` and `revokedAt`, is left to the statement under the lock. -/
def Db.findMessage (db : Db) (conversationId : ConversationId) (messageId : MessageId) :
    Except Fault ChatMessage :=
  match (db.messages.find messageId).filter (·.conversationID = conversationId) with
  | none => .error (.refused "消息不存在" .messageNotFound)
  | some row => .ok row

def ChatMessage.revokeRefusal (row : ChatMessage) (userId : UserId) (moderator : Bool)
    (now : Time) : Option Fault :=
  if row.senderID = none then some (.refused "系统消息不可撤回" .revokeForbidden)
  else if row.senderID = some userId then
    if chatRevokeWindowMs + row.createdAt < now ∧ !moderator then
      some (.refused "超出可撤回时间" .revokeWindowExpired)
    else none
  else if !moderator then some (.refused "无权撤回该消息" .revokeForbidden)
  else none

/-- `moderator` is what `isGroupModerator` answers. -/
def Db.revokeMessage (db : Db) (userId : UserId) (moderator : Bool)
    (conversationId : ConversationId) (messageId : MessageId) (now : Time) : Except Fault Db :=
  db.findMessage conversationId messageId >>= fun row =>
    match row.revokeRefusal userId moderator now with
    | some fault => .error fault
    | none =>
      db.updateMessages .asStored (fun m => m.id = messageId && m.revokedAt.isNone)
        fun m => { m with content := [], revokedAt := some now, revokedBy := some userId }

def ChatMessage.editRefusal (row : ChatMessage) (userId : UserId) (now : Time) : Option Fault :=
  if row.senderID ≠ some userId then some (.refused "只能编辑自己的消息" .editForbidden)
  else if row.type ≠ .text ∧ row.type ≠ .quote then
    some (.refused "该类型消息不支持编辑" .editForbidden)
  else if chatEditWindowMs + row.createdAt < now then
    some (.refused "超出可编辑时间" .editWindowExpired)
  else none

/-- Read before the lock and again under it. -/
def ChatMessage.gone (current : ChatMessage) (now : Time) : Bool :=
  current.deleted || current.revokedAt.isSome || current.burnExpiresAt.any (· ≤ now)

def Db.editMessage (db : Db) (userId : UserId) (conversationId : ConversationId)
    (messageId : MessageId) (text : JsString) (roomActive : Bool) (now : Time) : Except Fault Db :=
  match db.conversations.find conversationId with
  | none => .error (.refused "会话不存在" .conversationNotFound)
  | some c =>
    db.assertStillSendable c userId roomActive now >>= fun _ =>
      db.findMessage conversationId messageId >>= fun current =>
        if current.gone now then .error (.refused "消息不存在" .messageNotFound)
        else
          match current.editRefusal userId now with
          | some fault => .error fault
          | none =>
            let history := current.contentHistory.getD [] ++ [current.content]
            db.updateMessages .asStored
              (fun m => m.id = messageId && m.revokedAt.isNone && !m.deleted)
              fun m =>
                { m with
                  content := current.content.withText text
                  editedAt := some now
                  contentHistory := some history }

/-- One batch of `sweepConversation`; `messageIds` were read before the lock. -/
def Db.sweepConversation (db : Db) (scan : Scan) (messageIds : List MessageId) (now : Time) :
    Except Fault Db :=
  db.updateMessages scan
    (fun m => messageIds.contains m.id && !m.deleted && m.burnExpiresAt.any (· ≤ now))
    fun m =>
      { m with deleted := true, deletedAt := some now, content := [], contentHistory := some [] }

/-- `createMany` with `skipDuplicates`, then the trigger. -/
def Db.createReaction (db : Db) (reaction : ChatMessageReaction) : Except Fault Db :=
  match db.reactions.insert reaction with
  | none => .ok db
  | some reactions => { db with reactions := reactions }.bumpRevision reaction.messageID

/-- `deleteMany`, then the trigger for each row that went. -/
def Db.deleteReaction (db : Db) (reaction : ChatMessageReaction) : Except Fault Db :=
  let matching := fun r : ChatMessageReaction => decide (r.key = reaction.key)
  (db.reactions.select matching).foldlM (fun db r => db.bumpRevision r.messageID)
    { db with reactions := db.reactions.deleteMany matching }

def Db.toggleReaction (db : Db) (userId : UserId) (conversationId : ConversationId)
    (messageId : MessageId) (emoji : JsString) (add : Bool) (roomActive : Bool) (now : Time) :
    Except Fault Db :=
  match db.conversations.find conversationId with
  | none => .error (.refused "会话不存在" .conversationNotFound)
  | some c =>
    db.assertStillSendable c userId roomActive now >>= fun _ =>
      db.findMessage conversationId messageId >>= fun row =>
        if row.deleted then .error (.refused "消息不存在" .messageNotFound)
        else if row.revokedAt.isSome then .ok db
        else if add then db.createReaction ⟨messageId, userId, emoji⟩
        else db.deleteReaction ⟨messageId, userId, emoji⟩

/-! ## Reading and clearing -/

/-- The messages a first read starts the timer of. -/
def ChatMessage.pendingReadBurn (m : ChatMessage) (c : ChatConversation) (reader : ChatMember)
    (height : Nat) : Bool :=
  m.conversationID = c.id && m.height ≤ height && c.type = .direct && reader.leftAt.isNone &&
    max reader.clearedBeforeHeight c.clearedBeforeHeight < m.height &&
    m.senderID.any (· ≠ reader.userID) && reader.joinedAt ≤ m.createdAt &&
    m.burnDurationSec.any (0 < ·) && m.burnExpiresAt.isNone && !m.deleted && m.revokedAt.isNone

/-- `clock` is `clock_timestamp()` as each row is written. -/
def Db.startReadBurnTimers (db : Db) (scan : Scan) (conversationId : ConversationId)
    (userId : UserId) (height : Nat) (clock : MessageId → Time) : Except Fault Db :=
  match db.conversations.find conversationId, db.members.find (conversationId, userId) with
  | some c, some reader =>
    db.updateMessages scan (fun m => m.pendingReadBurn c reader height) fun m =>
      { m with burnExpiresAt := some (clock m.id + m.burnDurationSec.getD 0 * 1000) }
  | _, _ => .ok db

/-- `pendingReadBurnTimersQuery`. -/
def Db.pendingReadBurnTimers (db : Db) (conversationId : ConversationId) (userId : UserId)
    (height : Nat) : Bool :=
  match db.conversations.find conversationId, db.members.find (conversationId, userId) with
  | some c, some reader => db.messages.rows.any fun m => m.pendingReadBurn c reader height
  | _, _ => false

/-- `UPDATE "ChatMember" SET "lastReadHeight" = height` where it is lower. -/
def Db.advanceRead (db : Db) (conversationId : ConversationId) (selected : ChatMember → Bool)
    (height : Nat) : Db :=
  { db with
    members := db.members.updateMany
      (fun m => m.conversationID = conversationId && selected m && m.lastReadHeight < height)
      (fun m => { m with lastReadHeight := height }) fun _ => rfl }

/-- The transaction of `markRead` on a direct conversation. -/
def Db.markReadLocked (db : Db) (scan : Scan) (userId : UserId) (conversationId : ConversationId)
    (clamped : Nat) (clock : MessageId → Time) : Except Fault Db :=
  match (db.members.find (conversationId, userId)).filter (·.leftAt.isNone) with
  | none => .error (.refused "不在该会话中" .notMember)
  | some _ =>
    (db.advanceRead conversationId (fun m => m.userID = userId && m.leftAt.isNone)
      clamped).startReadBurnTimers scan conversationId userId clamped clock

/-- `advanceDirectReadWithoutTimers`: one statement, without the lock. -/
def Db.advanceDirectReadWithoutTimers (db : Db) (userId : UserId)
    (conversationId : ConversationId) (clamped : Nat) : Except Fault Db :=
  match (db.members.find (conversationId, userId)).filter (·.leftAt.isNone) with
  | none => .error (.refused "不在该会话中" .notMember)
  | some _ =>
    .ok (db.advanceRead conversationId (fun m => m.userID = userId && m.leftAt.isNone) clamped)

structure ClearRequestArgs where
  userId : UserId
  conversationId : ConversationId
  forEveryone : Bool
  targetHeight : Option Nat
  noticeId : MessageId
  notice : Content
  now : Time

/-- Whether the actor may clear the records of a whole group. -/
def Db.mayClearGroup (db : Db) (c : ChatConversation) (seat : ChatMember) : Bool :=
  match c.circleID with
  | some circleID => isGroupManager (circleGroupRole (db.circleMembers.find (seat.userID, circleID)))
  | none => c.ownerID = some seat.userID || seat.role = .admin

/-- The seats `clearHistory` writes. -/
def ClearRequestArgs.targets (r : ClearRequestArgs) (globalClear : Bool) (m : ChatMember) : Bool :=
  m.conversationID = r.conversationId && if globalClear then m.leftAt.isNone else m.userID = r.userId

def Db.raiseFloors (db : Db) (selected : ChatMember → Bool) (height : Nat) : Db :=
  { db with
    members := db.members.updateMany (fun m => selected m && m.clearedBeforeHeight < height)
      (fun m => { m with clearedBeforeHeight := height }) fun _ => rfl }

def Db.raiseConversationFloor (db : Db) (c : ChatConversation) (height : Nat) : Db :=
  { db with
    conversations := db.conversations.updateMany
      (fun row => row.id = c.id && row.clearedBeforeHeight < height)
      (fun row => { row with clearedBeforeHeight := height }) fun _ => rfl }

def Db.clearHistory (db : Db) (scan : Scan) (r : ClearRequestArgs) (clock : MessageId → Time) :
    Except Fault Db :=
  match db.conversations.find r.conversationId,
    (db.members.find (r.conversationId, r.userId)).filter (·.leftAt.isNone) with
  | some c, some seat =>
    let globalClear := r.forEveryone && c.type = .group
    if globalClear && !db.mayClearGroup c seat then
      .error (.refused "仅群主或管理员可清空全群记录" .managerOnly)
    else
      let clearThrough := min c.nextHeight (r.targetHeight.getD c.nextHeight)
      if clearThrough = 0 then .ok db
      else
        let selected := r.targets globalClear
        let readers := (db.members.select selected).map (·.userID)
        let started :=
          if c.type = .direct then
            readers.foldlM (fun db reader =>
              db.startReadBurnTimers scan r.conversationId reader clearThrough clock) db
          else .ok db
        started >>= fun timed =>
          let cleared := (timed.raiseFloors selected clearThrough).advanceRead r.conversationId
            selected clearThrough
          if !globalClear then .ok cleared
          else
            let changed := timed.members.rows.any fun m =>
              selected m && (m.clearedBeforeHeight < clearThrough || m.lastReadHeight < clearThrough)
            let floored := cleared.raiseConversationFloor c clearThrough
            if changed then floored.insertSystemMessage c r.noticeId r.notice r.now
            else .ok floored
  | _, _ => .error (.refused "不是会话成员" .notMember)

/-- `assertDirectMutationAllowed` and the type are read before the lock. -/
def Db.setBurnDuration (db : Db) (userId : UserId) (conversationId : ConversationId)
    (seconds : Option Nat) (noticeId : MessageId) (notice : Content) (now : Time) :
    Except Fault Db :=
  match db.conversations.find conversationId with
  | none => .error (.raised "conversation not found")
  | some c =>
    if c.type = .temp then .error (.refused "临时聊天不支持阅后即焚" .invalidPayload)
    else
      let normalized := seconds.filter (0 < ·)
      let members := db.members.updateMany
        (fun m => m.conversationID = conversationId && m.userID = userId)
        (fun m =>
          { m with burnDurationSec := normalized, burnStartedAt := normalized.map fun _ => now })
        fun _ => rfl
      { db with members := members }.insertSystemMessage c noticeId notice now

/-! ## Runs -/

/-- The last two stand for everything that writes the rows around the messages:
joining and leaving, roles, silences and blocks, and the settings of a
conversation. -/
inductive Op
  | sendMessage (counterFirst : Bool) (r : SendRequest)
  | insertServerMessage (counterFirst : Bool) (id : MessageId) (conversationId : ConversationId)
      (senderID : Option UserId) (type : MessageType) (content : Content)
      (clientMessageId : Option JsString) (now : Time)
  | autoReply (counterFirst : Bool) (id : MessageId) (conversationId : ConversationId)
      (responderID : UserId) (content : Content) (clientMessageId : JsString) (policySec : Nat)
      (now : Time)
  | revokeMessage (userId : UserId) (moderator : Bool) (conversationId : ConversationId)
      (messageId : MessageId) (now : Time)
  | editMessage (userId : UserId) (conversationId : ConversationId) (messageId : MessageId)
      (text : JsString) (roomActive : Bool) (now : Time)
  | sweepConversation (scan : Scan) (messageIds : List MessageId) (now : Time)
  | toggleReaction (userId : UserId) (conversationId : ConversationId) (messageId : MessageId)
      (emoji : JsString) (add : Bool) (roomActive : Bool) (now : Time)
  | markReadLocked (scan : Scan) (userId : UserId) (conversationId : ConversationId)
      (clamped : Nat) (clock : MessageId → Time)
  | advanceDirectReadWithoutTimers (userId : UserId) (conversationId : ConversationId)
      (clamped : Nat)
  | clearHistory (scan : Scan) (r : ClearRequestArgs) (clock : MessageId → Time)
  | setBurnDuration (userId : UserId) (conversationId : ConversationId) (seconds : Option Nat)
      (noticeId : MessageId) (notice : Content) (now : Time)
  | seats (members : Table ChatMember (ConversationId × UserId) fun m => (m.conversationID, m.userID))
      (circleMembers : Table CircleMember (UserId × Nat) fun m => (m.userID, m.circleID))
      (blocks : List (UserId × UserId))
  | configure (settings : ChatConversation)

def perform (db : Db) : Op → Except Fault Db
  | .sendMessage counterFirst r => db.sendMessage counterFirst r >>= fun (_, db) => .ok db
  | .insertServerMessage counterFirst id conversationId senderID type content key now =>
    db.insertServerMessage counterFirst id conversationId senderID type content key now >>=
      fun (_, db) => .ok db
  | .autoReply counterFirst id conversationId responderID content key policySec now =>
    db.autoReply counterFirst id conversationId responderID content key policySec now
  | .revokeMessage userId moderator conversationId messageId now =>
    db.revokeMessage userId moderator conversationId messageId now
  | .editMessage userId conversationId messageId text roomActive now =>
    db.editMessage userId conversationId messageId text roomActive now
  | .sweepConversation scan messageIds now => db.sweepConversation scan messageIds now
  | .toggleReaction userId conversationId messageId emoji add roomActive now =>
    db.toggleReaction userId conversationId messageId emoji add roomActive now
  | .markReadLocked scan userId conversationId clamped clock =>
    db.markReadLocked scan userId conversationId clamped clock
  | .advanceDirectReadWithoutTimers userId conversationId clamped =>
    db.advanceDirectReadWithoutTimers userId conversationId clamped
  | .clearHistory scan r clock => db.clearHistory scan r clock
  | .setBurnDuration userId conversationId seconds noticeId notice now =>
    db.setBurnDuration userId conversationId seconds noticeId notice now
  | .seats members circleMembers blocks =>
    .ok { db with members := members, circleMembers := circleMembers, blocks := blocks }
  | .configure settings =>
    match db.conversations.find settings.id with
    | none => .ok db
    | some c =>
      let row := { settings with nextHeight := c.nextHeight, nextRevision := c.nextRevision }
      .ok { db with conversations := db.conversations.put row }

inductive Step : Db → Op → Db → Prop
  | committed {db db' : Db} {op : Op} : perform db op = .ok db' → Step db op db'
  | rolledBack {db : Db} {op : Op} {fault : Fault} : perform db op = .error fault → Step db op db

/-- The state an operation leaves, whether it commits or not. -/
def after (db : Db) (op : Op) : Db :=
  match perform db op with
  | .ok db' => db'
  | .error _ => db

theorem step_after (db : Db) (op : Op) : Step db op (after db op) := by
  unfold after
  cases h : perform db op with
  | ok db' => exact .committed h
  | error fault => exact .rolledBack h

end CircleBackend.Chat
