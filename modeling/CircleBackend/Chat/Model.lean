import CircleBackend.Session.Model

/-!
# Messages and their revisions

The rows of a conversation, the two triggers that number its changes and the
statements that write them. What a statement raises ends its transaction and
rolls it back.
-/

namespace CircleBackend.Chat

open Library
open Session (UserId)

abbrev ConversationId := Nat
abbrev MessageId := Nat

def chatEditWindowMs : Nat := 2 * 60000
def chatRevokeWindowMs : Nat := 2 * 60000

def standaloneGroupMaxMembers : Nat := 200

/-- The greatest value of an `INTEGER` column. -/
def integerMax : Nat := 2147483647

inductive ChatConversationType
  | direct
  | group
  | temp
  | support
  deriving DecidableEq, Repr

/-- `lastMessageAt` and the pinned-message columns, which the same statements
write, count towards nothing here. -/
structure ChatConversation where
  id : ConversationId
  type : ChatConversationType
  directKey : Option (UserId × UserId)
  circleID : Option Nat
  ownerID : Option UserId
  muteAllAt : Option Time
  memberCanInvite : Bool
  qrJoinEnabled : Bool
  cardJoinEnabled : Bool
  joinApprovalRequired : Bool
  nextHeight : Nat
  nextRevision : Nat
  clearedBeforeHeight : Nat
  deriving DecidableEq, Repr

inductive ChatMemberRole
  | admin
  | member
  deriving DecidableEq, Repr

structure ChatMember where
  conversationID : ConversationId
  userID : UserId
  role : ChatMemberRole
  silencedAt : Option Time
  silencedUntil : Option Time
  burnDurationSec : Option Nat
  burnStartedAt : Option Time
  lastReadHeight : Nat
  clearedBeforeHeight : Nat
  joinedAt : Time
  leftAt : Option Time
  deriving DecidableEq, Repr

inductive GroupRole
  | owner
  | admin
  | member
  deriving DecidableEq, Repr

/-- `active` is `status = 'ACTIVE'`. -/
structure CircleMember where
  userID : UserId
  circleID : Nat
  role : GroupRole
  active : Bool
  deriving DecidableEq, Repr

/-- The value of a field of `content`: a string, or any other JSON as its text. -/
inductive Json
  | string (s : JsString)
  | other (text : JsString)
  deriving DecidableEq, Repr

/-- `content` is an object; its fields in order. -/
abbrev Content := List (JsString × Json)

/-- `'text'` -/
def textField : JsString := [116, 101, 120, 116]

/-- `{ ...previous, text }` -/
def Content.withText (previous : Content) (text : JsString) : Content :=
  if previous.any fun field => field.1 = textField then
    previous.map fun field => if field.1 = textField then (textField, .string text) else field
  else previous ++ [(textField, .string text)]

inductive MessageType
  | text
  | quote
  | system
  | other (name : JsString)
  deriving DecidableEq, Repr

structure ChatMessage where
  id : MessageId
  conversationID : ConversationId
  height : Nat
  senderID : Option UserId
  type : MessageType
  content : Content
  clientMessageId : Option JsString
  requestHash : Option JsString
  replyToID : Option MessageId
  burnDurationSec : Option Nat
  burnExpiresAt : Option Time
  deleted : Bool
  deletedAt : Option Time
  revokedAt : Option Time
  revokedBy : Option UserId
  editedAt : Option Time
  contentHistory : Option (List Content)
  revision : Nat
  createdAt : Time
  deriving DecidableEq, Repr

structure ChatMessageReaction where
  messageID : MessageId
  userID : UserId
  emoji : JsString
  deriving DecidableEq, Repr

def ChatMessageReaction.key (r : ChatMessageReaction) : MessageId × UserId × JsString :=
  (r.messageID, r.userID, r.emoji)

structure Db where
  conversations : Table ChatConversation ConversationId (·.id)
  members : Table ChatMember (ConversationId × UserId) (fun m => (m.conversationID, m.userID))
  circleMembers : Table CircleMember (UserId × Nat) (fun m => (m.userID, m.circleID))
  blocks : List (UserId × UserId)
  messages : Table ChatMessage MessageId (·.id)
  reactions : Table ChatMessageReaction (MessageId × UserId × JsString) ChatMessageReaction.key

inductive ChatErrorCode
  | conversationNotFound
  | notMember
  | messageNotFound
  | memberSilenced
  | conversationMuted
  | blocked
  | deliveryIdConflict
  | revokeWindowExpired
  | revokeForbidden
  | editWindowExpired
  | editForbidden
  | managerOnly
  | invalidPayload
  | groupMinMembers
  | groupFull
  | groupCircleManaged
  | groupOwnerOnly
  | groupManagerOnly
  | groupMemberNotFound
  | groupTargetProtected
  | groupSelfTarget
  | silenceDurationInvalid
  | peerNotFound
  | clearRequestHandled
  | groupJoinBlocked
  | groupAcceptRequired
  | groupInvitationInvalid
  | groupApplicationDisabled
  | groupFriendsOnly
  | groupInviteDisabled
  | groupQrJoinDisabled
  | inviteNotAllowed
  deriving DecidableEq, Repr

def ChatErrorCode.code : ChatErrorCode → String
  | .conversationNotFound => "CHAT_CONVERSATION_NOT_FOUND"
  | .notMember => "CHAT_NOT_MEMBER"
  | .messageNotFound => "CHAT_MESSAGE_NOT_FOUND"
  | .memberSilenced => "CHAT_MEMBER_SILENCED"
  | .conversationMuted => "CHAT_CONVERSATION_MUTED"
  | .blocked => "CHAT_BLOCKED"
  | .deliveryIdConflict => "CHAT_DELIVERY_ID_CONFLICT"
  | .revokeWindowExpired => "CHAT_REVOKE_WINDOW_EXPIRED"
  | .revokeForbidden => "CHAT_REVOKE_FORBIDDEN"
  | .editWindowExpired => "CHAT_EDIT_WINDOW_EXPIRED"
  | .editForbidden => "CHAT_EDIT_FORBIDDEN"
  | .managerOnly => "GROUP_MANAGER_ONLY"
  | .invalidPayload => "CHAT_INVALID_PAYLOAD"
  | .groupMinMembers => "CHAT_GROUP_MIN_MEMBERS"
  | .groupFull => "CHAT_GROUP_FULL"
  | .groupCircleManaged => "CHAT_GROUP_CIRCLE_MANAGED"
  | .groupOwnerOnly => "CHAT_GROUP_OWNER_ONLY"
  | .groupManagerOnly => "CHAT_GROUP_MANAGER_ONLY"
  | .groupMemberNotFound => "CHAT_GROUP_MEMBER_NOT_FOUND"
  | .groupTargetProtected => "CHAT_GROUP_TARGET_PROTECTED"
  | .groupSelfTarget => "CHAT_GROUP_SELF_TARGET"
  | .silenceDurationInvalid => "CHAT_SILENCE_DURATION_INVALID"
  | .peerNotFound => "CHAT_PEER_NOT_FOUND"
  | .clearRequestHandled => "CHAT_CLEAR_REQUEST_HANDLED"
  | .groupJoinBlocked => "CHAT_GROUP_JOIN_BLOCKED"
  | .groupAcceptRequired => "CHAT_GROUP_ACCEPT_REQUIRED"
  | .groupInvitationInvalid => "CHAT_GROUP_INVITATION_INVALID"
  | .groupApplicationDisabled => "CHAT_GROUP_APPLICATION_DISABLED"
  | .groupFriendsOnly => "CHAT_GROUP_FRIENDS_ONLY"
  | .groupInviteDisabled => "CHAT_GROUP_INVITE_DISABLED"
  | .groupQrJoinDisabled => "CHAT_GROUP_QR_JOIN_DISABLED"
  | .inviteNotAllowed => "GROUP_INVITE_NOT_ALLOWED"

/-- What ends a transaction without effect. -/
inductive Fault
  | raised (text : String)
  | integerOutOfRange
  | notNullViolation
  | uniqueViolation
  | refused (message : String) (errorCode : ChatErrorCode)
  deriving DecidableEq, Repr

/-! ## The counter and the triggers -/

/-- Neither column is ever null. -/
def conversationSyncRevision (conversation : ChatConversation) : Nat :=
  max conversation.nextRevision conversation.nextHeight

/-- `UPDATE "ChatConversation" SET "nextRevision" = GREATEST("nextRevision",
"nextHeight") + 1 … RETURNING "nextRevision"`. `missing` is what follows when no
row came back. -/
def Db.allocate (db : Db) (missing : Fault) (conversationID : ConversationId) :
    Except Fault (Nat × Db) :=
  match db.conversations.find conversationID with
  | none => .error missing
  | some c =>
    let allocated := max c.nextRevision c.nextHeight + 1
    if integerMax < allocated then .error .integerOutOfRange
    else
      let row := { c with nextRevision := allocated }
      .ok (allocated, { db with conversations := db.conversations.put row })

/-- The columns of a message that a client sees. -/
structure Columns where
  content : Content
  deleted : Bool
  revokedAt : Option Time
  editedAt : Option Time
  burnExpiresAt : Option Time
  deriving DecidableEq, Repr

def ChatMessage.columns (m : ChatMessage) : Columns :=
  ⟨m.content, m.deleted, m.revokedAt, m.editedAt, m.burnExpiresAt⟩

/-- The end of `chat_message_assign_revision`: `NEW` under a number of its own. -/
def Db.number (db : Db) (new : ChatMessage) : Except Fault (ChatMessage × Db) :=
  let text := "ChatConversation " ++ toString new.conversationID ++ " does not exist"
  match db.allocate (.raised text) new.conversationID with
  | .error fault => .error fault
  | .ok (allocated, db) => .ok ({ new with revision := allocated }, db)

/-- `chat_message_assign_revision` before an update. -/
def Db.assignRevision (db : Db) (old new : ChatMessage) : Except Fault (ChatMessage × Db) :=
  if new.id ≠ old.id ∨ new.conversationID ≠ old.conversationID ∨ new.height ≠ old.height then
    .error (.raised "ChatMessage identity and height are immutable")
  else if old.revokedAt.isSome && new.revokedAt.isNone then
    .error (.raised "A revoked ChatMessage cannot be restored")
  else if old.deleted && !new.deleted then
    .error (.raised "A burned ChatMessage cannot be restored")
  -- the reaction trigger has put its number in already
  else if new.revision ≠ old.revision then .ok (new, db)
  else if new.columns = old.columns then .ok (new, db)
  else db.number new

/-- An update of one row. -/
def Db.updateRow (db : Db) (f : ChatMessage → ChatMessage) (id : MessageId) : Except Fault Db :=
  match db.messages.find id with
  | none => .ok db
  | some old =>
    match db.assignRevision old (f old) with
    | .error fault => .error fault
    | .ok (row, db) => .ok { db with messages := db.messages.put row }

/-- `chat_message_reaction_bump_revision`: after a reaction of the message was
inserted or deleted. -/
def Db.bumpRevision (db : Db) (targetMessage : MessageId) : Except Fault Db :=
  match db.messages.find targetMessage with
  | none => .ok db
  | some m =>
    match db.allocate .notNullViolation m.conversationID with
    | .error fault => .error fault
    | .ok (allocated, db) =>
      db.updateRow (fun m => { m with revision := allocated }) targetMessage

/-! ## Statements -/

/-- The order in which a statement meets its rows. -/
structure Scan where
  order : List MessageId → List MessageId
  perm : ∀ ids, (order ids).Perm ids

def Scan.asStored : Scan := ⟨id, fun _ => .refl _⟩

def Scan.backwards : Scan := ⟨List.reverse, List.reverse_perm⟩

/-- An update of the messages `p` selects, row by row with the trigger in between. -/
def Db.updateMessages (db : Db) (scan : Scan) (p : ChatMessage → Bool)
    (f : ChatMessage → ChatMessage) : Except Fault Db :=
  (scan.order ((db.messages.select p).map (·.id))).foldlM (fun db id => db.updateRow f id) db

/-- What the unique indexes on height and on the sender's key forbid. A null
sender or key collides with nothing. -/
def ChatMessage.collides (m row : ChatMessage) : Bool :=
  m.conversationID = row.conversationID &&
    (m.height = row.height ||
      m.senderID.isSome && m.clientMessageId.isSome &&
        m.senderID = row.senderID && m.clientMessageId = row.clientMessageId)

def Db.createMessage (db : Db) (new : ChatMessage) : Except Fault (ChatMessage × Db) :=
  match db.number new with
  | .error fault => .error fault
  | .ok (row, db) =>
    if db.messages.rows.any fun m => m.collides row then .error .uniqueViolation
    else
      match db.messages.insert row with
      | none => .error .uniqueViolation
      | some messages => .ok (row, { db with messages := messages })

/-- `SET "nextHeight" = height` on the locked row. -/
def Db.advanceConversation (db : Db) (c : ChatConversation) (height : Nat) : Except Fault Db :=
  if integerMax < height then .error .integerOutOfRange
  else
    .ok { db with
      conversations :=
        db.conversations.updateMany (fun row => row.id = c.id)
          (fun row => { row with nextHeight := height }) fun _ => rfl }

end CircleBackend.Chat
