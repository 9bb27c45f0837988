import CircleBackend.Chat.Quotes
import Mathlib.Data.List.Dedup
import Mathlib.Data.List.Sort

/-!
# A temporary room and what its guests are sent

The messages of one `TEMP` conversation, which seats one account, the host's, and guests. What a
guest receives comes from `emitContentToAuthorizedUsers`, `getGuestHistory` and
`listGuestMembers`.

Account ids are of an arbitrary type, so that the room can be compared with the room of another
host. A signed URL is the key of its object; avatars are left out.
-/

namespace CircleBackend.TempChat

open Library
open Chat (MessageId chatEditWindowMs chatRevokeWindowMs historyPageMax jsString messagePreviewMax)

/-- An account has a UUID, a guest an id of `newGuestId`. -/
inductive UserId (υ : Type)
  | account (uuid : υ)
  | guest (n : Nat)
  deriving DecidableEq

/-- `chat/<owner>/<file>` -/
structure ObjectKey (υ : Type) where
  owner : UserId υ
  file : Nat
  deriving DecidableEq

inductive MessageType
  | text | quote | image | voice | video
  deriving DecidableEq

/-- The fields of `content`; `κ` are the keys. -/
structure Content (κ : Type) where
  text : Option JsString
  quotedText : Option JsString
  key : Option κ
  thumbKey : Option κ
  url : Option κ
  thumbUrl : Option κ
  deriving DecidableEq

def Content.empty {κ : Type} : Content κ := ⟨none, none, none, none, none, none⟩

structure ChatSenderInfo (ι : Type) where
  id : ι
  nickname : JsString
  memberAlias : Option JsString
  deriving DecidableEq

structure ChatReplyToSnapshot where
  id : MessageId
  height : Nat
  senderNickname : JsString
  type : MessageType
  preview : JsString
  revoked : Bool
  deriving DecidableEq

structure ChatReactionSummary (ι : Type) where
  emoji : JsString
  userIds : List ι
  deriving DecidableEq

/-- `ι` are the ids of users, `κ` the keys. -/
structure ChatMessageDto (ι κ : Type) where
  id : MessageId
  height : Nat
  type : MessageType
  content : Content κ
  sender : Option (ChatSenderInfo ι)
  replyToId : Option MessageId
  replyTo : Option ChatReplyToSnapshot
  revokedAt : Option Time
  revokedBy : Option ι
  revision : Nat
  editedAt : Option Time
  reactions : Option (List (ChatReactionSummary ι))
  d : Option JsString
  createdAt : Time
  deriving DecidableEq

structure ChatEditBroadcast (κ : Type) where
  messageId : MessageId
  height : Nat
  content : Content κ
  editedAt : Time
  revision : Nat
  deriving DecidableEq

inductive Payload (ι κ : Type)
  | msg (message : ChatMessageDto ι κ)
  | edit (broadcast : ChatEditBroadcast κ)
  deriving DecidableEq

def Payload.height {ι κ : Type} : Payload ι κ → Nat
  | .msg message => message.height
  | .edit broadcast => broadcast.height

/-! ## The view of a guest -/

/-- `host` is `TEMP_CHAT_HOST_ALIAS`. -/
inductive GuestSeen
  | host
  | guest (n : Nat)
  deriving DecidableEq

def aliasAccountId {υ : Type} : UserId υ → GuestSeen
  | .account _ => .host
  | .guest n => .guest n

def toGuestMessageView {υ κ : Type} (message : ChatMessageDto (UserId υ) κ) :
    ChatMessageDto GuestSeen κ where
  id := message.id
  height := message.height
  type := message.type
  content := message.content
  sender := message.sender.map fun sender => ⟨aliasAccountId sender.id, sender.nickname, sender.memberAlias⟩
  replyToId := message.replyToId
  replyTo := message.replyTo
  revokedAt := message.revokedAt
  revokedBy := message.revokedBy.map aliasAccountId
  revision := message.revision
  editedAt := message.editedAt
  reactions := message.reactions.map fun reactions =>
    reactions.map fun reaction => ⟨reaction.emoji, reaction.userIds.map aliasAccountId⟩
  d := message.d
  createdAt := message.createdAt

structure TempChatMemberItem where
  userId : GuestSeen
  nickname : JsString
  isHost : Bool
  deriving DecidableEq

/-! ## Rows -/

structure ChatMember (υ : Type) where
  userID : UserId υ
  memberAlias : Option JsString
  leftAt : Option Time
  clearedBeforeHeight : Nat
  deriving DecidableEq

structure ChatMessage (υ : Type) where
  id : MessageId
  height : Nat
  senderID : UserId υ
  type : MessageType
  content : Content (ObjectKey υ)
  clientMessageId : JsString
  replyToID : Option MessageId
  revokedAt : Option Time
  revokedBy : Option (UserId υ)
  editedAt : Option Time
  revision : Nat
  createdAt : Time
  deriving DecidableEq

structure ChatMessageReaction (υ : Type) where
  messageID : MessageId
  userID : UserId υ
  emoji : JsString
  deriving DecidableEq

/-- `outgoing` are broadcasts still to be made; `delivered` is what guests have been sent. -/
structure State (υ : Type) where
  now : Time
  hostUserId : υ
  hostNickname : JsString
  guests : List (Nat × JsString)
  seats : List (ChatMember υ)
  messages : List (ChatMessage υ)
  reactions : List (ChatMessageReaction υ)
  nextHeight : Nat
  nextRevision : Nat
  outgoing : List (Payload (UserId υ) (ObjectKey υ))
  delivered : List (Nat × Payload GuestSeen (ObjectKey υ))

inductive Act (υ : Type)
  | wait (ms : Nat)
  | join (guest : Nat) (displayName : JsString)
  | leave (userId : UserId υ)
  | clear (userId : UserId υ) (height : Nat)
  | send (userId : UserId υ) (type : MessageType) (content : Content (ObjectKey υ)) (d : JsString)
      (replyToId : Option MessageId)
  /-- `forwardFromMessageId`, with the names drawn for the copies. -/
  | forward (userId : UserId υ) (source : MessageId) (d : JsString) (file thumbFile : Nat)
  | edit (userId : UserId υ) (messageId : MessageId) (text : JsString)
  | revoke (userId : UserId υ) (messageId : MessageId)
  | react (userId : UserId υ) (messageId : MessageId) (emoji : JsString) (add : Bool)
  /-- `emitContentToAuthorizedUsers` of the broadcast that comes first. -/
  | emit

section

variable {υ : Type} [DecidableEq υ]

/-- `CHAT_MEDIA_KEY_FIELDS`: whether a type has a key, and a key of a thumbnail. -/
def MessageType.keyFields : MessageType → Bool × Bool
  | .image | .video => (true, true)
  | .voice => (true, false)
  | .text | .quote => (false, false)

def Content.keys {κ : Type} (content : Content κ) : List κ :=
  content.key.toList ++ content.thumbKey.toList ++ content.url.toList ++ content.thumbUrl.toList

def ChatMessage.edited (row : ChatMessage υ) (text : JsString) (now : Time) (revision : Nat) :
    ChatMessage υ :=
  { row with content := { row.content with text := some text }, editedAt := some now, revision }

def ChatMessage.revoked (row : ChatMessage υ) (userId : UserId υ) (now : Time) (revision : Nat) :
    ChatMessage υ :=
  { row with content := .empty, revokedAt := some now, revokedBy := some userId, revision }

def ChatMessage.editable (row : ChatMessage υ) (userId : UserId υ) (now : Time) : Bool :=
  row.senderID = userId && row.revokedAt = none && (row.type = .text || row.type = .quote) &&
    now ≤ row.createdAt + chatEditWindowMs

def ChatMessage.revocable (row : ChatMessage υ) (userId : UserId υ) (now : Time) : Bool :=
  row.senderID = userId && row.revokedAt = none && now ≤ row.createdAt + chatRevokeWindowMs

def ChatMessageReaction.of (reaction : ChatMessageReaction υ) (messageId : MessageId)
    (userId : UserId υ) (emoji : JsString) : Bool :=
  reaction.messageID = messageId && reaction.userID = userId && reaction.emoji = emoji

namespace State

variable (s : State υ)

def seat (userId : UserId υ) : Option (ChatMember υ) :=
  s.seats.find? fun seat => seat.userID = userId && seat.leftAt.isNone

def row (id : MessageId) : Option (ChatMessage υ) := s.messages.find? fun row => row.id = id

/-- `resolveSenders` -/
def nickname : UserId υ → Option JsString
  | .account uuid => if uuid = s.hostUserId then some s.hostNickname else none
  | .guest n => (s.guests.find? fun guest => guest.1 = n).map (·.2)

def senderFor (userId : UserId υ) : Option (ChatSenderInfo (UserId υ)) :=
  (s.nickname userId).map fun nickname =>
    ⟨userId, nickname, (s.seats.find? fun seat => seat.userID = userId).bind ChatMember.memberAlias⟩

/-! ## What is shown of a message -/

def toMessageDto (row : ChatMessage υ) (viewerId : UserId υ) :
    ChatMessageDto (UserId υ) (ObjectKey υ) where
  id := row.id
  height := row.height
  type := row.type
  content := row.content
  sender := s.senderFor row.senderID
  replyToId := row.replyToID
  replyTo := none
  revokedAt := row.revokedAt
  revokedBy := row.revokedBy
  revision := row.revision
  editedAt := row.editedAt
  reactions := none
  d := if row.senderID = viewerId then some row.clientMessageId else none
  createdAt := row.createdAt

/-- `messagePreviewText`, of a message that is not revoked. -/
def preview (row : ChatMessage υ) : JsString :=
  if row.revokedAt.isSome then []
  else match row.type with
    | .text | .quote =>
      let text := row.content.text.getD []
      if messagePreviewMax < text.length then text.take messagePreviewMax ++ [8230] else text
    | .image => jsString "[图片]"
    | .video => jsString "[视频]"
    | .voice => jsString "[语音]"

/-- What the viewer may see of the message that is quoted. -/
def attachReplyTo (heightFloor : Nat) (message : ChatMessageDto (UserId υ) (ObjectKey υ)) :
    ChatMessageDto (UserId υ) (ObjectKey υ) :=
  match message.replyToId with
  | none => message
  | some replyToId =>
    let row := (s.row replyToId).filter fun row => heightFloor < row.height
    { message with
      content :=
        if row.all fun row => row.revokedAt.isSome then { message.content with quotedText := none }
        else message.content
      replyTo := row.map fun row =>
        ⟨row.id, row.height, (s.nickname row.senderID).getD [], row.type, preview row,
          row.revokedAt.isSome⟩ }

def attachReactions (message : ChatMessageDto (UserId υ) (ObjectKey υ)) :
    ChatMessageDto (UserId υ) (ObjectKey υ) :=
  let reactions := s.reactions.filter fun reaction => reaction.messageID = message.id
  let emojis := (reactions.map ChatMessageReaction.emoji).dedup
  if emojis = [] then message
  else
    { message with
      reactions := some (emojis.map fun emoji =>
        ⟨emoji, (reactions.filter fun reaction => reaction.emoji = emoji).map (·.userID)⟩) }

def attachMediaUrls (message : ChatMessageDto (UserId υ) (ObjectKey υ)) :
    ChatMessageDto (UserId υ) (ObjectKey υ) :=
  { message with
    content :=
      { message.content with
        url := if message.type.keyFields.1 then message.content.key else message.content.url
        thumbUrl :=
          if message.type.keyFields.2 then message.content.thumbKey else message.content.thumbUrl } }

def presentSentMessage (row : ChatMessage υ) : ChatMessageDto (UserId υ) (ObjectKey υ) :=
  attachMediaUrls (s.attachReplyTo 0 (s.toMessageDto row row.senderID))

def presentEdit (row : ChatMessage υ) : ChatEditBroadcast (ObjectKey υ) :=
  let message := s.presentSentMessage row
  ⟨message.id, message.height, message.content, message.editedAt.getD s.now, message.revision⟩

/-! ## What guests read -/

structure HistoryQuery where
  beforeHeight : Option Nat
  afterHeight : Option Nat
  limit : Nat

def historyRows (query : HistoryQuery) (cleared : Nat) : List (ChatMessage υ) :=
  let floor := max (query.afterHeight.getD 0) cleared
  let rows := s.messages.filter fun row =>
    floor < row.height && query.beforeHeight.all fun before => row.height < before
  let take := min (max query.limit 1) historyPageMax
  if query.afterHeight.isSome then
    (rows.insertionSort fun a b => a.height ≤ b.height).take take
  else ((rows.insertionSort fun a b => b.height ≤ a.height).take take).reverse

def getHistory (userId : UserId υ) (query : HistoryQuery) :
    Option (List (ChatMessageDto (UserId υ) (ObjectKey υ))) :=
  (s.seat userId).map fun seat =>
    (s.historyRows query seat.clearedBeforeHeight).map fun row =>
      attachMediaUrls (s.attachReactions
        (s.attachReplyTo seat.clearedBeforeHeight (s.toMessageDto row userId)))

def getGuestHistory (guestId : Nat) (query : HistoryQuery) :
    Option (List (ChatMessageDto GuestSeen (ObjectKey υ))) :=
  (s.getHistory (.guest guestId) query).map fun messages => messages.map fun message =>
    { toGuestMessageView message with
      d := if (message.sender.map (·.id)) = some (.guest guestId) then message.d else none }

def listGuestMembers (guestId : Nat) : Option (List TempChatMemberItem) :=
  (s.seat (.guest guestId)).map fun _ =>
    (s.seats.filter fun seat => seat.leftAt.isNone).filterMap fun seat =>
      (s.nickname seat.userID).map fun nickname =>
        ⟨aliasAccountId seat.userID, nickname, seat.userID = .account s.hostUserId⟩

/-! ## Changes -/

/-- The payload as a guest in his seat gets it: the key of a send stays with its author. -/
def shaped (guestId : Nat) : Payload (UserId υ) (ObjectKey υ) → Payload GuestSeen (ObjectKey υ)
  | .msg message =>
    let own := message.d.isSome && (message.sender.map (·.id)) = some (.guest guestId)
    .msg (toGuestMessageView { message with d := if own then message.d else none })
  | .edit broadcast => .edit broadcast

/-- The guests among the recipients. -/
def guestRecipients (height : Nat) : List Nat :=
  (s.seats.filter fun seat => seat.leftAt.isNone && seat.clearedBeforeHeight < height).filterMap
    fun seat => match seat.userID with
      | .guest n => some n
      | .account _ => none

def emitContentToAuthorizedUsers : Option (State υ) :=
  match s.outgoing with
  | [] => none
  | payload :: outgoing => some { s with
      outgoing
      delivered := s.delivered ++
        (s.guestRecipients payload.height).map fun guestId => (guestId, shaped guestId payload) }

def setRow (id : MessageId) (f : ChatMessage υ → ChatMessage υ) : State υ :=
  { s with messages := s.messages.map fun row => if row.id = id then f row else row }

def bump : State υ := { s with nextRevision := s.nextRevision + 1 }

def push (row : ChatMessage υ) : State υ :=
  { s with messages := s.messages ++ [row], nextHeight := s.nextHeight + 1 }

def announce (payload : Payload (UserId υ) (ObjectKey υ)) : State υ :=
  { s with outgoing := s.outgoing ++ [payload] }

/-- A new message and its broadcast. -/
def append (row : ChatMessage υ) : State υ :=
  let next := (s.push row).bump
  next.announce (.msg (next.presentSentMessage row))

def sentAs (userId : UserId υ) (d : JsString) : Option (ChatMessage υ) :=
  s.messages.find? fun row => row.senderID = userId && row.clientMessageId = d

def newMessage (userId : UserId υ) (type : MessageType) (content : Content (ObjectKey υ))
    (d : JsString) (replyToID : Option MessageId) : ChatMessage υ where
  id := s.nextHeight + 1
  height := s.nextHeight + 1
  senderID := userId
  type := type
  content := content
  clientMessageId := d
  replyToID := replyToID
  revokedAt := none
  revokedBy := none
  editedAt := none
  revision := s.nextRevision + 1
  createdAt := s.now

/-- Keys only of its type, and of one's own. -/
def acceptable (userId : UserId υ) (type : MessageType) (content : Content (ObjectKey υ)) : Bool :=
  content.key.isSome = type.keyFields.1 && (content.thumbKey.isNone || type.keyFields.2) &&
    content.url.isNone && content.thumbUrl.isNone &&
      (content.key.all fun key => key.owner = userId) &&
        content.thumbKey.all fun key => key.owner = userId

/-- `copyForForward` -/
def copied (userId : UserId υ) (content : Content (ObjectKey υ)) (file thumbFile : Nat) :
    Content (ObjectKey υ) :=
  { content with
    key := content.key.map fun _ => ⟨userId, file⟩
    thumbKey := content.thumbKey.map fun _ => ⟨userId, thumbFile⟩
    url := none
    thumbUrl := none }

def sendMessage (userId : UserId υ) (type : MessageType) (content : Content (ObjectKey υ))
    (d : JsString) (replyToId : Option MessageId) : Option (State υ) :=
  if (s.sentAs userId d).isSome then some s
  else some (s.append (s.newMessage userId type content d replyToId))

def forwardMessage (userId : UserId υ) (source : ChatMessage υ) (d : JsString)
    (file thumbFile : Nat) : Option (State υ) :=
  if source.revokedAt.isNone && source.type.keyFields.1 then
    s.sendMessage userId source.type (copied userId source.content file thumbFile) d none
  else none

def editMessage (userId : UserId υ) (row : ChatMessage υ) (text : JsString) : Option (State υ) :=
  if row.editable userId s.now then
    let edited := row.edited text s.now (s.nextRevision + 1)
    let next := (s.setRow row.id fun _ => edited).bump
    some (next.announce (.edit (next.presentEdit edited)))
  else none

def revokeMessage (userId : UserId υ) (row : ChatMessage υ) : Option (State υ) :=
  if row.revocable userId s.now then
    some (s.setRow row.id fun row => row.revoked userId s.now (s.nextRevision + 1)).bump
  else none

def setReaction (userId : UserId υ) (messageId : MessageId) (emoji : JsString) (add : Bool) :
    State υ :=
  { s with
    reactions :=
      if add then s.reactions ++ [⟨messageId, userId, emoji⟩]
      else s.reactions.filter fun reaction => !reaction.of messageId userId emoji }

def toggleReaction (userId : UserId υ) (row : ChatMessage υ) (emoji : JsString) (add : Bool) :
    Option (State υ) :=
  let present := s.reactions.any fun reaction => reaction.of row.id userId emoji
  if row.revokedAt.isSome || present = add then some s
  else
    some ((s.setRow row.id fun row => { row with revision := s.nextRevision + 1 }).bump.setReaction
      userId row.id emoji add)

def setSeat (userId : UserId υ) (f : ChatMember υ → ChatMember υ) : State υ :=
  { s with seats := s.seats.map fun seat => if seat.userID = userId then f seat else seat }

def next : Act υ → Option (State υ)
  | .wait ms => some { s with now := s.now + ms }
  | .join guest displayName =>
    if s.seats.any fun seat => seat.userID = .guest guest then none
    else some { s with
      guests := s.guests ++ [(guest, displayName)]
      seats := s.seats ++ [⟨.guest guest, none, none, 0⟩] }
  | .leave userId => some (s.setSeat userId fun seat => { seat with leftAt := some s.now })
  | .clear userId height =>
    some (s.setSeat userId fun seat =>
      { seat with clearedBeforeHeight := max seat.clearedBeforeHeight height })
  | .send userId type content d replyToId => do
    let _ ← s.seat userId
    if acceptable userId type content then s.sendMessage userId type content d replyToId else none
  | .forward userId source d file thumbFile => do
    let seat ← s.seat userId
    let row ← (s.row source).filter fun row => seat.clearedBeforeHeight < row.height
    s.forwardMessage userId row d file thumbFile
  | .edit userId messageId text => do
    let _ ← s.seat userId
    let row ← s.row messageId
    s.editMessage userId row text
  | .revoke userId messageId => do
    let _ ← s.seat userId
    let row ← s.row messageId
    s.revokeMessage userId row
  | .react userId messageId emoji add => do
    let _ ← s.seat userId
    let row ← s.row messageId
    s.toggleReaction userId row emoji add
  | .emit => s.emitContentToAuthorizedUsers

end State

def Step (s : State υ) (act : Act υ) (t : State υ) : Prop := s.next act = some t

/-- Not one by which the host sends an object of the store. -/
def Act.keyless : Act υ → Bool
  | .send (.account _) _ content _ _ => content.key.isNone && content.thumbKey.isNone
  | .forward (.account _) .. => false
  | _ => true

end

end CircleBackend.TempChat
