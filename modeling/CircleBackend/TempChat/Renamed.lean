import CircleBackend.TempChat.Room
import Mathlib.Data.List.Sort

/-!
# The room of another host

Every id of an account, also inside the keys of objects, is replaced along an injection; what a
room does and shows commutes with that.
-/

namespace CircleBackend.TempChat

open Library
open Chat (MessageId)

variable {υ ω ι ι' κ κ' : Type}

def UserId.map (f : υ → ω) : UserId υ → UserId ω
  | .account uuid => .account (f uuid)
  | .guest n => .guest n

def ObjectKey.map (f : υ → ω) (key : ObjectKey υ) : ObjectKey ω := ⟨key.owner.map f, key.file⟩

def Content.map (h : κ → κ') (content : Content κ) : Content κ' where
  text := content.text
  quotedText := content.quotedText
  key := content.key.map h
  thumbKey := content.thumbKey.map h
  url := content.url.map h
  thumbUrl := content.thumbUrl.map h

def ChatSenderInfo.map (g : ι → ι') (sender : ChatSenderInfo ι) : ChatSenderInfo ι' :=
  ⟨g sender.id, sender.nickname, sender.memberAlias⟩

def ChatReactionSummary.map (g : ι → ι') (reaction : ChatReactionSummary ι) :
    ChatReactionSummary ι' :=
  ⟨reaction.emoji, reaction.userIds.map g⟩

def ChatMessageDto.map (g : ι → ι') (h : κ → κ') (message : ChatMessageDto ι κ) :
    ChatMessageDto ι' κ' where
  id := message.id
  height := message.height
  type := message.type
  content := message.content.map h
  sender := message.sender.map (ChatSenderInfo.map g)
  replyToId := message.replyToId
  replyTo := message.replyTo
  revokedAt := message.revokedAt
  revokedBy := message.revokedBy.map g
  revision := message.revision
  editedAt := message.editedAt
  reactions := message.reactions.map fun reactions => reactions.map (ChatReactionSummary.map g)
  d := message.d
  createdAt := message.createdAt

def ChatEditBroadcast.map (h : κ → κ') (edit : ChatEditBroadcast κ) : ChatEditBroadcast κ' :=
  ⟨edit.messageId, edit.height, edit.content.map h, edit.editedAt, edit.revision⟩

def Payload.map (g : ι → ι') (h : κ → κ') : Payload ι κ → Payload ι' κ'
  | .msg message => .msg (message.map g h)
  | .edit broadcast => .edit (broadcast.map h)

def ChatMember.map (f : υ → ω) (seat : ChatMember υ) : ChatMember ω :=
  ⟨seat.userID.map f, seat.memberAlias, seat.leftAt, seat.clearedBeforeHeight⟩

def ChatMessage.map (f : υ → ω) (row : ChatMessage υ) : ChatMessage ω where
  id := row.id
  height := row.height
  senderID := row.senderID.map f
  type := row.type
  content := row.content.map (ObjectKey.map f)
  clientMessageId := row.clientMessageId
  replyToID := row.replyToID
  revokedAt := row.revokedAt
  revokedBy := row.revokedBy.map (UserId.map f)
  editedAt := row.editedAt
  revision := row.revision
  createdAt := row.createdAt

def ChatMessageReaction.map (f : υ → ω) (reaction : ChatMessageReaction υ) :
    ChatMessageReaction ω :=
  ⟨reaction.messageID, reaction.userID.map f, reaction.emoji⟩

def State.map (f : υ → ω) (s : State υ) : State ω where
  now := s.now
  hostUserId := f s.hostUserId
  hostNickname := s.hostNickname
  guests := s.guests
  seats := s.seats.map (ChatMember.map f)
  messages := s.messages.map (ChatMessage.map f)
  reactions := s.reactions.map (ChatMessageReaction.map f)
  nextHeight := s.nextHeight
  nextRevision := s.nextRevision
  outgoing := s.outgoing.map (Payload.map (UserId.map f) (ObjectKey.map f))
  delivered := s.delivered.map fun sent => (sent.1, sent.2.map id (ObjectKey.map f))

def Act.map (f : υ → ω) : Act υ → Act ω
  | .wait ms => .wait ms
  | .join guest displayName => .join guest displayName
  | .leave userId => .leave (userId.map f)
  | .clear userId height => .clear (userId.map f) height
  | .send userId type content d replyToId =>
    .send (userId.map f) type (content.map (ObjectKey.map f)) d replyToId
  | .forward userId source d file thumbFile => .forward (userId.map f) source d file thumbFile
  | .edit userId messageId text => .edit (userId.map f) messageId text
  | .revoke userId messageId => .revoke (userId.map f) messageId
  | .react userId messageId emoji add => .react (userId.map f) messageId emoji add
  | .emit => .emit

variable {f : υ → ω} {s : State υ}

theorem userId_map_inj (injective : Function.Injective f) {a b : UserId υ} :
    a.map f = b.map f ↔ a = b := by
  constructor
  · intro same
    cases a with
    | account uuid =>
      cases b with
      | account other =>
        simp only [UserId.map, UserId.account.injEq] at same
        rw [injective same]
      | guest m => cases same
    | guest n =>
      cases b with
      | account other => cases same
      | guest m => exact congrArg UserId.guest (UserId.guest.inj same)
  · intro same
    rw [same]

theorem userId_map_guest {a : UserId υ} {n : Nat} : a.map f = .guest n ↔ a = .guest n := by
  cases a <;> simp [UserId.map]

theorem find_map {α β : Type} {g : α → β} {p : α → Bool} {q : β → Bool} (l : List α)
    (same : ∀ a, q (g a) = p a) : (l.map g).find? q = (l.find? p).map g := by
  rw [List.find?_map]
  congr 1
  congr 1
  funext a
  exact same a

theorem filter_map {α β : Type} {g : α → β} {p : α → Bool} {q : β → Bool} (l : List α)
    (same : ∀ a, q (g a) = p a) : (l.map g).filter q = (l.filter p).map g := by
  rw [List.filter_map]
  congr 1
  congr 1
  funext a
  exact same a

theorem any_map {α β : Type} {g : α → β} {p : α → Bool} {q : β → Bool} (l : List α)
    (same : ∀ a, q (g a) = p a) : (l.map g).any q = l.any p := by
  rw [List.any_map]
  congr 1
  funext a
  exact same a

theorem row_map (id : MessageId) : (s.map f).row id = (s.row id).map (ChatMessage.map f) := by
  apply find_map
  intro row
  rfl

theorem attachReactions_map (message : ChatMessageDto (UserId υ) (ObjectKey υ)) :
    (s.map f).attachReactions (message.map (UserId.map f) (ObjectKey.map f)) =
      (s.attachReactions message).map (UserId.map f) (ObjectKey.map f) := by
  have reactions : (s.map f).reactions.filter (fun reaction => reaction.messageID = message.id) =
      (s.reactions.filter fun reaction => reaction.messageID = message.id).map
        (ChatMessageReaction.map f) := by
    apply filter_map
    intro reaction
    rfl
  unfold State.attachReactions
  have id : (message.map (UserId.map f) (ObjectKey.map f)).id = message.id := rfl
  rw [id, reactions]
  have emojis : ((s.reactions.filter fun reaction => reaction.messageID = message.id).map
      (ChatMessageReaction.map f)).map ChatMessageReaction.emoji =
        (s.reactions.filter fun reaction => reaction.messageID = message.id).map
          ChatMessageReaction.emoji := by
    rw [List.map_map]
    rfl
  dsimp only
  rw [emojis]
  split
  · rfl
  · simp only [ChatMessageDto.map, Option.map_some, List.map_map]
    congr 2
    apply List.map_congr_left
    intro emoji _
    simp only [Function.comp_apply, ChatReactionSummary.map, List.map_map]
    congr 1
    rw [filter_map (p := fun reaction => decide (reaction.emoji = emoji))]
    · rw [List.map_map]
      rfl
    · intro reaction
      rfl

theorem attachMediaUrls_map (message : ChatMessageDto (UserId υ) (ObjectKey υ)) :
    State.attachMediaUrls (message.map (UserId.map f) (ObjectKey.map f)) =
      (State.attachMediaUrls message).map (UserId.map f) (ObjectKey.map f) := by
  obtain ⟨id, height, type⟩ := message
  cases type <;> rfl

theorem historyRows_map (query : State.HistoryQuery) (cleared : Nat) :
    (s.map f).historyRows query cleared =
      (s.historyRows query cleared).map (ChatMessage.map f) := by
  unfold State.historyRows
  have rows : (s.map f).messages.filter (fun row =>
      decide (max (query.afterHeight.getD 0) cleared < row.height) &&
        query.beforeHeight.all fun before => decide (row.height < before)) =
      (s.messages.filter fun row =>
        decide (max (query.afterHeight.getD 0) cleared < row.height) &&
          query.beforeHeight.all fun before => decide (row.height < before)).map
            (ChatMessage.map f) := by
    apply filter_map
    intro row
    rfl
  dsimp only
  rw [rows]
  split
  · rw [← List.map_insertionSort (fun a b : ChatMessage υ => a.height ≤ b.height), List.map_take]
    intro a _ b _
    exact Iff.rfl
  · rw [← List.map_insertionSort (fun a b : ChatMessage υ => b.height ≤ a.height), ← List.map_take,
      ← List.map_reverse]
    intro a _ b _
    exact Iff.rfl

theorem aliasAccountId_map (u : UserId υ) : aliasAccountId (u.map f) = aliasAccountId u := by
  cases u <;> rfl

theorem toGuestMessageView_map {h : κ → κ'} (message : ChatMessageDto (UserId υ) κ) :
    toGuestMessageView (message.map (UserId.map f) h) = (toGuestMessageView message).map id h := by
  have alias' : (fun u : UserId υ => aliasAccountId (u.map f)) = aliasAccountId :=
    funext aliasAccountId_map
  simp only [toGuestMessageView, ChatMessageDto.map, Option.map_map]
  congr 1
  · congr 1
    funext sender
    simp only [Function.comp_apply, ChatSenderInfo.map, aliasAccountId_map, id_eq]
  · congr 1
  · congr 1
    funext reactions
    simp only [Function.comp_apply, List.map_map]
    apply List.map_congr_left
    intro reaction _
    simp only [Function.comp_apply, ChatReactionSummary.map, List.map_map]
    congr 1
    exact List.map_congr_left fun u _ => aliasAccountId_map u

theorem ownSend_map {h : κ → κ'} (message : ChatMessageDto (UserId υ) κ) (n : Nat) :
    ((message.map (UserId.map f) h).sender.map (·.id) = some (.guest n)) =
      (message.sender.map (·.id) = some (.guest n)) := by
  simp only [ChatMessageDto.map, Option.map_map]
  cases message.sender with
  | none => simp
  | some sender => simp [ChatSenderInfo.map, userId_map_guest]

theorem guestRecipients_map (height : Nat) :
    (s.map f).guestRecipients height = s.guestRecipients height := by
  have seats : (s.map f).seats.filter (fun seat =>
      seat.leftAt.isNone && decide (seat.clearedBeforeHeight < height)) =
      (s.seats.filter fun seat =>
        seat.leftAt.isNone && decide (seat.clearedBeforeHeight < height)).map
          (ChatMember.map f) := by
    apply filter_map
    intro seat
    rfl
  unfold State.guestRecipients
  rw [seats, List.filterMap_map]
  congr 1
  funext seat
  simp only [Function.comp_apply, ChatMember.map]
  cases seat.userID <;> rfl

theorem setRow_map {g : ChatMessage υ → ChatMessage υ} {h : ChatMessage ω → ChatMessage ω}
    (id : MessageId) (same : ∀ row, h (row.map f) = (g row).map f) :
    (s.map f).setRow id h = (s.setRow id g).map f := by
  simp only [State.setRow, State.map, List.map_map]
  congr 1
  apply List.map_congr_left
  intro row _
  simp only [Function.comp_apply]
  have id' : (row.map f).id = row.id := rfl
  rw [id']
  split
  · exact same row
  · rfl

theorem bump_map : (s.map f).bump = s.bump.map f := rfl

theorem push_map (row : ChatMessage υ) : (s.map f).push (row.map f) = (s.push row).map f := by
  simp [State.push, State.map]

theorem announce_map (payload : Payload (UserId υ) (ObjectKey υ)) :
    (s.map f).announce (payload.map (UserId.map f) (ObjectKey.map f)) =
      (s.announce payload).map f := by
  simp [State.announce, State.map]

theorem newMessage_map (u : UserId υ) (type : MessageType) (content : Content (ObjectKey υ))
    (d : JsString) (replyToID : Option MessageId) :
    (s.map f).newMessage (u.map f) type (content.map (ObjectKey.map f)) d replyToID =
      (s.newMessage u type content d replyToID).map f := rfl

theorem copied_map (u : UserId υ) (content : Content (ObjectKey υ)) (file thumbFile : Nat) :
    State.copied (u.map f) (content.map (ObjectKey.map f)) file thumbFile =
      (State.copied u content file thumbFile).map (ObjectKey.map f) := by
  simp only [State.copied, Content.map, Option.map_map]
  rfl

section

variable [DecidableEq υ] [DecidableEq ω]

/-! ## What is shown -/

theorem seat_map (injective : Function.Injective f) (u : UserId υ) :
    (s.map f).seat (u.map f) = (s.seat u).map (ChatMember.map f) := by
  apply find_map
  intro seat
  simp [ChatMember.map, userId_map_inj injective]

theorem nickname_map (injective : Function.Injective f) (u : UserId υ) :
    (s.map f).nickname (u.map f) = s.nickname u := by
  cases u with
  | account uuid => simp [State.nickname, UserId.map, State.map, injective.eq_iff]
  | guest n => rfl

theorem senderFor_map (injective : Function.Injective f) (u : UserId υ) :
    (s.map f).senderFor (u.map f) = (s.senderFor u).map (ChatSenderInfo.map (UserId.map f)) := by
  have seats : (s.map f).seats.find? (fun seat => seat.userID = u.map f) =
      (s.seats.find? fun seat => seat.userID = u).map (ChatMember.map f) := by
    apply find_map
    intro seat
    simp [ChatMember.map, userId_map_inj injective]
  unfold State.senderFor
  rw [nickname_map injective, seats, Option.map_map]
  congr 1
  funext nickname
  simp only [Function.comp_apply, ChatSenderInfo.map]
  cases s.seats.find? fun seat => seat.userID = u <;> rfl

theorem toMessageDto_map (injective : Function.Injective f) (row : ChatMessage υ) (u : UserId υ) :
    (s.map f).toMessageDto (row.map f) (u.map f) =
      (s.toMessageDto row u).map (UserId.map f) (ObjectKey.map f) := by
  have own : (row.senderID.map f = u.map f) = (row.senderID = u) :=
    propext (userId_map_inj injective)
  simp only [State.toMessageDto, ChatMessageDto.map, ChatMessage.map, senderFor_map injective, own,
    Option.map_none]

theorem attachReplyTo_map (injective : Function.Injective f) (floor : Nat)
    (message : ChatMessageDto (UserId υ) (ObjectKey υ)) :
    (s.map f).attachReplyTo floor (message.map (UserId.map f) (ObjectKey.map f)) =
      (s.attachReplyTo floor message).map (UserId.map f) (ObjectKey.map f) := by
  unfold State.attachReplyTo
  have replyTo : (message.map (UserId.map f) (ObjectKey.map f)).replyToId = message.replyToId := rfl
  rw [replyTo]
  cases message.replyToId with
  | none => rfl
  | some id =>
    have row : ((s.map f).row id).filter (fun row => decide (floor < row.height)) =
        ((s.row id).filter fun row => decide (floor < row.height)).map (ChatMessage.map f) := by
      rw [row_map]
      cases s.row id with
      | none => rfl
      | some row =>
        simp only [Option.map_some, Option.filter_some, ChatMessage.map]
        split <;> rfl
    dsimp only
    rw [row]
    cases (s.row id).filter fun row => decide (floor < row.height) with
    | none => rfl
    | some row =>
      have sender : (s.map f).nickname (row.map f).senderID = s.nickname row.senderID :=
        nickname_map injective row.senderID
      simp only [Option.map_some, Option.all_some, sender]
      by_cases revoked : row.revokedAt.isSome = true
      · have revoked' : (row.map f).revokedAt.isSome = true := revoked
        rw [if_pos revoked', if_pos revoked]
        rfl
      · have revoked' : ¬ (row.map f).revokedAt.isSome = true := revoked
        rw [if_neg revoked', if_neg revoked]
        rfl

theorem presentSentMessage_map (injective : Function.Injective f) (row : ChatMessage υ) :
    (s.map f).presentSentMessage (row.map f) =
      (s.presentSentMessage row).map (UserId.map f) (ObjectKey.map f) := by
  unfold State.presentSentMessage
  have sender : (row.map f).senderID = row.senderID.map f := rfl
  rw [sender, toMessageDto_map injective, attachReplyTo_map injective, attachMediaUrls_map]

theorem presentEdit_map (injective : Function.Injective f) (row : ChatMessage υ) :
    (s.map f).presentEdit (row.map f) = (s.presentEdit row).map (ObjectKey.map f) := by
  unfold State.presentEdit
  rw [presentSentMessage_map injective]
  rfl

/-! ## What guests read -/

theorem getHistory_map (injective : Function.Injective f) (u : UserId υ)
    (query : State.HistoryQuery) :
    (s.map f).getHistory (u.map f) query = (s.getHistory u query).map fun messages =>
      messages.map (ChatMessageDto.map (UserId.map f) (ObjectKey.map f)) := by
  unfold State.getHistory
  rw [seat_map injective, Option.map_map, Option.map_map]
  congr 1
  funext seat
  simp only [Function.comp_apply, ChatMember.map]
  rw [historyRows_map, List.map_map, List.map_map]
  apply List.map_congr_left
  intro row _
  simp only [Function.comp_apply]
  rw [toMessageDto_map injective, attachReplyTo_map injective, attachReactions_map,
    attachMediaUrls_map]

theorem getGuestHistory_map (injective : Function.Injective f) (n : Nat)
    (query : State.HistoryQuery) :
    (s.map f).getGuestHistory n query = (s.getGuestHistory n query).map fun messages =>
      messages.map (ChatMessageDto.map id (ObjectKey.map f)) := by
  unfold State.getGuestHistory
  have history := getHistory_map (s := s) injective (.guest n) query
  rw [show (UserId.guest n).map f = .guest n from rfl] at history
  rw [history, Option.map_map, Option.map_map]
  congr 1
  funext messages
  simp only [Function.comp_apply, List.map_map]
  apply List.map_congr_left
  intro message _
  simp only [Function.comp_apply, toGuestMessageView_map]
  simp only [ownSend_map]
  rfl

theorem listGuestMembers_map (injective : Function.Injective f) (n : Nat) :
    (s.map f).listGuestMembers n = s.listGuestMembers n := by
  unfold State.listGuestMembers
  have seat := seat_map (s := s) injective (.guest n)
  rw [show (UserId.guest n).map f = .guest n from rfl] at seat
  have seats : (s.map f).seats.filter (fun seat => seat.leftAt.isNone) =
      (s.seats.filter fun seat => seat.leftAt.isNone).map (ChatMember.map f) := by
    apply filter_map
    intro seat
    rfl
  rw [seat, Option.map_map]
  congr 1
  funext _
  simp only [Function.comp_apply]
  rw [seats, List.filterMap_map]
  congr 1
  funext seat
  have nickname := nickname_map (s := s) injective seat.userID
  have host : (seat.userID.map f = .account (f s.hostUserId)) =
      (seat.userID = .account s.hostUserId) :=
    propext (userId_map_inj (b := .account s.hostUserId) injective)
  simp only [Function.comp_apply, ChatMember.map, aliasAccountId_map]
  rw [nickname]
  simp only [State.map, host]

/-! ## Changes -/

theorem shaped_map (n : Nat) (payload : Payload (UserId υ) (ObjectKey υ)) :
    State.shaped n (payload.map (UserId.map f) (ObjectKey.map f)) =
      (State.shaped n payload).map id (ObjectKey.map f) := by
  cases payload with
  | edit edit => rfl
  | msg message =>
    simp only [State.shaped, Payload.map, ownSend_map]
    have d : (message.map (UserId.map f) (ObjectKey.map f)).d = message.d := rfl
    rw [d]
    congr 1
    exact toGuestMessageView_map { message with
      d := if (message.d.isSome && decide (message.sender.map (·.id) = some (.guest n))) = true then
        message.d else none }

theorem emit_map : (s.map f).emitContentToAuthorizedUsers =
    s.emitContentToAuthorizedUsers.map (State.map f) := by
  unfold State.emitContentToAuthorizedUsers
  cases waiting : s.outgoing with
  | nil => simp [State.map, waiting]
  | cons payload outgoing =>
    have height : (payload.map (UserId.map f) (ObjectKey.map f)).height = payload.height := by
      cases payload <;> rfl
    have there : (s.map f).outgoing = payload.map (UserId.map f) (ObjectKey.map f) ::
        outgoing.map (Payload.map (UserId.map f) (ObjectKey.map f)) := by
      simp [State.map, waiting]
    rw [there]
    simp only [Option.map_some, height, guestRecipients_map, shaped_map]
    simp [State.map]

theorem append_map (injective : Function.Injective f) (row : ChatMessage υ) :
    (s.map f).append (row.map f) = (s.append row).map f := by
  unfold State.append
  dsimp only
  rw [push_map, bump_map, presentSentMessage_map injective]
  exact announce_map (.msg ((s.push row).bump.presentSentMessage row))

theorem decide_own (injective : Function.Injective f) (a b : UserId υ) :
    decide (a.map f = b.map f) = decide (a = b) :=
  decide_eq_decide.mpr (userId_map_inj injective)

theorem sentAs_map (injective : Function.Injective f) (u : UserId υ) (d : JsString) :
    (s.map f).sentAs (u.map f) d = (s.sentAs u d).map (ChatMessage.map f) := by
  unfold State.sentAs
  apply find_map
  intro row
  show (decide (row.senderID.map f = u.map f) && decide (row.clientMessageId = d)) = _
  rw [decide_own injective]

theorem acceptable_map (injective : Function.Injective f) (u : UserId υ) (type : MessageType)
    (content : Content (ObjectKey υ)) :
    State.acceptable (u.map f) type (content.map (ObjectKey.map f)) =
      State.acceptable u type content := by
  have owner : ∀ key : Option (ObjectKey υ), (key.map (ObjectKey.map f)).all
      (fun key => decide (key.owner = u.map f)) = key.all fun key => decide (key.owner = u) := by
    intro key
    cases key with
    | none => rfl
    | some key => simp [ObjectKey.map, userId_map_inj injective]
  simp only [State.acceptable, Content.map, owner, Option.isSome_map, Option.isNone_map]

theorem sendMessage_map (injective : Function.Injective f) (u : UserId υ) (type : MessageType)
    (content : Content (ObjectKey υ)) (d : JsString) (replyToId : Option MessageId) :
    (s.map f).sendMessage (u.map f) type (content.map (ObjectKey.map f)) d replyToId =
      (s.sendMessage u type content d replyToId).map (State.map f) := by
  unfold State.sendMessage
  rw [sentAs_map injective, Option.isSome_map]
  split
  · rfl
  · rw [Option.map_some, newMessage_map, append_map injective]

theorem forwardMessage_map (injective : Function.Injective f) (u : UserId υ)
    (source : ChatMessage υ) (d : JsString) (file thumbFile : Nat) :
    (s.map f).forwardMessage (u.map f) (source.map f) d file thumbFile =
      (s.forwardMessage u source d file thumbFile).map (State.map f) := by
  unfold State.forwardMessage
  have content : (source.map f).content = source.content.map (ObjectKey.map f) := rfl
  have revokedAt : (source.map f).revokedAt = source.revokedAt := rfl
  have type : (source.map f).type = source.type := rfl
  rw [content, revokedAt, type, copied_map]
  split
  · exact sendMessage_map injective u source.type _ d none
  · rfl

theorem editable_map (injective : Function.Injective f) (row : ChatMessage υ) (u : UserId υ)
    (now : Time) : (row.map f).editable (u.map f) now = row.editable u now := by
  show (decide (row.senderID.map f = u.map f) && decide (row.revokedAt = none) &&
    (decide (row.type = .text) || decide (row.type = .quote)) &&
      decide (now ≤ row.createdAt + Chat.chatEditWindowMs)) = _
  rw [decide_own injective]
  rfl

theorem revocable_map (injective : Function.Injective f) (row : ChatMessage υ) (u : UserId υ)
    (now : Time) : (row.map f).revocable (u.map f) now = row.revocable u now := by
  show (decide (row.senderID.map f = u.map f) && decide (row.revokedAt = none) &&
    decide (now ≤ row.createdAt + Chat.chatRevokeWindowMs)) = _
  rw [decide_own injective]
  rfl

theorem editMessage_map (injective : Function.Injective f) (u : UserId υ) (row : ChatMessage υ)
    (text : JsString) : (s.map f).editMessage (u.map f) (row.map f) text =
      (s.editMessage u row text).map (State.map f) := by
  have edited : (row.map f).edited text (s.map f).now ((s.map f).nextRevision + 1) =
      (row.edited text s.now (s.nextRevision + 1)).map f := rfl
  have rows := setRow_map (s := s) (f := f)
    (g := fun _ => row.edited text s.now (s.nextRevision + 1))
    (h := fun _ => (row.edited text s.now (s.nextRevision + 1)).map f) row.id fun _ => rfl
  unfold State.editMessage
  dsimp only
  rw [edited, show (row.map f).id = row.id from rfl, rows, bump_map, presentEdit_map injective,
    show (s.map f).now = s.now from rfl, editable_map injective]
  split
  · rw [Option.map_some, ← announce_map]
    rfl
  · rfl

theorem revokeMessage_map (injective : Function.Injective f) (u : UserId υ) (row : ChatMessage υ) :
    (s.map f).revokeMessage (u.map f) (row.map f) = (s.revokeMessage u row).map (State.map f) := by
  have rows := setRow_map (s := s) (f := f)
    (g := fun row => row.revoked u s.now (s.nextRevision + 1))
    (h := fun row => row.revoked (u.map f) s.now (s.nextRevision + 1)) row.id fun _ => rfl
  unfold State.revokeMessage
  rw [show (row.map f).id = row.id from rfl, show (s.map f).now = s.now from rfl,
    show (s.map f).nextRevision = s.nextRevision from rfl, rows, bump_map,
    revocable_map injective]
  split
  · rfl
  · rfl

theorem reactionOf_map (injective : Function.Injective f) (reaction : ChatMessageReaction υ)
    (id : MessageId) (u : UserId υ) (emoji : JsString) :
    (reaction.map f).of id (u.map f) emoji = reaction.of id u emoji := by
  show (decide (reaction.messageID = id) && decide (reaction.userID.map f = u.map f) &&
    decide (reaction.emoji = emoji)) = _
  rw [decide_own injective]
  rfl

theorem setReaction_map (injective : Function.Injective f) (u : UserId υ) (id : MessageId)
    (emoji : JsString) (add : Bool) :
    (s.map f).setReaction (u.map f) id emoji add = (s.setReaction u id emoji add).map f := by
  unfold State.setReaction
  cases add with
  | true => simp [State.map, ChatMessageReaction.map]
  | false =>
    have kept : (s.map f).reactions.filter (fun reaction => !reaction.of id (u.map f) emoji) =
        (s.reactions.filter fun reaction => !reaction.of id u emoji).map
          (ChatMessageReaction.map f) := by
      apply filter_map
      intro reaction
      rw [reactionOf_map injective]
    simp only [Bool.false_eq_true, ↓reduceIte, kept]
    rfl

theorem toggleReaction_map (injective : Function.Injective f) (u : UserId υ)
    (row : ChatMessage υ) (emoji : JsString) (add : Bool) :
    (s.map f).toggleReaction (u.map f) (row.map f) emoji add =
      (s.toggleReaction u row emoji add).map (State.map f) := by
  have present : (s.map f).reactions.any (fun reaction => reaction.of row.id (u.map f) emoji) =
      s.reactions.any fun reaction => reaction.of row.id u emoji := by
    apply any_map
    intro reaction
    exact reactionOf_map injective reaction row.id u emoji
  have rows := setRow_map (s := s) (f := f)
    (g := fun row => { row with revision := s.nextRevision + 1 })
    (h := fun row => { row with revision := s.nextRevision + 1 }) row.id fun _ => rfl
  unfold State.toggleReaction
  dsimp only
  rw [show (row.map f).id = row.id from rfl, present,
    show (row.map f).revokedAt = row.revokedAt from rfl,
    show (s.map f).nextRevision = s.nextRevision from rfl, rows, bump_map,
    setReaction_map injective]
  split
  · rfl
  · rfl

theorem setSeat_map (injective : Function.Injective f) (u : UserId υ)
    {g : ChatMember υ → ChatMember υ} {h : ChatMember ω → ChatMember ω}
    (same : ∀ seat, h (seat.map f) = (g seat).map f) :
    (s.map f).setSeat (u.map f) h = (s.setSeat u g).map f := by
  simp only [State.setSeat, State.map, List.map_map]
  congr 1
  apply List.map_congr_left
  intro seat _
  simp only [Function.comp_apply]
  by_cases own : seat.userID = u
  · have own' : (seat.map f).userID = u.map f := (userId_map_inj injective).mpr own
    rw [if_pos own', if_pos own]
    exact same seat
  · have own' : ¬ (seat.map f).userID = u.map f := fun same => own ((userId_map_inj injective).mp same)
    rw [if_neg own', if_neg own]

theorem next_map (injective : Function.Injective f) (act : Act υ) :
    (s.map f).next (act.map f) = (s.next act).map (State.map f) := by
  cases act with
  | wait ms => rfl
  | join guest displayName =>
    have taken : (s.map f).seats.any (fun seat => decide (seat.userID = .guest guest)) =
        s.seats.any fun seat => decide (seat.userID = .guest guest) := by
      apply any_map
      intro seat
      simp [ChatMember.map, userId_map_guest]
    simp only [Act.map, State.next, taken]
    split
    · rfl
    · simp [State.map, ChatMember.map, UserId.map]
  | leave u =>
    simp only [Act.map, State.next, Option.map_some]
    rw [setSeat_map (g := fun seat => { seat with leftAt := some s.now }) injective u fun _ => rfl]
  | clear u height =>
    simp only [Act.map, State.next, Option.map_some]
    rw [setSeat_map (g := fun seat =>
      { seat with clearedBeforeHeight := max seat.clearedBeforeHeight height }) injective u
        fun _ => rfl]
  | send u type content d replyToId =>
    simp only [Act.map, State.next, seat_map injective, acceptable_map injective,
      sendMessage_map injective]
    cases s.seat u with
    | none => rfl
    | some seat =>
      simp only [Option.map_some, Option.bind_eq_bind, Option.bind_some]
      split
      · rfl
      · rfl
  | forward u source d file thumbFile =>
    simp only [Act.map, State.next, seat_map injective, row_map]
    cases s.seat u with
    | none => rfl
    | some seat =>
      cases s.row source with
      | none => rfl
      | some row =>
        simp only [Option.map_some, Option.bind_eq_bind, Option.bind_some, Option.filter_some]
        rw [show (seat.map f).clearedBeforeHeight = seat.clearedBeforeHeight from rfl,
          show (row.map f).height = row.height from rfl]
        split
        · exact forwardMessage_map injective u row d file thumbFile
        · rfl
  | edit u messageId text =>
    simp only [Act.map, State.next, seat_map injective, row_map]
    cases s.seat u with
    | none => rfl
    | some seat =>
      cases s.row messageId with
      | none => rfl
      | some row => exact editMessage_map injective u row text
  | revoke u messageId =>
    simp only [Act.map, State.next, seat_map injective, row_map]
    cases s.seat u with
    | none => rfl
    | some seat =>
      cases s.row messageId with
      | none => rfl
      | some row => exact revokeMessage_map injective u row
  | react u messageId emoji add =>
    simp only [Act.map, State.next, seat_map injective, row_map]
    cases s.seat u with
    | none => rfl
    | some seat =>
      cases s.row messageId with
      | none => rfl
      | some row => exact toggleReaction_map injective u row emoji add
  | emit => exact emit_map

/-- A run of the room is a run of the other host's room. -/
theorem run_map (injective : Function.Injective f) {t : State υ} {acts : List (Act υ)}
    (run : Run Step s acts t) : Run Step (s.map f) (acts.map (Act.map f)) (t.map f) := by
  induction run with
  | nil => exact .nil _
  | snoc _ last ih =>
    rw [List.map_append]
    refine ih.snoc ?_
    unfold Step
    rw [next_map injective, show State.next _ _ = some _ from last]
    rfl

end

end CircleBackend.TempChat
