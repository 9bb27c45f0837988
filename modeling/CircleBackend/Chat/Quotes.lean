import CircleBackend.Chat.Sends
import CircleBackend.Chat.Sync

/-!
# Quoted messages

What a viewer is sent of the message another one quotes. Every read passes the
viewer's floors to `attachReplyTo`; the broadcast of a new message goes to all
seats at once and passes none. `quotes_hidden_iff` compares two histories that
differ only in what the viewer has cleared: the reads cannot tell them apart,
and the broadcast can exactly when it quotes a text below the floor.
-/

namespace CircleBackend.Chat

open Library
open Session (UserId)

def historyPageMax : Nat := 100
def textSearchCandidatePage : Nat := 200
def textSearchCandidateRounds : Nat := 10
def messagePreviewMax : Nat := 40

/-! ## The snapshot -/

/-- No character here is outside the basic plane. -/
def jsString (s : String) : JsString := s.toList.map fun c => c.toNat.toUInt16

def messagePreviewLabels : List (JsString × JsString) :=
  [(jsString "image", jsString "[图片]"),
    (jsString "video", jsString "[视频]"),
    (jsString "voice", jsString "[语音]"),
    (jsString "file", jsString "[文件]"),
    (jsString "location", jsString "[位置]"),
    (jsString "note-card", jsString "[笔记]"),
    (jsString "friend-card", jsString "[名片]"),
    (jsString "circle-card", jsString "[圈子]"),
    (jsString "plaza-post-card", jsString "[帖子]"),
    (jsString "qr-card", jsString "[二维码]"),
    (jsString "group-invitation", jsString "[群邀请]"),
    (jsString "transfer-card", jsString "[转账]"),
    (jsString "verification-card", jsString "[验证]"),
    (jsString "call-record", jsString "[通话]")]

def messageTypeLabel : MessageType → JsString
  | .text | .quote => []
  | .system => jsString "[消息]"
  | .other name => (messagePreviewLabels.lookup name).getD (jsString "[消息]")

def MessageType.textual (type : MessageType) : Bool := type = .text || type = .quote

def Content.field (content : Content) (name : JsString) : Option Json :=
  (content.find? fun field => field.1 = name).map (·.2)

def messagePreviewText (type : MessageType) (content : Content) : JsString :=
  if type.textual then
    let text := match content.field textField with | some (.string s) => s | _ => []
    if messagePreviewMax < text.length then text.take messagePreviewMax ++ [8230] else text
  else messageTypeLabel type

def quotedTextField : JsString := jsString "quotedText"

def Content.stripQuotedText (content : Content) : Content :=
  content.map fun
    | (name, .string s) => (name, .string (if name = quotedTextField then [] else s))
    | field => field

/-- The sender stands for the nickname that is looked up. -/
structure ChatReplyToSnapshot where
  id : MessageId
  height : Nat
  sender : Option UserId
  type : MessageType
  preview : JsString
  revoked : Bool
  deriving DecidableEq, Repr

structure PresentedMessage where
  message : MessageDto
  replyTo : Option ChatReplyToSnapshot
  deriving DecidableEq, Repr

def ChatMessage.snapshot (row : ChatMessage) : ChatReplyToSnapshot where
  id := row.id
  height := row.height
  sender := row.senderID
  type := row.type
  preview := if row.revokedAt.isSome then [] else messagePreviewText row.type row.content
  revoked := row.revokedAt.isSome

/-- The floors by conversation that a caller may pass. -/
abbrev HeightFloors := ConversationId → Option Nat

def HeightFloors.only (conversationId : ConversationId) (floor : Nat) : HeightFloors :=
  fun id => if id = conversationId then some floor else none

/-- Whether `attachReplyTo` shows this row in a message of the conversation. -/
def ChatMessage.quotable (row : ChatMessage) (now : Time) (heightFloors : HeightFloors)
    (conversationId : ConversationId) : Bool :=
  !row.deleted && row.conversationID = conversationId &&
    (heightFloors conversationId).getD 0 < row.height && isChatMessageVisible row.burnExpiresAt now

def Db.quoted (db : Db) (now : Time) (heightFloors : HeightFloors)
    (conversationId : ConversationId) (replyToId : Option MessageId) : Option ChatMessage :=
  (replyToId.bind db.messages.find).filter fun row => row.quotable now heightFloors conversationId

def Db.attachReplyTo (db : Db) (now : Time) (heightFloors : HeightFloors) (message : MessageDto) :
    PresentedMessage :=
  if message.replyToId.isNone then ⟨message, none⟩
  else
    let row := db.quoted now heightFloors message.conversationId message.replyToId
    let content :=
      if row.all (·.revokedAt.isSome) then message.content.stripQuotedText else message.content
    ⟨{ message with content := content }, row.map (·.snapshot)⟩

/-! ## The reads -/

/-- `types` is empty when all are asked for; `day` is a date as an interval. -/
structure HistoryRequest where
  beforeHeight : Option Nat
  afterHeight : Option Nat
  limit : Nat
  types : List MessageType
  day : Option (Time × Time)
  keyword : Option JsString

/-- `content ->> 'text'` -/
def Content.asText (content : Content) : Option JsString :=
  match content.field textField with
  | some (.string s) => some s
  | some (.other text) => if text = jsString "null" then none else some text
  | none => none

/-- `historyPageWhere` -/
def HistoryRequest.historyPageWhere (r : HistoryRequest) (conversationId : ConversationId)
    (heightFloor : Nat) (now : Time) (m : ChatMessage) : Bool :=
  m.conversationID = conversationId && !m.deleted &&
    (heightFloor = 0 || heightFloor < m.height) && r.beforeHeight.all (m.height < ·) &&
    (r.types.isEmpty || r.types.contains m.type) &&
    r.day.all (fun day => day.1 ≤ m.createdAt && m.createdAt < day.2) &&
    isChatMessageVisible m.burnExpiresAt now

/-- A candidate of `findHistoryKeywordRows`. The index on pairs of letters, which
is asked too, never misses a text that contains the keyword. -/
def HistoryRequest.candidate (r : HistoryRequest) (keyword : JsString)
    (conversationId : ConversationId) (heightFloor : Nat) (now : Time) (m : ChatMessage) : Bool :=
  m.conversationID = conversationId && !m.deleted && isChatMessageVisible m.burnExpiresAt now &&
    m.type.textual && m.content.asText.any (fun text => decide (keyword <:+: text)) &&
    heightFloor < m.height && (r.afterHeight.isSome || r.beforeHeight.all (m.height < ·))

def byHeight (ascending : Bool) (a b : ChatMessage) : Prop :=
  if ascending then a.height ≤ b.height else b.height ≤ a.height

instance (ascending : Bool) : DecidableRel (byHeight ascending) :=
  fun a b => inferInstanceAs (Decidable (if ascending then a.height ≤ b.height else b.height ≤ a.height))

/-- The rows of a page. The candidates of a keyword come in rounds, each filtered
as it comes, until the page is full. -/
def HistoryRequest.rows (r : HistoryRequest) (messages : List ChatMessage)
    (conversationId : ConversationId) (heightFloor : Nat) (now : Time) : List ChatMessage :=
  let take := min (max r.limit 1) historyPageMax
  let ordered := messages.insertionSort (byHeight r.afterHeight.isSome)
  let wanted := r.historyPageWhere conversationId heightFloor now
  match r.keyword with
  | none => (ordered.filter wanted).take take
  | some keyword =>
    let candidates := ordered.filter (r.candidate keyword conversationId heightFloor now)
    ((candidates.take (textSearchCandidatePage * textSearchCandidateRounds)).filter wanted).take take

structure ChatHistoryPage where
  messages : List PresentedMessage
  nextBeforeHeight : Option Nat
  nextAfterHeight : Option Nat
  deriving DecidableEq, Repr

def Db.getHistory (db : Db) (now : Time) (userId : UserId) (conversationId : ConversationId)
    (r : HistoryRequest) : Except Fault ChatHistoryPage :=
  match db.requireMembershipSeat conversationId userId with
  | none => .error (.refused "不在该会话中" .notMember)
  | some (_, member) =>
    if r.beforeHeight.isSome && r.afterHeight.isSome then
      .error (.raised "beforeHeight and afterHeight are mutually exclusive")
    else
      let ascending := r.afterHeight.isSome
      let heightFloor := max (r.afterHeight.getD 0) member.clearedBeforeHeight
      let rows := r.rows db.messages.rows conversationId heightFloor now
      let floors := HeightFloors.only conversationId member.clearedBeforeHeight
      let next :=
        if rows.length = min (max r.limit 1) historyPageMax then rows.getLast?.map (·.height)
        else none
      .ok
        { messages := (if ascending then rows else rows.reverse).map fun row =>
            db.attachReplyTo now floors (toMessageDto row userId (db.reactionsOf row.id))
          nextBeforeHeight := if ascending then none else next
          nextAfterHeight := if ascending then next else none }

/-- The messages of a page of `syncConversation`. -/
def Db.syncMessages (db : Db) (now : Time) (userId : UserId) (conversationId : ConversationId)
    (afterRevision limit : Nat) : List PresentedMessage :=
  match db.requireMembershipSeat conversationId userId with
  | none => []
  | some (c, member) =>
    let rows :=
      (db.changed conversationId afterRevision (conversationSyncRevision c)).take (syncTake limit + 1)
    let page := syncPage userId c member afterRevision limit rows now db.reactionsOf
    let floors := HeightFloors.only conversationId member.clearedBeforeHeight
    page.messages.map fun message =>
      if message.deleted then ⟨message, none⟩ else db.attachReplyTo now floors message

def newestFirst (a b : ChatMessage) : Prop :=
  b.createdAt < a.createdAt ∨ a.createdAt = b.createdAt ∧ b.id ≤ a.id

instance : DecidableRel newestFirst := fun a b =>
  inferInstanceAs (Decidable (b.createdAt < a.createdAt ∨ a.createdAt = b.createdAt ∧ b.id ≤ a.id))

/-- The floors of all the conversations the user has a seat in. -/
def Db.heightFloors (db : Db) (userId : UserId) : HeightFloors := fun id =>
  (db.requireMembershipSeat id userId).map fun seat => seat.2.clearedBeforeHeight

/-- `rounds` is what the text index answered, a page of candidates a round. It is
asked about every message of the user's conversations; what it finds is filtered
here. -/
def Db.searchAllMessages (db : Db) (now : Time) (userId : UserId)
    (rounds : List (List MessageId)) (limit : Nat) : List PresentedMessage :=
  let floors := db.heightFloors userId
  let matched := rounds.flatMap fun candidates =>
    (db.messages.select fun m =>
      (floors m.conversationID).any (fun floor => floor = 0 || floor < m.height) && !m.deleted &&
        m.type.textual && candidates.contains m.id &&
        isChatMessageVisible m.burnExpiresAt now).insertionSort newestFirst
  (matched.take (min (max limit 1) historyPageMax)).map fun row =>
    db.attachReplyTo now floors (toMessageDto row userId [])

/-! ## The broadcasts -/

/-- `emitContentToAuthorizedUsers` -/
def Db.authorized (db : Db) (userId : UserId) (conversationId : ConversationId) (height : Nat) :
    Bool :=
  (db.members.find (conversationId, userId)).any fun seat =>
    seat.leftAt.isNone && seat.clearedBeforeHeight < height

/-- What the user hears of a new message. -/
def Db.presentSentMessage (db : Db) (now : Time) (userId : UserId) (row : ChatMessage) :
    PresentedMessage :=
  db.attachReplyTo now (fun _ => none) (toMessageDto row userId [])

structure ChatEditBroadcast where
  conversationId : ConversationId
  messageId : MessageId
  height : Nat
  content : Content
  editedAt : Time
  revision : Nat
  deriving DecidableEq, Repr

/-- Of the decorated message the gateway passes these fields on. -/
def Db.emitEdit (db : Db) (now : Time) (userId : UserId) (row : ChatMessage) : ChatEditBroadcast :=
  let dto := (db.attachReplyTo now (fun _ => none) (toMessageDto row userId [])).message
  { conversationId := dto.conversationId
    messageId := dto.id
    height := dto.height
    content := dto.content
    editedAt := dto.editedAt.getD now
    revision := dto.revision }

/-! ## What reaches a viewer -/

inductive Path
  | getHistory (conversationId : ConversationId) (r : HistoryRequest)
  | syncConversation (conversationId : ConversationId) (afterRevision limit : Nat)
  | searchAllMessages (rounds : Db → List (List MessageId)) (limit : Nat)
  | sent (id : MessageId)
  | edited (id : MessageId)

inductive Delivery
  | message (m : PresentedMessage)
  | edit (e : ChatEditBroadcast)
  deriving DecidableEq, Repr

def Delivery.messageId : Delivery → MessageId
  | .message m => m.message.id
  | .edit e => e.messageId

def Delivery.replyTo : Delivery → Option ChatReplyToSnapshot
  | .message m => m.replyTo
  | .edit _ => none

/-- A broadcast goes out some time after the commit, so at any later state. -/
def Db.deliver (db : Db) (now : Time) (userId : UserId) : Path → List Delivery
  | .getHistory cid r =>
    match db.getHistory now userId cid r with
    | .ok page => page.messages.map .message
    | .error _ => []
  | .syncConversation cid afterRevision limit =>
    (db.syncMessages now userId cid afterRevision limit).map .message
  | .searchAllMessages rounds limit =>
    (db.searchAllMessages now userId (rounds db) limit).map .message
  | .sent id =>
    match (db.messages.find id).filter fun m => db.authorized userId m.conversationID m.height with
    | none => []
    | some row => [.message (db.presentSentMessage now userId row)]
  | .edited id =>
    match (db.messages.find id).filter fun m => db.authorized userId m.conversationID m.height with
    | none => []
    | some row => [.edit (db.emitEdit now userId row)]

/-- The same rows, but the selected messages say something else. -/
def Db.rewrite (db : Db) (selected : ChatMessage → Bool) (content : MessageId → Content) : Db :=
  { db with
    messages := db.messages.updateMany selected (fun m => { m with content := content m.id })
      fun _ => rfl }

def ChatMessage.reword (m : ChatMessage) (selected : ChatMessage → Bool)
    (content : MessageId → Content) : ChatMessage :=
  if selected m then { m with content := content m.id } else m

/-- At or below the viewer's floor, the stricter of the seat's and the conversation's. -/
def Db.cleared (db : Db) (userId : UserId) (m : ChatMessage) : Bool :=
  m.height ≤ db.floorOf m.conversationID userId

/-- Whether the viewer of `m` may see the message `q`. -/
def Db.sees (db : Db) (now : Time) (userId : UserId) (m q : ChatMessage) : Bool :=
  q.conversationID = m.conversationID && !db.cleared userId q && !q.deleted && q.revokedAt.isNone &&
    isChatMessageVisible q.burnExpiresAt now

/-- What a search finds is up to its index, which reads every message; of what two
searches both find they show the same. -/
def Path.Same (path : Path) (xs ys : List Delivery) : Prop :=
  match path with
  | .searchAllMessages _ _ => ∀ x ∈ xs, ∀ y ∈ ys, x.messageId = y.messageId → x = y
  | _ => xs = ys

structure QuotesHidden (db : Db) (now : Time) (userId : UserId) (path : Path) : Prop where
  cleared : ∀ content, path.Same (db.deliver now userId path)
    ((db.rewrite (db.cleared userId) content).deliver now userId path)
  snapshot : ∀ m ∈ db.messages.rows, ∀ q ∈ db.messages.rows, m.replyToID = some q.id →
    db.sees now userId m q = false → ∀ content,
      ∀ x ∈ db.deliver now userId path,
        ∀ y ∈ (db.rewrite (fun row => row.id = q.id) content).deliver now userId path,
          x.messageId = m.id → y.messageId = m.id → x.replyTo = y.replyTo

/-- The message quotes a text that the viewer has cleared and that is otherwise
still there. -/
def Db.quotesCleared (db : Db) (now : Time) (userId : UserId) (m : ChatMessage) : Bool :=
  (m.replyToID.bind db.messages.find).any fun q =>
    q.conversationID = m.conversationID && db.cleared userId q && !q.deleted &&
      q.revokedAt.isNone && isChatMessageVisible q.burnExpiresAt now && q.type.textual

/-- Only the broadcasts can go wrong: to a seat whose conversation has been cleared
past the message, and with a quote of what the seat has cleared. -/
def Path.Floored (path : Path) (db : Db) (now : Time) (userId : UserId) : Prop :=
  match path with
  | .sent id => ∀ m, db.messages.find id = some m →
      db.authorized userId m.conversationID m.height = true →
        db.cleared userId m = false ∧ db.quotesCleared now userId m = false
  | .edited id => ∀ m, db.messages.find id = some m →
      db.authorized userId m.conversationID m.height = true → db.cleared userId m = false
  | _ => True

/-! ## Other words in the same rows -/

section
variable {selected : ChatMessage → Bool} {content : MessageId → Content}

theorem reword_kept {m : ChatMessage} (h : selected m = false) : m.reword selected content = m := by
  simp [ChatMessage.reword, h]

@[simp] theorem reword_id (m : ChatMessage) : (m.reword selected content).id = m.id := by
  unfold ChatMessage.reword
  split <;> rfl

@[simp] theorem reword_conversationID (m : ChatMessage) :
    (m.reword selected content).conversationID = m.conversationID := by
  unfold ChatMessage.reword
  split <;> rfl

@[simp] theorem reword_height (m : ChatMessage) :
    (m.reword selected content).height = m.height := by
  unfold ChatMessage.reword
  split <;> rfl

@[simp] theorem reword_senderID (m : ChatMessage) :
    (m.reword selected content).senderID = m.senderID := by
  unfold ChatMessage.reword
  split <;> rfl

@[simp] theorem reword_type (m : ChatMessage) : (m.reword selected content).type = m.type := by
  unfold ChatMessage.reword
  split <;> rfl

@[simp] theorem reword_replyToID (m : ChatMessage) :
    (m.reword selected content).replyToID = m.replyToID := by
  unfold ChatMessage.reword
  split <;> rfl

@[simp] theorem reword_deleted (m : ChatMessage) :
    (m.reword selected content).deleted = m.deleted := by
  unfold ChatMessage.reword
  split <;> rfl

@[simp] theorem reword_revokedAt (m : ChatMessage) :
    (m.reword selected content).revokedAt = m.revokedAt := by
  unfold ChatMessage.reword
  split <;> rfl

@[simp] theorem reword_burnExpiresAt (m : ChatMessage) :
    (m.reword selected content).burnExpiresAt = m.burnExpiresAt := by
  unfold ChatMessage.reword
  split <;> rfl

@[simp] theorem reword_revision (m : ChatMessage) :
    (m.reword selected content).revision = m.revision := by
  unfold ChatMessage.reword
  split <;> rfl

theorem rewrite_rows (db : Db) :
    (db.rewrite selected content).messages.rows =
      db.messages.rows.map fun m => m.reword selected content := rfl

theorem rewrite_find (db : Db) (id : MessageId) :
    (db.rewrite selected content).messages.find id =
      (db.messages.find id).map fun m => m.reword selected content :=
  Table.find_updateMany db.messages selected (fun m => { m with content := content m.id })
    (fun _ => rfl) id

theorem rewrite_quoted (db : Db) (now : Time) (floors : HeightFloors) (cid : ConversationId)
    (replyToId : Option MessageId) :
    (db.rewrite selected content).quoted now floors cid replyToId =
      (db.quoted now floors cid replyToId).map fun m => m.reword selected content := by
  have same : ∀ m : ChatMessage,
      (m.reword selected content).quotable now floors cid = m.quotable now floors cid := by
    intro m
    simp [ChatMessage.quotable]
  unfold Db.quoted
  cases replyToId with
  | none => rfl
  | some id =>
    rw [Option.bind_some, Option.bind_some, rewrite_find]
    cases db.messages.find id with
    | none => rfl
    | some m => simp [Option.filter, same, apply_ite]

/-- The words of a message show in its snapshot only when it is a text that has
not been revoked. -/
theorem snapshot_reword {m : ChatMessage} (content : MessageId → Content)
    (h : selected m = true → m.revokedAt = none → m.type.textual = false) :
    (m.reword selected content).snapshot = m.snapshot := by
  cases chosen : selected m with
  | false => rw [reword_kept chosen]
  | true =>
    have preview : m.revokedAt = none → ∀ c c' : Content,
        messagePreviewText m.type c = messagePreviewText m.type c' := by
      intro unrevoked c c'
      simp [messagePreviewText, h chosen unrevoked]
    cases revoked : m.revokedAt with
    | none =>
      have text := preview revoked (m.reword selected content).content m.content
      simp [ChatMessage.snapshot, revoked, text]
    | some t => simp [ChatMessage.snapshot, revoked]

theorem attachReplyTo_rewrite {db : Db} {now : Time} {floors : HeightFloors} {message : MessageDto}
    (h : ∀ m, db.quoted now floors message.conversationId message.replyToId = some m →
      selected m = true → m.revokedAt = none → m.type.textual = false) :
    (db.rewrite selected content).attachReplyTo now floors message =
      db.attachReplyTo now floors message := by
  unfold Db.attachReplyTo
  rw [rewrite_quoted]
  cases quoted : db.quoted now floors message.conversationId message.replyToId with
  | none => rfl
  | some m =>
    have same := snapshot_reword content (h m quoted)
    simp [same]

/-- Beside the snapshot the message itself does not depend on the quoted words. -/
theorem rewrite_message (db : Db) (now : Time) (floors : HeightFloors) (message : MessageDto) :
    ((db.rewrite selected content).attachReplyTo now floors message).message =
      (db.attachReplyTo now floors message).message := by
  unfold Db.attachReplyTo
  rw [rewrite_quoted]
  split
  · rfl
  · cases db.quoted now floors message.conversationId message.replyToId with
    | none => rfl
    | some m => simp

end

theorem attachReplyTo_replyTo (db : Db) (now : Time) (floors : HeightFloors) (message : MessageDto) :
    (db.attachReplyTo now floors message).replyTo =
      (db.quoted now floors message.conversationId message.replyToId).map (·.snapshot) := by
  unfold Db.attachReplyTo
  split
  · rename_i absent
    rw [Option.isNone_iff_eq_none] at absent
    simp [Db.quoted, absent]
  · rfl

theorem attachReplyTo_id (db : Db) (now : Time) (floors : HeightFloors) (message : MessageDto) :
    (db.attachReplyTo now floors message).message.id = message.id := by
  unfold Db.attachReplyTo
  split <;> rfl

theorem quoted_some {db : Db} {now : Time} {floors : HeightFloors} {cid : ConversationId}
    {replyToId : Option MessageId} {m : ChatMessage}
    (h : db.quoted now floors cid replyToId = some m) :
    replyToId = some m.id ∧ m ∈ db.messages.rows ∧ m.deleted = false ∧ m.conversationID = cid ∧
      (floors cid).getD 0 < m.height ∧ isChatMessageVisible m.burnExpiresAt now = true := by
  obtain ⟨found, shown⟩ := Option.filter_eq_some_iff.mp h
  obtain ⟨id, named, found⟩ := Option.bind_eq_some_iff.mp found
  simp only [ChatMessage.quotable, Bool.and_eq_true, Bool.not_eq_true', decide_eq_true_eq] at shown
  obtain ⟨⟨⟨kept, own⟩, above⟩, visible⟩ := shown
  exact ⟨named.trans (congrArg some (Table.find_key found).symm), Table.find_mem found, kept, own,
    above, visible⟩

/-! ## The reads keep to the floor -/

section
variable {selected : ChatMessage → Bool} {content : MessageId → Content}

theorem filter_reword {xs : List ChatMessage} {p : ChatMessage → Bool}
    (content : MessageId → Content)
    (apart : ∀ m ∈ xs, selected m = true → p m = false ∧ p (m.reword selected content) = false) :
    (xs.map fun m => m.reword selected content).filter p = xs.filter p := by
  induction xs with
  | nil => rfl
  | cons m rest ih =>
    have later := ih fun n hn => apart n (List.mem_cons_of_mem m hn)
    rw [List.map_cons]
    cases chosen : selected m with
    | false => rw [reword_kept chosen, List.filter_cons, List.filter_cons, later]
    | true =>
      obtain ⟨before, after⟩ := apart m List.mem_cons_self chosen
      rw [List.filter_cons_of_neg (by simp [after]), List.filter_cons_of_neg (by simp [before]),
        later]

theorem rows_reword {messages : List ChatMessage} (r : HistoryRequest) {cid : ConversationId}
    {heightFloor : Nat} {now : Time}
    (low : ∀ m ∈ messages, selected m = true → m.conversationID = cid →
      0 < m.height ∧ m.height ≤ heightFloor) :
    r.rows (messages.map fun m => m.reword selected content) cid heightFloor now =
      r.rows messages cid heightFloor now := by
  have ordered := List.map_insertionSort (byHeight r.afterHeight.isSome)
    (byHeight r.afterHeight.isSome) (fun m => m.reword selected content) messages
    (fun a _ b _ => by simp [byHeight])
  have low : ∀ m ∈ messages.insertionSort (byHeight r.afterHeight.isSome), selected m = true →
      m.conversationID = cid → 0 < m.height ∧ m.height ≤ heightFloor :=
    fun m hm => low m (List.mem_insertionSort _ |>.mp hm)
  have wanted := filter_reword (p := r.historyPageWhere cid heightFloor now) content
    fun m hm chosen => by
      by_cases own : m.conversationID = cid
      · have := low m hm chosen own
        have shut : (decide (heightFloor = 0) || decide (heightFloor < m.height)) = false := by
          simp
          omega
        simp [HistoryRequest.historyPageWhere, shut]
      · simp [HistoryRequest.historyPageWhere, own]
  have found := fun keyword => filter_reword (p := r.candidate keyword cid heightFloor now) content
    fun m hm chosen => by
      by_cases own : m.conversationID = cid
      · have := low m hm chosen own
        have shut : ¬heightFloor < m.height := by omega
        simp [HistoryRequest.candidate, shut]
      · simp [HistoryRequest.candidate, own]
  unfold HistoryRequest.rows
  simp only [← ordered]
  cases r.keyword with
  | none => simp only [wanted]
  | some keyword => simp only [found keyword]

theorem mem_rows {r : HistoryRequest} {messages : List ChatMessage} {cid : ConversationId}
    {heightFloor : Nat} {now : Time} {m : ChatMessage}
    (h : m ∈ r.rows messages cid heightFloor now) :
    m ∈ messages ∧ r.historyPageWhere cid heightFloor now m = true := by
  unfold HistoryRequest.rows at h
  dsimp only at h
  split at h
  · obtain ⟨hm, wanted⟩ := List.mem_filter.mp (List.mem_of_mem_take h)
    exact ⟨(List.mem_insertionSort _).mp hm, wanted⟩
  · obtain ⟨hm, wanted⟩ := List.mem_filter.mp (List.mem_of_mem_take h)
    obtain ⟨hm, -⟩ := List.mem_filter.mp (List.mem_of_mem_take hm)
    exact ⟨(List.mem_insertionSort _).mp hm, wanted⟩

theorem syncPage_reword {rows : List ChatMessage} (content : MessageId → Content) (uid : UserId)
    (c : ChatConversation) {member : ChatMember} (afterRevision limit : Nat) (now : Time)
    (reactionsOf : MessageId → List ChatMessageReaction)
    (low : ∀ m ∈ rows, selected m = true → m.height ≤ member.clearedBeforeHeight) :
    syncPage uid c member afterRevision limit (rows.map fun m => m.reword selected content) now
      reactionsOf = syncPage uid c member afterRevision limit rows now reactionsOf := by
  unfold syncPage
  dsimp only
  split
  · rfl
  · simp only [List.length_map, ← List.map_take, ← apply_ite (List.map _)]
    generalize taken : (if decide (syncTake limit < rows.length) = true then
      rows.take (syncTake limit) else rows) = page
    have low : ∀ m ∈ page, selected m = true → m.height ≤ member.clearedBeforeHeight := by
      intro m hm
      rw [← taken] at hm
      split at hm
      · exact low m (List.mem_of_mem_take hm)
      · exact low m hm
    have live := filter_reword (p := fun row => !row.deleted &&
      decide (member.clearedBeforeHeight < row.height) &&
        isChatMessageVisible row.burnExpiresAt now) content fun m hm chosen => by
      have shut : ¬member.clearedBeforeHeight < m.height := Nat.not_lt.mpr (low m hm chosen)
      simp [shut]
    have dead : ((page.map fun m => m.reword selected content).filter fun row =>
        row.deleted && decide (member.clearedBeforeHeight < row.height)) =
          page.filter fun row => row.deleted && decide (member.clearedBeforeHeight < row.height) := by
      apply filter_reword
      intro m hm chosen
      have shut : ¬member.clearedBeforeHeight < m.height := Nat.not_lt.mpr (low m hm chosen)
      simp [shut]
    have last : ((page.map fun m => m.reword selected content).getLast?.map (·.revision)) =
        page.getLast?.map (·.revision) := by
      rw [List.getLast?_map, Option.map_map]
      congr 1
      funext m
      exact reword_revision m
    rw [live, dead, last]

theorem rewrite_changed (db : Db) (cid : ConversationId) (afterRevision throughRevision : Nat) :
    (db.rewrite selected content).changed cid afterRevision throughRevision =
      (db.changed cid afterRevision throughRevision).map fun m => m.reword selected content := by
  have same : (fun m : ChatMessage => m.conversationID = cid && afterRevision < m.revision &&
      m.revision ≤ throughRevision) ∘ (fun m : ChatMessage => m.reword selected content) =
        fun m : ChatMessage => m.conversationID = cid && afterRevision < m.revision &&
          m.revision ≤ throughRevision := by
    funext m
    simp
  unfold Db.changed Table.select
  rw [rewrite_rows, List.filter_map, same]
  exact (List.map_insertionSort byRevision byRevision _ _ fun a _ b _ => by simp [byRevision]).symm

end

theorem mem_changed {db : Db} {cid : ConversationId} {afterRevision throughRevision : Nat}
    {m : ChatMessage} (h : m ∈ db.changed cid afterRevision throughRevision) :
    m ∈ db.messages.rows ∧ m.conversationID = cid := by
  obtain ⟨hm, chosen⟩ := Table.mem_select.mp ((List.mem_insertionSort _).mp h)
  simp only [Bool.and_eq_true, decide_eq_true_eq] at chosen
  exact ⟨hm, chosen.1.1⟩

theorem deliver_conversationId (uid : UserId)
    (reactionsOf : MessageId → List ChatMessageReaction) (row : ChatMessage) :
    (Chat.deliver uid reactionsOf row).conversationId = row.conversationID := by
  unfold Chat.deliver
  split <;> rfl

theorem deliver_replyToId (uid : UserId) (reactionsOf : MessageId → List ChatMessageReaction)
    (row : ChatMessage) : (Chat.deliver uid reactionsOf row).replyToId = row.replyToID := by
  unfold Chat.deliver
  split <;> rfl

theorem mem_syncPage {uid : UserId} {c : ChatConversation} {member : ChatMember}
    {afterRevision limit : Nat} {rows : List ChatMessage} {now : Time}
    {reactionsOf : MessageId → List ChatMessageReaction} {dto : MessageDto}
    (h : dto ∈ (syncPage uid c member afterRevision limit rows now reactionsOf).messages) :
    ∃ row ∈ rows, dto = Chat.deliver uid reactionsOf row := by
  unfold syncPage at h
  dsimp only at h
  split at h
  · cases h
  · obtain ⟨row, hrow, -, rfl⟩ := mem_delivered.mp ((List.mem_insertionSort _).mp h)
    refine ⟨row, ?_, rfl⟩
    split at hrow
    · exact List.mem_of_mem_take hrow
    · exact hrow

section
variable {db : Db} {now : Time} {uid : UserId} {content : MessageId → Content}

variable {floors : HeightFloors} {m : ChatMessage} {path : Path} {selected : ChatMessage → Bool}

variable {cid : ConversationId} {x : Delivery}

/-- Under the viewer's floor nothing quoted has been cleared. -/
theorem quoted_above {replyToId : Option MessageId}
    (floor : (floors cid).getD 0 = db.floorOf cid uid)
    (h : db.quoted now floors cid replyToId = some m) : db.cleared uid m = false := by
  obtain ⟨-, -, -, own, above, -⟩ := quoted_some h
  simp only [Db.cleared, own, decide_eq_false_iff_not]
  omega

theorem attachReplyTo_cleared {message : MessageDto}
    (floor : (floors message.conversationId).getD 0 = db.floorOf message.conversationId uid) :
    (db.rewrite (db.cleared uid) content).attachReplyTo now floors message =
      db.attachReplyTo now floors message := by
  apply attachReplyTo_rewrite
  intro m quoted chosen
  rw [quoted_above floor quoted] at chosen
  cases chosen

theorem rewrite_seat (chosen : ChatMessage → Bool) (cid : ConversationId) :
    (db.rewrite chosen content).requireMembershipSeat cid uid = db.requireMembershipSeat cid uid :=
  rfl

theorem getHistory_rewrite (positive : ∀ m ∈ db.messages.rows, 0 < m.height)
    (cid : ConversationId) (r : HistoryRequest) :
    (db.rewrite (db.cleared uid) content).getHistory now uid cid r =
      db.getHistory now uid cid r := by
  unfold Db.getHistory
  rw [rewrite_seat]
  cases seated : db.requireMembershipSeat cid uid with
  | none => rfl
  | some found =>
    obtain ⟨c, member⟩ := found
    have floor := (seat_some seated).2
    have rows : r.rows (db.messages.rows.map fun m => m.reword (db.cleared uid) content) cid
        (max (r.afterHeight.getD 0) member.clearedBeforeHeight) now =
          r.rows db.messages.rows cid (max (r.afterHeight.getD 0) member.clearedBeforeHeight) now := by
      apply rows_reword
      intro m hm chosen own
      simp only [Db.cleared, own, ← floor, decide_eq_true_eq] at chosen
      have := positive m hm
      omega
    dsimp only
    split
    · rfl
    · rw [rewrite_rows, rows]
      congr 2
      apply List.map_congr_left
      intro row hrow
      have member : row ∈ r.rows db.messages.rows cid
          (max (r.afterHeight.getD 0) member.clearedBeforeHeight) now := by
        split at hrow
        · exact hrow
        · exact List.mem_reverse.mp hrow
      have own : row.conversationID = cid := by
        have wanted := (mem_rows member).2
        simp only [HistoryRequest.historyPageWhere, Bool.and_eq_true, decide_eq_true_eq] at wanted
        exact wanted.1.1.1.1.1.1
      apply attachReplyTo_cleared
      simpa [HeightFloors.only, toMessageDto, own] using floor

theorem syncMessages_rewrite (cid : ConversationId) (afterRevision limit : Nat) :
    (db.rewrite (db.cleared uid) content).syncMessages now uid cid afterRevision limit =
      db.syncMessages now uid cid afterRevision limit := by
  unfold Db.syncMessages
  rw [rewrite_seat]
  cases seated : db.requireMembershipSeat cid uid with
  | none => rfl
  | some found =>
    obtain ⟨c, member⟩ := found
    have floor := (seat_some seated).2
    dsimp only
    have low : ∀ m ∈ (db.changed cid afterRevision (conversationSyncRevision c)).take
        (syncTake limit + 1), db.cleared uid m = true → m.height ≤ member.clearedBeforeHeight := by
      intro m hm chosen
      have own := (mem_changed (List.mem_of_mem_take hm)).2
      simpa [Db.cleared, own, ← floor] using chosen
    have page := syncPage_reword content uid c afterRevision limit now db.reactionsOf low
    rw [rewrite_changed, ← List.map_take]
    have reactions : (db.rewrite (db.cleared uid) content).reactionsOf = db.reactionsOf := rfl
    rw [reactions, page]
    apply List.map_congr_left
    intro message hm
    split
    · rfl
    · apply attachReplyTo_cleared
      obtain ⟨row, hrow, rfl⟩ := mem_syncPage hm
      have own : (Chat.deliver uid db.reactionsOf row).conversationId = cid := by
        rw [deliver_conversationId]
        exact (mem_changed (List.mem_of_mem_take hrow)).2
      simpa [HeightFloors.only, own] using floor

/-- Of a row that the search finds. -/
theorem mem_searchAllMessages {rounds : List (List MessageId)} {limit : Nat} {x : PresentedMessage}
    (h : x ∈ db.searchAllMessages now uid rounds limit) :
    ∃ row ∈ db.messages.rows, row.deleted = false ∧
      x = db.attachReplyTo now (db.heightFloors uid) (toMessageDto row uid []) ∧
      ∃ floor, db.heightFloors uid row.conversationID = some floor ∧
        (floor = 0 ∨ floor < row.height) := by
  obtain ⟨row, hrow, rfl⟩ := List.mem_map.mp h
  obtain ⟨candidates, -, hrow⟩ := List.mem_flatMap.mp (List.mem_of_mem_take hrow)
  obtain ⟨hrow, found⟩ := Table.mem_select.mp ((List.mem_insertionSort _).mp hrow)
  simp only [Bool.and_eq_true, Bool.not_eq_true', Option.any_eq_true, Bool.or_eq_true,
    decide_eq_true_eq] at found
  obtain ⟨⟨⟨⟨⟨floor, own, above⟩, kept⟩, -⟩, -⟩, -⟩ := found
  exact ⟨row, hrow, kept, rfl, floor, own, above⟩

/-! ## Which snapshot a delivery has -/

/-- The snapshot that a path puts into a message. -/
def Path.quotes (path : Path) (db : Db) (now : Time) (uid : UserId) (m : ChatMessage) :
    Option ChatMessage :=
  match path with
  | .edited _ => none
  | .sent _ => db.quoted now (fun _ => none) m.conversationID m.replyToID
  | _ => if m.deleted then none else db.quoted now (db.heightFloors uid) m.conversationID m.replyToID

theorem quoted_floors (now : Time)
    (replyToId : Option MessageId) (floor : (floors cid).getD 0 = db.floorOf cid uid) :
    db.quoted now floors cid replyToId = db.quoted now (db.heightFloors uid) cid replyToId := by
  have same : ((db.heightFloors uid) cid).getD 0 = db.floorOf cid uid := rfl
  simp only [Db.quoted, ChatMessage.quotable, floor, same]

theorem mem_getHistory {r : HistoryRequest} {page : ChatHistoryPage}
    (h : db.getHistory now uid cid r = .ok page) {x : PresentedMessage} (hx : x ∈ page.messages) :
    ∃ row ∈ db.messages.rows, row.deleted = false ∧ ∃ floors : HeightFloors,
      (floors row.conversationID).getD 0 = db.floorOf row.conversationID uid ∧
      x = db.attachReplyTo now floors (toMessageDto row uid (db.reactionsOf row.id)) := by
  unfold Db.getHistory at h
  split at h
  · cases h
  · rename_i c member seated
    dsimp only at h
    split at h
    · cases h
    · cases h
      obtain ⟨row, hrow, rfl⟩ := List.mem_map.mp hx
      have found : row ∈ r.rows db.messages.rows cid
          (max (r.afterHeight.getD 0) member.clearedBeforeHeight) now := by
        split at hrow
        · exact hrow
        · exact List.mem_reverse.mp hrow
      obtain ⟨hrow, wanted⟩ := mem_rows found
      simp only [HistoryRequest.historyPageWhere, Bool.and_eq_true, decide_eq_true_eq,
        Bool.not_eq_true'] at wanted
      have own : row.conversationID = cid := wanted.1.1.1.1.1.1
      refine ⟨row, hrow, wanted.1.1.1.1.1.2, _, ?_, rfl⟩
      simpa [HeightFloors.only, own] using (seat_some seated).2

theorem deliver_quotes (h : x ∈ db.deliver now uid path) :
    ∃ m ∈ db.messages.rows, x.messageId = m.id ∧
      x.replyTo = (path.quotes db now uid m).map (·.snapshot) := by
  cases path with
  | getHistory cid r =>
    simp only [Db.deliver] at h
    split at h
    · rename_i page answered
      obtain ⟨x, hx, rfl⟩ := List.mem_map.mp h
      obtain ⟨row, hrow, kept, floors, floor, rfl⟩ := mem_getHistory answered hx
      refine ⟨row, hrow, attachReplyTo_id _ _ _ _, ?_⟩
      have same := quoted_floors now row.replyToID floor
      simp [Delivery.replyTo, attachReplyTo_replyTo, Path.quotes, kept, toMessageDto, same]
    · cases h
  | syncConversation cid afterRevision limit =>
    obtain ⟨x, hx, rfl⟩ := List.mem_map.mp h
    unfold Db.syncMessages at hx
    split at hx
    · cases hx
    · rename_i c member seated
      obtain ⟨dto, hdto, rfl⟩ := List.mem_map.mp hx
      obtain ⟨row, hrow, rfl⟩ := mem_syncPage hdto
      obtain ⟨hrow, own⟩ := mem_changed (List.mem_of_mem_take hrow)
      have conversation := deliver_conversationId uid db.reactionsOf row
      have floor : ((HeightFloors.only cid member.clearedBeforeHeight) row.conversationID).getD 0 =
          db.floorOf row.conversationID uid := by
        simpa [HeightFloors.only, own] using (seat_some seated).2
      refine ⟨row, hrow, ?_, ?_⟩
      · rw [← deliver_id uid db.reactionsOf row]
        split
        · rfl
        · exact attachReplyTo_id _ _ _ _
      · rw [deliver_deleted]
        cases gone : row.deleted with
        | true => simp [Delivery.replyTo, Path.quotes, gone]
        | false =>
          have same := quoted_floors now row.replyToID floor
          simp [Delivery.replyTo, attachReplyTo_replyTo, Path.quotes, gone, conversation,
            deliver_replyToId, same]
  | searchAllMessages rounds limit =>
    obtain ⟨x, hx, rfl⟩ := List.mem_map.mp h
    obtain ⟨row, hrow, kept, rfl, -⟩ := mem_searchAllMessages hx
    refine ⟨row, hrow, attachReplyTo_id _ _ _ _, ?_⟩
    simp [Delivery.replyTo, attachReplyTo_replyTo, Path.quotes, kept, toMessageDto]
  | sent id =>
    simp only [Db.deliver] at h
    split at h
    · cases h
    · rename_i row found
      obtain ⟨found, -⟩ := Option.filter_eq_some_iff.mp found
      cases List.mem_singleton.mp h
      refine ⟨row, Table.find_mem found, attachReplyTo_id _ _ _ _, ?_⟩
      simp [Delivery.replyTo, Db.presentSentMessage, attachReplyTo_replyTo, Path.quotes, toMessageDto]
  | edited id =>
    simp only [Db.deliver] at h
    split at h
    · cases h
    · rename_i row found
      obtain ⟨found, -⟩ := Option.filter_eq_some_iff.mp found
      cases List.mem_singleton.mp h
      exact ⟨row, Table.find_mem found, attachReplyTo_id _ _ _ _, rfl⟩

theorem rewrite_quotes (path : Path) (m : ChatMessage) :
    path.quotes (db.rewrite selected content) now uid (m.reword selected content) =
      (path.quotes db now uid m).map fun q => q.reword selected content := by
  have floors : (db.rewrite selected content).heightFloors uid = db.heightFloors uid := rfl
  cases path with
  | edited _ => rfl
  | sent _ => simp only [Path.quotes, reword_conversationID, reword_replyToID, rewrite_quoted]
  | _ =>
    simp only [Path.quotes, reword_conversationID, reword_replyToID, reword_deleted, rewrite_quoted,
      floors]
    split <;> rfl

/-- The row that a broadcast is about. -/
theorem rewrite_addressed (id : MessageId) :
    ((db.rewrite selected content).messages.find id).filter (fun m =>
      (db.rewrite selected content).authorized uid m.conversationID m.height) =
        ((db.messages.find id).filter fun m => db.authorized uid m.conversationID m.height).map
          fun m => m.reword selected content := by
  have same : ∀ cid height, (db.rewrite selected content).authorized uid cid height =
      db.authorized uid cid height := fun _ _ => rfl
  rw [rewrite_find]
  cases db.messages.find id with
  | none => rfl
  | some m => simp [Option.filter, same, apply_ite]

theorem deliver_sent {id : MessageId} (h : x ∈ db.deliver now uid (.sent id)) :
    ∃ m, db.messages.find id = some m ∧ db.authorized uid m.conversationID m.height = true ∧
      x.messageId = m.id := by
  simp only [Db.deliver] at h
  split at h
  · cases h
  · rename_i row found
    obtain ⟨found, authorized⟩ := Option.filter_eq_some_iff.mp found
    cases List.mem_singleton.mp h
    exact ⟨row, found, authorized, attachReplyTo_id _ _ _ _⟩

theorem quotes_mem {q : ChatMessage} (h : path.quotes db now uid m = some q) :
    q ∈ db.messages.rows := by
  cases path with
  | edited _ => cases h
  | sent _ => exact (quoted_some h).2.1
  | _ =>
    simp only [Path.quotes] at h
    split at h
    · cases h
    · exact (quoted_some h).2.1

/-- What is quoted but not seen is revoked, or no text. -/
theorem quotes_blind (floored : path.Floored db now uid) (hx : x ∈ db.deliver now uid path)
    {q : ChatMessage} (hm : m ∈ db.messages.rows) (own : x.messageId = m.id)
    (quoted : path.quotes db now uid m = some q) (unseen : db.sees now uid m q = false)
    (unrevoked : q.revokedAt = none) : q.type.textual = false := by
  have cleared : ∀ {floors : HeightFloors},
      db.quoted now floors m.conversationID m.replyToID = some q → db.cleared uid q = true := by
    intro floors quoted
    obtain ⟨-, -, kept, conversation, -, visible⟩ := quoted_some quoted
    simpa [Db.sees, conversation, kept, unrevoked, visible] using unseen
  have above : ¬db.quoted now (db.heightFloors uid) m.conversationID m.replyToID = some q := by
    intro quoted
    have := cleared quoted
    rw [quoted_above rfl quoted] at this
    cases this
  cases path with
  | edited _ => cases quoted
  | sent id =>
    obtain ⟨row, found, authorized, same⟩ := deliver_sent hx
    have alike : row = m :=
      db.messages.row_unique (Table.find_mem found) hm (same.symm.trans own)
    subst alike
    have silent := (floored row found authorized).2
    have low := cleared quoted
    obtain ⟨named, hq, kept, conversation, -, visible⟩ := quoted_some quoted
    simpa [Db.quotesCleared, named, Table.mem_find hq, conversation, low, kept, unrevoked,
      visible] using silent
  | _ =>
    simp only [Path.quotes] at quoted
    split at quoted
    · cases quoted
    · exact absurd quoted above

theorem floored_cleared (positive : ∀ m ∈ db.messages.rows, 0 < m.height)
    (floored : path.Floored db now uid) (content : MessageId → Content) :
    path.Same (db.deliver now uid path)
      ((db.rewrite (db.cleared uid) content).deliver now uid path) := by
  cases path with
  | getHistory cid r => simp only [Path.Same, Db.deliver, getHistory_rewrite positive cid r]
  | syncConversation cid afterRevision limit =>
    simp only [Path.Same, Db.deliver, syncMessages_rewrite cid afterRevision limit]
  | searchAllMessages rounds limit =>
    intro x hx y hy same
    obtain ⟨hit, first, rfl⟩ := List.mem_map.mp hx
    obtain ⟨hit', second, rfl⟩ := List.mem_map.mp hy
    obtain ⟨row, hrow, -, rfl, floor, own, above⟩ := mem_searchAllMessages first
    obtain ⟨row', hrow', -, rfl, -⟩ := mem_searchAllMessages second
    rw [rewrite_rows] at hrow'
    obtain ⟨m, hm, rfl⟩ := List.mem_map.mp hrow'
    have ids : row.id = m.id := by
      simpa [Delivery.messageId, attachReplyTo_id, toMessageDto] using same
    have alike : row = m := db.messages.row_unique hrow hm ids
    subst alike
    have kept : db.cleared uid row = false := by
      have known : db.floorOf row.conversationID uid = floor := by
        change ((db.heightFloors uid) row.conversationID).getD 0 = floor
        rw [own]
        rfl
      have := positive row hrow
      simp only [Db.cleared, known, decide_eq_false_iff_not]
      omega
    rw [reword_kept kept]
    have attached : (db.rewrite (db.cleared uid) content).attachReplyTo now (db.heightFloors uid)
        (toMessageDto row uid []) =
          db.attachReplyTo now (db.heightFloors uid) (toMessageDto row uid []) :=
      attachReplyTo_cleared rfl
    exact congrArg Delivery.message attached.symm
  | sent id =>
    simp only [Path.Same, Db.deliver, rewrite_addressed]
    cases addressed : (db.messages.find id).filter fun m =>
        db.authorized uid m.conversationID m.height with
    | none => rfl
    | some row =>
      obtain ⟨found, authorized⟩ := Option.filter_eq_some_iff.mp addressed
      obtain ⟨kept, silent⟩ := floored row found authorized
      have attached : (db.rewrite (db.cleared uid) content).attachReplyTo now (fun _ => none)
          (toMessageDto row uid []) =
            db.attachReplyTo now (fun _ => none) (toMessageDto row uid []) := by
        apply attachReplyTo_rewrite
        intro q quoted low unrevoked
        obtain ⟨named, hq, here, conversation, -, visible⟩ := quoted_some quoted
        replace named : row.replyToID = some q.id := named
        replace conversation : q.conversationID = row.conversationID := conversation
        simpa [Db.quotesCleared, named, Table.mem_find hq, conversation, low, here, unrevoked,
          visible] using silent
      simp only [Option.map_some, reword_kept kept, Db.presentSentMessage, attached]
  | edited id =>
    simp only [Path.Same, Db.deliver, rewrite_addressed]
    cases addressed : (db.messages.find id).filter fun m =>
        db.authorized uid m.conversationID m.height with
    | none => rfl
    | some row =>
      obtain ⟨found, authorized⟩ := Option.filter_eq_some_iff.mp addressed
      have kept := floored row found authorized
      simp only [Option.map_some, reword_kept kept, Db.emitEdit, rewrite_message]

/-! ## What a broadcast tells -/

/-- Two things a message may say, neither with a quote in it. -/
def blank : Content := []
def words : Content := [(textField, .string [120])]

theorem attachReplyTo_content (db : Db) (now : Time) (floors : HeightFloors) (message : MessageDto) :
    (db.attachReplyTo now floors message).message.content = message.content ∨
      (db.attachReplyTo now floors message).message.content = message.content.stripQuotedText := by
  unfold Db.attachReplyTo
  split
  · exact Or.inl rfl
  · dsimp only
    split
    · exact Or.inr rfl
    · exact Or.inl rfl

theorem attachReplyTo_blank {message : MessageDto} (h : message.content = blank) :
    (db.attachReplyTo now floors message).message.content = blank := by
  rcases attachReplyTo_content db now floors message with same | stripped
  · exact same.trans h
  · rw [stripped, h]
    rfl

theorem attachReplyTo_words {message : MessageDto} (h : message.content = words) :
    (db.attachReplyTo now floors message).message.content = words := by
  rcases attachReplyTo_content db now floors message with same | stripped
  · exact same.trans h
  · rw [stripped, h]
    decide

theorem reword_chosen (h : selected m = true) :
    (m.reword selected content).content = content m.id := by
  simp [ChatMessage.reword, h]

theorem preview_blank {type : MessageType} (text : type.textual = true) :
    messagePreviewText type blank = [] := by
  simp [messagePreviewText, text, blank, Content.field, messagePreviewMax]

theorem preview_words {type : MessageType} (text : type.textual = true) :
    messagePreviewText type words = [120] := by
  simp [messagePreviewText, text, words, Content.field, messagePreviewMax]

/-- A broadcast of what the viewer has cleared tells its words. -/
theorem cleared_of_message {db₁ db₂ : Db} (same : (db₁.attachReplyTo now (fun _ => none)
        (toMessageDto (m.reword selected fun _ => blank) uid [])).message.content =
      (db₂.attachReplyTo now (fun _ => none)
        (toMessageDto (m.reword selected fun _ => words) uid [])).message.content) :
    selected m = false := by
  cases chosen : selected m with
  | false => rfl
  | true =>
    rw [attachReplyTo_blank (reword_chosen chosen), attachReplyTo_words (reword_chosen chosen)] at same
    cases same

theorem hidden_floored (positive : ∀ m ∈ db.messages.rows, 0 < m.height)
    (hidden : ∀ content, path.Same (db.deliver now uid path)
      ((db.rewrite (db.cleared uid) content).deliver now uid path)) : path.Floored db now uid := by
  cases path with
  | sent id =>
    intro m found authorized
    have told : (db.rewrite (db.cleared uid) fun _ => blank).deliver now uid (.sent id) =
        (db.rewrite (db.cleared uid) fun _ => words).deliver now uid (.sent id) :=
      (hidden fun _ => blank).symm.trans (hidden fun _ => words)
    simp only [Db.deliver, rewrite_addressed, found, Option.filter_some, authorized, ↓reduceIte,
      Option.map_some, List.cons.injEq, and_true, Delivery.message.injEq] at told
    refine ⟨cleared_of_message (congrArg (·.message.content) told), ?_⟩
    have shown := congrArg PresentedMessage.replyTo told
    simp only [Db.presentSentMessage, attachReplyTo_replyTo, rewrite_quoted] at shown
    by_contra exposed
    simp only [Db.quotesCleared, Bool.not_eq_false, Option.any_eq_true, Bool.and_eq_true,
      decide_eq_true_eq, Bool.not_eq_true', Option.isNone_iff_eq_none] at exposed
    obtain ⟨q, named, ⟨⟨⟨⟨own, low⟩, kept⟩, unrevoked⟩, visible⟩, text⟩ := exposed
    have quoted : db.quoted now (fun _ => none) m.conversationID m.replyToID = some q := by
      obtain ⟨id, -, here⟩ := Option.bind_eq_some_iff.mp named
      have above := positive q (Table.find_mem here)
      simp [Db.quoted, named, ChatMessage.quotable, kept, own, above, visible]
    simp [toMessageDto, quoted, ChatMessage.snapshot, unrevoked, reword_chosen low,
      preview_blank text, preview_words text] at shown
  | edited id =>
    intro m found authorized
    have told : (db.rewrite (db.cleared uid) fun _ => blank).deliver now uid (.edited id) =
        (db.rewrite (db.cleared uid) fun _ => words).deliver now uid (.edited id) :=
      (hidden fun _ => blank).symm.trans (hidden fun _ => words)
    simp only [Db.deliver, rewrite_addressed, found, Option.filter_some, authorized, ↓reduceIte,
      Option.map_some, List.cons.injEq, and_true, Delivery.edit.injEq] at told
    exact cleared_of_message (congrArg (·.content) told)
  | _ => trivial

end

/-! ## Every run -/

/-- What the viewer has cleared stays hidden on every path but the broadcast of a
message that quotes it. -/
theorem quotes_hidden_iff {db : Db} (h : Library.Reachable Unwritten ActStep db) (now : Time)
    (uid : UserId) (path : Path) : QuotesHidden db now uid path ↔ path.Floored db now uid := by
  have positive : ∀ m ∈ db.messages.rows, 0 < m.height := by
    intro m hm
    obtain ⟨n, -, low, -⟩ := (reachable_dense h).homed m hm
    exact low
  constructor
  · intro hidden
    exact hidden_floored positive hidden.cleared
  · intro floored
    refine ⟨floored_cleared positive floored, ?_⟩
    intro m hm q hq named unseen content x hx y hy own own'
    obtain ⟨m₁, hm₁, id₁, first⟩ := deliver_quotes hx
    obtain ⟨m₂, hm₂, id₂, second⟩ := deliver_quotes hy
    have alike : m₁ = m := db.messages.row_unique hm₁ hm (id₁.symm.trans own)
    subst alike
    rw [rewrite_rows] at hm₂
    obtain ⟨m₃, hm₃, rfl⟩ := List.mem_map.mp hm₂
    have alike : m₃ = m₁ := by
      apply db.messages.row_unique hm₃ hm
      exact (reword_id m₃).symm.trans (id₂.symm.trans own')
    subst alike
    rw [first, second, rewrite_quotes, Option.map_map]
    cases quoted : path.quotes db now uid m₃ with
    | none => rfl
    | some shown =>
      have kept : (shown.reword (fun row => row.id = q.id) content).snapshot = shown.snapshot := by
        apply snapshot_reword
        intro chosen unrevoked
        have same : shown = q :=
          db.messages.row_unique (quotes_mem quoted) hq (of_decide_eq_true chosen)
        subst same
        exact quotes_blind floored hx hm own quoted unseen unrevoked
      exact congrArg some kept.symm

/-- The first member sends a text, the second clears the history, and the first
quotes the text. -/
def quoting (text : JsString) : Db :=
  let sent := settle founded (.op (.sendMessage false
    { id := 1, conversationId := 1, senderUserId := 1, type := .text,
      content := [(textField, .string text)], d := [100], requestHash := [1], replyToID := none,
      policySec := 0, roomActive := true, now := 5 }))
  let cleared := settle sent (.op (.clearHistory .asStored
    { userId := 2, conversationId := 1, forEveryone := false, targetHeight := none, noticeId := 9,
      notice := [], now := 6 } fun _ => 6))
  settle cleared (.op (.sendMessage false
    { id := 2, conversationId := 1, senderUserId := 1, type := .quote,
      content := [(textField, .string [121])], d := [101], requestHash := [2], replyToID := some 1,
      policySec := 0, roomActive := true, now := 7 }))

theorem reachable_quoting (text : JsString) :
    Library.Reachable Unwritten ActStep (quoting text) := by
  unfold quoting
  exact reachable_settle (reachable_settle (reachable_settle reachable_founded _) _) _

/-- The second member hears of the quote with the text. -/
theorem quote_tells_cleared :
    ∃ x, Library.Reachable Unwritten ActStep (quoting [120]) ∧
      Library.Reachable Unwritten ActStep (quoting [122]) ∧
      (quoting [120]).floorOf 1 2 = 1 ∧
      (quoting [120]).deliver 8 2 (.sent 2) = [x] ∧ x ∉ (quoting [122]).deliver 8 2 (.sent 2) ∧
      ¬QuotesHidden (quoting [120]) 8 2 (.sent 2) := by
  refine ⟨_, reachable_quoting _, reachable_quoting _, by decide, rfl, by decide, ?_⟩
  intro hidden
  have same : (quoting [120]).deliver 8 2 (.sent 2) =
      ((quoting [120]).rewrite ((quoting [120]).cleared 2)
        fun _ => [(textField, .string [122])]).deliver 8 2 (.sent 2) := hidden.cleared _
  revert same
  decide

/-- The third has cleared nothing. -/
theorem quotes_hidden_third : QuotesHidden (quoting [120]) 8 3 (.sent 2) := by
  apply (quotes_hidden_iff (reachable_quoting [120]) 8 3 (.sent 2)).mpr
  intro m found _
  cases found
  decide

end CircleBackend.Chat
