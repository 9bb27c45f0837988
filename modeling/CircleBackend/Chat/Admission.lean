import CircleBackend.Chat.Sends

/-!
# Entering a group

An admission is a row of its own: an invitation that has to be accepted, an
application, or a scanned code. `join` opens the seat, and every call that
reaches it has looked the source, the ban and the policy up again under the lock
on the conversation. The deliveries and the group's log are not part of the
state.
-/

namespace CircleBackend.Chat

open Library
open Session (UserId)

abbrev AdmissionId := Nat

inductive AdmissionKind
  | invite
  | qr
  | application
  deriving DecidableEq, Repr

inductive AdmissionStatus
  | invited
  | pending
  | joined
  | rejected
  | declined
  | expired
  deriving DecidableEq, Repr

/-- `ACTIVE` -/
def AdmissionStatus.active : AdmissionStatus → Bool
  | .invited | .pending => true
  | _ => false

structure GroupAdmission where
  id : AdmissionId
  conversationID : ConversationId
  applicantID : UserId
  inviterID : Option UserId
  qrToken : Option JsString
  kind : AdmissionKind
  status : AdmissionStatus
  reason : JsString
  expiresAt : Time
  acceptedAt : Option Time
  decidedByID : Option UserId
  deriving DecidableEq, Repr

inductive QrTokenType
  | user
  | group
  | circle
  deriving DecidableEq, Repr

structure QrToken where
  token : JsString
  type : QrTokenType
  targetID : Nat
  issuerID : UserId
  expiresAt : Option Time
  revokedAt : Option Time
  deriving DecidableEq, Repr

structure AdmissionState where
  db : Db
  admissions : Table GroupAdmission AdmissionId (·.id)
  bans : List (ConversationId × UserId)
  tokens : Table QrToken JsString (·.token)

/-- What a call reads of friends, privacy settings and accounts. `refusesInvites`
is `groupInvitePermission === 'NONE'`. -/
structure Relations where
  friends : UserId → UserId → Bool
  refusesInvites : UserId → Bool
  active : UserId → Bool

/-- `TTL` -/
def admissionTtl : Nat := 7 * 24 * 60 * 60 * 1000

namespace AdmissionState

/-! ## The checks -/

def activeSeat (s : AdmissionState) (group : ConversationId) (user : UserId) : Option ChatMember :=
  (s.db.members.find (group, user)).filter (·.leftAt.isNone)

def manager (s : AdmissionState) (g : ChatConversation) (user : UserId) : Bool :=
  (s.activeSeat g.id user).any fun seat => g.ownerID = some user || seat.role = .admin

def requiresApproval (s : AdmissionState) (g : ChatConversation) (a : GroupAdmission) : Bool :=
  if a.kind = .application then true
  else if !g.joinApprovalRequired then false
  -- only the invitation of a current manager stands in for the approval
  else !(a.kind = .invite && a.inviterID.any fun inviter => s.manager g inviter)

def assertInviter (s : AdmissionState) (g : ChatConversation) (inviter : UserId) :
    Except Fault Unit :=
  if (s.activeSeat g.id inviter).isNone then
    .error (.refused "邀请人已不在群里" .groupInvitationInvalid)
  else if !g.memberCanInvite && !s.manager g inviter then
    .error (.refused "该群已关闭成员邀请" .groupInviteDisabled)
  else .ok ()

def targets (s : AdmissionState) (relations : Relations) (actor : UserId) (users : List UserId) :
    Except Fault Unit :=
  let blocked := users.any fun user =>
    s.db.blocks.contains (actor, user) || s.db.blocks.contains (user, actor)
  if blocked || users.any fun user => !relations.friends actor user then
    .error (.refused "只能邀请未拉黑的好友进群" .groupFriendsOnly)
  else if users.any relations.refusesInvites then
    .error (.refused "对方不允许群邀请" .inviteNotAllowed)
  else if !users.all relations.active then
    .error (.refused "部分用户不存在或不可用" .peerNotFound)
  else .ok ()

def assertGroupJoinAllowed (s : AdmissionState) (group : ConversationId) (users : List UserId) :
    Except Fault Unit :=
  if users.any fun user => s.bans.contains (group, user) then
    .error (.refused "该账号无法加入此群" .groupJoinBlocked)
  else .ok ()

def currentToken (s : AdmissionState) (g : ChatConversation) (a : GroupAdmission) (inviter : UserId)
    (now : Time) : Bool :=
  (a.qrToken.bind s.tokens.find).any fun token =>
    token.type = .group && token.targetID = g.id && token.issuerID = inviter &&
      token.revokedAt.isNone && token.expiresAt.all fun expiresAt => now < expiresAt

def validateSource (s : AdmissionState) (relations : Relations) (g : ChatConversation)
    (a : GroupAdmission) (now : Time) : Except Fault Unit := do
  s.assertGroupJoinAllowed g.id [a.applicantID]
  if a.expiresAt ≤ now then .error (.refused "邀请或申请已过期" .groupInvitationInvalid)
  else if a.kind = .application then
    if !g.cardJoinEnabled then .error (.refused "该群已关闭名片申请" .groupApplicationDisabled)
    else .ok ()
  else
    match a.inviterID with
    | none => .error (.refused "邀请已失效" .groupInvitationInvalid)
    | some inviter =>
      s.assertInviter g inviter
      if a.kind = .invite then s.targets relations inviter [a.applicantID]
      else if !g.qrJoinEnabled then
        .error (.refused "该群已关闭二维码入群" .groupQrJoinDisabled)
      else if !s.currentToken g a inviter now then
        .error (.refused "二维码邀请已失效" .groupInvitationInvalid)
      else .ok ()

/-! ## Rows -/

/-- What is due becomes `EXPIRED`. -/
def expire (s : AdmissionState) (group : ConversationId) (applicants : List UserId) (now : Time) :
    AdmissionState :=
  { s with
    admissions := s.admissions.updateMany
      (fun a =>
        a.conversationID = group && applicants.contains a.applicantID && a.status.active &&
          a.expiresAt ≤ now)
      (fun a => { a with status := .expired }) fun _ => rfl }

def active (s : AdmissionState) (group : ConversationId) (applicant : UserId) :
    Option GroupAdmission :=
  (s.admissions.select fun a =>
    a.conversationID = group && a.applicantID = applicant && a.status.active).head?

/-- `GroupAdmission_active_applicant_key` is the index on active rows. -/
def create (s : AdmissionState) (a : GroupAdmission) : Except Fault AdmissionState :=
  if a.status.active && (s.active a.conversationID a.applicantID).isSome then
    .error .uniqueViolation
  else
    match s.admissions.insert a with
    | none => .error .uniqueViolation
    | some admissions => .ok { s with admissions := admissions }

def update (s : AdmissionState) (a : GroupAdmission) : AdmissionState :=
  { s with admissions := s.admissions.put a }

/-! ## The calls -/

/-- `ids` are the ids of the rows the call creates. -/
def inviteBatch (s : AdmissionState) (group : ConversationId) (actor : UserId)
    (users : List UserId) (ids : UserId → AdmissionId) (now : Time) :
    Except Fault AdmissionState := do
  let candidates := users.filter fun user => (s.activeSeat group user).isNone
  if candidates.isEmpty then .ok s
  else
    s.assertGroupJoinAllowed group candidates
    let s := s.expire group candidates now
    let fresh := candidates.filter fun user => (s.active group user).isNone
    fresh.foldlM (fun s applicantID => s.create
      { id := ids applicantID
        conversationID := group
        applicantID := applicantID
        inviterID := some actor
        qrToken := none
        kind := .invite
        status := .invited
        reason := []
        expiresAt := now + admissionTtl
        acceptedAt := none
        decidedByID := none }) s

def invite (s : AdmissionState) (actor : UserId) (group : ConversationId) (rawUsers : List UserId)
    (ids : UserId → AdmissionId) (relations : Relations) (now : Time) :
    Except Fault AdmissionState := do
  let users := rawUsers.dedup.filter (· ≠ actor)
  if users.isEmpty || 100 < users.length then .error (.raised "请选择 1 至 100 位好友")
  else
    let g ← s.db.lockAdmission group
    s.assertInviter g actor
    s.targets relations actor users
    s.inviteBatch group actor users ids now

def apply (s : AdmissionState) (user : UserId) (group : ConversationId) (reason : JsString)
    (id : AdmissionId) (now : Time) : Except Fault (Option AdmissionId × AdmissionState) := do
  let g ← s.db.lockAdmission group
  if !g.cardJoinEnabled then
    .error (.refused "该群暂不接受名片申请" .groupApplicationDisabled)
  else if (s.activeSeat group user).isSome then .ok (none, s)
  else
    s.assertGroupJoinAllowed group [user]
    let s := s.expire group [user] now
    match s.active group user with
    | some existing => .ok (some existing.id, s)
    | none =>
      let s ← s.create
        { id := id
          conversationID := group
          applicantID := user
          inviterID := none
          qrToken := none
          kind := .application
          status := .pending
          reason := reason
          expiresAt := now + admissionTtl
          acceptedAt := some now
          decidedByID := none }
      .ok (some id, s)

def join (s : AdmissionState) (relations : Relations) (g : ChatConversation) (a : GroupAdmission)
    (actor : UserId) (now : Time) : Except Fault AdmissionState := do
  if a.acceptedAt.isNone then .error (.refused "尚未接受邀请" .groupAcceptRequired)
  else if !relations.active a.applicantID then .error (.refused "用户不可用" .peerNotFound)
  else
    let db ← s.db.openSeat g a.applicantID now
    .ok ({ s with db := db }.update { a with status := .joined, decidedByID := some actor })

/-- `row` is the code as it was before the transaction. -/
def acceptQr (s : AdmissionState) (user : UserId) (row : QrToken) (id : AdmissionId)
    (relations : Relations) (now : Time) : Except Fault (Option AdmissionId × AdmissionState) := do
  if row.type ≠ .group then .error (.refused "二维码邀请无效" .groupInvitationInvalid)
  else
    let g ← s.db.lockAdmission row.targetID
    if (s.activeSeat g.id user).isSome then .ok (none, s)
    else
      s.assertGroupJoinAllowed g.id [user]
      let s := s.expire g.id [user] now
      match s.active g.id user with
      | some existing =>
        if existing.status = .pending then .ok (some existing.id, s)
        else .error (.refused "请先处理已有的群邀请" .groupAcceptRequired)
      | none =>
        let a : GroupAdmission :=
          { id := id
            conversationID := g.id
            applicantID := user
            inviterID := some row.issuerID
            qrToken := some row.token
            kind := .qr
            status := .pending
            reason := []
            expiresAt := row.expiresAt.getD (now + admissionTtl)
            acceptedAt := some now
            decidedByID := none }
        let s ← s.create a
        s.validateSource relations g a now
        if !g.joinApprovalRequired then
          let s ← s.join relations g a user now
          .ok (some id, s)
        else .ok (some id, s)

end AdmissionState

inductive AdmissionAction
  | accept
  | decline
  | approve
  | reject
  | blacklist
  deriving DecidableEq, Repr

/-- `accept` and `decline` are the applicant's, the others a manager's. -/
def AdmissionAction.selfAction : AdmissionAction → Bool
  | .accept | .decline => true
  | _ => false

namespace AdmissionState

def blacklist (s : AdmissionState) (g : ChatConversation) (a : GroupAdmission) (user : UserId) :
    Except Fault AdmissionState :=
  let banned := s.bans.contains (g.id, a.applicantID)
  if (s.activeSeat g.id a.applicantID).isSome then
    .error (.raised "该用户已入群，请刷新申请列表")
  else if a.status ≠ .pending && a.status ≠ .rejected then .error (.raised "申请已处理")
  else if a.status = .rejected && banned then .ok s
  else
    .ok ({ s with bans := if banned then s.bans else (g.id, a.applicantID) :: s.bans }.update
      { a with status := .rejected, decidedByID := some user })

def accept (s : AdmissionState) (relations : Relations) (g : ChatConversation) (a : GroupAdmission)
    (user : UserId) (now : Time) : Except Fault AdmissionState := do
  s.validateSource relations g a now
  if a.status = .pending then .ok s
  else if a.status ≠ .invited then .error (.raised "邀请已处理")
  else
    let accepted := { a with acceptedAt := some now, status := .pending }
    let s := s.update accepted
    if !s.requiresApproval g accepted then
      s.join relations g accepted (a.inviterID.getD user) now
    else .ok s

def review (s : AdmissionState) (relations : Relations) (g : ChatConversation) (a : GroupAdmission)
    (user : UserId) (approved : Bool) (now : Time) : Except Fault AdmissionState := do
  if approved then s.validateSource relations g a now
  if a.status ≠ .pending || a.acceptedAt.isNone then
    .error (.refused "对方尚未接受或申请已处理" .groupAcceptRequired)
  else if approved then s.join relations g a user now
  else .ok (s.update { a with status := .rejected, decidedByID := some user })

/-- The row is looked up once for its conversation and again under the lock; the
conversation of a row never changes. -/
def act (s : AdmissionState) (user : UserId) (id : AdmissionId) (action : AdmissionAction)
    (relations : Relations) (now : Time) : Except Fault AdmissionState := do
  match s.admissions.find id with
  | none => .error (.raised "邀请或申请不存在")
  | some a =>
    let g ← s.db.lockAdmission a.conversationID
    if !(if action.selfAction then a.applicantID = user else s.manager g user) then
      .error (.refused "没有操作权限" .notMember)
    else if action = .blacklist then s.blacklist g a user
    else if a.status = .joined || a.status = .declined && action = .decline ||
        a.status = .rejected && action = .reject then .ok s
    else if action.selfAction && a.kind ≠ .invite then
      .error (.raised "当前记录不是待接受邀请")
    else
      match action with
      | .decline =>
        if a.status ≠ .invited then .error (.raised "邀请已处理")
        else .ok (s.update { a with status := .declined })
      | .accept => s.accept relations g a user now
      | action => s.review relations g a user (action = .approve) now

/-- A new group seats the friends who need not be asked and invites the others. -/
def createGroupConversation (s : AdmissionState) (userId : UserId)
    (conversationId : ConversationId) (memberIds : List UserId) (direct : UserId → Bool)
    (ids : UserId → AdmissionId) (now : Time) : Except Fault AdmissionState := do
  let db ← s.db.createGroupConversation userId conversationId memberIds direct now
  (memberIds.dedup.filter (· ≠ userId)).foldlM (fun s applicantID => s.create
    { id := ids applicantID
      conversationID := conversationId
      applicantID := applicantID
      inviterID := some userId
      qrToken := none
      kind := .invite
      status := if direct applicantID then .joined else .invited
      reason := []
      expiresAt := now + admissionTtl
      acceptedAt := if direct applicantID then some now else none
      decidedByID := if direct applicantID then some userId else none }) { s with db := db }

end AdmissionState

end CircleBackend.Chat
