import CircleBackend.Session.Model
import Mathlib.Data.List.Sort

/-!
# Calls

`CallService` over the sessions and their participants. An operation in flight is
where it has got to: each query outside a transaction is one step, the one of
`joinInvitedCall` is one step, and the one that creates a call is a snapshot, one
step for each lock, and the end. A creation whose snapshot misses a call that has
one of its participants cannot commit beside it. `randomUUID`, and whether
friendship, membership and the media server allow what is asked, are arguments.
-/

namespace CircleBackend.Calls

open Library
open Session (UserId)

abbrev CallId := Nat

inductive SessionType
  | single
  | group
  deriving DecidableEq, Repr

inductive CallStatus
  | ringing
  | active
  | ended
  | canceled
  | missed
  | failed
  deriving DecidableEq, Repr

def CallStatus.live : CallStatus → Bool
  | .ringing | .active => true
  | .ended | .canceled | .missed | .failed => false

inductive CallEndReason
  | normal
  | canceled
  | allLeft
  | noAnswer
  | error
  deriving DecidableEq, Repr

inductive ParticipantStatus
  | invited
  | joined
  | left
  | rejected
  | missed
  deriving DecidableEq, Repr

def ParticipantStatus.busy : ParticipantStatus → Bool
  | .invited | .joined => true
  | .left | .rejected | .missed => false

structure CallSession where
  id : CallId
  sessionType : SessionType
  status : CallStatus
  initiatorID : UserId
  idempotencyKey : Option JsString
  startedAt : Option Time
  endedAt : Option Time
  expiresAt : Time
  endedByID : Option UserId
  endReason : Option CallEndReason
  deriving DecidableEq, Repr

structure CallParticipant where
  callID : CallId
  userID : UserId
  status : ParticipantStatus
  deriving DecidableEq, Repr

structure Db where
  calls : Table CallSession CallId (·.id)
  participants : Table CallParticipant (CallId × UserId) fun p => (p.callID, p.userID)

inductive Fault
  | ended
  | expired
  | busy
  | notInvited
  | notFound
  | notAllowed
  | alreadyActive
  | notAccepted
  | notFriend
  | liveKitUnavailable
  | serializationFailure
  deriving DecidableEq, Repr

def Fault.message : Fault → String
  | .ended => "CALL_ENDED"
  | .expired => "CALL_EXPIRED"
  | .busy => "CALL_BUSY"
  | .notInvited => "CALL_NOT_INVITED"
  | .notFound => "CALL_NOT_FOUND"
  | .notAllowed => "CALL_NOT_ALLOWED"
  | .alreadyActive => "CALL_ALREADY_ACTIVE"
  | .notAccepted => "CALL_NOT_ACCEPTED"
  | .notFriend => "CALL_NOT_FRIEND"
  | .liveKitUnavailable => "LiveKit room creation failed"
  | .serializationFailure => "P2034"

/-- The arguments of `createCallSession`, and the id it will give the call. -/
structure StartCallParams where
  callId : CallId
  initiatorID : UserId
  sessionType : SessionType
  inviteeIDs : List UserId
  idempotencyKey : Option JsString
  distinct : (initiatorID :: inviteeIDs).Nodup
  direct : sessionType = .single → inviteeIDs.length = 1

def StartCallParams.participantIDs (p : StartCallParams) : List UserId :=
  p.initiatorID :: p.inviteeIDs

/-- The key that is looked up and stored; an empty one is none. -/
def StartCallParams.key (p : StartCallParams) : Option JsString :=
  (p.idempotencyKey.map trim).filter fun k => !k.isEmpty

/-! ## How a call ends -/

/-- A conditional write of a session's end, and what it then does to participants. -/
structure Ending where
  callId : CallId
  allowed : List CallStatus
  status : CallStatus
  endReason : CallEndReason
  endedAt : Time
  endedByID : Option UserId
  participants : Option (ParticipantStatus × ParticipantStatus)
  deriving DecidableEq, Repr

def expireRingingCallAsMissed (callId : CallId) (changedAt : Time) : Ending :=
  ⟨callId, [.ringing], .missed, .noAnswer, changedAt, none, some (.invited, .missed)⟩

def failRingingCallAsError (callId : CallId) (changedAt : Time) : Ending :=
  ⟨callId, [.ringing], .failed, .error, changedAt, none, none⟩

def endLiveKitFinishedCall (callId : CallId) (changedAt : Time) : Ending :=
  ⟨callId, [.ringing, .active], .ended, .normal, changedAt, none, some (.joined, .left)⟩

def endSingleCallOnFirstLeave (callId : CallId) (leaverID : UserId) (leftAt : Time) : Ending :=
  ⟨callId, [.active], .ended, .allLeft, leftAt, some leaverID, some (.joined, .left)⟩

/-- The end of `leaveCall` when nobody is left. -/
def endAllLeft (callId : CallId) (userID : UserId) (leftAt : Time) : Ending :=
  ⟨callId, [.ringing, .active], .ended, .allLeft, leftAt, some userID, none⟩

/-- The end of `cancelCall`. -/
def endCanceled (callId : CallId) (userID : UserId) (endedAt : Time) : Ending :=
  ⟨callId, [.ringing], .canceled, .canceled, endedAt, some userID, some (.invited, .missed)⟩

def CallSession.expiredRinging (now : Time) (c : CallSession) : Bool :=
  c.status = .ringing && c.expiresAt ≤ now

namespace Db

/-! ## Queries -/

def participantsOf (db : Db) (callId : CallId) : List CallParticipant :=
  db.participants.select fun p => p.callID = callId

def joinedCount (db : Db) (callId : CallId) : Nat :=
  db.participants.count fun p => p.callID = callId && p.status = .joined

def invitedCount (db : Db) (callId : CallId) : Nat :=
  db.participants.count fun p => p.callID = callId && p.status = .invited

/-- `findParticipantForUser`; the session comes with the row. -/
def findParticipant (db : Db) (callId : CallId) (userID : UserId) :
    Option (CallParticipant × CallSession) :=
  (db.participants.find (callId, userID)).bind fun p => (db.calls.find callId).map fun c => (p, c)

def isLive (db : Db) (callId : CallId) : Bool := (db.calls.find callId).any (·.status.live)

/-- `assertNotBusy` finds a row. -/
def busy (db : Db) (userIDs : List UserId) : Bool :=
  db.participants.rows.any fun p =>
    userIDs.contains p.userID && p.status.busy && db.isLive p.callID

def findIdempotentCreateCall (db : Db) (initiatorID : UserId) (key : Option JsString) :
    Option CallSession :=
  key.bind fun k =>
    db.calls.rows.find? fun c =>
      c.initiatorID = initiatorID && c.status.live && c.idempotencyKey = some k

/-- The calls of `expireStaleRingingCallsForUsers`. -/
def staleFor (db : Db) (userIDs : List UserId) (now : Time) : List CallId :=
  ((db.calls.select fun c =>
    c.expiredRinging now &&
      (db.participantsOf c.id).any fun p => userIDs.contains p.userID && p.status.busy).take
    20).map (·.id)

/-- The calls of `sweepExpiredRingingCalls`. -/
def stale (db : Db) (limit : Nat) (now : Time) : List CallId :=
  ((db.calls.select (·.expiredRinging now)).take limit).map (·.id)

/-- A call that the snapshot misses has one of the participants. -/
def conflicts (db snapshot : Db) (userIDs : List UserId) : Bool :=
  db.calls.rows.any fun c =>
    (snapshot.calls.find c.id).isNone &&
      (db.participantsOf c.id).any fun p => userIDs.contains p.userID

/-! ## Writes -/

def setStatus (db : Db) (callId : CallId) (userID : UserId) (status : ParticipantStatus) : Db :=
  { db with
    participants := db.participants.updateMany
      (fun p => p.callID = callId && p.userID = userID)
      (fun p => { p with status := status }) fun _ => rfl }

/-- `updateMany` from a status; `none` is a count of 0. -/
def claim (db : Db) (callId : CallId) (userID : UserId) (from' to' : ParticipantStatus) :
    Option Db :=
  (db.participants.find (callId, userID)).bind fun p =>
    if p.status = from' then some (db.setStatus callId userID to') else none

def moveParticipants (db : Db) (callId : CallId) (from' to' : ParticipantStatus) : Db :=
  { db with
    participants := db.participants.updateMany
      (fun p => p.callID = callId && p.status = from')
      (fun p => { p with status := to' }) fun _ => rfl }

/-- The conditional write of an end; `none` is a count of 0. -/
def finish (db : Db) (e : Ending) : Option Db :=
  (db.calls.find e.callId).bind fun c =>
    if e.allowed.contains c.status then
      some
        { db with
          calls := db.calls.put
            { c with
              status := e.status, endReason := some e.endReason, endedAt := some e.endedAt,
              endedByID := nullish e.endedByID c.endedByID } }
    else none

/-- The transaction of `joinInvitedCall`; `none` is `CALL_ENDED`. -/
def joinInvitedCall (db : Db) (callId : CallId) (userID : UserId) (joinedAt : Time) : Option Db :=
  (db.findParticipant callId userID).bind fun (p, c) =>
    if p.status = .invited ∨ p.status = .joined then
      let claimed := db.setStatus callId userID .joined
      match c.status with
      | .ringing =>
        some { claimed with
          calls := claimed.calls.put { c with status := .active, startedAt := some joinedAt } }
      | .active => some claimed
      | .ended | .canceled | .missed | .failed => none
    else none

/-- `none` is a violation of a unique key. -/
def createCall (db : Db) (p : StartCallParams) (expiresAt : Time) : Option Db := do
  let calls ← db.calls.insert
    ⟨p.callId, p.sessionType, .ringing, p.initiatorID, p.key, none, none, expiresAt, none, none⟩
  let participants ← p.participantIDs.foldlM
    (fun rows userID =>
      rows.insert ⟨p.callId, userID, if userID = p.initiatorID then .joined else .invited⟩)
    db.participants
  return ⟨calls, participants⟩

end Db

/-! ## Operations in flight -/

inductive Request
  | create (p : StartCallParams)
  | accept (userID : UserId) (callId : CallId)
  | reject (userID : UserId) (callId : CallId)
  | leave (userID : UserId) (callId : CallId)
  | cancel (userID : UserId) (callId : CallId)
  | createJoinToken (userID : UserId) (callId : CallId)
  | sweepExpiredRingingCalls (limit : Nat)
  | roomFinished (callId : CallId)

inductive Outcome
  | token (callId : CallId)
  | call (callId : CallId)
  | nothing
  | threw (fault : Fault)
  deriving DecidableEq, Repr

/-- What an operation does once an end is dealt with. -/
inductive After
  | finish (o : Outcome)
  | expire (stale : List CallId) (at' : Time)
  deriving DecidableEq, Repr

inductive Phase
  | started
  | lookingUp
  | checkingBusy
  | opening (expiresAt : Time)
  | locking (expiresAt : Time) (snapshot : Db) (held waiting : List UserId)
  /-- `mintToken` of a call this operation created. -/
  | minting (callId : CallId)
  /-- `mintToken` of any other. -/
  | granting (callId : CallId)
  | joining (joinedAt : Time)
  | rejecting (status : CallStatus) (rejectedAt : Time)
  | rejectionLost
  | remaining (rejectedAt : Time)
  | leaving (c : CallSession) (leftAt : Time)
  | counting (c : CallSession) (leftAt : Time)
  | ending (e : Ending) (after : After)
  | sweeping (e : Ending) (after : After)
  | announcing (e : Ending) (after : After)
  | cancelLost
  | done (o : Outcome)

structure Op where
  request : Request
  phase : Phase

structure State where
  db : Db
  now : Time
  ops : List Op
  /-- The calls of `emitCallRecordMessage`. -/
  records : List CallId

/-- What one turn writes. -/
structure Turn where
  db : Db
  record : Option CallId
  phase : Phase

namespace State

def held (s : State) (u : UserId) : Bool :=
  s.ops.any fun op =>
    match op.phase with
    | .locking _ _ held _ => held.contains u
    | _ => false

/-- No write, and on to a phase. -/
def goes (s : State) (phase : Phase) : Option Turn := some ⟨s.db, none, phase⟩

def throws (s : State) (fault : Fault) : Option Turn := s.goes (.done (.threw fault))

/-- The calls left to expire; then a creation looks its key up. -/
def expireNext (request : Request) (at' : Time) : List CallId → Phase
  | callId :: rest => .ending (expireRingingCallAsMissed callId at') (.expire rest at')
  | [] =>
    match request with
    | .create _ => .lookingUp
    | _ => .done .nothing

def resume (request : Request) : After → Phase
  | .finish o => .done o
  | .expire stale at' => expireNext request at' stale

/-! ### The first query -/

def start (s : State) : Request → Option Turn
  | .create p =>
    s.goes (expireNext (.create p) s.now (s.db.staleFor p.participantIDs s.now))
  | .accept userID callId =>
    match s.db.findParticipant callId userID with
    | none => s.throws .notFound
    | some (p, c) =>
      match p.status with
      | .joined => if c.status.live then s.goes (.granting callId) else s.throws .ended
      | .invited =>
        if !c.status.live then s.throws .ended
        else if c.expiresAt < s.now then
          s.goes (.ending (expireRingingCallAsMissed callId s.now) (.finish (.threw .expired)))
        else s.goes (.joining s.now)
      | .left | .rejected | .missed => s.throws .notInvited
  | .reject userID callId =>
    match s.db.findParticipant callId userID with
    | none => s.throws .notFound
    | some (p, c) =>
      match p.status with
      | .rejected => s.goes (.done (.call callId))
      | .invited => s.goes (.rejecting c.status s.now)
      | .joined | .left | .missed => s.throws .notInvited
  | .leave userID callId =>
    match s.db.findParticipant callId userID with
    | none => s.throws .notFound
    | some (p, c) =>
      if p.status = .joined then s.goes (.leaving c s.now) else s.goes (.done .nothing)
  | .cancel userID callId =>
    match s.db.calls.find callId with
    | none => s.throws .notFound
    | some c =>
      if c.initiatorID ≠ userID then s.throws .notAllowed
      else if c.status = .canceled then s.goes (.done (.call callId))
      else if c.status ≠ .ringing then s.throws .alreadyActive
      else s.goes (.ending (endCanceled callId userID s.now) (.finish (.call callId)))
  | .createJoinToken userID callId =>
    match s.db.findParticipant callId userID with
    | none => s.throws .notFound
    | some (p, c) =>
      if !c.status.live then s.throws .ended
      else if c.status = .ringing ∧ c.expiresAt < s.now then
        s.goes (.ending (expireRingingCallAsMissed callId s.now) (.finish (.threw .expired)))
      else if p.status ≠ .joined then s.throws .notAccepted
      else s.goes (.granting callId)
  | .sweepExpiredRingingCalls limit =>
    s.goes (expireNext (.sweepExpiredRingingCalls limit) s.now (s.db.stale limit s.now))
  | .roomFinished callId =>
    match s.db.calls.find callId with
    | none => s.goes (.done .nothing)
    | some _ => s.goes (.ending (endLiveKitFinishedCall callId s.now) (.finish .nothing))

/-! ### What creates a call -/

/-- The transaction once all its locks are held; it reads the snapshot. -/
def settle (s : State) (p : StartCallParams) (expiresAt : Time) (snapshot : Db)
    (revalidated : Bool) : Option Turn :=
  match snapshot.findIdempotentCreateCall p.initiatorID p.key with
  | some c => s.goes (.granting c.id)
  | none =>
    if snapshot.busy p.participantIDs then s.throws .busy
    else if !revalidated then s.throws .notFriend
    else if s.db.conflicts snapshot p.participantIDs then s.throws .serializationFailure
    else (s.db.createCall p expiresAt).map fun db => ⟨db, none, .minting p.callId⟩

/-- `lockParticipantsForCall` takes the locks in one order. -/
def lockOrder (p : StartCallParams) : List UserId := p.participantIDs.insertionSort (· ≤ ·)

def create (ringTimeout : Time) (s : State) (p : StartCallParams) (allowed : Bool) :
    Phase → Option Turn
  | .lookingUp =>
    match s.db.findIdempotentCreateCall p.initiatorID p.key with
    | some c => s.goes (.granting c.id)
    | none => s.goes .checkingBusy
  | .checkingBusy =>
    if s.db.busy p.participantIDs then s.throws .busy else s.goes (.opening (s.now + ringTimeout))
  | .opening expiresAt =>
    if allowed then s.goes (.locking expiresAt s.db [] (lockOrder p))
    else s.throws .liveKitUnavailable
  | .locking expiresAt snapshot held (u :: waiting) =>
    if s.held u then none else s.goes (.locking expiresAt snapshot (held ++ [u]) waiting)
  | .locking expiresAt snapshot _ [] => s.settle p expiresAt snapshot allowed
  | .minting callId =>
    if allowed then s.goes (.done (.token callId))
    else s.goes (.ending (failRingingCallAsError callId s.now) (.finish (.threw .notFriend)))
  | _ => none

/-! ### Every other step -/

/-- The steps of an end, the same for all operations. -/
def close (s : State) (request : Request) : Phase → Option Turn
  | .ending e after =>
    match s.db.finish e with
    | some db => some ⟨db, none, if e.participants.isSome then .sweeping e after
        else .announcing e after⟩
    | none =>
      match request with
      | .cancel _ _ => s.goes .cancelLost
      | _ => s.goes (resume request after)
  | .sweeping e after =>
    match e.participants with
    | some (from', to') => some ⟨s.db.moveParticipants e.callId from' to', none, .announcing e after⟩
    | none => none
  | .announcing e after => some ⟨s.db, some e.callId, resume request after⟩
  | _ => none

/-- `mintToken` asks for access. -/
def grant (s : State) (allowed : Bool) (callId : CallId) : Option Turn :=
  if allowed then s.goes (.done (.token callId)) else s.throws .notFriend

/-- The advisory locks of a single call's two users are free. -/
def lockable (s : State) (callId : CallId) (userID : UserId) : Bool :=
  (s.db.calls.find callId).all fun c =>
    c.sessionType = .group || (!s.held c.initiatorID && !s.held userID)

def accept (s : State) (userID : UserId) (callId : CallId) (allowed : Bool) :
    Phase → Option Turn
  | .joining joinedAt =>
    if !allowed then s.throws .notFriend
    else if s.lockable callId userID then
      match s.db.joinInvitedCall callId userID joinedAt with
      | some db => some ⟨db, none, .granting callId⟩
      | none => s.throws .ended
    else none
  | _ => none

def reject (s : State) (userID : UserId) (callId : CallId) : Phase → Option Turn
  | .rejecting status rejectedAt =>
    match s.db.claim callId userID .invited .rejected with
    | none => s.goes .rejectionLost
    | some db =>
      some ⟨db, none, if status = .ringing then .remaining rejectedAt else .done (.call callId)⟩
  | .rejectionLost =>
    if (s.db.participants.find (callId, userID)).any (·.status = .rejected) then
      s.goes (.done (.call callId))
    else s.throws .notInvited
  | .remaining rejectedAt =>
    if 0 < s.db.invitedCount callId then s.goes (.done (.call callId))
    else s.goes (.ending (expireRingingCallAsMissed callId rejectedAt) (.finish (.call callId)))
  | _ => none

def leave (s : State) (userID : UserId) (callId : CallId) : Phase → Option Turn
  | .leaving c leftAt =>
    some ⟨s.db.setStatus callId userID .left, none,
      if c.sessionType = .single ∧ c.status = .active then
        .ending (endSingleCallOnFirstLeave callId userID leftAt) (.finish .nothing)
      else .counting c leftAt⟩
  | .counting _ leftAt =>
    if 0 < s.db.joinedCount callId then s.goes (.done .nothing)
    else s.goes (.ending (endAllLeft callId userID leftAt) (.finish .nothing))
  | _ => none

def cancel (s : State) (callId : CallId) : Phase → Option Turn
  | .cancelLost =>
    if (s.db.calls.find callId).any (·.status = .canceled) then s.goes (.done (.call callId))
    else s.throws .alreadyActive
  | _ => none

/-- The steps that only one kind of operation takes. -/
def own (ringTimeout : Time) (s : State) (allowed : Bool) (phase : Phase) : Request → Option Turn
  | .create p => s.create ringTimeout p allowed phase
  | .accept userID callId => s.accept userID callId allowed phase
  | .reject userID callId => s.reject userID callId phase
  | .leave userID callId => s.leave userID callId phase
  | .cancel _ callId => s.cancel callId phase
  | .createJoinToken _ _ | .sweepExpiredRingingCalls _ | .roomFinished _ => none

def turn (ringTimeout : Time) (s : State) (op : Op) (allowed : Bool) : Option Turn :=
  match op.phase with
  | .started => s.start op.request
  | .ending e after => s.close op.request (.ending e after)
  | .sweeping e after => s.close op.request (.sweeping e after)
  | .announcing e after => s.close op.request (.announcing e after)
  | .granting callId => s.grant allowed callId
  | phase => s.own ringTimeout allowed phase op.request

end State

inductive Action
  | begin (request : Request)
  | turn (n : Nat) (allowed : Bool)
  | pass (ms : Nat)

namespace State

/-- What a turn leaves. -/
def after (s : State) (n : Nat) (op : Op) (turn : Turn) : State :=
  { s with
    db := turn.db
    ops := s.ops.set n { op with phase := turn.phase }
    records := s.records ++ turn.record.toList }

def next (ringTimeout : Time) (s : State) : Action → Option State
  | .begin request => some { s with ops := s.ops ++ [⟨request, .started⟩] }
  | .turn n allowed =>
    (s.ops[n]?).bind fun op => (s.turn ringTimeout op allowed).map (s.after n op)
  | .pass ms => some { s with now := s.now + ms }

end State

def Step (ringTimeout : Time) (s : State) (a : Action) (t : State) : Prop :=
  s.next ringTimeout a = some t

end CircleBackend.Calls
