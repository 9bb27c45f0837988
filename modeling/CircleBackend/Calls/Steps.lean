import CircleBackend.Calls.Model
import Mathlib.Logic.Relation

/-!
# What one turn does

`State.turned` sorts the turns of all operations: those that write, those that
start or leave a phase the invariants speak of, and the others, which are calm.
Every turn lets the rows evolve: a call that is over stays as it is, and a
participant makes one of the moves.
-/

namespace CircleBackend.Calls

open Library
open Session (UserId)

/-! ## Moves -/

inductive ParticipantStatus.Move : ParticipantStatus → ParticipantStatus → Prop
  | joins : Move .invited .joined
  | rejects : Move .invited .rejected
  | misses : Move .invited .missed
  | leaves : Move .joined .left

structure CallSession.Evolves (c c' : CallSession) : Prop where
  id : c'.id = c.id
  sessionType : c'.sessionType = c.sessionType
  initiatorID : c'.initiatorID = c.initiatorID
  idempotencyKey : c'.idempotencyKey = c.idempotencyKey
  expiresAt : c'.expiresAt = c.expiresAt
  ceased : c.status.live = false → c' = c
  ringing : c'.status = .ringing → c.status = .ringing

theorem CallSession.Evolves.refl (c : CallSession) : c.Evolves c :=
  ⟨rfl, rfl, rfl, rfl, rfl, fun _ => rfl, fun h => h⟩

theorem CallSession.Evolves.trans {a b c : CallSession} (h : a.Evolves b) (k : b.Evolves c) :
    a.Evolves c where
  id := k.id.trans h.id
  sessionType := k.sessionType.trans h.sessionType
  initiatorID := k.initiatorID.trans h.initiatorID
  idempotencyKey := k.idempotencyKey.trans h.idempotencyKey
  expiresAt := k.expiresAt.trans h.expiresAt
  ceased := by
    intro ceased
    have same := h.ceased ceased
    subst same
    exact k.ceased ceased
  ringing := fun now => h.ringing (k.ringing now)

/-- A call that is still live was. -/
theorem CallSession.Evolves.live {c c' : CallSession} (h : c.Evolves c')
    (live : c'.status.live = true) : c.status.live = true := by
  by_contra ceased
  rw [Bool.not_eq_true] at ceased
  rw [h.ceased ceased, ceased] at live
  cases live

/-- What may become of the rows, when `moves` says what of a participant. -/
structure Db.Evolves (moves : ParticipantStatus → ParticipantStatus → Prop) (d d' : Db) : Prop where
  calls : ∀ id c, d.calls.find id = some c → ∃ c', d'.calls.find id = some c' ∧ c.Evolves c'
  participants : ∀ k p, d.participants.find k = some p →
    ∃ p', d'.participants.find k = some p' ∧ moves p.status p'.status
  settled : ∀ k p', d'.participants.find k = some p' → (d.calls.find k.1).isSome →
    (d.participants.find k).isSome

/-- One move at most. -/
abbrev Db.Advances : Db → Db → Prop := Db.Evolves (Relation.ReflGen ParticipantStatus.Move)

abbrev Db.Ages : Db → Db → Prop := Db.Evolves (Relation.ReflTransGen ParticipantStatus.Move)

theorem Db.Evolves.refl {moves : ParticipantStatus → ParticipantStatus → Prop}
    (reflexive : ∀ st, moves st st) (d : Db) : d.Evolves moves d :=
  ⟨fun _ c found => ⟨c, found, .refl c⟩, fun _ p found => ⟨p, found, reflexive p.status⟩,
    fun _ _ found _ => by simp [found]⟩

theorem Db.Advances.ages {d d' : Db} (h : d.Advances d') : d.Ages d' where
  calls := h.calls
  participants := by
    intro k p found
    obtain ⟨p', found', moved⟩ := h.participants k p found
    exact ⟨p', found', moved.to_reflTransGen⟩
  settled := h.settled

theorem Db.Ages.trans {a b c : Db} (h : a.Ages b) (k : b.Ages c) : a.Ages c where
  calls := by
    intro id x found
    obtain ⟨y, found', evolved⟩ := h.calls id x found
    obtain ⟨z, found'', evolved'⟩ := k.calls id y found'
    exact ⟨z, found'', evolved.trans evolved'⟩
  participants := by
    intro key p found
    obtain ⟨q, found', moved⟩ := h.participants key p found
    obtain ⟨r, found'', moved'⟩ := k.participants key q found'
    exact ⟨r, found'', moved.trans moved'⟩
  settled := by
    intro key r found known
    obtain ⟨x, there⟩ := Option.isSome_iff_exists.mp known
    obtain ⟨y, there', -⟩ := h.calls _ x there
    obtain ⟨q, found'⟩ := Option.isSome_iff_exists.mp (k.settled key r found (by simp [there']))
    exact h.settled key q found' known

theorem busy_of_ages {st st' : ParticipantStatus}
    (h : Relation.ReflTransGen ParticipantStatus.Move st st') (busy : st'.busy = true) :
    st.busy = true := by
  induction h with
  | refl => exact busy
  | tail _ move ih =>
    apply ih
    cases move <;> rfl

/-- A row that was joined or has left is one or the other. -/
theorem joined_of_moves {st st' : ParticipantStatus}
    (h : Relation.ReflGen ParticipantStatus.Move st st') (present : st = .joined ∨ st = .left) :
    st' = .joined ∨ st' = .left := by
  cases h with
  | refl => exact present
  | single move => cases move <;> simp_all

/-! ## Writes -/

namespace Db

variable {db db' : Db} {callId : CallId} {userID : UserId} {st : ParticipantStatus}

theorem find_setStatus (db : Db) (callId : CallId) (userID : UserId) (st : ParticipantStatus)
    (k : CallId × UserId) :
    (db.setStatus callId userID st).participants.find k =
      (db.participants.find k).map fun p =>
        if k = (callId, userID) then { p with status := st } else p := by
  simp only [setStatus]
  rw [Table.find_updateMany db.participants _ (fun p => { p with status := st }) (fun _ => rfl)]
  cases found : db.participants.find k with
  | none => rfl
  | some p =>
    have key := Table.find_key found
    simp [← key]

theorem find_moveParticipants (db : Db) (callId : CallId) (from' to' : ParticipantStatus)
    (k : CallId × UserId) :
    (db.moveParticipants callId from' to').participants.find k =
      (db.participants.find k).map fun p =>
        if k.1 = callId ∧ p.status = from' then { p with status := to' } else p := by
  simp only [moveParticipants]
  rw [Table.find_updateMany db.participants _ (fun p => { p with status := to' }) (fun _ => rfl)]
  cases found : db.participants.find k with
  | none => rfl
  | some p =>
    have key := Table.find_key found
    simp [← key]

/-- An end is written on a call it allows for. -/
theorem finish_some {e : Ending} (h : db.finish e = some db') :
    ∃ c, db.calls.find e.callId = some c ∧ c.status ∈ e.allowed ∧
      db'.participants = db.participants ∧
      ∀ id, db'.calls.find id = if id = e.callId then
        some { c with
          status := e.status, endReason := some e.endReason, endedAt := some e.endedAt,
          endedByID := nullish e.endedByID c.endedByID } else db.calls.find id := by
  obtain ⟨c, found, h⟩ := Option.bind_eq_some_iff.mp h
  split at h
  · rename_i allowed
    cases h
    exact ⟨c, found, by simpa using allowed, rfl, Table.find_put_own found (by rfl)⟩
  · cases h

theorem finish_none {e : Ending} {c : CallSession} (h : db.finish e = none)
    (found : db.calls.find e.callId = some c) : c.status ∉ e.allowed := by
  intro allowed
  simp [finish, found, allowed] at h

/-- Who joins was invited or in the call, and the call is active. -/
theorem joinInvitedCall_some {joinedAt : Time}
    (h : db.joinInvitedCall callId userID joinedAt = some db') :
    ∃ p c, db.participants.find (callId, userID) = some p ∧ db.calls.find callId = some c ∧
      (p.status = .invited ∨ p.status = .joined) ∧ c.status.live = true ∧
      db'.participants = (db.setStatus callId userID .joined).participants ∧
      ∃ c', c.Evolves c' ∧ c'.status = .active ∧ c'.endReason = c.endReason ∧
        ∀ id, db'.calls.find id = if id = callId then some c' else db.calls.find id := by
  obtain ⟨⟨p, c⟩, found, h⟩ := Option.bind_eq_some_iff.mp h
  obtain ⟨p', row, h'⟩ := Option.bind_eq_some_iff.mp found
  obtain ⟨c', call, h''⟩ := Option.map_eq_some_iff.mp h'
  cases h''
  dsimp only at h
  split at h
  · rename_i status
    cases live : c.status with
    | ringing =>
      simp only [live, Option.some.injEq] at h
      subst h
      exact ⟨p, c, row, call, status, by rw [live]; rfl, rfl,
        { c with status := .active, startedAt := some joinedAt },
        ⟨rfl, rfl, rfl, rfl, rfl, by simp [live, CallStatus.live], by simp⟩, rfl, rfl,
        Table.find_put_own call (by rfl)⟩
    | active =>
      simp only [live, Option.some.injEq] at h
      subst h
      refine ⟨p, c, row, call, status, by rw [live]; rfl, rfl, c, .refl c, live, rfl,
        fun id => ?_⟩
      by_cases own : id = callId
      · simp [own, setStatus, call]
      · simp [own, setStatus]
    | ended => simp [live] at h
    | canceled => simp [live] at h
    | missed => simp [live] at h
    | failed => simp [live] at h
  · cases h

theorem createCall_some {p : StartCallParams} {expiresAt : Time}
    (h : db.createCall p expiresAt = some db') :
    db.calls.find p.callId = none ∧
      (∀ id, db'.calls.find id = if id = p.callId then
        some ⟨p.callId, p.sessionType, .ringing, p.initiatorID, p.key, none, none, expiresAt, none,
          none⟩ else db.calls.find id) ∧
      ∀ k, (∃ u ∈ p.participantIDs, k = (p.callId, u) ∧ db.participants.find k = none ∧
          db'.participants.find k =
            some ⟨p.callId, u, if u = p.initiatorID then .joined else .invited⟩) ∨
        (∀ u ∈ p.participantIDs, k ≠ (p.callId, u)) ∧
          db'.participants.find k = db.participants.find k := by
  obtain ⟨calls, first, h⟩ := Option.bind_eq_some_iff.mp h
  obtain ⟨participants, second, h⟩ := Option.bind_eq_some_iff.mp h
  cases h
  refine ⟨Table.insert_fresh first, fun id => ?_, fun k => ?_⟩
  · have found := Table.find_insert first id
    simp only [eq_comm (a := p.callId)] at found
    exact found
  · rcases Table.find_insertMany second k with ⟨u, member, own, found, absent⟩ | ⟨others, same⟩
    · exact Or.inl ⟨u, member, own.symm, absent, found⟩
    · exact Or.inr ⟨fun u member own => others u member own.symm, same⟩

/-! ### They let the rows evolve -/

theorem advances_refl (db : Db) : db.Advances db := .refl (fun _ => .refl) db

theorem advances_calls {id : CallId} {c c' : CallSession} (there : db.calls.find id = some c)
    (found : ∀ i, db'.calls.find i = if i = id then some c' else db.calls.find i)
    (evolved : c.Evolves c') (participants : ∀ k p, db.participants.find k = some p →
      ∃ p', db'.participants.find k = some p' ∧
        Relation.ReflGen ParticipantStatus.Move p.status p'.status)
    (settled : ∀ k p', db'.participants.find k = some p' → (db.participants.find k).isSome) :
    db.Advances db' where
  calls := by
    intro i x here
    by_cases own : i = id
    · subst own
      have one : c = x := Option.some.inj (there.symm.trans here)
      exact ⟨c', by rw [found, if_pos rfl], one ▸ evolved⟩
    · exact ⟨x, by rw [found, if_neg own, here], .refl x⟩
  participants := participants
  settled := fun k p' here _ => settled k p' here

theorem advances_setStatus (moves : ∀ p, db.participants.find (callId, userID) = some p →
    Relation.ReflGen ParticipantStatus.Move p.status st) :
    db.Advances (db.setStatus callId userID st) := by
  constructor
  · exact fun _ c there => ⟨c, there, .refl c⟩
  · intro k p there
    refine ⟨_, by rw [find_setStatus, there]; rfl, ?_⟩
    split
    · rename_i own
      subst own
      exact moves p there
    · exact .refl
  · intro k p' there _
    rw [find_setStatus] at there
    obtain ⟨p, here, -⟩ := Option.map_eq_some_iff.mp there
    simp [here]

theorem advances_moveParticipants {from' to' : ParticipantStatus} (move : from'.Move to') :
    db.Advances (db.moveParticipants callId from' to') := by
  constructor
  · exact fun _ c there => ⟨c, there, .refl c⟩
  · intro k p there
    refine ⟨_, by rw [find_moveParticipants, there]; rfl, ?_⟩
    dsimp only
    split
    · rename_i own
      exact own.2 ▸ .single move
    · exact .refl
  · intro k p' there _
    rw [find_moveParticipants] at there
    obtain ⟨p, here, -⟩ := Option.map_eq_some_iff.mp there
    simp [here]

theorem advances_finish {e : Ending} (ceased : e.status.live = false)
    (allowed : ∀ st ∈ e.allowed, st.live = true) (h : db.finish e = some db') :
    db.Advances db' := by
  obtain ⟨c, there, member, participants, found⟩ := finish_some h
  refine advances_calls there found ?_ ?_ ?_
  · refine ⟨rfl, rfl, rfl, rfl, rfl, fun dead => ?_, fun ringing => ?_⟩
    · rw [allowed _ member] at dead
      cases dead
    · dsimp only at ringing
      rw [ringing] at ceased
      cases ceased
  · exact fun k p here => ⟨p, participants ▸ here, .refl⟩
  · exact fun k p here => by simp [participants ▸ here]

theorem advances_joinInvitedCall {joinedAt : Time}
    (h : db.joinInvitedCall callId userID joinedAt = some db') : db.Advances db' := by
  obtain ⟨p, c, row, there, status, -, participants, c', evolved, -, -, found⟩ :=
    joinInvitedCall_some h
  have moved : db.Advances (db.setStatus callId userID .joined) := by
    apply advances_setStatus
    intro q row'
    have one : p = q := Option.some.inj (row.symm.trans row')
    subst one
    rcases status with invited | joined
    · rw [invited]
      exact .single .joins
    · rw [joined]
  refine advances_calls there found evolved ?_ ?_
  · rw [participants]
    exact moved.participants
  · intro k p' here
    rw [participants, find_setStatus] at here
    obtain ⟨q, there, -⟩ := Option.map_eq_some_iff.mp here
    simp [there]

theorem advances_createCall {p : StartCallParams} {expiresAt : Time}
    (h : db.createCall p expiresAt = some db') : db.Advances db' := by
  obtain ⟨fresh, calls, participants⟩ := createCall_some h
  constructor
  · intro id c there
    have apart : id ≠ p.callId := by
      rintro rfl
      rw [fresh] at there
      cases there
    exact ⟨c, by rw [calls, if_neg apart, there], .refl c⟩
  · intro k q there
    rcases participants k with ⟨u, -, -, absent, -⟩ | ⟨-, same⟩
    · rw [absent] at there
      cases there
    · exact ⟨q, same.trans there, .refl⟩
  · intro k q there known
    rcases participants k with ⟨u, -, rfl, -, -⟩ | ⟨-, same⟩
    · rw [fresh] at known
      cases known
    · simp [← same, there]

end Db

/-! ## Turns -/

/-- The call whose record is still to be emitted. -/
def Phase.owes : Phase → Option CallId
  | .sweeping e _ | .announcing e _ => some e.callId
  | _ => none

structure Ending.WellFormed (e : Ending) : Prop where
  ceased : e.status.live = false
  allowed : ∀ st ∈ e.allowed, st.live = true
  moves : ∀ from' to', e.participants = some (from', to') → from'.Move to'
  away : ∀ from' to', e.participants = some (from', to') → to' ≠ .joined

/-- Phases that no invariant speaks of, and the ends that are not a leave's. -/
def Phase.Calm (request : Request) : Phase → Prop
  | .ending e _ => e.WellFormed ∧ e.endReason ≠ .allLeft
  | .granting _ => ∀ u callId, request ≠ .accept u callId
  | .started | .leaving _ _ | .counting _ _ | .sweeping _ _ | .announcing _ _ | .joining _
  | .minting _ | .locking _ _ _ _ => False
  | .lookingUp | .checkingBusy | .opening _ | .rejecting _ _ | .rejectionLost | .remaining _
  | .cancelLost | .done _ => True

/-- Phases that can be left without a trace. -/
def Phase.Loose : Phase → Prop
  | .leaving _ _ | .counting _ _ | .ending _ _ | .sweeping _ _ | .announcing _ _ => False
  | _ => True

inductive Turned (s : State) (op : Op) : Turn → Prop
  | quiet {phase : Phase} (loose : op.phase.Loose) (calm : phase.Calm op.request) :
      Turned s op ⟨s.db, none, phase⟩
  | accepted {u : UserId} {callId : CallId} {p : CallParticipant} {c : CallSession}
      (request : op.request = .accept u callId) (loose : op.phase.Loose)
      (found : s.db.findParticipant callId u = some (p, c)) (live : c.status.live = true) :
      Turned s op ⟨s.db, none, .granting callId⟩
  | answers {u : UserId} {callId : CallId} {p : CallParticipant} {c : CallSession}
      (request : op.request = .accept u callId) (loose : op.phase.Loose)
      (found : s.db.findParticipant callId u = some (p, c)) (invited : p.status = .invited) :
      Turned s op ⟨s.db, none, .joining s.now⟩
  | leaves {u : UserId} {callId : CallId} {p : CallParticipant} {c : CallSession}
      (request : op.request = .leave u callId) (loose : op.phase.Loose)
      (found : s.db.findParticipant callId u = some (p, c)) (joined : p.status = .joined) :
      Turned s op ⟨s.db, none, .leaving c s.now⟩
  | opens {p : StartCallParams} {expiresAt : Time} (request : op.request = .create p)
      (loose : op.phase.Loose) :
      Turned s op ⟨s.db, none, .locking expiresAt s.db [] (State.lockOrder p)⟩
  | locks {expiresAt : Time} {snapshot : Db} {held waiting : List UserId} {u : UserId}
      (phase : op.phase = .locking expiresAt snapshot held (u :: waiting))
      (free : s.held u = false) :
      Turned s op ⟨s.db, none, .locking expiresAt snapshot (held ++ [u]) waiting⟩
  | creates {p : StartCallParams} {expiresAt : Time} {snapshot : Db} {held : List UserId} {db : Db}
      (request : op.request = .create p) (phase : op.phase = .locking expiresAt snapshot held [])
      (idle : snapshot.busy p.participantIDs = false)
      (apart : s.db.conflicts snapshot p.participantIDs = false)
      (run : s.db.createCall p expiresAt = some db) : Turned s op ⟨db, none, .minting p.callId⟩
  | left {u : UserId} {callId : CallId} {c : CallSession} {leftAt : Time}
      (request : op.request = .leave u callId) (phase : op.phase = .leaving c leftAt) :
      Turned s op ⟨s.db.setStatus callId u .left, none,
        if c.sessionType = .single ∧ c.status = .active then
          .ending (endSingleCallOnFirstLeave callId u leftAt) (.finish .nothing)
        else .counting c leftAt⟩
  | counted {u : UserId} {callId : CallId} {c : CallSession} {leftAt : Time}
      (request : op.request = .leave u callId) (phase : op.phase = .counting c leftAt)
      (some' : 0 < s.db.joinedCount callId) : Turned s op ⟨s.db, none, .done .nothing⟩
  | emptied {u : UserId} {callId : CallId} {c : CallSession} {leftAt : Time}
      (request : op.request = .leave u callId) (phase : op.phase = .counting c leftAt)
      (none' : s.db.joinedCount callId = 0) :
      Turned s op ⟨s.db, none, .ending (endAllLeft callId u leftAt) (.finish .nothing)⟩
  | joins {u : UserId} {callId : CallId} {joinedAt : Time} {db : Db}
      (request : op.request = .accept u callId) (phase : op.phase = .joining joinedAt)
      (run : s.db.joinInvitedCall callId u joinedAt = some db) :
      Turned s op ⟨db, none, .granting callId⟩
  | rejects {u : UserId} {callId : CallId} {db : Db} {phase : Phase} (loose : op.phase.Loose)
      (run : s.db.claim callId u .invited .rejected = some db) (calm : phase.Calm op.request) :
      Turned s op ⟨db, none, phase⟩
  | finished {e : Ending} {after : After} {db : Db} (phase : op.phase = .ending e after)
      (won : s.db.finish e = some db) :
      Turned s op ⟨db, none,
        if e.participants.isSome then .sweeping e after else .announcing e after⟩
  | lost {e : Ending} {after : After} {phase : Phase} (was : op.phase = .ending e after)
      (lost : s.db.finish e = none) (calm : phase.Calm op.request) :
      Turned s op ⟨s.db, none, phase⟩
  | swept {e : Ending} {after : After} {from' to' : ParticipantStatus}
      (phase : op.phase = .sweeping e after) (moves : e.participants = some (from', to')) :
      Turned s op ⟨s.db.moveParticipants e.callId from' to', none, .announcing e after⟩
  | announced {e : Ending} {after : After} {phase : Phase} (was : op.phase = .announcing e after)
      (calm : phase.Calm op.request) : Turned s op ⟨s.db, some e.callId, phase⟩

section Turns

variable {ringTimeout : Time} {s : State} {op : Op} {t : Turn}

theorem expire_wellFormed (callId : CallId) (at' : Time) :
    (expireRingingCallAsMissed callId at').WellFormed :=
  ⟨rfl, by simp [expireRingingCallAsMissed, CallStatus.live],
    by rintro _ _ ⟨⟩; exact .misses, by rintro _ _ ⟨⟩; simp⟩

theorem fail_wellFormed (callId : CallId) (at' : Time) :
    (failRingingCallAsError callId at').WellFormed :=
  ⟨rfl, by simp [failRingingCallAsError, CallStatus.live],
    by rintro _ _ ⟨⟩, by rintro _ _ ⟨⟩⟩

theorem finished_wellFormed (callId : CallId) (at' : Time) :
    (endLiveKitFinishedCall callId at').WellFormed :=
  ⟨rfl, by simp [endLiveKitFinishedCall, CallStatus.live],
    by rintro _ _ ⟨⟩; exact .leaves, by rintro _ _ ⟨⟩; simp⟩

theorem canceled_wellFormed (callId : CallId) (u : UserId) (at' : Time) :
    (endCanceled callId u at').WellFormed :=
  ⟨rfl, by simp [endCanceled, CallStatus.live],
    by rintro _ _ ⟨⟩; exact .misses, by rintro _ _ ⟨⟩; simp⟩

theorem firstLeave_wellFormed (callId : CallId) (u : UserId) (at' : Time) :
    (endSingleCallOnFirstLeave callId u at').WellFormed :=
  ⟨rfl, by simp [endSingleCallOnFirstLeave, CallStatus.live],
    by rintro _ _ ⟨⟩; exact .leaves, by rintro _ _ ⟨⟩; simp⟩

theorem allLeft_wellFormed (callId : CallId) (u : UserId) (at' : Time) :
    (endAllLeft callId u at').WellFormed :=
  ⟨rfl, by simp [endAllLeft, CallStatus.live],
    by rintro _ _ ⟨⟩, by rintro _ _ ⟨⟩⟩

theorem expiring_calm (request : Request) (callId : CallId) (at' : Time) (after : After) :
    (Phase.ending (expireRingingCallAsMissed callId at') after).Calm request :=
  ⟨expire_wellFormed callId at', by simp [expireRingingCallAsMissed]⟩

theorem expireNext_calm (request : Request) (at' : Time) (stale : List CallId) :
    (State.expireNext request at' stale).Calm request := by
  cases stale with
  | cons callId rest => exact expiring_calm request callId at' _
  | nil => cases request <;> exact trivial

theorem resume_calm (request : Request) (after : After) :
    (State.resume request after).Calm request := by
  cases after with
  | finish o => exact trivial
  | expire stale at' => exact expireNext_calm request at' stale

/-- The first query of an operation. -/
theorem start_turned (loose : op.phase.Loose) (h : s.start op.request = some t) :
    Turned s op t := by
  have quiet : ∀ phase, s.goes phase = some t → phase.Calm op.request → Turned s op t := by
    intro phase h calm
    cases h
    exact .quiet loose calm
  cases request : op.request with
  | create p =>
    rw [request] at h quiet
    exact quiet _ h (expireNext_calm _ _ _)
  | accept u callId =>
    simp only [request, State.start] at h
    split at h
    · exact quiet _ h trivial
    · rename_i p c found
      split at h
      · split at h
        · rename_i live
          cases h
          exact .accepted request loose found live
        · exact quiet _ h trivial
      · rename_i invited
        split at h
        · exact quiet _ h trivial
        · split at h
          · exact quiet _ h (expiring_calm _ _ _ _)
          · cases h
            exact .answers request loose found invited
      · exact quiet _ h trivial
      · exact quiet _ h trivial
      · exact quiet _ h trivial
  | reject u callId =>
    simp only [request, State.start] at h
    split at h
    · exact quiet _ h trivial
    · split at h <;> exact quiet _ h trivial
  | leave u callId =>
    simp only [request, State.start] at h
    split at h
    · exact quiet _ h trivial
    · rename_i p c found
      split at h
      · rename_i joined
        cases h
        exact .leaves request loose found joined
      · exact quiet _ h trivial
  | cancel u callId =>
    simp only [request, State.start] at h
    split at h
    · exact quiet _ h trivial
    · split at h
      · exact quiet _ h trivial
      · split at h
        · exact quiet _ h trivial
        · split at h
          · exact quiet _ h trivial
          · exact quiet _ h ⟨canceled_wellFormed _ _ _, by simp [endCanceled]⟩
  | createJoinToken u callId =>
    simp only [request, State.start] at h
    split at h
    · exact quiet _ h trivial
    · split at h
      · exact quiet _ h trivial
      · split at h
        · exact quiet _ h (expiring_calm _ _ _ _)
        · split at h
          · exact quiet _ h trivial
          · exact quiet _ h (by simp [Phase.Calm, request])
  | sweepExpiredRingingCalls limit =>
    rw [request] at h quiet
    exact quiet _ h (expireNext_calm _ _ _)
  | roomFinished callId =>
    simp only [request, State.start] at h
    split at h
    · exact quiet _ h trivial
    · exact quiet _ h ⟨finished_wellFormed _ _, by simp [endLiveKitFinishedCall]⟩

theorem create_turned {p : StartCallParams} {allowed : Bool} (request : op.request = .create p)
    (h : s.create ringTimeout p allowed op.phase = some t) : Turned s op t := by
  have quiet : ∀ phase, op.phase.Loose → s.goes phase = some t → phase.Calm (.create p) →
      Turned s op t := by
    intro phase loose h calm
    cases h
    exact .quiet loose (request.symm ▸ calm)
  cases phase : op.phase with
  | lookingUp =>
    have loose : op.phase.Loose := by simp [phase, Phase.Loose]
    simp only [phase, State.create] at h
    split at h
    · exact quiet _ loose h (by simp [Phase.Calm])
    · exact quiet _ loose h trivial
  | checkingBusy =>
    have loose : op.phase.Loose := by simp [phase, Phase.Loose]
    simp only [phase, State.create] at h
    split at h
    · exact quiet _ loose h trivial
    · exact quiet _ loose h trivial
  | opening expiresAt =>
    have loose : op.phase.Loose := by simp [phase, Phase.Loose]
    simp only [phase, State.create] at h
    split at h
    · cases h
      exact .opens request loose
    · exact quiet _ loose h trivial
  | locking expiresAt snapshot held waiting =>
    have loose : op.phase.Loose := by simp [phase, Phase.Loose]
    cases waiting with
    | cons u waiting =>
      simp only [phase, State.create] at h
      split at h
      · cases h
      · rename_i free
        cases h
        exact .locks phase (by simpa using free)
    | nil =>
      simp only [phase, State.create, State.settle] at h
      split at h
      · exact quiet _ loose h (by simp [Phase.Calm])
      · split at h
        · exact quiet _ loose h trivial
        · rename_i idle
          split at h
          · exact quiet _ loose h trivial
          · split at h
            · exact quiet _ loose h trivial
            · rename_i apart
              obtain ⟨db, run, rfl⟩ := Option.map_eq_some_iff.mp h
              exact .creates request phase (by simpa using idle) (by simpa using apart) run
  | minting callId =>
    have loose : op.phase.Loose := by simp [phase, Phase.Loose]
    simp only [phase, State.create] at h
    split at h
    · exact quiet _ loose h trivial
    · exact quiet _ loose h ⟨fail_wellFormed _ _, by simp [failRingingCallAsError]⟩
  | _ => simp [phase, State.create] at h

theorem own_turned {allowed : Bool} (h : s.own ringTimeout allowed op.phase op.request = some t) :
    Turned s op t := by
  have quiet : ∀ phase, op.phase.Loose → s.goes phase = some t → phase.Calm op.request →
      Turned s op t := by
    intro phase loose h calm
    cases h
    exact .quiet loose calm
  cases request : op.request with
  | create p =>
    rw [request] at h
    exact create_turned request h
  | accept u callId =>
    simp only [request, State.own, State.accept] at h
    split at h
    · rename_i joinedAt phase
      split at h
      · exact quiet _ (by simp [phase, Phase.Loose]) h trivial
      · split at h
        · split at h
          · rename_i db run
            cases h
            exact .joins request phase run
          · exact quiet _ (by simp [phase, Phase.Loose]) h trivial
        · cases h
    · cases h
  | reject u callId =>
    simp only [request, State.own, State.reject] at h
    split at h
    · rename_i status rejectedAt phase
      have loose : op.phase.Loose := by simp [phase, Phase.Loose]
      split at h
      · exact quiet _ loose h trivial
      · rename_i db run
        cases h
        apply Turned.rejects loose run
        split <;> exact trivial
    · rename_i phase
      have loose : op.phase.Loose := by simp [phase, Phase.Loose]
      split at h
      · exact quiet _ loose h trivial
      · exact quiet _ loose h trivial
    · rename_i rejectedAt phase
      have loose : op.phase.Loose := by simp [phase, Phase.Loose]
      split at h
      · exact quiet _ loose h trivial
      · exact quiet _ loose h (expiring_calm _ _ _ _)
    · cases h
  | leave u callId =>
    simp only [request, State.own, State.leave] at h
    split at h
    · rename_i c leftAt phase
      cases h
      exact .left request phase
    · rename_i c leftAt phase
      split at h
      · rename_i some'
        cases h
        exact .counted request phase some'
      · rename_i none'
        cases h
        exact .emptied request phase (by omega)
    · cases h
  | cancel u callId =>
    simp only [request, State.own, State.cancel] at h
    split at h
    · rename_i phase
      have loose : op.phase.Loose := by simp [phase, Phase.Loose]
      split at h
      · exact quiet _ loose h trivial
      · exact quiet _ loose h trivial
    · cases h
  | createJoinToken u callId => simp [request, State.own] at h
  | sweepExpiredRingingCalls limit => simp [request, State.own] at h
  | roomFinished callId => simp [request, State.own] at h

/-- What a turn of any operation is. -/
theorem turn_turned {allowed : Bool} (h : s.turn ringTimeout op allowed = some t) :
    Turned s op t := by
  unfold State.turn at h
  split at h
  · rename_i phase
    exact start_turned (by simp [phase, Phase.Loose]) h
  · rename_i e after phase
    simp only [State.close] at h
    split at h
    · rename_i db won
      cases h
      exact .finished phase won
    · rename_i lost
      split at h
      · cases h
        exact .lost phase lost trivial
      · cases h
        exact .lost phase lost (resume_calm _ _)
  · rename_i e after phase
    simp only [State.close] at h
    split at h
    · rename_i from' to' moves
      cases h
      exact .swept phase moves
    · cases h
  · rename_i e after phase
    cases h
    exact .announced phase (resume_calm _ _)
  · rename_i callId phase
    have loose : op.phase.Loose := by simp [phase, Phase.Loose]
    simp only [State.grant] at h
    split at h <;> (cases h; exact .quiet loose trivial)
  · exact own_turned h

end Turns

end CircleBackend.Calls
