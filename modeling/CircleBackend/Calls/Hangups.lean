import CircleBackend.Calls.Endings

/-!
# Hanging up

`leaveCall` decides from a status it has read and a count it takes, and an accept may
commit in between. Where it does not, whoever leaves a single call ends it, a group
call that is active has somebody in it, and it ends for want of people only when
nobody is left; where no leave ends the call under an accept that has committed, the
accept's token is for a call that was not left.
-/

namespace CircleBackend.Calls

open Library
open Session (UserId)

/-! ## What becomes of a row -/

/-- Where a session that a turn leaves comes from. -/
inductive CallFrom (s : State) (op : Op) (db : Db) (id : CallId) (c' : CallSession) : Prop
  | same (found : s.db.calls.find id = some c')
  | created {p : StartCallParams} {expiresAt : Time} (request : op.request = .create p)
      (run : s.db.createCall p expiresAt = some db) (own : id = p.callId)
      (fresh : s.db.calls.find id = none)
      (eq : c' = ⟨p.callId, p.sessionType, .ringing, p.initiatorID, p.key, none, none, expiresAt,
        none, none⟩)
  | joined {u : UserId} {joinedAt : Time} {c : CallSession}
      (request : op.request = .accept u id) (phase : op.phase = .joining joinedAt)
      (run : s.db.joinInvitedCall id u joinedAt = some db) (found : s.db.calls.find id = some c)
      (live : c.status.live = true) (evolved : c.Evolves c') (active : c'.status = .active)
      (reason : c'.endReason = c.endReason)
  | ended {e : Ending} {after : After} {c : CallSession}
      (phase : op.phase = .ending e after) (own : e.callId = id) (won : s.db.finish e = some db)
      (found : s.db.calls.find id = some c) (allowed : c.status ∈ e.allowed)
      (status : c'.status = e.status) (reason : c'.endReason = some e.endReason)

/-- Where the row of a participant comes from. -/
inductive RowFrom (s : State) (op : Op) (db : Db) (id : CallId) (u : UserId)
    (p' : CallParticipant) : Prop
  | same (found : s.db.participants.find (id, u) = some p')
  | created {p : StartCallParams} (request : op.request = .create p) (own : id = p.callId)
      (fresh : s.db.calls.find id = none) (member : u ∈ p.participantIDs)
      (status : p'.status = if u = p.initiatorID then .joined else .invited)
  | joined {p : CallParticipant} {joinedAt : Time} (request : op.request = .accept u id)
      (phase : op.phase = .joining joinedAt) (run : s.db.joinInvitedCall id u joinedAt = some db)
      (found : s.db.participants.find (id, u) = some p)
      (was : p.status = .invited ∨ p.status = .joined) (status : p'.status = .joined)
  | left {p : CallParticipant} {c : CallSession} {leftAt : Time}
      (request : op.request = .leave u id) (phase : op.phase = .leaving c leftAt)
      (found : s.db.participants.find (id, u) = some p) (status : p'.status = .left)
  | rejected {p : CallParticipant} (found : s.db.participants.find (id, u) = some p)
      (was : p.status = .invited) (status : p'.status = .rejected)
  | swept {p : CallParticipant} {e : Ending} {after : After}
      (phase : op.phase = .sweeping e after) (own : e.callId = id)
      (found : s.db.participants.find (id, u) = some p)
      (moves : e.participants = some (p.status, p'.status))

section Steps

variable {ringTimeout : Time} {s t : State} {a : Action} {op : Op} {turn : Turn}
  {id : CallId} {u : UserId}

theorem Turned.call (h : Turned s op turn) {c' : CallSession}
    (found : turn.db.calls.find id = some c') : CallFrom s op turn.db id c' := by
  cases h with
  | quiet | accepted | answers | leaves | opens | locks | counted | emptied | lost | announced =>
    exact .same found
  | left | swept => exact .same found
  | rejects loose run calm =>
    obtain ⟨p, -, run⟩ := Option.bind_eq_some_iff.mp run
    split at run
    · cases run
      exact .same found
    · cases run
  | creates request phase idle apart run =>
    obtain ⟨fresh, calls, -⟩ := Db.createCall_some run
    rw [calls] at found
    split at found
    · rename_i own
      cases found
      exact .created request run own (own ▸ fresh) rfl
    · exact .same found
  | joins request phase run =>
    obtain ⟨p, c, -, there, -, live, -, c'', evolved, active, reason, calls⟩ :=
      Db.joinInvitedCall_some run
    rw [calls] at found
    split at found
    · rename_i own
      cases found
      subst own
      exact .joined request phase run there live evolved active reason
    · exact .same found
  | finished phase won =>
    obtain ⟨c, there, allowed, -, calls⟩ := Db.finish_some won
    rw [calls] at found
    split at found
    · rename_i own
      cases found
      subst own
      exact .ended phase rfl won there allowed rfl rfl
    · exact .same found

theorem Turned.row (h : Turned s op turn) {p' : CallParticipant}
    (found : turn.db.participants.find (id, u) = some p') : RowFrom s op turn.db id u p' := by
  have set : ∀ {callId : CallId} {v : UserId} {st : ParticipantStatus},
      (s.db.setStatus callId v st).participants.find (id, u) = some p' →
        s.db.participants.find (id, u) = some p' ∨
          callId = id ∧ v = u ∧ p'.status = st ∧
            ∃ p, s.db.participants.find (id, u) = some p := by
    intro callId v st found
    rw [Db.find_setStatus] at found
    obtain ⟨p, there, rfl⟩ := Option.map_eq_some_iff.mp found
    split
    · rename_i own
      obtain ⟨rfl, rfl⟩ := Prod.mk.injEq .. ▸ own
      exact Or.inr ⟨rfl, rfl, rfl, p, there⟩
    · exact Or.inl there
  cases h with
  | quiet | accepted | answers | leaves | opens | locks | counted | emptied | lost | announced =>
    exact .same found
  | left request phase =>
    rcases set found with same | ⟨rfl, rfl, status, p, there⟩
    · exact .same same
    · exact .left request phase there status
  | rejects loose run calm =>
    obtain ⟨p, row, run⟩ := Option.bind_eq_some_iff.mp run
    split at run
    · rename_i invited
      cases run
      rcases set found with same | ⟨rfl, rfl, status, -⟩
      · exact .same same
      · exact .rejected row invited status
    · cases run
  | creates request phase idle apart run =>
    obtain ⟨fresh, -, participants⟩ := Db.createCall_some run
    rcases participants (id, u) with ⟨v, member, own, -, here⟩ | ⟨-, same⟩
    · obtain ⟨rfl, rfl⟩ := Prod.mk.injEq .. ▸ own
      rw [here] at found
      cases found
      exact .created request rfl fresh member rfl
    · exact .same (same.symm.trans found)
  | joins request phase run =>
    obtain ⟨p, c, row, -, was, -, participants, -⟩ := Db.joinInvitedCall_some run
    rw [participants] at found
    rcases set found with same | ⟨rfl, rfl, status, -⟩
    · exact .same same
    · exact .joined request phase run row was status
  | finished phase won =>
    obtain ⟨c, -, -, participants, -⟩ := Db.finish_some won
    exact .same (participants ▸ found)
  | swept phase moves =>
    rw [Db.find_moveParticipants] at found
    obtain ⟨p, there, rfl⟩ := Option.map_eq_some_iff.mp found
    split
    · rename_i own
      exact .swept phase own.1.symm there (own.2 ▸ moves)
    · exact .same there

end Steps

/-! ## Runs in which accepts and leaves do not cross -/

/-- A leave that has read a single call as ringing and not yet counted, or is about to
end a group call for want of people. -/
def Op.blocks (db : Db) (id : CallId) (op : Op) : Bool :=
  match op.request, op.phase with
  | .leave _ id', .leaving c _ | .leave _ id', .counting c _ =>
    id' = id && c.sessionType = .single && c.status = .ringing
  | _, .ending e _ =>
    e.callId = id && e.endReason = .allLeft &&
      (db.calls.find id).any fun c => c.sessionType = .group
  | _, _ => false

/-- An accept past its check that has not returned. -/
def Op.answering (id : CallId) (op : Op) : Bool :=
  match op.request, op.phase with
  | .accept _ _, .granting id' => id' = id
  | _, _ => false

/-- No accept commits where a leave blocks it, and no leave ends a call that is being
answered. -/
def State.uncrossed (s : State) : Action → Bool
  | .turn n _ =>
    (s.ops[n]?).all fun op =>
      match op.request, op.phase with
      | .accept u id, .joining joinedAt =>
        (s.db.joinInvitedCall id u joinedAt).isNone || !s.ops.any (·.blocks s.db id)
      | _, .ending e _ =>
        e.endReason ≠ .allLeft || (s.db.finish e).isNone || !s.ops.any (·.answering e.callId)
      | _, _ => true
  | .begin _ | .pass _ => true

def Uncrossed (s : State) (a : Action) : Prop := s.uncrossed a = true

/-! ## What keeps people in calls -/

def Db.Departed (db : Db) (id : CallId) : Prop :=
  ∃ u p, db.participants.find (id, u) = some p ∧ p.status = .left

def Db.Occupied (db : Db) (id : CallId) : Prop :=
  ∃ u p, db.participants.find (id, u) = some p ∧ p.status = .joined

/-- An operation that will end the call, unless it counts somebody. -/
def Op.Ends (db : Db) (id : CallId) (op : Op) : Prop :=
  (∃ u c leftAt, op.request = .leave u id ∧ op.phase = .counting c leftAt) ∨
    ∃ e after, op.phase = .ending e after ∧ e.callId = id ∧ .active ∈ e.allowed ∧
      ∀ c, db.calls.find id = some c → c.status = .ringing → .ringing ∈ e.allowed

/-- What a leave has read of the call it leaves. -/
def Attending (db : Db) (c₀ : CallSession) (id : CallId) : Prop :=
  ∃ c, db.calls.find id = some c ∧ c₀.Evolves c ∧
    (c₀.sessionType = .single → c₀.status = .ringing → c.status ≠ .active)

def Op.Attending (db : Db) (op : Op) : Prop :=
  match op.phase with
  | .leaving c₀ _ => ∀ u id, op.request = .leave u id → Calls.Attending db c₀ id
  | .counting c₀ _ =>
    (c₀.sessionType = .single → c₀.status ≠ .active) ∧
      ∀ u id, op.request = .leave u id → Calls.Attending db c₀ id
  | .ending e _ =>
    e.endReason = .allLeft →
      ∃ c, db.calls.find e.callId = some c ∧
        (c.sessionType = .group → c.status.live = true → ¬db.Occupied e.callId)
  | .joining _ =>
    ∀ u id, op.request = .accept u id →
      ∃ c, db.calls.find id = some c ∧ u ≠ c.initiatorID
  | .granting id =>
    ∀ u id', op.request = .accept u id' →
      ∃ c, db.calls.find id = some c ∧ c.endReason ≠ some .allLeft
  | _ => True

structure Attended (s : State) : Prop where
  ringing : ∀ id c u p, s.db.calls.find id = some c → c.status = .ringing →
    s.db.participants.find (id, u) = some p → u ≠ c.initiatorID →
    p.status ≠ .joined ∧ p.status ≠ .left
  active : ∀ id c u p, s.db.calls.find id = some c → c.sessionType = .single →
    c.status = .active → s.db.participants.find (id, u) = some p →
    p.status = .joined ∨ p.status = .left
  initiator : ∀ id c p, s.db.calls.find id = some c →
    s.db.participants.find (id, c.initiatorID) = some p → p.status = .joined ∨ p.status = .left
  pair : ∀ id c, s.db.calls.find id = some c → c.sessionType = .single →
    ∃ v, v ≠ c.initiatorID ∧ (s.db.participants.find (id, c.initiatorID)).isSome ∧
      (s.db.participants.find (id, v)).isSome ∧
      ∀ u p, s.db.participants.find (id, u) = some p → u = c.initiatorID ∨ u = v
  unended : ∀ id c, s.db.calls.find id = some c → c.status.live = true → c.endReason = none
  ops : ∀ op ∈ s.ops, op.Attending s.db
  departed : ∀ id c, s.db.calls.find id = some c → c.sessionType = .single →
    c.status.live = true → s.db.Departed id → ∃ op ∈ s.ops, op.Ends s.db id
  occupied : ∀ id c, s.db.calls.find id = some c → c.status = .active →
    s.db.Occupied id ∨ ∃ op ∈ s.ops, op.Ends s.db id

section Turn

variable {s : State} {op other : Op} {turn : Turn} {id : CallId} {u : UserId}

theorem joinedCount_zero {db : Db} (h : db.joinedCount id = 0) : ¬db.Occupied id := by
  rintro ⟨u, p, found, joined⟩
  have key := Table.find_key found
  have none' := List.countP_eq_zero.mp h p (Table.find_mem found)
  simp only [Prod.mk.injEq] at key
  simp [joined, key.1] at none'

theorem joinedCount_pos {db : Db} (h : 0 < db.joinedCount id) : db.Occupied id := by
  obtain ⟨p, member, picked⟩ := List.countP_pos_iff.mp h
  simp only [Bool.and_eq_true, decide_eq_true_eq] at picked
  exact ⟨p.userID, p, picked.1 ▸ Table.mem_find member, picked.2⟩

theorem live_of_ringing {st : CallStatus} (h : st = .ringing) : st.live = true := h ▸ rfl

theorem live_of_active {st : CallStatus} (h : st = .active) : st.live = true := h ▸ rfl

variable {c' c : CallSession} {p' : CallParticipant}

/-- A session whose call is known was there before the turn. -/
theorem Turned.before (h : Turned s op turn) (proper : op.Proper s.db)
    (found' : turn.db.calls.find id = some c') (known : (s.db.calls.find id).isSome) :
    ∃ c, s.db.calls.find id = some c ∧ c.Evolves c' := by
  obtain ⟨c, found⟩ := Option.isSome_iff_exists.mp known
  obtain ⟨c'', found'', evolved⟩ := (h.advances proper).calls id c found
  have one : c'' = c' := Option.some.inj (found''.symm.trans found')
  exact ⟨c, found, one ▸ evolved⟩

theorem Turned.after (h : Turned s op turn) (proper : op.Proper s.db)
    (found : s.db.calls.find id = some c) : ∃ c', turn.db.calls.find id = some c' ∧ c.Evolves c' :=
  (h.advances proper).calls id c found

/-- What a leave has read stays so, when no accept commits that it blocks. -/
theorem attending_kept {c₀ : CallSession} (h : Turned s op turn) (proper : op.Proper s.db)
    (attending : Attending s.db c₀ id)
    (apart : ∀ v joinedAt db, op.request = .accept v id → op.phase = .joining joinedAt →
      s.db.joinInvitedCall id v joinedAt = some db →
      ¬(c₀.sessionType = .single ∧ c₀.status = .ringing)) : Attending turn.db c₀ id := by
  obtain ⟨c, found, evolved, calm⟩ := attending
  obtain ⟨c', found', evolved'⟩ := h.after proper found
  refine ⟨c', found', evolved.trans evolved', fun single ringing active => ?_⟩
  cases h.call found' with
  | same same =>
    have one : c = c' := Option.some.inj (found.symm.trans same)
    exact calm single ringing (one ▸ active)
  | created _ _ _ fresh _ =>
    rw [found] at fresh
    cases fresh
  | joined request phase run _ _ _ _ _ => exact apart _ _ _ request phase run ⟨single, ringing⟩
  | ended phase _ _ _ _ status _ =>
    simp only [Op.Proper, phase] at proper
    have ceased := proper.ceased
    rw [← status, active] at ceased
    cases ceased

/-- Nobody comes into a call but by an accept. -/
theorem Turned.occupied (h : Turned s op turn) (proper : op.Proper s.db)
    (rooted : (s.db.calls.find id).isSome) (occupied : turn.db.Occupied id) :
    s.db.Occupied id ∨ ∃ v joinedAt db, op.request = .accept v id ∧
      op.phase = .joining joinedAt ∧ s.db.joinInvitedCall id v joinedAt = some db := by
  obtain ⟨v, p', found, joined⟩ := occupied
  cases h.row found with
  | same same => exact Or.inl ⟨v, p', same, joined⟩
  | created _ _ fresh _ _ => simp [fresh] at rooted
  | joined request phase run _ _ _ => exact Or.inr ⟨v, _, _, request, phase, run⟩
  | left _ _ _ status => simp [status] at joined
  | rejected _ _ status => simp [status] at joined
  | swept phase own there moves =>
    simp only [Op.Proper, phase] at proper
    exact absurd joined (proper.1.away _ _ moves)

theorem Op.Attending.kept (attending : other.Attending s.db) (h : Turned s op turn)
    (proper : op.Proper s.db)
    (accepts : ∀ u id joinedAt db, op.request = .accept u id → op.phase = .joining joinedAt →
      s.db.joinInvitedCall id u joinedAt = some db → other.blocks s.db id = false)
    (ends : ∀ e after db, op.phase = .ending e after → e.endReason = .allLeft →
      s.db.finish e = some db → other.answering e.callId = false) : other.Attending turn.db := by
  have blocked : ∀ {c₀ : CallSession} {u id leftAt}, other.request = .leave u id →
      other.phase = .leaving c₀ leftAt ∨ other.phase = .counting c₀ leftAt →
      ∀ v joinedAt db, op.request = .accept v id → op.phase = .joining joinedAt →
      s.db.joinInvitedCall id v joinedAt = some db →
      ¬(c₀.sessionType = .single ∧ c₀.status = .ringing) := by
    rintro c₀ u id leftAt leave phase v joinedAt db request joining run ⟨single, ringing⟩
    have free := accepts v id joinedAt db request joining run
    rcases phase with phase | phase <;>
      simp [Op.blocks, leave, phase, single, ringing] at free
  unfold Op.Attending at attending ⊢
  cases phase : other.phase with
  | leaving c₀ leftAt =>
    simp only [phase] at attending
    intro u id leave
    exact attending_kept h proper (attending u id leave) (blocked leave (Or.inl phase))
  | counting c₀ leftAt =>
    simp only [phase] at attending
    refine ⟨attending.1, fun u id leave => ?_⟩
    exact attending_kept h proper (attending.2 u id leave) (blocked leave (Or.inr phase))
  | ending e after =>
    simp only [phase] at attending
    intro reason
    obtain ⟨c, found, empty⟩ := attending reason
    obtain ⟨c', found', evolved⟩ := h.after proper found
    refine ⟨c', found', fun group live occupied => ?_⟩
    have group' : c.sessionType = .group := evolved.sessionType ▸ group
    rcases h.occupied proper (by simp [found]) occupied with was | ⟨v, joinedAt, db, request, joining, run⟩
    · exact empty group' (evolved.live live) was
    · have free := accepts v e.callId joinedAt db request joining run
      cases leave : other.request <;> simp [Op.blocks, leave, phase, reason, found, group'] at free
  | joining joinedAt =>
    simp only [phase] at attending
    intro u id request
    obtain ⟨c, found, apart⟩ := attending u id request
    obtain ⟨c', found', evolved⟩ := h.after proper found
    exact ⟨c', found', evolved.initiatorID ▸ apart⟩
  | granting id =>
    simp only [phase] at attending
    intro u id' request
    obtain ⟨c, found, reason⟩ := attending u id' request
    obtain ⟨c', found', -⟩ := h.after proper found
    refine ⟨c', found', fun left => ?_⟩
    cases h.call found' with
    | same same =>
      have one : c = c' := Option.some.inj (found.symm.trans same)
      exact reason (one ▸ left)
    | created _ _ _ fresh _ =>
      rw [found] at fresh
      cases fresh
    | joined _ _ _ there _ _ _ reason' =>
      have one := Option.some.inj (found.symm.trans there)
      rw [reason', ← one] at left
      exact reason left
    | ended ending own won _ _ _ reason' =>
      rw [reason', Option.some.injEq] at left
      have free := ends _ _ _ ending left won
      simp [Op.answering, request, phase, own] at free
  | _ => trivial

/-- The phase a turn leads to. -/
theorem Turned.attending (h : Turned s op turn) (attended : Attended s)
    (attending : op.Attending s.db) : (Op.mk op.request turn.phase).Attending turn.db := by
  have calm : ∀ {phase : Phase} {db : Db}, phase.Calm op.request →
      (Op.mk op.request phase).Attending db := by
    intro phase db calm
    simp only [Op.Attending]
    cases phase with
    | ending e after => exact fun reason => absurd reason calm.2
    | granting id => exact fun u id' request => absurd request (calm u id')
    | leaving | counting | joining => cases calm
    | _ => trivial
  cases h with
  | quiet loose calm' => exact calm calm'
  | rejects loose run calm' => exact calm calm'
  | lost was lost calm' => exact calm calm'
  | announced was calm' => exact calm calm'
  | opens | locks | creates | counted | swept => trivial
  | accepted request loose found live =>
    obtain ⟨-, there⟩ := findParticipant_some found
    intro u id' request'
    exact ⟨_, there, by simp [attended.unended _ _ there live]⟩
  | answers request loose found invited =>
    obtain ⟨row, there⟩ := findParticipant_some found
    intro u id' request'
    have same := request.symm.trans request'
    cases same
    refine ⟨_, there, ?_⟩
    rintro rfl
    rcases attended.initiator _ _ _ there row with joined | left
    · simp [invited] at joined
    · simp [invited] at left
  | leaves request loose found joined =>
    obtain ⟨-, there⟩ := findParticipant_some found
    intro u id' request'
    have same := request.symm.trans request'
    cases same
    exact ⟨_, there, .refl _, fun _ ringing active => by simp [ringing] at active⟩
  | left request phase =>
    rename_i u' callId c₀ leftAt
    simp only [Op.Attending, phase] at attending
    have known := attending u' callId request
    dsimp only
    split
    · rename_i single
      obtain ⟨c, there, evolved, -⟩ := known
      intro _
      refine ⟨c, there, fun group => ?_⟩
      rw [evolved.sessionType, single.1] at group
      cases group
    · rename_i others
      refine ⟨fun single active => others ⟨single, active⟩, fun u id' request' => ?_⟩
      have same := request.symm.trans request'
      cases same
      exact known
  | emptied request phase none' =>
    rename_i u' callId c₀ leftAt
    simp only [Op.Attending, phase] at attending
    obtain ⟨c, there, -⟩ := attending.2 u' callId request
    exact fun _ => ⟨c, there, fun _ _ => joinedCount_zero none'⟩
  | joins request phase run =>
    obtain ⟨p, c, -, there, -, live, -, c', -, -, reason, calls⟩ := Db.joinInvitedCall_some run
    intro u id' request'
    refine ⟨c', by rw [calls, if_pos rfl], ?_⟩
    rw [reason, attended.unended _ _ there live]
    simp
  | finished phase won =>
    dsimp only
    split <;> trivial

theorem Op.Ends.kept (ends : other.Ends s.db id) (h : Turned s op turn) (proper : op.Proper s.db)
    (known : (s.db.calls.find id).isSome) : other.Ends turn.db id := by
  rcases ends with counting | ⟨e, after, phase, own, active, ringing⟩
  · exact Or.inl counting
  · refine Or.inr ⟨e, after, phase, own, active, fun c' found' now => ?_⟩
    obtain ⟨c, found, evolved⟩ := h.before proper found' known
    exact ringing c found (evolved.ringing now)

/-- Who would end a call goes on to, finds somebody in it, or has ended it. -/
theorem Turned.ends (h : Turned s op turn) (proper : op.Proper s.db)
    (found : s.db.calls.find id = some c) (live : c.status.live = true) (ends : op.Ends s.db id) :
    (Op.mk op.request turn.phase).Ends turn.db id ∨
      (turn.db = s.db ∧ s.db.Occupied id ∧
        ∃ u c₀ leftAt, op.request = .leave u id ∧ op.phase = .counting c₀ leftAt) ∨
      turn.db.isOver id = true := by
  rcases ends with ⟨u, c₀, leftAt, leave, phase⟩ | ⟨e, after, phase, own, active, ringing⟩
  · cases h with
    | counted request phase' some' =>
      have same := leave.symm.trans request
      cases same
      exact Or.inr (Or.inl ⟨rfl, joinedCount_pos some', u, c₀, leftAt, leave, phase⟩)
    | emptied request phase' none' =>
      have same := leave.symm.trans request
      cases same
      exact Or.inl (Or.inr ⟨_, _, rfl, rfl, by simp [endAllLeft], fun _ _ _ => by simp [endAllLeft]⟩)
    | quiet loose | accepted _ loose | answers _ loose | leaves _ loose | opens _ loose
    | rejects loose => simp [phase, Phase.Loose] at loose
    | locks phase' | creates _ phase' | left _ phase' | joins _ phase' | finished phase'
    | lost phase' | swept phase' | announced phase' => simp [phase] at phase'
  · cases h with
    | finished phase' won =>
      rw [phase] at phase'
      cases phase'
      simp only [Op.Proper, phase] at proper
      obtain ⟨c', -, -, -, calls⟩ := Db.finish_some won
      exact Or.inr (Or.inr (Db.isOver_iff.mpr ⟨_, by rw [calls, if_pos own.symm], proper.ceased⟩))
    | lost phase' lost =>
      rw [phase] at phase'
      cases phase'
      subst own
      exfalso
      apply Db.finish_none lost found
      cases status : c.status with
      | ringing => exact ringing c found status
      | active => exact active
      | ended | canceled | missed | failed => simp [status, CallStatus.live] at live
    | quiet loose | accepted _ loose | answers _ loose | leaves _ loose | opens _ loose
    | rejects loose => simp [phase, Phase.Loose] at loose
    | locks phase' | creates _ phase' | left _ phase' | joins _ phase' | counted _ phase'
    | emptied _ phase' | swept phase' | announced phase' => simp [phase] at phase'

/-- Who has left a call will end it or count. -/
theorem Turned.left_ends (h : Turned s op turn) (attending : op.Attending s.db) {c₀ : CallSession}
    {leftAt : Time} (request : op.request = .leave u id) (phase : op.phase = .leaving c₀ leftAt) :
    (Op.mk op.request turn.phase).Ends turn.db id := by
  simp only [Op.Attending, phase] at attending
  obtain ⟨c, found, evolved, -⟩ := attending u id request
  cases h with
  | left request' phase' =>
    have same := request.symm.trans request'
    cases same
    rw [phase] at phase'
    cases phase'
    dsimp only
    split
    · rename_i single
      refine Or.inr ⟨_, _, rfl, rfl, by simp [endSingleCallOnFirstLeave], fun c' found' now => ?_⟩
      have one : c = c' := Option.some.inj (found.symm.trans found')
      have was := evolved.ringing (one ▸ now)
      rw [single.2] at was
      cases was
    · exact Or.inl ⟨_, _, _, request, rfl⟩
  | quiet loose | accepted _ loose | answers _ loose | leaves _ loose | opens _ loose
  | rejects loose => simp [phase, Phase.Loose] at loose
  | locks phase' | creates _ phase' | counted _ phase' | emptied _ phase' | joins _ phase'
  | finished phase' | lost phase' | swept phase' | announced phase' => simp [phase] at phase'

/-! ### The rows -/

theorem ParticipantStatus.Move.of_joined {st : ParticipantStatus} (h : Move .joined st) :
    st = .left := by
  cases h
  rfl

/-- The calls of the participants are known, so nothing but a creation is about a new one. -/
theorem rows_known (sound : Sound s) {p : CallParticipant}
    (found : s.db.participants.find (id, u) = some p) (fresh : s.db.calls.find id = none) :
    False := by
  have known := sound.rooted (id, u) p found
  simp [fresh] at known

theorem sweeping_over {e : Ending} {after : After} (proper : op.Proper s.db)
    (phase : op.phase = .sweeping e after) (own : e.callId = id)
    (found : s.db.calls.find id = some c) (live : c.status.live = true) : False := by
  simp only [Op.Proper, phase] at proper
  obtain ⟨c', found', ceased⟩ := Db.isOver_iff.mp proper.2
  rw [own, found] at found'
  cases found'
  rw [live] at ceased
  cases ceased

/-- The rows of a call that is created. -/
theorem RowFrom.fresh (h : RowFrom s op turn.db id u p') (sound : Sound s)
    (fresh : s.db.calls.find id = none) :
    ∃ p, op.request = .create p ∧ u ∈ p.participantIDs ∧
      p'.status = if u = p.initiatorID then .joined else .invited := by
  cases h with
  | same found => exact (rows_known sound found fresh).elim
  | created request own _ member status => exact ⟨_, request, member, status⟩
  | joined _ _ _ found _ _ => exact (rows_known sound found fresh).elim
  | left _ _ found _ => exact (rows_known sound found fresh).elim
  | rejected found _ _ => exact (rows_known sound found fresh).elim
  | swept _ _ found _ => exact (rows_known sound found fresh).elim

theorem Turned.ringing (h : Turned s op turn) (sound : Sound s) (attended : Attended s)
    (proper : op.Proper s.db) (found : turn.db.calls.find id = some c')
    (ringing : c'.status = .ringing) (row : turn.db.participants.find (id, u) = some p')
    (other : u ≠ c'.initiatorID) : p'.status ≠ .joined ∧ p'.status ≠ .left := by
  cases h.call found with
  | same found' =>
    cases h.row row with
    | same row' => exact attended.ringing id c' u p' found' ringing row' other
    | created _ _ fresh _ _ =>
      rw [found'] at fresh
      cases fresh
    | joined _ _ run _ _ _ =>
      obtain ⟨-, c, -, -, -, -, -, c'', -, active, -, calls⟩ := Db.joinInvitedCall_some run
      rw [calls, if_pos rfl] at found
      cases found
      rw [ringing] at active
      cases active
    | left request phase row' status =>
      simp only [Op.Proper, phase] at proper
      obtain ⟨p, there, present⟩ := proper u id request
      have absent := attended.ringing id c' u p found' ringing there other
      rcases present with joined | left
      · exact absurd joined absent.1
      · exact absurd left absent.2
    | rejected _ _ status => simp [status]
    | swept phase own _ _ =>
      exact (sweeping_over proper phase own found' (live_of_ringing ringing)).elim
  | created request run own fresh eq =>
    obtain ⟨p, request', -, status⟩ := (h.row row).fresh sound fresh
    have same := request.symm.trans request'
    cases same
    rw [eq] at other
    rw [status, if_neg other]
    simp
  | joined _ _ _ _ _ _ active _ =>
    rw [ringing] at active
    cases active
  | ended phase _ _ _ _ status _ =>
    simp only [Op.Proper, phase] at proper
    have ceased := proper.ceased
    rw [← status, ringing] at ceased
    cases ceased

theorem Turned.active (h : Turned s op turn) (attended : Attended s) (proper : op.Proper s.db)
    (attending : op.Attending s.db)
    (found : turn.db.calls.find id = some c') (single : c'.sessionType = .single)
    (active : c'.status = .active) (row : turn.db.participants.find (id, u) = some p') :
    p'.status = .joined ∨ p'.status = .left := by
  cases h.call found with
  | same found' =>
    cases h.row row with
    | same row' => exact attended.active id c' u p' found' single active row'
    | created _ _ fresh _ _ =>
      rw [found'] at fresh
      cases fresh
    | joined _ _ _ _ _ status => exact Or.inl status
    | left _ _ _ status => exact Or.inr status
    | rejected row' was _ =>
      rcases attended.active id c' u _ found' single active row' with joined | left
      · simp [was] at joined
      · simp [was] at left
    | swept phase own _ _ =>
      exact (sweeping_over proper phase own found' (live_of_active active)).elim
  | created request run own fresh eq =>
    rw [eq] at active
    cases active
  | joined request phase run there live evolved active' reason =>
    -- the one who joins is not the initiator, and there are only two
    rename_i v joinedAt c
    obtain ⟨pv, c₁, rowV, -, -, -, participants, -⟩ := Db.joinInvitedCall_some run
    rw [participants, Db.find_setStatus] at row
    obtain ⟨p, row', rfl⟩ := Option.map_eq_some_iff.mp row
    split
    · exact Or.inl rfl
    · rename_i apart
      simp only [Op.Attending, phase] at attending
      obtain ⟨c₂, there', joiner⟩ := attending v id request
      have one : c₂ = c := Option.some.inj (there'.symm.trans there)
      subst one
      obtain ⟨w, -, -, -, only⟩ := attended.pair id c₂ there (evolved.sessionType ▸ single)
      have second : v = w := (only v pv rowV).resolve_left joiner
      have first : u = c₂.initiatorID := by
        apply (only u p row').resolve_right
        intro same
        exact apart (by rw [same, second])
      subst first
      exact attended.initiator id c₂ p there row'
  | ended phase _ _ _ _ status _ =>
    simp only [Op.Proper, phase] at proper
    have ceased := proper.ceased
    rw [← status, active] at ceased
    cases ceased

theorem Turned.initiator (h : Turned s op turn) (sound : Sound s) (attended : Attended s)
    (proper : op.Proper s.db) (found : turn.db.calls.find id = some c')
    (row : turn.db.participants.find (id, c'.initiatorID) = some p') :
    p'.status = .joined ∨ p'.status = .left := by
  cases known : s.db.calls.find id with
  | none =>
    obtain ⟨p, request, -, status⟩ := (h.row row).fresh sound known
    cases h.call found with
    | created request' _ _ _ eq =>
      have same := request.symm.trans request'
      cases same
      rw [eq] at status
      exact Or.inl (status.trans (if_pos rfl))
    | same found' => simp [known] at found'
    | joined _ _ _ found' _ _ _ _ => simp [known] at found'
    | ended _ _ _ found' _ _ _ => simp [known] at found'
  | some c₀ =>
    obtain ⟨c, there, evolved⟩ := h.before proper found (by simp [known])
    have before : ∀ p, s.db.participants.find (id, c'.initiatorID) = some p →
        p.status = .joined ∨ p.status = .left := by
      intro p row'
      rw [evolved.initiatorID] at row'
      exact attended.initiator id c p there row'
    cases h.row row with
    | same row' => exact before p' row'
    | created _ _ fresh _ _ => simp [known] at fresh
    | joined _ _ _ _ _ status => exact Or.inl status
    | left _ _ _ status => exact Or.inr status
    | rejected row' was _ =>
      rcases before _ row' with joined | left
      · simp [was] at joined
      · simp [was] at left
    | swept phase _ row' moves =>
      simp only [Op.Proper, phase] at proper
      have move := proper.1.moves _ _ moves
      rcases before _ row' with joined | left
      · exact Or.inr (joined ▸ move).of_joined
      · exact absurd (left ▸ move) (by rintro ⟨⟩)

theorem Turned.pair (h : Turned s op turn) (sound : Sound s) (attended : Attended s)
    (proper : op.Proper s.db) (found : turn.db.calls.find id = some c')
    (single : c'.sessionType = .single) :
    ∃ v, v ≠ c'.initiatorID ∧ (turn.db.participants.find (id, c'.initiatorID)).isSome ∧
      (turn.db.participants.find (id, v)).isSome ∧
      ∀ u p, turn.db.participants.find (id, u) = some p → u = c'.initiatorID ∨ u = v := by
  cases known : s.db.calls.find id with
  | none =>
    cases h.call found with
    | created request run own fresh eq =>
      rename_i p expiresAt
      rw [eq] at single
      obtain ⟨v, alone⟩ := List.length_eq_one_iff.mp (p.direct single)
      have distinct := p.distinct
      rw [alone] at distinct
      have rows : ∀ w ∈ p.participantIDs, (turn.db.participants.find (id, w)).isSome := by
        intro w member
        rcases (Db.createCall_some run).2.2 (id, w) with ⟨v', -, -, -, here⟩ | ⟨others, -⟩
        · simp [here]
        · exact absurd (by rw [own]) (others w member)
      rw [eq]
      refine ⟨v, ?_, rows _ ?_, rows _ ?_, fun u q row => ?_⟩
      · rintro rfl
        simp at distinct
      · simp [StartCallParams.participantIDs]
      · simp [StartCallParams.participantIDs, alone]
      · obtain ⟨p', request', member, -⟩ := (h.row row).fresh sound fresh
        have same := request.symm.trans request'
        cases same
        simpa [StartCallParams.participantIDs, alone] using member
    | same found' => simp [known] at found'
    | joined _ _ _ found' _ _ _ _ => simp [known] at found'
    | ended _ _ _ found' _ _ _ => simp [known] at found'
  | some c₀ =>
    obtain ⟨c, there, evolved⟩ := h.before proper found (by simp [known])
    obtain ⟨v, apart, first, second, only⟩ :=
      attended.pair id c there (evolved.sessionType ▸ single)
    have stays : ∀ w, (s.db.participants.find (id, w)).isSome →
        (turn.db.participants.find (id, w)).isSome := by
      intro w some'
      obtain ⟨p, row⟩ := Option.isSome_iff_exists.mp some'
      obtain ⟨p', row', -⟩ := (h.advances proper).participants _ p row
      simp [row']
    rw [evolved.initiatorID]
    refine ⟨v, apart, stays _ first, stays _ second, fun u p row => ?_⟩
    obtain ⟨q, row'⟩ := Option.isSome_iff_exists.mp
      ((h.advances proper).settled (id, u) p row (by simp [there]))
    exact only u q row'

theorem Turned.unended (h : Turned s op turn) (attended : Attended s) (proper : op.Proper s.db)
    (found : turn.db.calls.find id = some c') (live : c'.status.live = true) :
    c'.endReason = none := by
  cases h.call found with
  | same found' => exact attended.unended id c' found' live
  | created _ _ _ _ eq => rw [eq]
  | joined _ _ _ found' live' _ _ reason => rw [reason, attended.unended id _ found' live']
  | ended phase _ _ _ _ status _ =>
    simp only [Op.Proper, phase] at proper
    have ceased := proper.ceased
    rw [← status, live] at ceased
    cases ceased

/-- Somebody who would end a call, after the turn. -/
theorem ends_after {n : Nat} (h : Turned s op turn) (proper : op.Proper s.db)
    (here : s.ops[n]? = some op) (found : s.db.calls.find id = some c)
    (live : c.status.live = true) (ends : ∃ other ∈ s.ops, other.Ends s.db id) :
    (∃ other ∈ (s.after n op turn).ops, other.Ends turn.db id) ∨
      (turn.db = s.db ∧ s.db.Occupied id ∧
        ∃ u c₀ leftAt, op.request = .leave u id ∧ op.phase = .counting c₀ leftAt) ∨
      turn.db.isOver id = true := by
  obtain ⟨other, member, ends⟩ := ends
  obtain ⟨m, at'⟩ := List.mem_iff_getElem?.mp member
  have inside : n < s.ops.length := (List.getElem?_eq_some_iff.mp here).1
  by_cases own : m = n
  · subst own
    have one : other = op := Option.some.inj (at'.symm.trans here)
    subst one
    rcases h.ends proper found live ends with goes | counted | ceased
    · refine Or.inl ⟨_, List.mem_iff_getElem?.mpr ⟨m, ?_⟩, goes⟩
      simp [State.after, inside]
    · exact Or.inr (Or.inl counted)
    · exact Or.inr (Or.inr ceased)
  · refine Or.inl ⟨other, List.mem_iff_getElem?.mpr ⟨m, ?_⟩, ends.kept h proper (by simp [found])⟩
    simpa [State.after, List.getElem?_set, Ne.symm own] using at'

/-- A live call after a turn was live before, unless the turn created it. -/
theorem Turned.live_before (h : Turned s op turn) (proper : op.Proper s.db)
    (found : turn.db.calls.find id = some c') (live : c'.status.live = true)
    (known : (s.db.calls.find id).isSome) :
    ∃ c, s.db.calls.find id = some c ∧ c.Evolves c' ∧ c.status.live = true := by
  obtain ⟨c, there, evolved⟩ := h.before proper found known
  exact ⟨c, there, evolved, evolved.live live⟩

theorem not_over {db : Db} (found : db.calls.find id = some c)
    (live : c.status.live = true) (ceased : db.isOver id = true) : False := by
  obtain ⟨c', found', dead⟩ := Db.isOver_iff.mp ceased
  rw [found] at found'
  cases found'
  rw [live] at dead
  cases dead

/-- Where somebody has left a single call, whoever counts finds nobody. -/
theorem departed_empty (attended : Attended s)
    (found : s.db.calls.find id = some c) (single : c.sessionType = .single)
    (live : c.status.live = true) (departed : s.db.Departed id) (attending : op.Attending s.db)
    (counting : ∃ u c₀ leftAt, op.request = .leave u id ∧ op.phase = .counting c₀ leftAt) :
    ¬s.db.Occupied id := by
  obtain ⟨v, c₀, leftAt, request, phase⟩ := counting
  simp only [Op.Attending, phase] at attending
  obtain ⟨c', found', evolved, calm⟩ := attending.2 v id request
  have one : c' = c := Option.some.inj (found'.symm.trans found)
  subst one
  have single₀ : c₀.sessionType = .single := evolved.sessionType ▸ single
  have ringing : c'.status = .ringing := by
    have live₀ := evolved.live live
    cases status : c₀.status with
    | active => exact absurd status (attending.1 single₀)
    | ringing =>
      have inactive := calm single₀ status
      cases now : c'.status <;> simp_all [CallStatus.live]
    | ended | canceled | missed | failed => simp [status, CallStatus.live] at live₀
  rintro ⟨w, q, rowQ, joined⟩
  obtain ⟨u, p, row, left⟩ := departed
  have first : u = c'.initiatorID := by
    by_contra other
    exact (attended.ringing id c' u p found ringing row other).2 left
  have second : w = c'.initiatorID := by
    by_contra other
    exact (attended.ringing id c' w q found ringing rowQ other).1 joined
  subst first
  subst second
  rw [row] at rowQ
  cases rowQ
  rw [left] at joined
  cases joined

theorem Attended.next {n : Nat} (attended : Attended s) (sound : Sound s)
    (here : s.ops[n]? = some op) (h : Turned s op turn)
    (accepts : ∀ u id joinedAt db, op.request = .accept u id → op.phase = .joining joinedAt →
      s.db.joinInvitedCall id u joinedAt = some db → ∀ other ∈ s.ops, other.blocks s.db id = false)
    (ends : ∀ e after db, op.phase = .ending e after → e.endReason = .allLeft →
      s.db.finish e = some db → ∀ other ∈ s.ops, other.answering e.callId = false) :
    Attended (s.after n op turn) := by
  have member : op ∈ s.ops := List.mem_of_getElem? here
  have proper := sound.proper op member
  have attending := attended.ops op member
  have inside : n < s.ops.length := (List.getElem?_eq_some_iff.mp here).1
  have turned : (Op.mk op.request turn.phase) ∈ (s.after n op turn).ops := by
    apply List.mem_iff_getElem?.mpr
    exact ⟨n, by simp [State.after, inside]⟩
  constructor
  · exact fun id c u p found ringing row other =>
      h.ringing sound attended proper found ringing row other
  · exact fun id c u p found single active row =>
      h.active attended proper attending found single active row
  · exact fun id c p found row => h.initiator sound attended proper found row
  · exact fun id c found single => h.pair sound attended proper found single
  · exact fun id c found live => h.unended attended proper found live
  · intro other member'
    rcases List.mem_or_eq_of_mem_set member' with old | rfl
    · exact (attended.ops other old).kept h proper
        (fun u id joinedAt db request phase run => accepts u id joinedAt db request phase run _ old)
        fun e after db phase reason won => ends e after db phase reason won _ old
    · exact h.attending attended attending
  · rintro id c' found single live ⟨u, p', row, left⟩
    cases known : s.db.calls.find id with
    | none =>
      obtain ⟨p, -, -, status⟩ := (h.row row).fresh sound known
      rw [left] at status
      split at status <;> cases status
    | some c₀ =>
      obtain ⟨c, there, evolved, live'⟩ := h.live_before proper found live (by simp [known])
      have single' : c.sessionType = .single := evolved.sessionType ▸ single
      have before : s.db.Departed id → ∃ other ∈ (s.after n op turn).ops,
          other.Ends turn.db id := by
        intro departed
        rcases ends_after h proper here there live' (attended.departed id c there single' live'
          departed) with goes | ⟨-, occupied, counting⟩ | ceased
        · exact goes
        · exact absurd occupied
            (departed_empty attended there single' live' departed attending counting)
        · exact (not_over found live ceased).elim
      cases h.row row with
      | same row' => exact before ⟨u, p', row', left⟩
      | created _ _ fresh _ _ => simp [known] at fresh
      | joined _ _ _ _ _ status => simp [status] at left
      | left request phase _ _ => exact ⟨_, turned, h.left_ends attending request phase⟩
      | rejected _ _ status => simp [status] at left
      | swept phase own _ _ => exact (sweeping_over proper phase own there live').elim
  · intro id c' found active
    have live := live_of_active active
    cases h.call found with
    | same found' =>
      rcases attended.occupied id c' found' active with ⟨u, p, row, joined⟩ | others
      · obtain ⟨p', row', moved⟩ := (h.advances proper).participants _ p row
        rcases joined_of_moves moved (Or.inl joined) with stays | left
        · exact Or.inl ⟨u, p', row', stays⟩
        · cases h.row row' with
          | same same =>
            rw [row] at same
            cases same
            exact Or.inl ⟨u, p, row', joined⟩
          | created _ _ fresh _ _ => simp [found'] at fresh
          | joined _ _ _ _ _ status => exact Or.inl ⟨u, p', row', status⟩
          | left request phase _ _ =>
            exact Or.inr ⟨_, turned, h.left_ends attending request phase⟩
          | rejected _ _ status => simp [status] at left
          | swept phase own _ _ => exact (sweeping_over proper phase own found' live).elim
      · rcases ends_after h proper here found' live others with goes | ⟨same, occupied, -⟩ | ceased
        · exact Or.inr goes
        · left
          show turn.db.Occupied id
          rw [same]
          exact occupied
        · exact (not_over found live ceased).elim
    | created _ _ _ _ eq =>
      rw [eq] at active
      cases active
    | joined request phase run there live' evolved active' reason =>
      rename_i u joinedAt c
      obtain ⟨p, -, row, -, -, -, participants, -⟩ := Db.joinInvitedCall_some run
      left
      refine ⟨u, { p with status := .joined }, ?_, rfl⟩
      show turn.db.participants.find _ = _
      rw [participants, Db.find_setStatus, row]
      simp
    | ended phase _ _ _ _ status _ =>
      simp only [Op.Proper, phase] at proper
      have ceased := proper.ceased
      rw [← status, live] at ceased
      cases ceased

end Turn

section Runs

variable {ringTimeout : Time} {s t : State} {a : Action}

theorem Uncrossed.accepts {n : Nat} {allowed : Bool} {op : Op} (h : Uncrossed s (.turn n allowed))
    (here : s.ops[n]? = some op) (u : UserId) (id : CallId) (joinedAt : Time) (db : Db)
    (request : op.request = .accept u id) (phase : op.phase = .joining joinedAt)
    (run : s.db.joinInvitedCall id u joinedAt = some db) (other : Op) (member : other ∈ s.ops) :
    other.blocks s.db id = false := by
  simp only [Uncrossed, State.uncrossed, here, Option.all_some, request, phase, run,
    Option.isNone_some, Bool.false_or, Bool.not_eq_true', List.any_eq_false] at h
  simpa using h other member

theorem Uncrossed.ends {n : Nat} {allowed : Bool} {op : Op} (h : Uncrossed s (.turn n allowed))
    (here : s.ops[n]? = some op) (e : Ending) (after : After) (db : Db)
    (phase : op.phase = .ending e after) (reason : e.endReason = .allLeft)
    (won : s.db.finish e = some db) (other : Op) (member : other ∈ s.ops) :
    other.answering e.callId = false := by
  have free : s.ops.any (·.answering e.callId) = false := by
    simp only [Uncrossed, State.uncrossed, here, Option.all_some, phase] at h
    cases request : op.request <;> simpa [request, reason, won] using h
  simpa using List.any_eq_false.mp free other member

theorem Attended.step (attended : Attended s) (sound : Sound s) (step : Step ringTimeout s a t)
    (uncrossed : Uncrossed s a) : Attended t := by
  rcases step.cases with ⟨request, -, rfl⟩ | ⟨n, allowed, op, turn, rfl, here, -, turned, rfl⟩ |
    ⟨ms, -, rfl⟩
  · refine ⟨attended.ringing, attended.active, attended.initiator, attended.pair,
      attended.unended, ?_, ?_, ?_⟩
    · intro op member
      rcases List.mem_append.mp member with old | new
      · exact attended.ops op old
      · rw [List.mem_singleton] at new
        subst new
        trivial
    · intro id c found single live departed
      obtain ⟨op, member, ends⟩ := attended.departed id c found single live departed
      exact ⟨op, List.mem_append_left _ member, ends⟩
    · intro id c found active
      rcases attended.occupied id c found active with occupied | ⟨op, member, ends⟩
      · exact Or.inl occupied
      · exact Or.inr ⟨op, List.mem_append_left _ member, ends⟩
  · exact attended.next sound here turned (uncrossed.accepts here) (uncrossed.ends here)
  · exact ⟨attended.ringing, attended.active, attended.initiator, attended.pair,
      attended.unended, attended.ops, attended.departed, attended.occupied⟩

theorem Start.attended (h : Start s) : Attended s := by
  have nobody : ∀ id, s.db.calls.find id = none := by
    intro id
    simp [Table.find, h.calls]
  constructor
  · exact fun id c u p found => by simp [nobody] at found
  · exact fun id c u p found => by simp [nobody] at found
  · exact fun id c p found => by simp [nobody] at found
  · exact fun id c found => by simp [nobody] at found
  · exact fun id c found => by simp [nobody] at found
  · exact fun op member => by simp [h.ops] at member
  · exact fun id c found => by simp [nobody] at found
  · exact fun id c found => by simp [nobody] at found

abbrev UncrossedStep (ringTimeout : Time) : State → Action → State → Prop :=
  Run.Where (Step ringTimeout) Uncrossed

theorem Attended.run {as : List Action} (attended : Attended s) (sound : Sound s)
    (run : Run (UncrossedStep ringTimeout) s as t) : Attended t :=
  run.preserves_where (fun _ _ _ step sound => Sound.step sound step)
    (fun _ _ _ step uncrossed sound attended => attended.step sound step uncrossed) sound attended

/-- An end for want of people is written by a leave that found nobody. -/
theorem allLeft_empty (attended : Attended s) (step : Step ringTimeout s a t) {id : CallId}
    {c c' : CallSession} (found : s.db.calls.find id = some c) (live : c.status.live = true)
    (group : c.sessionType = .group) (found' : t.db.calls.find id = some c')
    (reason : c'.endReason = some .allLeft) : ¬s.db.Occupied id := by
  have open' := attended.unended id c found live
  have differ : c ≠ c' := by
    rintro rfl
    simp [open'] at reason
  rcases step.cases with ⟨request, -, rfl⟩ | ⟨n, allowed, op, turn, -, here, -, turned, rfl⟩ |
    ⟨ms, -, rfl⟩
  · exact absurd (Option.some.inj (found.symm.trans found')) differ
  · cases turned.call found' with
    | same same => exact absurd (Option.some.inj (found.symm.trans same)) differ
    | created _ _ _ fresh _ => simp [found] at fresh
    | joined _ _ _ there _ _ _ reason' =>
      have one := Option.some.inj (found.symm.trans there)
      rw [reason', ← one, open'] at reason
      cases reason
    | ended phase own _ _ _ _ reason' =>
      have attending := attended.ops op (List.mem_of_getElem? here)
      rw [reason', Option.some.injEq] at reason
      simp only [Op.Attending, phase] at attending
      obtain ⟨c₁, there, empty⟩ := attending reason
      rw [own] at there empty
      have one := Option.some.inj (found.symm.trans there)
      subst one
      exact empty group live
  · exact absurd (Option.some.inj (found.symm.trans found')) differ

/-- At every point of a run in which accepts and leaves do not cross: with nothing in
flight, an active single call has both its people and an active group call somebody; a
group call that a turn ends for want of people has nobody in it; and the token that an
accept is about to return is for a call that no leave has ended. -/
theorem calls_keep_people {u v : State} {before : List Action} (start : Start s)
    (run : Run (UncrossedStep ringTimeout) s before u) (step : UncrossedStep ringTimeout u a v) :
    ((∀ op ∈ u.ops, op.Done) → ∀ id c, u.db.calls.find id = some c → c.status = .active →
      u.db.Occupied id ∧
        (c.sessionType = .single → ∃ callee, callee ≠ c.initiatorID ∧
          (∃ p, u.db.participants.find (id, c.initiatorID) = some p ∧ p.status = .joined) ∧
          ∃ p, u.db.participants.find (id, callee) = some p ∧ p.status = .joined)) ∧
    (∀ id c c', u.db.calls.find id = some c → c.status.live = true → c.sessionType = .group →
      v.db.calls.find id = some c' → c'.endReason = some .allLeft → ¬u.db.Occupied id) ∧
    (∀ op ∈ u.ops, ∀ w id id', op.request = .accept w id → op.phase = .granting id' →
      ∃ c, u.db.calls.find id' = some c ∧ c.endReason ≠ some .allLeft) := by
  have plain : Run (Step ringTimeout) s before u := run.mono fun _ _ _ h => h.1
  have sound : Sound u := start.sound.run plain
  have attended : Attended u := start.attended.run start.sound run
  refine ⟨?_, ?_, ?_⟩
  · intro done id c found active
    have nobody : ∀ op ∈ u.ops, ¬op.Ends u.db id := by
      intro op member ends
      obtain ⟨o, phase⟩ := done op member
      rcases ends with ⟨_, _, _, -, counting⟩ | ⟨_, _, ending, -⟩
      · simp [phase] at counting
      · simp [phase] at ending
    refine ⟨?_, fun single => ?_⟩
    · rcases attended.occupied id c found active with occupied | ⟨op, member, ends⟩
      · exact occupied
      · exact absurd ends (nobody op member)
    · have stays : ∀ w, (u.db.participants.find (id, w)).isSome →
          ∃ p, u.db.participants.find (id, w) = some p ∧ p.status = .joined := by
        intro w some'
        obtain ⟨p, row⟩ := Option.isSome_iff_exists.mp some'
        refine ⟨p, row, ?_⟩
        rcases attended.active id c w p found single active row with joined | left
        · exact joined
        · obtain ⟨op, member, ends⟩ :=
            attended.departed id c found single (live_of_active active) ⟨w, p, row, left⟩
          exact absurd ends (nobody op member)
      obtain ⟨callee, apart, first, second, -⟩ := attended.pair id c found single
      exact ⟨callee, apart, stays _ first, stays _ second⟩
  · intro id c c' found live group found' reason
    exact allLeft_empty attended step.1 found live group found' reason
  · intro op member w id id' request phase
    have attending := attended.ops op member
    simp only [Op.Attending, phase] at attending
    exact attending w id request

/-! ### An initiator who hangs up as the call is answered -/

/-- `State.next` on the steps that do not cross. -/
def State.nextUncrossed (s : State) (a : Action) : Option State :=
  if s.uncrossed a then s.next 45000 a else none

theorem uncrossed_run {s t : State} {as : List Action}
    (h : as.foldlM State.nextUncrossed s = some t) : Run (UncrossedStep 45000) s as t := by
  apply (Run.of_foldlM h).mono
  intro s a t h
  unfold State.nextUncrossed at h
  split at h
  · rename_i uncrossed
    exact ⟨h, uncrossed⟩
  · cases h

theorem calls_keep_people_answered :
    (answered.db.calls.find 7).map (·.status) = some .active ∧ answered.db.Occupied 7 := by
  have run : Run (UncrossedStep 45000) quietLine dialing answered := uncrossed_run rfl
  have step : UncrossedStep 45000 answered (.begin (.leave 1 7)) hangingUp := ⟨rfl, rfl⟩
  obtain ⟨people, -, -⟩ := calls_keep_people quietLine_start run step
  have done : ∀ op ∈ answered.ops, op.Done := by
    have phases : answered.ops.map (·.phase) = [.done (.token 7), .done (.token 7)] := rfl
    intro op member
    have phase : op.phase ∈ answered.ops.map (·.phase) := List.mem_map.mpr ⟨op, member, rfl⟩
    rw [phases] at phase
    simp only [List.mem_cons, List.not_mem_nil, or_false, or_self] at phase
    exact ⟨_, phase⟩
  exact ⟨rfl, (people done 7 _ rfl rfl).1⟩

/-- The leave reads the call as ringing, the accept commits, and the leave counts one. -/
def crossing : List Action :=
  .begin (.create dial) :: turns 0 8 ++ .begin (.leave 1 7) :: .turn 1 true ::
    .begin (.accept 2 7) :: turns 2 2 ++ turns 1 2 ++ turns 2 1

def halfDead : State := play quietLine crossing

theorem crossing_halfDead :
    Start quietLine ∧ Run (Step 45000) quietLine crossing halfDead ∧
      halfDead.ops.map (·.phase) = [.done (.token 7), .done .nothing, .done (.token 7)] ∧
      (halfDead.db.calls.find 7).map (fun c => (c.sessionType, c.status)) =
        some (.single, .active) ∧
      (halfDead.db.participants.find (7, 1)).map (·.status) = some .left :=
  ⟨quietLine_start, Run.of_foldlM rfl, rfl, rfl, rfl⟩

end Runs

end CircleBackend.Calls
