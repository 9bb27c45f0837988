import CircleBackend.Calls.Steps

/-!
# A call ends once

Over any interleaving: a call that is over stays as it is, its record is emitted by
whoever wrote its end, and nobody is in two live calls. What the last rests on is
that a creation commits only when its snapshot knows every call of its participants,
and that a participant who was not busy then is not busy now.
-/

namespace CircleBackend.Calls

open Library
open Session (UserId)

/-- Nothing has happened yet. -/
structure Start (s : State) : Prop where
  calls : s.db.calls.rows = []
  participants : s.db.participants.rows = []
  ops : s.ops = []
  records : s.records = []

def Db.isOver (db : Db) (id : CallId) : Bool := (db.calls.find id).any fun c => !c.status.live

/-- Nobody is invited to or in two live calls. -/
def Db.Exclusive (db : Db) : Prop :=
  ∀ k k' p p', db.participants.find k = some p → db.participants.find k' = some p' →
    k.2 = k'.2 → p.status.busy = true → p'.status.busy = true → db.isLive k.1 = true →
    db.isLive k'.1 = true → k = k'

/-- What an operation in flight relies on. -/
def Op.Proper (db : Db) (op : Op) : Prop :=
  match op.phase with
  | .leaving _ _ => ∀ u callId, op.request = .leave u callId →
      ∃ p, db.participants.find (callId, u) = some p ∧ (p.status = .joined ∨ p.status = .left)
  | .ending e _ => e.WellFormed
  | .sweeping e _ => e.WellFormed ∧ db.isOver e.callId = true
  | .announcing e _ => db.isOver e.callId = true
  | .locking _ snapshot _ _ => snapshot.Ages db
  | _ => True

structure Sound (s : State) : Prop where
  rooted : ∀ k p, s.db.participants.find k = some p → (s.db.calls.find k.1).isSome
  exclusive : s.db.Exclusive
  proper : ∀ op ∈ s.ops, op.Proper s.db
  recorded : ∀ id, s.records.count id + s.ops.countP (fun op => op.phase.owes = some id) =
    if s.db.isOver id then 1 else 0

section Steps

variable {ringTimeout : Time} {s t : State} {a : Action} {op : Op} {turn : Turn} {db db' : Db}

theorem Step.cases (h : Step ringTimeout s a t) :
    (∃ request, a = .begin request ∧ t = { s with ops := s.ops ++ [⟨request, .started⟩] }) ∨
    (∃ n allowed op turn, a = .turn n allowed ∧ s.ops[n]? = some op ∧
      s.turn ringTimeout op allowed = some turn ∧ Turned s op turn ∧ t = s.after n op turn) ∨
    ∃ ms, a = .pass ms ∧ t = { s with now := s.now + ms } := by
  unfold Step at h
  cases a with
  | begin request =>
    cases h
    exact Or.inl ⟨request, rfl, rfl⟩
  | turn n allowed =>
    obtain ⟨op, found, h⟩ := Option.bind_eq_some_iff.mp h
    obtain ⟨turn, run, rfl⟩ := Option.map_eq_some_iff.mp h
    exact Or.inr (Or.inl ⟨n, allowed, op, turn, rfl, found, run, turn_turned run, rfl⟩)
  | pass ms =>
    cases h
    exact Or.inr (Or.inr ⟨ms, rfl, rfl⟩)

variable {callId id : CallId} {u : UserId}

theorem findParticipant_some {p : CallParticipant}
    {c : CallSession} (h : db.findParticipant callId u = some (p, c)) :
    db.participants.find (callId, u) = some p ∧ db.calls.find callId = some c := by
  obtain ⟨p', row, h⟩ := Option.bind_eq_some_iff.mp h
  obtain ⟨c', call, h⟩ := Option.map_eq_some_iff.mp h
  cases h
  exact ⟨row, call⟩

/-- One move of each participant at most. -/
theorem Turned.advances (h : Turned s op turn) (proper : op.Proper s.db) :
    s.db.Advances turn.db := by
  cases h with
  | quiet | accepted | answers | leaves | opens | locks | counted | emptied | lost | announced =>
    exact Db.advances_refl s.db
  | creates request phase idle apart run => exact Db.advances_createCall run
  | left request phase =>
    simp only [Op.Proper, phase] at proper
    obtain ⟨p, row, status⟩ := proper _ _ request
    apply Db.advances_setStatus
    intro q row'
    have one : p = q := Option.some.inj (row.symm.trans row')
    subst one
    rcases status with joined | left
    · rw [joined]
      exact .single .leaves
    · rw [left]
  | joins request phase run => exact Db.advances_joinInvitedCall run
  | rejects loose run calm =>
    obtain ⟨p, row, run⟩ := Option.bind_eq_some_iff.mp run
    split at run
    · rename_i invited
      cases run
      apply Db.advances_setStatus
      intro q row'
      have one : p = q := Option.some.inj (row.symm.trans row')
      subst one
      rw [invited]
      exact .single .rejects
    · cases run
  | finished phase won =>
    simp only [Op.Proper, phase] at proper
    exact Db.advances_finish proper.ceased proper.allowed won
  | swept phase moves =>
    simp only [Op.Proper, phase] at proper
    exact Db.advances_moveParticipants (proper.1.moves _ _ moves)

theorem Step.advances (h : Step ringTimeout s a t) (sound : Sound s) : s.db.Advances t.db := by
  rcases h.cases with ⟨request, -, rfl⟩ | ⟨n, allowed, op, turn, -, found, -, turned, rfl⟩ |
    ⟨ms, -, rfl⟩
  · exact Db.advances_refl s.db
  · exact turned.advances (sound.proper op (List.mem_of_getElem? found))
  · exact Db.advances_refl s.db

theorem Db.isOver_iff :
    db.isOver id = true ↔ ∃ c, db.calls.find id = some c ∧ c.status.live = false := by
  unfold isOver
  cases db.calls.find id with
  | none => simp
  | some c => simp

theorem Db.isLive_iff :
    db.isLive id = true ↔ ∃ c, db.calls.find id = some c ∧ c.status.live = true := by
  unfold isLive
  cases db.calls.find id with
  | none => simp
  | some c => simp

theorem Db.Evolves.ceased {moves : ParticipantStatus → ParticipantStatus → Prop}
    (h : db.Evolves moves db') (ceased : db.isOver id = true) : db'.isOver id = true := by
  obtain ⟨c, found, dead⟩ := Db.isOver_iff.mp ceased
  obtain ⟨c', found', evolved⟩ := h.calls id c found
  have same := evolved.ceased dead
  exact Db.isOver_iff.mpr ⟨c', found', same ▸ dead⟩

/-- What an operation relies on is kept while others take their turns. -/
theorem Op.Proper.kept (h : op.Proper db) (advanced : db.Advances db') : op.Proper db' := by
  simp only [Op.Proper] at h ⊢
  cases phase : op.phase with
  | leaving c leftAt =>
    simp only [phase] at h
    intro u callId request
    obtain ⟨p, row, status⟩ := h u callId request
    obtain ⟨p', row', moved⟩ := advanced.participants _ p row
    exact ⟨p', row', joined_of_moves moved status⟩
  | ending e after =>
    simp only [phase] at h
    exact h
  | sweeping e after =>
    simp only [phase] at h
    exact ⟨h.1, advanced.ceased h.2⟩
  | announcing e after =>
    simp only [phase] at h
    exact advanced.ceased h
  | locking expiresAt snapshot held waiting =>
    simp only [phase] at h
    exact Db.Ages.trans h advanced.ages
  | _ => trivial

/-- The phase a turn leads to, in what the turn leaves. -/
theorem Turned.proper (h : Turned s op turn) (proper : op.Proper s.db) :
    (Op.mk op.request turn.phase).Proper turn.db := by
  have calm : ∀ {phase : Phase} {db : Db}, phase.Calm op.request →
      (Op.mk op.request phase).Proper db := by
    intro phase db calm
    simp only [Op.Proper]
    cases phase with
    | ending e after => exact calm.1
    | leaving | sweeping | announcing | locking => cases calm
    | _ => trivial
  have advanced := h.advances proper
  cases h with
  | quiet loose calm' => exact calm calm'
  | rejects loose run calm' => exact calm calm'
  | lost was lost calm' => exact calm calm'
  | announced was calm' => exact calm calm'
  | accepted | answers | counted | creates | joins => trivial
  | leaves request loose found joined =>
    rename_i u callId p c
    intro u' callId' request'
    have same := request.symm.trans request'
    cases same
    exact ⟨p, (findParticipant_some found).1, Or.inl joined⟩
  | opens request loose => exact .refl (fun _ => .refl) s.db
  | locks phase free =>
    simp only [Op.Proper, phase] at proper
    exact proper
  | left request phase =>
    dsimp only
    split
    · exact firstLeave_wellFormed _ _ _
    · trivial
  | emptied request phase none' => exact allLeft_wellFormed _ _ _
  | finished phase won =>
    simp only [Op.Proper, phase] at proper
    obtain ⟨c, found, allowed, -, calls⟩ := Db.finish_some won
    have ceased := Db.isOver_iff.mpr ⟨_, by rw [calls, if_pos rfl], proper.ceased⟩
    dsimp only
    split
    · exact ⟨proper, ceased⟩
    · exact ceased
  | swept phase moves =>
    simp only [Op.Proper, phase] at proper
    exact advanced.ceased proper.2

theorem over_create {p : StartCallParams} {expiresAt : Time}
    (run : db.createCall p expiresAt = some db') (id : CallId) : db'.isOver id = db.isOver id := by
  obtain ⟨fresh, calls, -⟩ := Db.createCall_some run
  unfold Db.isOver
  rw [calls]
  split
  · rename_i own
    rw [own, fresh]
    rfl
  · rfl

theorem over_join {joinedAt : Time} (run : db.joinInvitedCall callId u joinedAt = some db')
    (id : CallId) : db'.isOver id = db.isOver id := by
  obtain ⟨p, c, -, found, -, live, -, c', -, active, -, calls⟩ := Db.joinInvitedCall_some run
  unfold Db.isOver
  rw [calls]
  split
  · rename_i own
    rw [own, found]
    simp only [Option.any_some, active, live]
    rfl
  · rfl

theorem over_claim {from' to' : ParticipantStatus} (run : db.claim callId u from' to' = some db')
    (id : CallId) : db'.isOver id = db.isOver id := by
  obtain ⟨p, -, run⟩ := Option.bind_eq_some_iff.mp run
  split at run
  · cases run
    rfl
  · cases run

/-- The end that is written makes the call be over, and nothing else does. -/
theorem over_finish {e : Ending} (wellFormed : e.WellFormed) (won : db.finish e = some db')
    (id : CallId) : (if db'.isOver id then 1 else 0) =
      (if db.isOver id then 1 else 0) + if e.callId = id then 1 else 0 := by
  obtain ⟨c, found, allowed, -, calls⟩ := Db.finish_some won
  by_cases own : e.callId = id
  · subst own
    have was : db.isOver e.callId = false := by
      simp [Db.isOver, found, wellFormed.allowed _ allowed]
    have now : db'.isOver e.callId = true :=
      Db.isOver_iff.mpr ⟨_, by rw [calls, if_pos rfl], wellFormed.ceased⟩
    simp [was, now]
  · have same : db'.isOver id = db.isOver id := by
      unfold Db.isOver
      rw [calls, if_neg (Ne.symm own)]
    simp [same, own]

theorem Phase.Loose.owes {phase : Phase} (h : phase.Loose) : phase.owes = none := by
  cases phase <;> first | rfl | cases h

theorem Phase.Calm.owes {phase : Phase} {request : Request} (h : phase.Calm request) :
    phase.owes = none := by
  cases phase <;> first | rfl | cases h

/-- A turn that makes a call be over owes its record, and one that emits it owed it. -/
theorem Turned.balance (h : Turned s op turn) (proper : op.Proper s.db) (id : CallId) :
    turn.record.toList.count id + (if turn.phase.owes = some id then 1 else 0) +
        (if s.db.isOver id then 1 else 0) =
      (if op.phase.owes = some id then 1 else 0) + if turn.db.isOver id then 1 else 0 := by
  cases h with
  | quiet loose calm => simp [loose.owes, calm.owes]
  | accepted _ loose | answers _ loose | leaves _ loose | opens _ loose =>
    rw [loose.owes]
    simp [Phase.owes]
  | locks phase | counted _ phase | emptied _ phase => simp [phase, Phase.owes]
  | creates _ phase _ _ run => simp [phase, Phase.owes, over_create run]
  | joins _ phase run => simp [phase, Phase.owes, over_join run]
  | rejects loose run calm => simp [loose.owes, calm.owes, over_claim run]
  | left request phase =>
    dsimp only
    split <;> (simp only [phase, Phase.owes]; rfl)
  | finished phase won =>
    simp only [Op.Proper, phase] at proper
    have ceased := over_finish proper won id
    dsimp only
    rw [ceased, phase]
    split <;> (simp only [Phase.owes, Option.some.injEq, reduceCtorEq, Option.toList_none,
      List.count_nil, ↓reduceIte]; omega)
  | lost was lost calm =>
    rw [was, calm.owes]
    simp [Phase.owes]
  | swept phase moves =>
    rename_i e after from' to'
    have same : (s.db.moveParticipants e.callId from' to').isOver id = s.db.isOver id := rfl
    simp [phase, Phase.owes, same]
  | announced was calm =>
    rw [was, calm.owes]
    simp [Phase.owes, List.count_singleton]

/-- Turning one operation changes the count by it alone. -/
theorem countP_turn {ops : List Op} {n : Nat} {op : Op} (h : ops[n]? = some op) (op' : Op)
    (q : Op → Bool) :
    (ops.set n op').countP q + (if q op then 1 else 0) = ops.countP q + if q op' then 1 else 0 := by
  obtain ⟨inside, here⟩ := List.getElem?_eq_some_iff.mp h
  have member : op ∈ ops := List.mem_of_getElem? h
  rw [List.countP_set inside, here]
  by_cases picked : q op
  · have positive : 0 < ops.countP q := List.countP_pos_iff.mpr ⟨op, member, picked⟩
    simp only [picked, ↓reduceIte]
    omega
  · simp [picked]

/-- Those who may be called again were not busy, and stay so. -/
theorem exclusive_step (rooted : ∀ k p, db.participants.find k = some p →
    (db.calls.find k.1).isSome) (exclusive : db.Exclusive) (advanced : db.Advances db')
    (old : ∀ k p', db'.participants.find k = some p' → (db.participants.find k).isSome) :
    db'.Exclusive := by
  have back : ∀ k p', db'.participants.find k = some p' → p'.status.busy = true →
      db'.isLive k.1 = true →
      ∃ p, db.participants.find k = some p ∧ p.status.busy = true ∧ db.isLive k.1 = true := by
    intro k p' found busy live
    obtain ⟨p, there⟩ := Option.isSome_iff_exists.mp (old k p' found)
    obtain ⟨q, found', moved⟩ := advanced.participants k p there
    have one : q = p' := Option.some.inj (found'.symm.trans found)
    subst one
    obtain ⟨c, known⟩ := Option.isSome_iff_exists.mp (rooted k p there)
    obtain ⟨c', known', evolved⟩ := advanced.calls k.1 c known
    obtain ⟨c'', known'', live'⟩ := Db.isLive_iff.mp live
    have same : c' = c'' := Option.some.inj (known'.symm.trans known'')
    subst same
    exact ⟨p, there, busy_of_ages moved.to_reflTransGen busy,
      Db.isLive_iff.mpr ⟨c, known, evolved.live live'⟩⟩
  intro k k' p p' found found' user busy busy' live live'
  obtain ⟨q, there, busyQ, liveQ⟩ := back k p found busy live
  obtain ⟨q', there', busyQ', liveQ'⟩ := back k' p' found' busy' live'
  exact exclusive k k' q q' there there' user busyQ busyQ' liveQ liveQ'

/-- A creation whose snapshot knows the calls of its participants. -/
theorem exclusive_create {p : StartCallParams} {expiresAt : Time} {snapshot : Db}
    (rooted : ∀ k q, db.participants.find k = some q → (db.calls.find k.1).isSome)
    (exclusive : db.Exclusive) (ages : snapshot.Ages db)
    (idle : snapshot.busy p.participantIDs = false)
    (apart : db.conflicts snapshot p.participantIDs = false)
    (run : db.createCall p expiresAt = some db') : db'.Exclusive := by
  obtain ⟨fresh, calls, participants⟩ := Db.createCall_some run
  -- nobody who is called is busy
  have free : ∀ k q, db.participants.find k = some q → k.2 ∈ p.participantIDs →
      q.status.busy = true → db.isLive k.1 = true → False := by
    intro k q found member busy live
    obtain ⟨c, known, liveC⟩ := Db.isLive_iff.mp live
    have key : c.id = k.1 := Table.find_key known
    have key' := Table.find_key found
    cases seen : snapshot.calls.find k.1 with
    | none =>
      have conflict : db.conflicts snapshot p.participantIDs = true := by
        apply List.any_eq_true.mpr
        refine ⟨c, Table.find_mem known, ?_⟩
        simp only [key, seen, Option.isNone_none, Bool.true_and]
        apply List.any_eq_true.mpr
        refine ⟨q, Table.mem_select.mpr ⟨Table.find_mem found, ?_⟩, ?_⟩
        · simp [← key']
        · simpa [← key'] using member
      rw [apart] at conflict
      cases conflict
    | some c₀ =>
      obtain ⟨q₀, there⟩ := Option.isSome_iff_exists.mp
        (ages.settled k q found (by simp [seen]))
      obtain ⟨q', found', moved⟩ := ages.participants k q₀ there
      have one : q' = q := Option.some.inj (found'.symm.trans found)
      subst one
      obtain ⟨c', known', evolved⟩ := ages.calls k.1 c₀ seen
      have same : c' = c := Option.some.inj (known'.symm.trans known)
      subst same
      have key₀ := Table.find_key there
      have busy₀ : snapshot.busy p.participantIDs = true := by
        apply List.any_eq_true.mpr
        refine ⟨q₀, Table.find_mem there, ?_⟩
        simp only [Bool.and_eq_true]
        refine ⟨⟨?_, busy_of_ages moved busy⟩, ?_⟩
        · simpa [← key₀] using member
        · have live₀ := Db.isLive_iff.mpr ⟨c₀, seen, evolved.live liveC⟩
          simpa [← key₀] using live₀
      rw [idle] at busy₀
      cases busy₀
  have stays : ∀ id, id ≠ p.callId → db'.isLive id = true → db.isLive id = true := by
    intro id other live
    unfold Db.isLive at live ⊢
    rw [calls, if_neg other] at live
    exact live
  -- a row is one of the new ones, or was there
  have sort : ∀ k q, db'.participants.find k = some q →
      (k.1 = p.callId ∧ k.2 ∈ p.participantIDs) ∨
        db.participants.find k = some q ∧ k.1 ≠ p.callId := by
    intro k q found
    rcases participants k with ⟨u, member, rfl, -, -⟩ | ⟨-, same⟩
    · exact Or.inl ⟨rfl, member⟩
    · have there := same.symm.trans found
      refine Or.inr ⟨there, fun own => ?_⟩
      have known := rooted k q there
      rw [own, fresh] at known
      cases known
  intro k k' q q' found found' user busy busy' live live'
  rcases sort k q found with ⟨own, member⟩ | ⟨there, other⟩
  · rcases sort k' q' found' with ⟨own', -⟩ | ⟨there', other'⟩
    · exact Prod.ext (own.trans own'.symm) user
    · exact absurd (free k' q' there' (user ▸ member) busy' (stays _ other' live')) id
  · rcases sort k' q' found' with ⟨own', member'⟩ | ⟨there', other'⟩
    · exact absurd (free k q there (user ▸ member') busy (stays _ other live)) id
    · exact exclusive k k' q q' there there' user busy busy' (stays _ other live)
        (stays _ other' live')

/-- Only a creation adds rows. -/
theorem Turned.rows (h : Turned s op turn) (proper : op.Proper s.db) :
    (∀ k p', turn.db.participants.find k = some p' → (s.db.participants.find k).isSome) ∨
    ∃ p expiresAt snapshot, s.db.createCall p expiresAt = some turn.db ∧ snapshot.Ages s.db ∧
      snapshot.busy p.participantIDs = false ∧
      s.db.conflicts snapshot p.participantIDs = false := by
  have same : ∀ k p', s.db.participants.find k = some p' → (s.db.participants.find k).isSome :=
    fun k p' found => by simp [found]
  have set : ∀ (callId : CallId) (u : UserId) (st : ParticipantStatus) k p',
      (s.db.setStatus callId u st).participants.find k = some p' →
        (s.db.participants.find k).isSome := by
    intro callId u st k p' found
    rw [Db.find_setStatus] at found
    obtain ⟨p, there, -⟩ := Option.map_eq_some_iff.mp found
    simp [there]
  cases h with
  | quiet | accepted | answers | leaves | opens | locks | counted | emptied | lost | announced =>
    exact Or.inl same
  | creates request phase idle apart run =>
    simp only [Op.Proper, phase] at proper
    exact Or.inr ⟨_, _, _, run, proper, idle, apart⟩
  | left request phase => exact Or.inl (set _ _ _)
  | joins request phase run =>
    obtain ⟨p, c, -, -, -, -, participants, -⟩ := Db.joinInvitedCall_some run
    left
    rw [participants]
    exact set _ _ _
  | rejects loose run calm =>
    obtain ⟨p, -, run⟩ := Option.bind_eq_some_iff.mp run
    split at run
    · cases run
      exact Or.inl (set _ _ _)
    · cases run
  | finished phase won =>
    obtain ⟨c, -, -, participants, -⟩ := Db.finish_some won
    left
    rw [participants]
    exact same
  | swept phase moves =>
    left
    intro k p' found
    rw [Db.find_moveParticipants] at found
    obtain ⟨p, there, -⟩ := Option.map_eq_some_iff.mp found
    simp [there]

theorem Sound.next {n : Nat} (sound : Sound s) (found : s.ops[n]? = some op)
    (turned : Turned s op turn) : Sound (s.after n op turn) := by
  have proper := sound.proper op (List.mem_of_getElem? found)
  have advanced := turned.advances proper
  refine ⟨?_, ?_, ?_, ?_⟩
  · intro k p' here
    rcases turned.rows proper with old | ⟨p, expiresAt, snapshot, run, -⟩
    · obtain ⟨p, there⟩ := Option.isSome_iff_exists.mp (old k p' here)
      obtain ⟨c, known⟩ := Option.isSome_iff_exists.mp (sound.rooted k p there)
      obtain ⟨c', known', -⟩ := advanced.calls k.1 c known
      exact Option.isSome_iff_exists.mpr ⟨c', known'⟩
    · obtain ⟨-, calls, participants⟩ := Db.createCall_some run
      show (turn.db.calls.find k.1).isSome = true
      rw [calls]
      split
      · rfl
      · rename_i other
        rcases participants k with ⟨u, -, rfl, -, -⟩ | ⟨-, same⟩
        · exact absurd rfl other
        · exact sound.rooted k p' (same.symm.trans here)
  · rcases turned.rows proper with old | ⟨p, expiresAt, snapshot, run, ages, idle, apart⟩
    · exact exclusive_step sound.rooted sound.exclusive advanced old
    · exact exclusive_create sound.rooted sound.exclusive ages idle apart run
  · intro op' member
    rcases List.mem_or_eq_of_mem_set member with other | rfl
    · exact (sound.proper op' other).kept advanced
    · exact turned.proper proper
  · intro id
    have before := sound.recorded id
    have balance := turned.balance proper id
    have counted := countP_turn found { op with phase := turn.phase }
      fun op => op.phase.owes = some id
    simp only [decide_eq_true_eq] at counted
    have ceased : (s.after n op turn).db.isOver id = turn.db.isOver id := rfl
    rw [ceased]
    simp only [State.after, List.count_append]
    omega

theorem Sound.step (sound : Sound s) (step : Step ringTimeout s a t) : Sound t := by
  rcases step.cases with ⟨request, -, rfl⟩ | ⟨n, allowed, op, turn, -, found, -, turned, rfl⟩ |
    ⟨ms, -, rfl⟩
  · refine ⟨sound.rooted, sound.exclusive, ?_, ?_⟩
    · intro op member
      rcases List.mem_append.mp member with old | new
      · exact sound.proper op old
      · rw [List.mem_singleton] at new
        subst new
        trivial
    · intro id
      have before := sound.recorded id
      simpa [Phase.owes] using before
  · exact sound.next found turned
  · exact ⟨sound.rooted, sound.exclusive, sound.proper, sound.recorded⟩

theorem Start.sound (h : Start s) : Sound s := by
  have none' : ∀ k, s.db.participants.find k = none := by
    intro k
    simp [Table.find, h.participants]
  refine ⟨fun k p found => ?_, fun k k' p p' found => ?_, fun op member => ?_, fun id => ?_⟩
  · simp [none'] at found
  · simp [none'] at found
  · simp [h.ops] at member
  · simp [h.ops, h.records, Db.isOver, Table.find, h.calls]

theorem Sound.run {as : List Action} (sound : Sound s) (run : Run (Step ringTimeout) s as t) :
    Sound t :=
  run.preserves (fun _ _ _ step sound => sound.step step) sound

/-- What the rows of a run have come to. -/
theorem ages_run {as : List Action} (sound : Sound s) (run : Run (Step ringTimeout) s as t) :
    s.db.Ages t.db := by
  induction run with
  | nil => exact .refl (fun _ => .refl) _
  | snoc run step ih => exact ih.trans (step.advances (sound.run run)).ages

end Steps

def Op.Done (op : Op) : Prop := ∃ o, op.phase = .done o

/-- At every point of every run: a call that is over stays as it is, a participant makes
one of the moves, a call has at most one record and, when nothing is in flight, one
exactly if it is over, and nobody is in two live calls. -/
theorem calls_end_once {ringTimeout : Time} {s u v t : State} {a : Action}
    {before after : List Action} (start : Start s) (run : Run (Step ringTimeout) s before u)
    (step : Step ringTimeout u a v) (rest : Run (Step ringTimeout) v after t) :
    (∀ id c, u.db.calls.find id = some c → c.status.live = false →
      t.db.calls.find id = some c) ∧
    (∀ k p, u.db.participants.find k = some p →
      ∃ p', v.db.participants.find k = some p' ∧
        (p'.status = p.status ∨ p.status.Move p'.status)) ∧
    (∀ id, t.records.count id ≤ 1 ∧ (0 < t.records.count id → t.db.isOver id = true)) ∧
    ((∀ op ∈ t.ops, op.Done) →
      ∀ id, t.records.count id = if t.db.isOver id then 1 else 0) ∧
    t.db.Exclusive := by
  have sound : Sound u := start.sound.run run
  have sound' : Sound t := (sound.step step).run rest
  have aged : u.db.Ages t.db :=
    (step.advances sound).ages.trans (ages_run (sound.step step) rest)
  refine ⟨?_, ?_, ?_, ?_, sound'.exclusive⟩
  · intro id c found ceased
    obtain ⟨c', found', evolved⟩ := aged.calls id c found
    rw [found', evolved.ceased ceased]
  · intro k p found
    obtain ⟨p', found', moved⟩ := (step.advances sound).participants k p found
    refine ⟨p', found', ?_⟩
    exact (Relation.reflGen_iff _ _ _).mp moved
  · intro id
    have recorded := sound'.recorded id
    constructor
    · split at recorded <;> omega
    · intro positive
      by_contra live
      rw [if_neg live] at recorded
      omega
  · intro done id
    have recorded := sound'.recorded id
    have nothing : t.ops.countP (fun op => op.phase.owes = some id) = 0 := by
      apply List.countP_eq_zero.mpr
      intro op member
      obtain ⟨o, phase⟩ := done op member
      simp [phase, Phase.owes]
    omega

/-! ### A call that is answered and hung up -/

def play (s : State) (as : List Action) : State := (as.foldlM (State.next 45000) s).getD s

def quietLine : State := ⟨⟨.empty, .empty⟩, 0, [], []⟩

theorem quietLine_start : Start quietLine := ⟨rfl, rfl, rfl, rfl⟩

/-- User 1 calls user 2. -/
def dial : StartCallParams :=
  ⟨7, 1, .single, [2], none, by decide, fun _ => rfl⟩

def turns (n k : Nat) : List Action := List.replicate k (.turn n true)

def dialing : List Action :=
  .begin (.create dial) :: turns 0 8 ++ .begin (.accept 2 7) :: turns 1 3

def answered : State := play quietLine dialing

def hangingUp : State := play answered [.begin (.leave 1 7)]

def hungUp : State := play hangingUp (turns 2 5)

theorem calls_end_once_hangUp : hungUp.db.isOver 7 = true ∧ hungUp.records.count 7 = 1 := by
  have run : Run (Step 45000) quietLine dialing answered := Run.of_foldlM rfl
  have step : Step 45000 answered (.begin (.leave 1 7)) hangingUp := rfl
  have rest : Run (Step 45000) hangingUp (turns 2 5) hungUp := Run.of_foldlM rfl
  obtain ⟨-, -, -, settled, -⟩ := calls_end_once quietLine_start run step rest
  have done : ∀ op ∈ hungUp.ops, op.Done := by
    have phases : hungUp.ops.map (·.phase) =
        [.done (.token 7), .done (.token 7), .done .nothing] := rfl
    intro op member
    have phase : op.phase ∈ hungUp.ops.map (·.phase) := List.mem_map.mpr ⟨op, member, rfl⟩
    rw [phases] at phase
    simp only [List.mem_cons, List.not_mem_nil, or_false] at phase
    rcases phase with phase | phase | phase
    · exact ⟨_, phase⟩
    · exact ⟨_, phase⟩
    · exact ⟨_, phase⟩
  exact ⟨rfl, (settled done 7).trans rfl⟩

end CircleBackend.Calls
