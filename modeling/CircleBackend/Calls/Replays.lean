import CircleBackend.Calls.Endings

/-!
# Creating one call twice

Requests with one key. The look-up in the transaction reads the snapshot, so what
it sees was committed before the first lock was asked for. When the call is
committed, a request that has looked the key up without finding it and not yet
asked who is busy will be told that its own users are, and one that has its
snapshot cannot commit; the others replay.
-/

namespace CircleBackend.Calls

open Library
open Session (UserId)

/-- The same request, made again. -/
structure StartCallParams.Same (p q : StartCallParams) : Prop where
  initiatorID : q.initiatorID = p.initiatorID
  key : q.key = p.key
  participantIDs : ∀ u, u ∈ q.participantIDs ↔ u ∈ p.participantIDs

/-- No live call involves the users, and nothing is in flight. -/
structure Idle (p : StartCallParams) (s : State) : Prop where
  keyed : p.key.isSome = true
  busy : s.db.busy p.participantIDs = false
  unused : s.db.findIdempotentCreateCall p.initiatorID p.key = none
  rooted : ∀ k q, s.db.participants.find k = some q → (s.db.calls.find k.1).isSome
  ops : s.ops = []

/-- Nothing but the request is made, its ids are fresh, and nothing refuses it. -/
def Repeated (p : StartCallParams) (s : State) : Action → Prop
  | .begin (.create q) =>
    p.Same q ∧ s.db.calls.find q.callId = none
  | .begin _ => False
  | .turn _ allowed => allowed = true
  | .pass _ => True

/-- Between the look-up of the key and the answer who is busy, or past the snapshot. -/
def Phase.exposed : Phase → Bool
  | .checkingBusy | .locking _ _ _ _ => true
  | _ => false

/-- No call is committed while another request is exposed, and no ringing call of the
users has expired when a request begins. -/
def State.apart (s : State) : Action → Bool
  | .turn n _ =>
    (s.ops[n]?).all fun op =>
      match op.request, op.phase with
      | .create q, .started => (s.db.staleFor q.participantIDs s.now).isEmpty
      | .create q, .locking _ snapshot _ [] =>
        (snapshot.findIdempotentCreateCall q.initiatorID q.key).isSome ||
          !(s.ops.eraseIdx n).any (·.phase.exposed)
      | _, _ => true
  | .begin _ | .pass _ => true

def Apart (s : State) (a : Action) : Prop := s.apart a = true

/-- Where a request may be while there is no call. -/
def Phase.Early (d₀ : Db) : Phase → Prop
  | .started | .lookingUp | .checkingBusy | .opening _ => True
  | .locking _ snapshot _ _ => snapshot = d₀
  | _ => False

/-- Where it may be once there is. -/
def Phase.Late (d : Db) (id : CallId) : Phase → Prop
  | .started | .lookingUp | .opening _ => True
  | .locking _ snapshot _ _ => snapshot = d
  | .minting id' | .granting id' => id' = id
  | .done o => o = .token id
  | _ => False

structure Created (p : StartCallParams) (d₀ d : Db) (id : CallId) : Prop where
  fresh : d₀.calls.find id = none
  calls : ∀ i, i ≠ id → d.calls.find i = d₀.calls.find i
  found : ∃ c, d.calls.find id = some c ∧ d.findIdempotentCreateCall p.initiatorID p.key = some c

/-- There is no call, or there is one and everybody will find it. -/
inductive Agreed (p : StartCallParams) (d₀ : Db) (s : State) : Prop
  | early (db : s.db = d₀) (phases : ∀ op ∈ s.ops, op.phase.Early d₀)
  | late {id : CallId} (created : Created p d₀ s.db id)
      (phases : ∀ op ∈ s.ops, op.phase.Late s.db id)

def Op.held (op : Op) : List UserId :=
  match op.phase with
  | .locking _ _ held _ => held
  | _ => []

structure Replaying (p : StartCallParams) (d₀ : Db) (s : State) : Prop where
  requests : ∀ op ∈ s.ops, ∃ q, op.request = .create q ∧ p.Same q ∧
    d₀.calls.find q.callId = none
  agreed : Agreed p d₀ s
  ordered : ∀ op ∈ s.ops, ∀ q expiresAt snapshot held waiting, op.request = .create q →
    op.phase = .locking expiresAt snapshot held waiting → held ++ waiting = State.lockOrder q
  disjoint : ∀ (m n : Nat) op other, m ≠ n → s.ops[m]? = some op → s.ops[n]? = some other →
    ∀ u ∈ op.held, u ∉ other.held

section Steps

variable {ringTimeout : Time} {p q : StartCallParams} {s t : State} {a : Action} {op : Op}
  {d₀ : Db} {turn : Turn} {n : Nat}

theorem busy_same {db : Db} (same : p.Same q) :
    db.busy q.participantIDs = db.busy p.participantIDs := by
  unfold Db.busy
  congr
  funext r
  have member : q.participantIDs.contains r.userID = p.participantIDs.contains r.userID := by
    rw [Bool.eq_iff_iff, List.contains_iff_mem, List.contains_iff_mem]
    exact same.participantIDs r.userID
  rw [member]

theorem conflicts_self (db : Db) (us : List UserId) : db.conflicts db us = false := by
  unfold Db.conflicts
  rw [List.any_eq_false]
  intro c member
  simp [Table.mem_find member]

variable {expiresAt : Time} {id : CallId}

/-- The call that is committed is the one that is found from then on. -/
theorem created_of_createCall {d : Db} (idle : p.key.isSome = true)
    (unused : d₀.findIdempotentCreateCall p.initiatorID p.key = none) (same : p.Same q)
    (run : d₀.createCall q expiresAt = some d) : Created p d₀ d q.callId := by
  obtain ⟨fresh, calls, -⟩ := Db.createCall_some run
  obtain ⟨rows, first, run⟩ := Option.bind_eq_some_iff.mp run
  obtain ⟨participants, -, run⟩ := Option.bind_eq_some_iff.mp run
  cases run
  obtain ⟨k, key⟩ := Option.isSome_iff_exists.mp idle
  refine ⟨fresh, fun i other => (calls i).trans (if_neg other), _, (calls _).trans (if_pos rfl), ?_⟩
  simp only [Db.findIdempotentCreateCall, key, Option.bind_some] at unused ⊢
  rw [Table.insert_rows first, List.find?_append, unused]
  simp [same.initiatorID, same.key, key, CallStatus.live]

/-- The turn of a request while there is no call. -/
theorem early_turn (idle : d₀.busy p.participantIDs = false) (keyed : p.key.isSome = true)
    (unused : d₀.findIdempotentCreateCall p.initiatorID p.key = none) (same : p.Same q)
    (request : op.request = .create q) (db : s.db = d₀) (early : op.phase.Early d₀)
    (calm : op.phase = .started → s.db.staleFor q.participantIDs s.now = [])
    (h : s.turn ringTimeout op true = some turn) :
    (turn.db = d₀ ∧ turn.phase.Early d₀) ∨
      ∃ expiresAt held, op.phase = .locking expiresAt d₀ held [] ∧ Created p d₀ turn.db q.callId ∧
        turn.phase = .minting q.callId := by
  have none' : d₀.findIdempotentCreateCall q.initiatorID q.key = none := by
    rw [same.initiatorID, same.key, unused]
  have free : d₀.busy q.participantIDs = false := (busy_same same).trans idle
  cases phase : op.phase with
  | started =>
    simp only [State.turn, phase, request, State.start, calm phase, State.expireNext] at h
    cases h
    exact Or.inl ⟨db, trivial⟩
  | lookingUp =>
    simp only [State.turn, phase, request, State.own, State.create, db, none'] at h
    cases h
    exact Or.inl ⟨db, trivial⟩
  | checkingBusy =>
    simp only [State.turn, phase, request, State.own, State.create, db, free, Bool.false_eq_true,
      ↓reduceIte] at h
    cases h
    exact Or.inl ⟨db, trivial⟩
  | opening expiresAt =>
    simp only [State.turn, phase, request, State.own, State.create, ↓reduceIte] at h
    cases h
    exact Or.inl ⟨db, db⟩
  | locking expiresAt snapshot held waiting =>
    rw [phase] at early
    cases (early : snapshot = d₀)
    cases waiting with
    | cons u waiting =>
      simp only [State.turn, phase, request, State.own, State.create] at h
      split at h
      · cases h
      · cases h
        exact Or.inl ⟨db, rfl⟩
    | nil =>
      simp only [State.turn, phase, request, State.own, State.create, State.settle, none', free,
        db, conflicts_self, Bool.not_true, Bool.false_eq_true, ↓reduceIte] at h
      obtain ⟨d, run, rfl⟩ := Option.map_eq_some_iff.mp h
      exact Or.inr ⟨expiresAt, held, rfl, created_of_createCall keyed unused same run, rfl⟩
  | _ =>
    rw [phase] at early
    cases early

/-- And once there is. -/
theorem late_turn (created : Created p d₀ s.db id) (same : p.Same q)
    (request : op.request = .create q) (late : op.phase.Late s.db id)
    (calm : op.phase = .started → s.db.staleFor q.participantIDs s.now = [])
    (h : s.turn ringTimeout op true = some turn) : turn.db = s.db ∧ turn.phase.Late s.db id := by
  obtain ⟨c, found, keyed⟩ := created.found
  have key : c.id = id := Table.find_key found
  have found' : s.db.findIdempotentCreateCall q.initiatorID q.key = some c := by
    rw [same.initiatorID, same.key, keyed]
  cases phase : op.phase with
  | started =>
    simp only [State.turn, phase, request, State.start, calm phase, State.expireNext] at h
    cases h
    exact ⟨rfl, trivial⟩
  | lookingUp =>
    simp only [State.turn, phase, request, State.own, State.create, found'] at h
    cases h
    exact ⟨rfl, key⟩
  | opening expiresAt =>
    simp only [State.turn, phase, request, State.own, State.create, ↓reduceIte] at h
    cases h
    exact ⟨rfl, rfl⟩
  | locking expiresAt snapshot held waiting =>
    rw [phase] at late
    cases (late : snapshot = s.db)
    cases waiting with
    | cons u waiting =>
      simp only [State.turn, phase, request, State.own, State.create] at h
      split at h
      · cases h
      · cases h
        exact ⟨rfl, rfl⟩
    | nil =>
      simp only [State.turn, phase, request, State.own, State.create, State.settle, found'] at h
      cases h
      exact ⟨rfl, key⟩
  | minting id' =>
    rw [phase] at late
    simp only [State.turn, phase, request, State.own, State.create, ↓reduceIte] at h
    cases h
    exact ⟨rfl, congrArg Outcome.token late⟩
  | granting id' =>
    rw [phase] at late
    simp only [State.turn, phase, State.grant, ↓reduceIte] at h
    cases h
    exact ⟨rfl, congrArg Outcome.token late⟩
  | done o => simp [State.turn, phase, request, State.own, State.create] at h
  | _ =>
    rw [phase] at late
    cases late

/-! ### What each step keeps -/

theorem held_any {u : UserId} : s.held u = s.ops.any fun op => op.held.contains u := by
  unfold State.held Op.held
  congr
  funext op
  cases op.phase <;> rfl

/-- A turn gives all locks back or takes one that is free. -/
theorem Turned.held (h : Turned s op turn) :
    (Op.mk op.request turn.phase).held = [] ∨
      ∃ u, s.held u = false ∧ (Op.mk op.request turn.phase).held = op.held ++ [u] := by
  have calm : ∀ {phase : Phase}, phase.Calm op.request → (Op.mk op.request phase).held = [] := by
    intro phase calm
    cases phase <;> first | rfl | cases calm
  cases h with
  | quiet loose calm' => exact Or.inl (calm calm')
  | rejects loose run calm' => exact Or.inl (calm calm')
  | lost was lost calm' => exact Or.inl (calm calm')
  | announced was calm' => exact Or.inl (calm calm')
  | accepted | answers | leaves | opens | creates | counted | emptied | joins | swept =>
    exact Or.inl rfl
  | left | finished =>
    left
    dsimp only
    split <;> rfl
  | locks phase free => exact Or.inr ⟨_, free, by simp [Op.held, phase]⟩

theorem Turned.ordered (h : Turned s op turn)
    (ordered : ∀ q expiresAt snapshot held waiting, op.request = .create q →
      op.phase = .locking expiresAt snapshot held waiting → held ++ waiting = State.lockOrder q)
    {snapshot : Db} {held waiting : List UserId} (request : op.request = .create q)
    (phase : turn.phase = .locking expiresAt snapshot held waiting) :
    held ++ waiting = State.lockOrder q := by
  cases h with
  | quiet loose calm | rejects loose run calm | lost was lost calm | announced was calm =>
    dsimp only at phase
    rw [phase] at calm
    cases calm
  | accepted | answers | leaves | creates | counted | emptied | joins | swept => cases phase
  | left | finished =>
    dsimp only at phase
    split at phase <;> cases phase
  | opens request' loose =>
    have same := request.symm.trans request'
    cases same
    cases phase
    rfl
  | locks phase' free =>
    cases phase
    have before := ordered q _ _ _ _ request phase'
    simpa using before

theorem disjoint_turn (h : Turned s op turn) (here : s.ops[n]? = some op)
    (disjoint : ∀ (m n : Nat) op other, m ≠ n → s.ops[m]? = some op → s.ops[n]? = some other →
      ∀ u ∈ op.held, u ∉ other.held)
    {m k : Nat} {x y : Op} (apart : m ≠ k) (atM : (s.after n op turn).ops[m]? = some x)
    (atK : (s.after n op turn).ops[k]? = some y) : ∀ u ∈ x.held, u ∉ y.held := by
  have inside : n < s.ops.length := (List.getElem?_eq_some_iff.mp here).1
  -- against an operation that did not move
  have moved : ∀ j z, j ≠ n → s.ops[j]? = some z →
      ∀ u ∈ (Op.mk op.request turn.phase).held, u ∉ z.held := by
    intro j z other there u member
    rcases h.held with none' | ⟨v, free, held⟩
    · simp [none'] at member
    · rw [held] at member
      rcases List.mem_append.mp member with old | new
      · exact disjoint n j op z (Ne.symm other) here there u old
      · rw [List.mem_singleton] at new
        subst new
        rw [held_any, List.any_eq_false] at free
        simpa using free z (List.mem_of_getElem? there)
  have sort : ∀ {j z}, (s.after n op turn).ops[j]? = some z →
      (j = n ∧ z = Op.mk op.request turn.phase) ∨ j ≠ n ∧ s.ops[j]? = some z := by
    intro j z there
    by_cases own : j = n
    · subst own
      simp only [State.after, List.getElem?_set_self inside, Option.some.injEq] at there
      exact Or.inl ⟨rfl, there.symm⟩
    · exact Or.inr ⟨own, by simpa [State.after, List.getElem?_set, Ne.symm own] using there⟩
  intro u member member'
  rcases sort atM with ⟨rfl, rfl⟩ | ⟨otherM, there⟩
  · rcases sort atK with ⟨rfl, -⟩ | ⟨otherK, there'⟩
    · exact apart rfl
    · exact moved k y otherK there' u member member'
  · rcases sort atK with ⟨rfl, rfl⟩ | ⟨otherK, there'⟩
    · exact moved m x otherM there u member' member
    · exact disjoint m k x y apart there there' u member member'

/-- The phases of the others once the call is there. -/
theorem late_of_early {d : Db} {phase : Phase} (early : phase.Early d₀)
    (hidden : phase.exposed = false) : phase.Late d id := by
  cases phase <;> trivial

theorem Agreed.step (agreed : Agreed p d₀ s) (idle : d₀.busy p.participantIDs = false)
    (keyed : p.key.isSome = true) (unused : d₀.findIdempotentCreateCall p.initiatorID p.key = none)
    (requests : ∀ op ∈ s.ops, ∃ q, op.request = .create q ∧ p.Same q ∧
      d₀.calls.find q.callId = none) (step : Step ringTimeout s a t) (repeated : Repeated p s a)
    (apart : Apart s a) : Agreed p d₀ t := by
  rcases step.cases with ⟨request, rfl, rfl⟩ | ⟨n, allowed, op, turn, rfl, here, run, -, rfl⟩ |
    ⟨ms, -, rfl⟩
  · have phases : ∀ (P : Phase → Prop), (∀ op ∈ s.ops, P op.phase) → P .started →
        ∀ op ∈ s.ops ++ [⟨request, .started⟩], P op.phase := by
      intro P all start op member
      rcases List.mem_append.mp member with old | new
      · exact all op old
      · rw [List.mem_singleton] at new
        exact new ▸ start
    cases agreed with
    | early db all => exact .early db (phases _ all trivial)
    | late created all => exact .late created (phases _ all trivial)
  · have allowed' : allowed = true := repeated
    subst allowed'
    have member : op ∈ s.ops := List.mem_of_getElem? here
    obtain ⟨q, request, same, -⟩ := requests op member
    have calm : op.phase = .started → s.db.staleFor q.participantIDs s.now = [] := by
      intro phase
      simpa [Apart, State.apart, here, request, phase] using apart
    cases agreed with
    | early db all =>
      rcases early_turn idle keyed unused same request db (all op member) calm run with
        ⟨db', early⟩ | ⟨expiresAt, held, phase, created, minting⟩
      · refine .early db' fun op' member' => ?_
        rcases List.mem_or_eq_of_mem_set member' with old | rfl
        · exact all op' old
        · exact early
      · refine .late created fun op' member' => ?_
        obtain ⟨m, at'⟩ := List.mem_iff_getElem?.mp member'
        by_cases own : m = n
        · subst own
          have inside : m < s.ops.length := (List.getElem?_eq_some_iff.mp here).1
          simp only [State.after, List.getElem?_set_self inside, Option.some.injEq] at at'
          subst at'
          simp only [minting]
          rfl
        · have there : s.ops[m]? = some op' := by
            simpa [State.after, List.getElem?_set, Ne.symm own] using at'
          have hidden : ∀ other ∈ s.ops.eraseIdx n, other.phase.exposed = false := by
            simpa [Apart, State.apart, here, request, phase, same.initiatorID, same.key, unused]
              using apart
          exact late_of_early (all op' (List.mem_of_getElem? there))
            (hidden op' (List.mem_eraseIdx_iff_getElem?.mpr ⟨m, own, there⟩))
    | late created all =>
      obtain ⟨db, late⟩ := late_turn created same request (all op member) calm run
      have db' : (s.after n op turn).db = s.db := db
      refine .late (db'.symm ▸ created) fun op' member' => ?_
      rw [db']
      rcases List.mem_or_eq_of_mem_set member' with old | rfl
      · exact all op' old
      · exact late
  · cases agreed with
    | early db all => exact .early db all
    | late created all => exact .late created all

theorem Agreed.fresh (agreed : Agreed p d₀ s) (h : s.db.calls.find id = none) :
    d₀.calls.find id = none := by
  cases agreed with
  | early db all => exact db ▸ h
  | late created all =>
    rename_i id'
    by_cases own : id = id'
    · exact own ▸ created.fresh
    · rw [← created.calls id own]
      exact h

theorem Replaying.step (replaying : Replaying p d₀ s) (idle : d₀.busy p.participantIDs = false)
    (keyed : p.key.isSome = true) (unused : d₀.findIdempotentCreateCall p.initiatorID p.key = none)
    (step : Step ringTimeout s a t) (repeated : Repeated p s a) (apart : Apart s a) :
    Replaying p d₀ t := by
  have agreed := replaying.agreed.step idle keyed unused replaying.requests step repeated apart
  rcases step.cases with ⟨request, rfl, rfl⟩ | ⟨n, allowed, op, turn, rfl, here, -, turned, rfl⟩ |
    ⟨ms, -, rfl⟩
  · cases request with
    | create q =>
      refine ⟨?_, agreed, ?_, ?_⟩
      · intro op member
        rcases List.mem_append.mp member with old | new
        · exact replaying.requests op old
        · rw [List.mem_singleton] at new
          subst new
          exact ⟨q, rfl, repeated.1, replaying.agreed.fresh repeated.2⟩
      · intro op member q' expiresAt snapshot held waiting request phase
        rcases List.mem_append.mp member with old | new
        · exact replaying.ordered op old q' expiresAt snapshot held waiting request phase
        · rw [List.mem_singleton] at new
          subst new
          cases phase
      · intro m n op other apart' atM atN u member member'
        have old : ∀ {j : Nat} {z : Op}, (s.ops ++ [Op.mk (.create q) .started])[j]? = some z → u ∈ z.held →
            s.ops[j]? = some z := by
          intro j z there mem
          rw [List.getElem?_append] at there
          split at there
          · exact there
          · have new := List.mem_singleton.mp (List.mem_of_getElem? there)
            subst new
            cases mem
        exact replaying.disjoint m n op other apart' (old atM member) (old atN member') u member
          member'
    | accept | reject | leave | cancel | createJoinToken | sweepExpiredRingingCalls
    | roomFinished => cases repeated
  · have member : op ∈ s.ops := List.mem_of_getElem? here
    refine ⟨?_, agreed, ?_, ?_⟩
    · intro op' member'
      rcases List.mem_or_eq_of_mem_set member' with old | rfl
      · exact replaying.requests op' old
      · exact replaying.requests op member
    · intro op' member' q expiresAt snapshot held waiting request phase
      rcases List.mem_or_eq_of_mem_set member' with old | rfl
      · exact replaying.ordered op' old q expiresAt snapshot held waiting request phase
      · exact turned.ordered (replaying.ordered op member) request phase
    · intro m k x y apart' atM atK
      exact disjoint_turn turned here replaying.disjoint apart' atM atK
  · exact ⟨replaying.requests, agreed, replaying.ordered, replaying.disjoint⟩

/-! ### Every request gets there -/

/-- The turns a request has left, at most. -/
def Op.pending (op : Op) : Nat :=
  match op.request, op.phase with
  | .create q, .started => 6 + q.participantIDs.length
  | .create q, .lookingUp => 5 + q.participantIDs.length
  | .create q, .checkingBusy => 4 + q.participantIDs.length
  | .create q, .opening _ => 3 + q.participantIDs.length
  | _, .locking _ _ _ waiting => 2 + waiting.length
  | _, .minting _ | _, .granting _ => 1
  | _, _ => 0

def State.pending (s : State) : Nat := (s.ops.map Op.pending).sum

theorem lockOrder_same (same : p.Same q) : State.lockOrder q = State.lockOrder p := by
  have perm : q.participantIDs.Perm p.participantIDs :=
    (List.perm_ext_iff_of_nodup q.distinct p.distinct).mpr same.participantIDs
  have sorted : (State.lockOrder q).Perm (State.lockOrder p) :=
    ((List.perm_insertionSort _ _).trans perm).trans (List.perm_insertionSort _ _).symm
  exact sorted.eq_of_pairwise (fun a b _ _ => Nat.le_antisymm)
    (List.pairwise_insertionSort _ _) (List.pairwise_insertionSort _ _)

theorem createCall_of_fresh (expiresAt : Time)
    (rooted : ∀ k r, d₀.participants.find k = some r → (d₀.calls.find k.1).isSome)
    (fresh : d₀.calls.find q.callId = none) : ∃ d, d₀.createCall q expiresAt = some d := by
  obtain ⟨calls, first⟩ := Table.insert_of_fresh
    (a := (⟨q.callId, q.sessionType, .ringing, q.initiatorID, q.key, none, none, expiresAt, none,
      none⟩ : CallSession)) fresh
  obtain ⟨participants, second⟩ := Table.insertMany_of_fresh
    (fun u => (⟨q.callId, u, if u = q.initiatorID then .joined else .invited⟩ : CallParticipant))
    q.participantIDs d₀.participants
    (by
      have apart : Function.Injective fun u : UserId => (q.callId, u) := fun u v same =>
        (Prod.mk.injEq .. ▸ same).2
      exact q.distinct.map apart)
    (by
      intro u _
      cases found : d₀.participants.find (q.callId, u) with
      | none => rfl
      | some r =>
        have known := rooted _ r found
        rw [fresh] at known
        cases known)
  exact ⟨_, by simp only [Db.createCall, first, Option.bind_eq_bind, Option.bind_some, second]; rfl⟩

/-- A request that does not ask for a lock can take its turn. -/
theorem turn_some (request : op.request = .create q)
    (phase : op.phase.Early d₀ ∨ ∃ id, op.phase.Late s.db id) (open' : ¬op.Done)
    (free : ∀ expiresAt snapshot held waiting,
      op.phase ≠ .locking expiresAt snapshot held waiting) :
    ∃ turn, s.turn ringTimeout op true = some turn := by
  cases here : op.phase with
  | started => exact ⟨_, by simp only [State.turn, here, request, State.start]; rfl⟩
  | lookingUp =>
    simp only [State.turn, here, request, State.own, State.create]
    split <;> exact ⟨_, rfl⟩
  | checkingBusy =>
    simp only [State.turn, here, request, State.own, State.create]
    split <;> exact ⟨_, rfl⟩
  | opening expiresAt =>
    exact ⟨_, by simp only [State.turn, here, request, State.own, State.create, ↓reduceIte]; rfl⟩
  | locking expiresAt snapshot held waiting => exact absurd here (free _ _ _ _)
  | minting id =>
    exact ⟨_, by simp only [State.turn, here, request, State.own, State.create, ↓reduceIte]; rfl⟩
  | granting id => exact ⟨_, by simp only [State.turn, here, State.grant, ↓reduceIte]; rfl⟩
  | done o => exact absurd ⟨o, here⟩ open'
  | _ =>
    rcases phase with early | ⟨id, late⟩
    · rw [here] at early
      cases early
    · rw [here] at late
      cases late

/-- And one whose next lock is free, or that has them all. -/
theorem locked_turn_some (replaying : Replaying p d₀ s) (idle : d₀.busy p.participantIDs = false)
    (unused : d₀.findIdempotentCreateCall p.initiatorID p.key = none)
    (rooted : ∀ k r, d₀.participants.find k = some r → (d₀.calls.find k.1).isSome)
    (member : op ∈ s.ops) {snapshot : Db} {held waiting : List UserId}
    (phase : op.phase = .locking expiresAt snapshot held waiting)
    (free : ∀ u rest, waiting = u :: rest → s.held u = false) :
    ∃ turn, s.turn ringTimeout op true = some turn := by
  obtain ⟨q, request, same, fresh⟩ := replaying.requests op member
  cases waiting with
  | cons u rest =>
    refine ⟨⟨s.db, none, .locking expiresAt snapshot (held ++ [u]) rest⟩, ?_⟩
    simp only [State.turn, phase, request, State.own, State.create, free u rest rfl,
      Bool.false_eq_true, ↓reduceIte]
    rfl
  | nil =>
    cases replaying.agreed with
    | early db all =>
      have early := all op member
      rw [phase] at early
      cases (early : snapshot = d₀)
      obtain ⟨d, run⟩ := createCall_of_fresh expiresAt rooted fresh
      refine ⟨⟨d, none, .minting q.callId⟩, ?_⟩
      have none' : d₀.findIdempotentCreateCall q.initiatorID q.key = none := by
        rw [same.initiatorID, same.key, unused]
      simp only [State.turn, phase, request, State.own, State.create, State.settle, none',
        (busy_same same).trans idle, db, conflicts_self, Bool.not_true, Bool.false_eq_true,
        ↓reduceIte, run, Option.map_some]
    | late created all =>
      have late := all op member
      rw [phase] at late
      cases (late : snapshot = s.db)
      obtain ⟨c, -, keyed⟩ := created.found
      have found : s.db.findIdempotentCreateCall q.initiatorID q.key = some c := by
        rw [same.initiatorID, same.key, keyed]
      refine ⟨⟨s.db, none, .granting c.id⟩, ?_⟩
      simp only [State.turn, phase, request, State.own, State.create, State.settle, found]
      rfl

/-- Whoever holds a lock holds the first one. -/
theorem first_held (replaying : Replaying p d₀ s) (member : op ∈ s.ops) {u : UserId}
    (held : u ∈ op.held) : ∃ v, (State.lockOrder p).head? = some v ∧ v ∈ op.held := by
  obtain ⟨q, request, same, -⟩ := replaying.requests op member
  cases phase : op.phase with
  | locking expiresAt snapshot held' waiting =>
    have order := replaying.ordered op member q _ _ _ _ request phase
    rw [lockOrder_same same] at order
    have mine : op.held = held' := by simp [Op.held, phase]
    rw [mine] at held ⊢
    cases held' with
    | nil => cases held
    | cons v rest => exact ⟨v, by rw [← order]; rfl, List.mem_cons_self⟩
  | _ => simp [Op.held, phase] at held

/-- While a request has not returned, some request can take its turn. -/
theorem progress (replaying : Replaying p d₀ s) (idle : d₀.busy p.participantIDs = false)
    (unused : d₀.findIdempotentCreateCall p.initiatorID p.key = none)
    (rooted : ∀ k r, d₀.participants.find k = some r → (d₀.calls.find k.1).isSome)
    (member : op ∈ s.ops) (open' : ¬op.Done) : ∃ n t, Step ringTimeout s (.turn n true) t := by
  have go : ∀ x ∈ s.ops, (∃ turn, s.turn ringTimeout x true = some turn) →
      ∃ n t, Step ringTimeout s (.turn n true) t := by
    rintro x there ⟨turn, run⟩
    obtain ⟨n, here⟩ := List.mem_iff_getElem?.mp there
    exact ⟨n, s.after n x turn, by simp [Step, State.next, here, run]⟩
  have placed : ∀ x ∈ s.ops, x.phase.Early d₀ ∨ ∃ id, x.phase.Late s.db id := by
    intro x there
    cases replaying.agreed with
    | early db all => exact Or.inl (all x there)
    | late created all => exact Or.inr ⟨_, all x there⟩
  by_cases someone : ∃ x ∈ s.ops, ∃ u, u ∈ x.held
  · -- only one holds locks, so its next one is free
    obtain ⟨x, there, u, held⟩ := someone
    cases phase : x.phase with
    | locking expiresAt snapshot held' waiting =>
      apply go x there
      apply locked_turn_some replaying idle unused rooted there phase
      rintro v rest rfl
      by_contra taken
      rw [Bool.not_eq_false, held_any] at taken
      obtain ⟨y, thereY, heldY⟩ := List.any_eq_true.mp taken
      rw [List.contains_iff_mem] at heldY
      obtain ⟨m, atX⟩ := List.mem_iff_getElem?.mp there
      obtain ⟨k, atY⟩ := List.mem_iff_getElem?.mp thereY
      by_cases own : m = k
      · subst own
        have one : x = y := Option.some.inj (atX.symm.trans atY)
        subst one
        obtain ⟨q, request, -, -⟩ := replaying.requests x there
        have order := replaying.ordered x there q _ _ _ _ request phase
        have nodup : (State.lockOrder q).Nodup :=
          (List.perm_insertionSort _ _).nodup_iff.mpr q.distinct
        rw [← order, List.nodup_append] at nodup
        have mine : x.held = held' := by simp [Op.held, phase]
        exact nodup.2.2 v (mine ▸ heldY) v List.mem_cons_self rfl
      · obtain ⟨w, first, heldX⟩ := first_held replaying there held
        obtain ⟨w', first', heldY'⟩ := first_held replaying thereY heldY
        rw [first] at first'
        cases first'
        exact replaying.disjoint m k x y own atX atY w heldX heldY'
    | _ => simp [Op.held, phase] at held
  · have free : ∀ u, s.held u = false := by
      intro u
      rw [held_any, List.any_eq_false]
      intro x there held
      exact someone ⟨x, there, u, by simpa using held⟩
    obtain ⟨q, request, -, -⟩ := replaying.requests op member
    apply go op member
    by_cases locking : ∃ expiresAt snapshot held waiting,
        op.phase = .locking expiresAt snapshot held waiting
    · obtain ⟨expiresAt, snapshot, held, waiting, phase⟩ := locking
      exact locked_turn_some replaying idle unused rooted member phase fun u _ _ => free u
    · exact turn_some request (placed op member) open' fun e sn h w phase =>
        locking ⟨e, sn, h, w, phase⟩

end Steps

theorem two_distinct : [1, 2].Nodup := by decide

theorem one_invitee : SessionType.single = .single → [2].length = 1 := fun _ => rfl

/-- User 1 calls user 2, with a key. -/
def dialKeyed (callId : CallId) : StartCallParams :=
  ⟨callId, 1, .single, [2], some [107], two_distinct, one_invitee⟩

def askTwice : List Action := [.begin (.create (dialKeyed 7)), .begin (.create (dialKeyed 8))]

def asked : State := play quietLine askTwice

end CircleBackend.Calls
