import CircleBackend.Circle.Seating
import CircleBackend.Library.Transition

/-!
# Who was taken out has no seat

A sync seats whom its differences name, a removal frees a seat that its snapshot
has. So a removed user keeps a seat only when the two overlap: when the removal
commits, a sync that names the user is still to commit, or one has committed since
the snapshot of the removal.
-/

namespace CircleBackend.Circle.Seating

open Library
open Session (UserId)

/-- The user's seat, if a removal that reads `db` frees it. -/
def Db.frees (db : Db) (u : UserId) : Bool :=
  db.conversation.isSome && (db.seats.find u).any (·.here)

/-- When a removal commits, no sync in flight is about to seat the user, and a seat
the user has is in the removal's snapshot. -/
def State.apart (s : State) : Action → Bool
  | .turn n =>
    (s.ops[n]?).all fun op =>
      match op.phase, op.writes.deleted with
      | .released snapshot _, some u =>
        (s.others n).all (fun other => !other.phase.named.contains u) &&
          (!(s.db.seats.find u).any (·.here) || snapshot.frees u)
      | _, _ => true
  | _ => true

def Apart (s : State) (a : Action) : Prop := s.apart a = true

/-- The seats that the statement of a sync has yet to give. -/
@[simp] def Phase.giving : Phase → List UserId
  | .creating _ _ _ rows | .rejoining _ _ rows => rows
  | _ => []

/-- A removal has not come to its deletion. -/
@[simp] def Phase.early : Phase → Bool
  | .started | .preflighted _ | .locking _ _ | .locked _ _ => true
  | _ => false

/-- What a transaction in flight has written. -/
structure Op.Proper (op : Op) : Prop where
  early : op.phase.early = true → op.writes.deleted = none
  giving : ∀ u ∈ op.phase.giving, u ∈ op.phase.named
  ended : op.phase.ended = true → op.writes = .none
  deletes : ∀ u, op.writes.deleted = some u → ∃ r, op.request = .remove r ∧ r.userID = u
  seats : ∀ seat ∈ op.writes.seats.rows, seat.here = true → seat.userID ∈ op.phase.named
  frees : ∀ snapshot conversation u, op.phase = .released snapshot conversation →
    op.writes.deleted = some u → snapshot.frees u = true →
    ∃ seat, op.writes.seats.find u = some seat ∧ seat.here = false

structure Seated (s : State) : Prop where
  proper : ∀ op ∈ s.ops, op.Proper
  removed : ∀ u ∈ s.removed, s.db.isActive u = false →
    (∀ seat, s.db.seats.find u = some seat → seat.here = false) ∧ ∀ op ∈ s.ops, u ∉ op.phase.named

/-! ## What a statement does -/

/-- A statement names nobody but active users, or it is the commit. -/
inductive Moved (s : State) (op : Op) (db : Db) (op' : Op) : Prop
  | goes (db : db = s.db) (ended : op'.phase ≠ .committed)
      (named : ∀ u ∈ op'.phase.named, u ∈ op.phase.named ∨ s.db.isActive u = true)
  | commits (db : db = s.db.commit op.writes)
      (after : op' = { op with phase := .committed, writes := .none })
      (last : (∃ snapshot conversation, op.phase = .released snapshot conversation) ∨
        op.request = .ensureCircleConversation)

theorem none_proper (request : Request) {phase : Phase} (calm : phase.giving = [])
    (h : ∀ snapshot conversation, phase ≠ .released snapshot conversation) :
    (Op.mk request phase .none).Proper where
  early := fun _ => rfl
  giving := by
    intro u member
    rw [calm] at member
    cases member
  ended := fun _ => rfl
  deletes := by
    intro u none
    cases none
  seats := by
    intro seat none
    cases none
  frees := by
    intro snapshot conversation u released
    exact absurd released (h snapshot conversation)

/-- A statement of a transaction that goes on and is not the last of a removal. -/
theorem Op.Proper.goes {op : Op} {phase : Phase} {w : Writes} (proper : op.Proper)
    (running : phase.ended = false)
    (before : ∀ snapshot conversation, phase ≠ .released snapshot conversation)
    (early : phase.early = true → w.deleted = none)
    (kept : ∀ u ∈ op.phase.named, u ∈ phase.named) (giving : ∀ u ∈ phase.giving, u ∈ phase.named)
    (deleted : ∀ u, w.deleted = some u → op.writes.deleted = some u ∨
      ∃ r, op.request = .remove r ∧ r.userID = u)
    (seats : ∀ seat ∈ w.seats.rows, seat.here = true →
      seat ∈ op.writes.seats.rows ∨ seat.userID ∈ phase.named) :
    (Op.mk op.request phase w).Proper where
  early := early
  giving := giving
  ended := by
    intro ended
    rw [running] at ended
    cases ended
  deletes := by
    intro u gone
    exact (deleted u gone).elim (proper.deletes u) id
  seats := by
    intro seat member here
    rcases seats seat member here with old | named
    · exact kept _ (proper.seats seat old here)
    · exact named
  frees := by
    intro snapshot conversation u released
    exact absurd released (before snapshot conversation)

theorem mem_set {t : Table ChatMember UserId (·.userID)} {seat b : ChatMember}
    (h : b ∈ (t.set seat).rows) : b = seat ∨ b ∈ t.rows := by
  have found := Table.mem_find h
  rw [Table.find_set] at found
  split at found
  · cases found
    exact Or.inl rfl
  · exact Or.inr (Table.find_mem found)

theorem active_mem {db : Db} {u : UserId} (h : u ∈ db.activeUsers) : db.isActive u = true := by
  obtain ⟨m, member, rfl⟩ := List.mem_map.mp h
  obtain ⟨there, active⟩ := Table.mem_select.mp member
  unfold Db.isActive
  rw [Table.mem_find there]
  exact active

theorem named_active {db : Db} {u : UserId} (h : u ∈ db.circleSeatDiff.toJoin) :
    db.isActive u = true := by
  rcases List.mem_append.mp h with create | rejoin
  · exact active_mem (List.mem_filter.mp create).1
  · exact active_mem (List.mem_filter.mp rejoin).1

section Turns

variable {s : State} {n : Nat} {op op' : Op} {db : Db}

variable {phase : Phase} {w : Writes}

/-- A statement that writes no seat. -/
theorem Op.Proper.on (proper : op.Proper) (running : phase.ended = false)
    (before : ∀ snapshot conversation, phase ≠ .released snapshot conversation)
    (early : phase.early = true → op.phase.early = true)
    (kept : ∀ u ∈ op.phase.named, u ∈ phase.named) (giving : ∀ u ∈ phase.giving, u ∈ phase.named)
    (named : ∀ u ∈ phase.named, u ∈ op.phase.named ∨ s.db.isActive u = true)
    (deleted : w.deleted = op.writes.deleted) (seats : w.seats = op.writes.seats) :
    Moved s op s.db ⟨op.request, phase, w⟩ ∧ (Op.mk op.request phase w).Proper := by
  constructor
  · apply Moved.goes rfl _ named
    rintro rfl
    cases running
  · apply proper.goes running before _ kept giving
    · intro u gone
      rw [deleted] at gone
      exact Or.inl gone
    · intro seat member _
      rw [seats] at member
      exact Or.inl member
    · intro start
      rw [deleted]
      exact proper.early (early start)

/-- The differences stay as they are. -/
theorem Op.Proper.stays (proper : op.Proper)
    (same : phase.diff = op.phase.diff) (running : phase.ended = false)
    (before : ∀ snapshot conversation, phase ≠ .released snapshot conversation)
    (early : phase.early = true → op.phase.early = true)
    (giving : ∀ u ∈ phase.giving, u ∈ phase.named)
    (deleted : w.deleted = op.writes.deleted) (seats : w.seats = op.writes.seats) :
    Moved s op s.db ⟨op.request, phase, w⟩ ∧ (Op.mk op.request phase w).Proper := by
  have named : phase.named = op.phase.named := by
    unfold Phase.named
    rw [same]
  apply proper.on running before early _ giving _ deleted seats
  · exact fun u member => named ▸ member
  · exact fun u member => Or.inl (named ▸ member)

/-- A statement that comes to a seat. -/
theorem Op.Proper.on_seat {seat : ChatMember} (proper : op.Proper) (running : phase.ended = false)
    (before : ∀ snapshot conversation, phase ≠ .released snapshot conversation)
    (late : phase.early = false) (same : phase.diff = op.phase.diff)
    (giving : ∀ u ∈ phase.giving, u ∈ phase.named)
    (gives : seat.here = true → seat.userID ∈ phase.named) :
    Moved s op s.db ⟨op.request, phase, op.writes.seat seat⟩ ∧
      (Op.mk op.request phase (op.writes.seat seat)).Proper := by
  have same : phase.named = op.phase.named := by
    unfold Phase.named
    rw [same]
  constructor
  · apply Moved.goes rfl
    · rintro rfl
      cases running
    · intro u member
      exact Or.inl (same ▸ member)
  · apply proper.goes running before _ _ giving
    · exact fun u gone => Or.inl gone
    · intro row member here
      rcases mem_set member with rfl | old
      · exact Or.inr (gives here)
      · exact Or.inl old
    · intro start
      rw [late] at start
      cases start
    · intro u member
      exact same ▸ member

theorem sync_turn (request : op.request = .ensureCircleConversation) (proper : op.Proper)
    (h : s.syncTurn n op = some (db, op')) : Moved s op db op' ∧ op'.Proper := by
  unfold State.syncTurn at h
  split at h
  · rename_i phase
    split at h
    · cases h
      apply proper.stays <;> simp [phase]
    · cases h
  · rename_i phase
    split at h
    · cases h
      apply proper.stays <;> simp [phase]
    · cases h
      apply proper.stays <;> simp [phase]
  · rename_i conversation phase
    dsimp only at h
    split at h
    · cases h
      apply proper.on <;> simp [Phase.named, phase]
      exact fun u member => named_active member
    · rename_i nobody
      rw [ne_eq, not_not] at nobody
      split at h
      · cases h
        apply proper.on <;> simp [Phase.named, phase, nobody]
      · cases h
        apply proper.on <;> simp [Phase.named, phase, nobody]
  · rename_i conversation diff phase
    cases h
    apply proper.stays <;> simp [phase]
    exact fun u create => List.mem_append_left _ create
  · rename_i conversation diff watermark phase
    cases h
    apply proper.stays <;> simp [phase]
    exact fun u rejoin _ => List.mem_append_right _ rejoin
  · rename_i diff watermark phase
    cases h
    apply proper.stays <;> simp [phase]
  · rename_i diff phase
    split at h
    · cases h
      apply proper.stays <;> simp [phase]
    · cases h
      apply proper.stays <;> simp [phase]
  · cases h
    constructor
    · exact .commits rfl rfl (Or.inr request)
    · exact none_proper _ rfl fun snapshot conversation released => by cases released
  · cases h

theorem visit_turn {u : UserId} (proper : op.Proper) (h : s.visit n op u = some op') :
    Moved s op s.db op' ∧ op'.Proper := by
  unfold State.visit at h
  split at h
  · rename_i conversation diff watermark rows phase
    split at h
    · rename_i free
      have named : ∀ v ∈ rows, v ∈ diff.toJoin := by
        simpa [Phase.named, phase] using proper.giving
      dsimp only at h
      split at h
      · cases h
        apply proper.stays <;> simp [phase]
        exact fun v member => named v (List.mem_of_mem_erase member)
      · cases h
        apply proper.on_seat <;> simp [phase]
        · exact fun v member => named v (List.mem_of_mem_erase member)
        · exact fun _ => named u free.1
    · cases h
  · rename_i diff watermark rows phase
    split at h
    · rename_i free
      have named : ∀ v ∈ rows, v ∈ diff.toJoin := by
        simpa [Phase.named, phase] using proper.giving
      dsimp only at h
      split at h
      · rename_i seat found
        cases h
        have own : seat.userID = u := Table.find_key (Option.filter_eq_some_iff.mp found).1
        apply proper.on_seat <;> simp [phase]
        · exact fun v member => named v (List.mem_of_mem_erase member)
        · exact fun _ => own ▸ named u free.1
      · cases h
        apply proper.stays <;> simp [phase]
        exact fun v member => named v (List.mem_of_mem_erase member)
    · cases h
  · rename_i diff rows phase
    split at h
    · dsimp only at h
      split at h
      · cases h
        apply proper.on_seat <;>
          simp [phase, ChatMember.here]
      · cases h
        apply proper.stays <;> simp [phase]
    · cases h
  · cases h

theorem visit_running {u : UserId} (h : s.visit n op u = some op') : op'.phase ≠ .committed := by
  unfold State.visit at h
  intro phase
  repeat' split at h
  all_goals
    cases h
    try cases phase

theorem fails_turn {fault : Fault} (h : s.fails op fault = some (db, op')) :
    Moved s op db op' ∧ op'.Proper := by
  cases h
  constructor
  · apply Moved.goes rfl
    · rintro ⟨⟩
    · simp [Phase.named]
  · exact none_proper _ rfl fun snapshot conversation released => by cases released

/-- The last statement of a removal. -/
theorem Op.Proper.releases {snapshot : Db} {conversation : Bool} (proper : op.Proper)
    (unnamed : op.phase.named = []) (deleted : w.deleted = op.writes.deleted)
    (seats : ∀ seat ∈ w.seats.rows, seat.here = true → seat ∈ op.writes.seats.rows)
    (frees : ∀ u, w.deleted = some u → snapshot.frees u = true →
      ∃ seat, w.seats.find u = some seat ∧ seat.here = false) :
    Moved s op s.db ⟨op.request, .released snapshot conversation, w⟩ ∧
      (Op.mk op.request (.released snapshot conversation) w).Proper := by
  constructor
  · apply Moved.goes rfl
    · rintro ⟨⟩
    · simp [Phase.named]
  · constructor
    · rintro ⟨⟩
    · simp
    · rintro ⟨⟩
    · intro u gone
      exact proper.deletes u (deleted ▸ gone)
    · intro seat member here
      have old := proper.seats seat (seats seat member here) here
      rw [unnamed] at old
      cases old
    · rintro snapshot' conversation' u ⟨⟩
      exact frees u

theorem removal_turn {r : Removal} (request : op.request = .remove r) (proper : op.Proper)
    (h : s.removalTurn n op r = some (db, op')) : Moved s op db op' ∧ op'.Proper := by
  unfold State.removalTurn at h
  split at h
  · rename_i phase
    split at h
    · split at h
      · exact fails_turn h
      · split at h
        · cases h
          apply proper.stays <;> simp [phase]
        · exact fails_turn h
    · cases h
      apply proper.stays <;> simp [phase]
    · cases h
      apply proper.stays <;> simp [phase]
  · rename_i snapshot phase
    split at h
    · cases h
      apply proper.stays <;> simp [phase]
    · split at h
      · cases h
        apply proper.stays <;> simp [phase]
      · cases h
  · rename_i snapshot conversation phase
    split at h
    · cases h
      apply proper.stays <;> simp [phase]
    · cases h
  · rename_i snapshot conversation phase
    have unnamed : op.phase.named = [] := by simp [phase, Phase.named]
    have kept : op.writes.deleted = none := proper.early (by rw [phase]; rfl)
    split at h
    · exact fails_turn h
    · cases h
      apply proper.releases unnamed rfl fun seat member _ => member
      intro u gone
      rw [kept] at gone
      cases gone
    · split at h
      · cases h
        constructor
        · apply Moved.goes rfl
          · rintro ⟨⟩
          · simp [Phase.named]
        · apply proper.goes rfl
          · rintro _ _ ⟨⟩
          · rintro ⟨⟩
          · simp [unnamed]
          · simp
          · rintro u ⟨⟩
            exact Or.inr ⟨r, request, rfl⟩
          · exact fun seat member _ => Or.inl member
      · exact fails_turn h
  · rename_i snapshot conversation phase
    have unnamed : op.phase.named = [] := by simp [phase, Phase.named]
    have own : ∀ u, op.writes.deleted = some u → r.userID = u := by
      intro u gone
      obtain ⟨r', same, user⟩ := proper.deletes u gone
      rw [request] at same
      cases same
      exact user
    dsimp only at h
    split at h
    · rename_i nowhere
      cases h
      apply proper.releases unnamed rfl fun seat member _ => member
      intro u _ frees
      simp [Db.frees, Option.isNone_iff_eq_none.mp nowhere] at frees
    · split at h
      · rename_i absent
        cases h
        apply proper.releases unnamed rfl fun seat member _ => member
        intro u gone frees
        rw [own u gone] at absent
        obtain ⟨-, frees⟩ := Bool.and_eq_true_iff.mp frees
        obtain ⟨seat, found, here⟩ := (Option.any_eq_true _ _).mp frees
        rw [found, Option.filter_some_pos here] at absent
        cases absent
      · rename_i seat found
        split at h
        · cases h
        · split at h
          · cases h
            have mine : seat.userID = r.userID :=
              Table.find_key (Option.filter_eq_some_iff.mp found).1
            apply proper.releases unnamed (w := op.writes.seat { seat with leftAt := some s.now }) rfl
            · intro row member here
              rcases mem_set member with rfl | old
              · cases here
              · exact old
            · intro u gone _
              refine ⟨{ seat with leftAt := some s.now }, ?_, rfl⟩
              rw [Writes.seat, Table.find_set, if_pos (mine.trans (own u gone))]
          · exact fails_turn h
  · rename_i snapshot conversation phase
    cases h
    constructor
    · exact .commits rfl rfl (Or.inl ⟨_, _, phase⟩)
    · exact none_proper _ rfl fun snapshot conversation released => by cases released
  · cases h

/-- What a step does to the state. -/
inductive Stepped (s : State) : Action → State → Prop
  | begins (request : Request) :
    Stepped s (.begin request) { s with ops := s.ops ++ [⟨request, .started, .none⟩] }
  | moves {a : Action} {n : Nat} {op op' : Op} {db : Db} (at' : s.ops[n]? = some op)
    (moved : Moved s op db op') (proper : op'.Proper)
    (turn : op'.phase = .committed → a = .turn n) : Stepped s a (s.after n db op op')
  | enrolls (row : CircleMember)
    (kept : s.db.isActive row.userID = true → row.status = .active) :
    Stepped s (.enroll row) { s with db := { s.db with members := s.db.members.set row } }
  | message (height : Nat) :
    Stepped s (.message height)
      { s with db := { s.db with topHeight := max s.db.topHeight height } }
  | pass (ms : Nat) : Stepped s (.pass ms) { s with now := s.now + ms }

theorem Step.stepped {a : Action} {t : State} (seated : Seated s) (h : Step s a t) :
    Stepped s a t := by
  unfold Step State.next at h
  cases a with
  | begin request =>
    cases h
    exact .begins request
  | turn n =>
    obtain ⟨op, at', h⟩ := Option.bind_eq_some_iff.mp h
    obtain ⟨⟨db, op'⟩, run, h⟩ := Option.bind_eq_some_iff.mp h
    cases h
    have proper := seated.proper op (List.mem_of_getElem? at')
    unfold State.turn at run
    cases request : op.request with
    | ensureCircleConversation =>
      rw [request] at run
      obtain ⟨moved, proper⟩ := sync_turn request proper run
      exact .moves at' moved proper fun _ => rfl
    | remove r =>
      rw [request] at run
      obtain ⟨moved, proper⟩ := removal_turn request proper run
      exact .moves at' moved proper fun _ => rfl
  | visit n u =>
    obtain ⟨op, at', h⟩ := Option.bind_eq_some_iff.mp h
    obtain ⟨op', run, h⟩ := Option.bind_eq_some_iff.mp h
    cases h
    obtain ⟨moved, proper⟩ := visit_turn (seated.proper op (List.mem_of_getElem? at')) run
    exact .moves at' moved proper fun phase => absurd phase (visit_running run)
  | abort n =>
    obtain ⟨op, at', h⟩ := Option.bind_eq_some_iff.mp h
    split at h
    · cases h
    · cases h
      have failed : s.fails op .aborted =
          some (s.db, { op with phase := .failed .aborted, writes := .none }) := rfl
      obtain ⟨moved, proper⟩ := fails_turn failed
      exact .moves at' moved proper fun phase => by cases phase
  | enroll row =>
    dsimp only at h
    split at h
    · rename_i free
      cases h
      exact .enrolls row free.1
    · cases h
  | message height =>
    cases h
    exact .message height
  | pass ms =>
    cases h
    exact .pass ms

end Turns

/-! ## What a step keeps -/

section Steps

variable {s t : State} {a : Action}

/-- The seats after a commit: what the transaction wrote, over what was there. -/
theorem seats_commit (db : Db) (w : Writes) (u : UserId) :
    (db.commit w).seats.find u = (w.seats.find u).or (db.seats.find u) :=
  Table.find_overlay _ _ _

theorem active_commit (db : Db) (w : Writes) (u : UserId) (h : w.deleted ≠ some u) :
    (db.commit w).isActive u = db.isActive u := by
  unfold Db.isActive Db.commit
  rw [Table.find_deleteMany]
  cases found : db.members.find u with
  | none => rfl
  | some m =>
    have own : m.userID = u := Table.find_key found
    simp [Option.filter, own, h]

variable {n : Nat} {op : Op} {u : UserId}

/-- After the transaction of `op` has ended, only the others may name a user. -/
theorem named_after {op' : Op} (at' : s.ops[n]? = some op)
    (other : ∀ o ∈ s.others n, u ∉ o.phase.named) (own : u ∉ op'.phase.named) :
    ∀ o ∈ s.ops.set n op', u ∉ o.phase.named := by
  intro o member
  obtain ⟨m, there⟩ := List.mem_iff_getElem?.mp member
  by_cases same : m = n
  · subst same
    have bound : m < s.ops.length := (List.getElem?_eq_some_iff.mp at').1
    rw [List.getElem?_set_self bound] at there
    cases there
    exact own
  · rw [List.getElem?_set_ne (Ne.symm same)] at there
    exact other o (List.mem_eraseIdx_iff_getElem?.mpr ⟨m, same, there⟩)

/-- The seats of a user that a commit does not seat. -/
theorem left_commit {db : Db} {w : Writes}
    (before : ∀ seat, db.seats.find u = some seat → w.seats.find u = none → seat.here = false)
    (wrote : ∀ seat, w.seats.find u = some seat → seat.here = false) :
    ∀ seat, (db.commit w).seats.find u = some seat → seat.here = false := by
  intro seat found
  rw [seats_commit] at found
  cases written : w.seats.find u with
  | none =>
    rw [written] at found
    exact before seat found written
  | some new =>
    rw [written] at found
    cases found
    exact wrote seat written

theorem removed_after {op' : Op} {db : Db} (h : u ∈ (s.after n db op op').removed) :
    u ∈ s.removed ∨ op'.phase = .committed ∧ op.writes.deleted = some u := by
  unfold State.after at h
  dsimp only at h
  split at h
  · rename_i v phase deleted
    rcases List.mem_cons.mp h with rfl | old
    · exact Or.inr ⟨phase, deleted⟩
    · exact Or.inl old
  · exact Or.inl h

/-- The commit of the removal of a user. -/
theorem removal_commit (proper : op.Proper)
    (at' : s.ops[n]? = some op) (apart : Apart s (.turn n)) (deleted : op.writes.deleted = some u)
    (last : (∃ snapshot conversation, op.phase = .released snapshot conversation) ∨
      op.request = .ensureCircleConversation) :
    (∀ seat, (s.db.commit op.writes).seats.find u = some seat → seat.here = false) ∧
      ∀ o ∈ s.others n, u ∉ o.phase.named := by
  obtain ⟨r, request, -⟩ := proper.deletes u deleted
  rcases last with ⟨snapshot, conversation, phase⟩ | sync
  · unfold Apart State.apart at apart
    simp only [at', Option.all_some, phase, deleted, Bool.and_eq_true, List.all_eq_true,
      Bool.not_eq_true', Bool.or_eq_true] at apart
    obtain ⟨unnamed, seen⟩ := apart
    constructor
    · apply left_commit
      · intro seat found unwritten
        by_contra here
        rw [Bool.not_eq_false] at here
        have frees : snapshot.frees u = true := by
          apply seen.resolve_left
          simp [found, here]
        obtain ⟨new, written, -⟩ := proper.frees snapshot conversation u phase deleted frees
        rw [written] at unwritten
        cases unwritten
      · intro seat written
        by_contra here
        rw [Bool.not_eq_false] at here
        have named := proper.seats seat (Table.find_mem written) here
        simp [phase, Phase.named] at named
    · intro o member named
      have free := unnamed o member
      rw [List.contains_iff_mem.mpr named] at free
      cases free
  · rw [request] at sync
    cases sync

theorem seated_step (seated : Seated s) (step : Step s a t) (apart : Apart s a) : Seated t := by
  cases step.stepped seated with
  | begins request =>
    constructor
    · intro op member
      rcases List.mem_append.mp member with old | new
      · exact seated.proper op old
      · rw [List.mem_singleton] at new
        subst new
        exact none_proper _ rfl fun snapshot conversation released => by cases released
    · intro u removed out
      obtain ⟨left, unnamed⟩ := seated.removed u removed out
      refine ⟨left, fun op member => ?_⟩
      rcases List.mem_append.mp member with old | new
      · exact unnamed op old
      · rw [List.mem_singleton] at new
        subst new
        simp [Phase.named]
  | @moves a n op op' db at' moved proper turn =>
    have here : op ∈ s.ops := List.mem_of_getElem? at'
    constructor
    · intro o member
      rcases List.mem_or_eq_of_mem_set member with old | rfl
      · exact seated.proper o old
      · exact proper
    · intro u removed out
      rcases removed_after removed with old | ⟨phase, deleted⟩
      · have others : ∀ (unnamed : ∀ o ∈ s.ops, u ∉ o.phase.named), ∀ o ∈ s.others n,
            u ∉ o.phase.named := fun unnamed o member => unnamed o (List.mem_of_mem_eraseIdx member)
        cases moved with
        | goes same ended named =>
          subst same
          obtain ⟨left, unnamed⟩ := seated.removed u old out
          refine ⟨left, named_after at' (others unnamed) fun member => ?_⟩
          rcases named u member with before | active
          · exact unnamed op here before
          · rw [State.after, active] at out
            cases out
        | commits same after last =>
          subst same after
          by_cases own : op.writes.deleted = some u
          · rw [turn rfl] at apart
            obtain ⟨left, unnamed⟩ := removal_commit (seated.proper op here) at' apart own last
            exact ⟨left, named_after at' unnamed (by simp [Phase.named])⟩
          · have out : s.db.isActive u = false := (active_commit _ _ u own).symm.trans out
            obtain ⟨left, unnamed⟩ := seated.removed u old out
            refine ⟨left_commit (fun seat found _ => left seat found) ?_,
              named_after at' (others unnamed) (by simp [Phase.named])⟩
            intro seat written
            by_contra taken
            rw [Bool.not_eq_false] at taken
            have named := (seated.proper op here).seats seat (Table.find_mem written) taken
            rw [Table.find_key written] at named
            exact unnamed op here named
      · cases moved with
        | goes _ ended => exact absurd phase ended
        | commits same after last =>
          subst same after
          rw [turn phase] at apart
          obtain ⟨left, unnamed⟩ := removal_commit (seated.proper op here) at' apart deleted last
          exact ⟨left, named_after at' unnamed (by simp [Phase.named])⟩
  | enrolls row kept =>
    refine ⟨seated.proper, fun u removed out => seated.removed u removed ?_⟩
    by_contra active
    rw [Bool.not_eq_false] at active
    unfold Db.isActive at out
    rw [Table.find_set] at out
    split at out
    · rename_i own
      subst own
      simp [kept active] at out
    · rw [Db.isActive, out] at active
      cases active
  | message height => exact ⟨seated.proper, seated.removed⟩
  | pass ms => exact ⟨seated.proper, seated.removed⟩

/-- A user taken out, and with no active row since, has no seat. -/
theorem no_ghost_seat {as : List Action} {s t : State} (ops : s.ops = []) (fresh : s.removed = [])
    (run : Run (Run.Where Step Apart) s as t) {u : UserId} (removed : u ∈ t.removed)
    (out : t.db.isActive u = false) {seat : ChatMember} (found : t.db.seats.find u = some seat) :
    seat.leftAt.isSome = true := by
  have start : Seated s := by
    constructor
    · intro op member
      rw [ops] at member
      cases member
    · intro v member
      rw [fresh] at member
      cases member
  have seated : Seated t :=
    run.preserves (P := Seated) (fun _ _ _ step before => seated_step before step.1 step.2) start
  have left : seat.here = false := (seated.removed u removed out).1 seat found
  unfold ChatMember.here at left
  rwa [Option.isNone_eq_false_iff] at left

end Steps

/-! ### A member who leaves while a sync runs -/

/-- The owner 1 has a seat; 2 was let in and has none yet. -/
def letIn : State where
  db :=
    { ownerID := 1
      members := ⟨[⟨1, .owner, .active⟩, ⟨2, .member, .active⟩], by decide⟩
      conversation := some ⟨0⟩
      seats := ⟨[⟨1, 0, 0, 0, none⟩], by decide⟩
      topHeight := 5 }
  now := 10
  ops := []
  removed := []

def play (s : State) (as : List Action) : State := (as.foldlM State.next s).getD s

def both : List Action := [.begin .ensureCircleConversation, .begin (.remove (.leaveCircle 2))]

/-- The sync reads the differences, the member leaves, the sync gives the seat. -/
def overtaken : List Action :=
  both ++ List.replicate 3 (.turn 0) ++ List.replicate 5 (.turn 1) ++
    [.turn 0, .visit 0 2, .turn 0, .turn 0, .turn 0]

/-- The member's leave has its snapshot when the sync commits. -/
def overtaking : List Action :=
  both ++ .turn 1 :: List.replicate 4 (.turn 0) ++ [.visit 0 2, .turn 0, .turn 0, .turn 0] ++
    List.replicate 4 (.turn 1)

/-- The member leaves once the sync is over. -/
def inTurn : List Action :=
  both ++ List.replicate 4 (.turn 0) ++ [.visit 0 2, .turn 0, .turn 0, .turn 0] ++
    List.replicate 5 (.turn 1)

theorem no_ghost_seat_inTurn :
    (play letIn inTurn).db.seats.find 2 = some ⟨2, 5, 0, 10, some 10⟩ ∧
      (some 10 : Option Time).isSome = true := by
  have run : Run (Run.Where Step Apart) letIn inTurn (play letIn inTurn) :=
    Run.where_of_foldlM rfl
  have found : (play letIn inTurn).db.seats.find 2 = some ⟨2, 5, 0, 10, some 10⟩ := rfl
  exact ⟨found, no_ghost_seat rfl rfl run (by decide) rfl found⟩

theorem ghost_seat :
    (Run Step letIn overtaken (play letIn overtaken) ∧
      (play letIn overtaken).ops.all (fun op => op.phase matches .committed) = true ∧
      2 ∈ (play letIn overtaken).removed ∧ (play letIn overtaken).db.isActive 2 = false ∧
      (play letIn overtaken).db.seats.find 2 = some ⟨2, 5, 0, 10, none⟩) ∧
    Run Step letIn overtaking (play letIn overtaking) ∧
      (play letIn overtaking).ops.all (fun op => op.phase matches .committed) = true ∧
      2 ∈ (play letIn overtaking).removed ∧ (play letIn overtaking).db.isActive 2 = false ∧
      (play letIn overtaking).db.seats.find 2 = some ⟨2, 5, 0, 10, none⟩ :=
  ⟨⟨Run.of_foldlM rfl, rfl, by decide, rfl, rfl⟩, Run.of_foldlM rfl, rfl, by decide, rfl, rfl⟩

end CircleBackend.Circle.Seating
