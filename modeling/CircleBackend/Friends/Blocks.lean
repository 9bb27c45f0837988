import CircleBackend.Friends.Requests

/-!
# Requests across a block

`blockUser` deletes what it finds between the two and `sendRequest` looks for a block
before it begins its transaction; they share no lock, so a request can be written behind
the block. Where none is, nothing is left between the two (`blocks_separate`).
-/

namespace CircleBackend.Friends

open Library
open Session (UserId)

/-! ## A statement of a call -/

section CallStep

variable {roles : UserId → Role} {s t : State} {c : CallId} {fresh : RequestId} {op : Op}

/-- The pair of a block in hand, and the rows that it has found. -/
def Op.snapshot : Op → Option (UserId × UserId × List RequestId)
  | .block a b (.wait ids) | .block a b (.create ids) | .block a b (.commit ids) => some (a, b, ids)
  | _ => none

inductive CallStep (roles : UserId → Role) (s : State) (c : CallId) (op : Op) : State → Prop
  | goes {op' : Op} (keeps : op'.snapshot = none ∨ op'.snapshot = op.snapshot) :
      CallStep roles s c op (s.goto c op')
  | finds {a b : UserId} (stage : op = .block a b .delete) :
      CallStep roles s c op
        (s.goto c (.block a b (.wait ((s.friends.select (·.between a b)).map (·.id)))))
  | ends : CallStep roles s c op (s.finish c)
  | sent {a b : UserId} {id : RequestId} {friends : Table Friend RequestId (·.id)}
      (stage : op = .send a b (.commit id))
      (inserted : s.friends.insert { id := id, userID := a, friendID := b, state := .pending } =
        some friends) : CallStep roles s c op { s.finish c with friends := friends }
  | decided {recipientId : UserId} {id : RequestId} {decision : Decision} {row : Friend}
      (stage : op = .handle recipientId id decision .commit) (found : s.friends.find id = some row) :
      CallStep roles s c op
        { s.finish c with friends := s.friends.put { row with state := decision.state } }
  | withdrawn {senderId : UserId} {id : RequestId} {row : Friend}
      (stage : op = .cancel senderId id .commit) (found : s.friends.find id = some row) :
      CallStep roles s c op
        { s.finish c with friends := s.friends.put { row with state := .withdrawn } }
  | appended {userId : UserId} {id : RequestId} (stage : op = .append userId id .commit) :
      CallStep roles s c op { s.finish c with messages := s.messages ++ [⟨id, userId⟩] }
  | blocked {a b : UserId} {ids : List RequestId} (stage : op = .block a b (.commit ids)) :
      CallStep roles s c op
        { s.finish c with
          friends := s.friends.deleteMany fun row => ids.contains row.id
          blocks := ⟨a, b⟩ :: s.blocks }
  | removed {a b : UserId} {id : RequestId} (stage : op = .remove a b (.commit id)) :
      CallStep roles s c op { s.finish c with friends := s.friends.deleteMany fun row => row.id = id }

theorem CallStep.of_check {test : Bool} {op' : Op}
    (keeps : op'.snapshot = none ∨ op'.snapshot = op.snapshot) :
    CallStep roles s c op (s.check c test op') := by
  unfold State.check
  split
  · exact .goes keeps
  · exact .ends

theorem CallStep.of_acquire {lock : Lock} {op' : Op} (h : s.acquire c lock op' = some t)
    (keeps : op'.snapshot = none) : CallStep roles s c op t := by
  unfold State.acquire at h
  split at h
  · cases h
    exact .goes (.inl keeps)
  · cases h

theorem call_step (h : op.next roles s c fresh = some t) : CallStep roles s c op t := by
  unfold Op.next at h
  cases op with
  | send a b stage =>
    cases stage with
    | target | blocks | limit | find =>
      cases h
      exact .of_check (.inl rfl)
    | lock => exact .of_acquire h rfl
    | create =>
      cases h
      exact .goes (.inl rfl)
    | commit id =>
      dsimp only [Sending.next] at h
      split at h
      · rename_i friends inserted
        cases h
        exact .sent rfl inserted
      · cases h
        exact .ends
  | handle recipientId id decision stage =>
    cases stage with
    | read =>
      dsimp only [Handling.next] at h
      split at h
      · cases h
        exact .goes (.inl rfl)
      · cases h
        exact .ends
    | sender | limit | check =>
      cases h
      exact .of_check (.inl rfl)
    | lock => exact .of_acquire h rfl
    | update =>
      dsimp only [Handling.next] at h
      split at h
      · cases h
        exact .of_check (.inl rfl)
      · cases h
    | commit =>
      obtain ⟨row, found, rfl⟩ := Option.map_eq_some_iff.mp h
      exact .decided rfl found
  | cancel senderId id stage =>
    cases stage with
    | read | check =>
      cases h
      exact .of_check (.inl rfl)
    | lock => exact .of_acquire h rfl
    | update =>
      dsimp only [Cancelling.next] at h
      split at h
      · cases h
        exact .of_check (.inl rfl)
      · cases h
    | commit =>
      obtain ⟨row, found, rfl⟩ := Option.map_eq_some_iff.mp h
      exact .withdrawn rfl found
  | append userId id stage =>
    cases stage with
    | lock => exact .of_acquire h rfl
    | check =>
      cases h
      exact .of_check (.inl rfl)
    | commit =>
      cases h
      exact .appended rfl
  | block a b stage =>
    cases stage with
    | target | already =>
      cases h
      exact .of_check (.inl rfl)
    | lock | lockNext => exact .of_acquire h rfl
    | delete =>
      cases h
      exact .finds rfl
    | wait ids =>
      dsimp only [Blocking.next] at h
      split at h
      · cases h
        exact .goes (.inr rfl)
      · cases h
    | create ids =>
      cases h
      exact .of_check (.inr rfl)
    | commit ids =>
      cases h
      exact .blocked rfl
  | remove a b stage =>
    cases stage with
    | find =>
      dsimp only [Removing.next] at h
      split at h
      · cases h
        exact .goes (.inl rfl)
      · cases h
        exact .ends
    | lock | lockNext => exact .of_acquire h rfl
    | delete id =>
      dsimp only [Removing.next] at h
      split at h
      · cases h
        exact .of_check (.inl rfl)
      · cases h
    | commit id =>
      cases h
      exact .removed rfl

theorem goto_find {k : CallId} {call : Call} {op' : Op}
    (found : (s.goto c op').calls.find k = some call) :
    call = ⟨c, op'⟩ ∨ s.calls.find k = some call := by
  dsimp only [State.goto] at found
  rw [Table.find_put] at found
  obtain ⟨before, there, written⟩ := Option.map_eq_some_iff.mp found
  split at written
  · exact .inl written.symm
  · rw [there, written]
    exact .inr rfl

theorem finish_find {k : CallId} {call : Call} (found : (s.finish c).calls.find k = some call) :
    s.calls.find k = some call := by
  dsimp only [State.finish] at found
  rw [Table.find_deleteMany] at found
  exact (Option.filter_eq_some_iff.mp found).1

end CallStep

/-! ## What is between two users -/

section Between

variable {roles : UserId → Role} {s t : State} {act : Act}

theorem Friend.between_comm (row : Friend) (a b : UserId) : row.between a b = row.between b a := by
  unfold Friend.between
  rw [Bool.or_comm]

/-- No row is between two users with a block, and a block in hand has found them all. -/
structure Apart (s : State) : Prop where
  blocked : ∀ a b, s.blocked a b = true → ∀ k row, s.friends.find k = some row →
    row.between a b = false
  found : ∀ k call a b ids, s.calls.find k = some call → call.op.snapshot = some (a, b, ids) →
    ∀ k row, s.friends.find k = some row → row.between a b = true → k ∈ ids

/-- A request is written only where there is no block between the two, and none in hand. -/
def Clear (s : State) : Act → Prop
  | .step c _ => ∀ call a b id, s.calls.find c = some call → call.op = .send a b (.commit id) →
    s.blocked a b = false ∧ ∀ k other a' b' ids, s.calls.find k = some other →
      other.op.snapshot = some (a', b', ids) → ¬ (a' = a ∧ b' = b) ∧ ¬ (a' = b ∧ b' = a)
  | _ => True

/-- The rows are the same ones as far as the pairs go. -/
def Fewer (s t : State) : Prop :=
  ∀ k row, t.friends.find k = some row → ∃ before, s.friends.find k = some before ∧
    ∀ a b, row.between a b = before.between a b

theorem Fewer.same (friends : t.friends = s.friends) : Fewer s t :=
  fun _ row found => ⟨row, friends ▸ found, fun _ _ => rfl⟩

theorem Fewer.put {id : RequestId} {row : Friend} {state : FriendState}
    (found : s.friends.find id = some row)
    (friends : t.friends = s.friends.put { row with state := state }) : Fewer s t := by
  intro k row' after
  have there : s.friends.find ({ row with state := state } : Friend).id = some row :=
    Table.mem_find (Table.find_mem found)
  rw [friends, Table.find_put_of_find there] at after
  split at after
  · rename_i own
    cases after
    exact ⟨row, own ▸ there, fun _ _ => rfl⟩
  · exact ⟨row', after, fun _ _ => rfl⟩

theorem Fewer.deleted {p : Friend → Bool} (friends : t.friends = s.friends.deleteMany p) :
    Fewer s t := by
  intro k row after
  rw [friends, Table.find_deleteMany] at after
  exact ⟨row, (Option.filter_eq_some_iff.mp after).1, fun _ _ => rfl⟩

/-- With no more blocks and no more rows, and no more blocks in hand. -/
theorem Apart.fewer (apart : Apart s) (fewer : Fewer s t)
    (blocks : ∀ a b, t.blocked a b = true → s.blocked a b = true)
    (calls : ∀ k call, t.calls.find k = some call → ∀ snapshot, call.op.snapshot = some snapshot →
      ∃ k' call', s.calls.find k' = some call' ∧ call'.op.snapshot = some snapshot) :
    Apart t where
  blocked a b blocked k row found := by
    obtain ⟨before, there, same⟩ := fewer k row found
    rw [same]
    exact apart.blocked a b (blocks a b blocked) k before there
  found k call a b ids found snapshot k' row there between := by
    obtain ⟨k₀, call', found', snapshot'⟩ := calls k call found _ snapshot
    obtain ⟨before, there', same⟩ := fewer k' row there
    exact apart.found k₀ call' a b ids found' snapshot' k' before there' (same a b ▸ between)

theorem blocked_cons (x : Block) (a b : UserId)
    (blocked : State.blocked { s with blocks := x :: s.blocks } a b = true) :
    s.blocked a b = true ∨ x = ⟨a, b⟩ ∨ x = ⟨b, a⟩ := by
  simp only [State.blocked, List.contains_cons, Bool.or_eq_true, beq_iff_eq] at blocked ⊢
  rcases blocked with (first | rest) | (first | rest)
  · exact .inr (.inl first.symm)
  · exact .inl (.inl rest)
  · exact .inr (.inr first.symm)
  · exact .inl (.inr rest)

theorem apart_step (apart : Apart s) (step : Step roles s act t) (clear : Clear s act) :
    Apart t := by
  have finished {c : CallId} {t : State} (calls : t.calls = (s.finish c).calls) :
      ∀ k call, t.calls.find k = some call → ∀ snapshot, call.op.snapshot = some snapshot →
        ∃ k' call', s.calls.find k' = some call' ∧ call'.op.snapshot = some snapshot := by
    intro k call found snapshot own
    rw [calls] at found
    exact ⟨k, call, finish_find found, own⟩
  unfold Step State.next at step
  cases act with
  | start c op =>
    dsimp only at step
    split at step
    · rename_i starts
      obtain ⟨calls, inserted, rfl⟩ := Option.map_eq_some_iff.mp step
      refine apart.fewer (.same rfl) (fun _ _ h => h) fun k call found snapshot own => ?_
      dsimp only at found
      rw [Table.find_insert inserted] at found
      split at found
      · cases found
        exfalso
        cases op with
        | block a b stage =>
          cases stage with
          | target | already | lock | lockNext | delete => cases own
          | wait | create | commit => cases starts
        | _ => cases own
      · exact ⟨k, call, found, own⟩
    · cases step
  | abort c =>
    cases step
    exact apart.fewer (.same rfl) (fun _ _ h => h) (finished rfl)
  | unblock a b =>
    cases step
    refine apart.fewer (.same rfl) (fun a' b' h => ?_)
      fun k call found snapshot own => ⟨k, call, found, own⟩
    simp only [State.blocked, Bool.or_eq_true, List.contains_iff_mem, List.mem_filter] at h ⊢
    exact h.imp And.left And.left
  | setActive id active =>
    cases step
    exact apart.fewer (.same rfl) (fun _ _ h => h)
      fun k call found snapshot own => ⟨k, call, found, own⟩
  | step c fresh =>
    obtain ⟨call, calling, step⟩ := Option.bind_eq_some_iff.mp step
    cases call_step step with
    | @goes op' keeps =>
      refine apart.fewer (.same rfl) (fun _ _ h => h) fun k call' found snapshot own => ?_
      rcases goto_find found with rfl | found
      · rcases keeps with none' | same
        · rw [none'] at own
          cases own
        · exact ⟨c, call, calling, same.symm.trans own⟩
      · exact ⟨k, call', found, own⟩
    | @finds a b stage =>
      refine ⟨apart.blocked, fun k call' a' b' ids found snapshot k' row there between => ?_⟩
      rcases goto_find found with rfl | found
      · cases snapshot
        refine List.mem_map.mpr ⟨row, Table.mem_select.mpr ⟨Table.find_mem there, between⟩, ?_⟩
        exact Table.find_key there
      · exact apart.found k call' a' b' ids found snapshot k' row there between
    | ends => exact apart.fewer (.same rfl) (fun _ _ h => h) (finished rfl)
    | @sent a b id friends stage inserted =>
      obtain ⟨unblocked, none'⟩ := clear call a b id calling stage
      have new (a' b' : UserId)
          (between : Friend.between ⟨id, a, b, .pending⟩ a' b' = true) :
          a' = a ∧ b' = b ∨ a' = b ∧ b' = a := by
        simp only [Friend.between, Bool.or_eq_true, Bool.and_eq_true, decide_eq_true_eq] at between
        rcases between with ⟨h, k⟩ | ⟨h, k⟩
        · exact .inl ⟨h.symm, k.symm⟩
        · exact .inr ⟨k.symm, h.symm⟩
      constructor
      · intro a' b' blocked k row found
        dsimp only at found
        rw [Table.find_insert inserted] at found
        split at found
        · cases found
          by_contra between
          rcases new a' b' (Bool.not_eq_false _ ▸ between) with ⟨rfl, rfl⟩ | ⟨rfl, rfl⟩
          · exact Bool.false_ne_true (unblocked.symm.trans blocked)
          · have swapped : s.blocked b' a' = true := by
              rw [State.blocked, Bool.or_comm]
              exact blocked
            exact Bool.false_ne_true (unblocked.symm.trans swapped)
        · exact apart.blocked a' b' blocked k row found
      · intro k call' a' b' ids found snapshot k' row there between
        have found := finish_find found
        dsimp only at there
        rw [Table.find_insert inserted] at there
        split at there
        · cases there
          obtain ⟨first, second⟩ := none' k call' a' b' ids found snapshot
          rcases new a' b' between with same | same
          · exact absurd same first
          · exact absurd same second
        · exact apart.found k call' a' b' ids found snapshot k' row there between
    | decided _ found => exact apart.fewer (.put found rfl) (fun _ _ h => h) (finished rfl)
    | withdrawn _ found => exact apart.fewer (.put found rfl) (fun _ _ h => h) (finished rfl)
    | appended => exact apart.fewer (.same rfl) (fun _ _ h => h) (finished rfl)
    | @blocked a b ids stage =>
      have fewer : Fewer s { s.finish c with
          friends := s.friends.deleteMany fun row => ids.contains row.id
          blocks := ⟨a, b⟩ :: s.blocks } := .deleted rfl
      -- what was between the two is gone
      have gone (k : RequestId) (row : Friend)
          (found : (s.friends.deleteMany fun row => ids.contains row.id).find k = some row) :
          row.between a b = false := by
        rw [Table.find_deleteMany] at found
        obtain ⟨there, kept⟩ := Option.filter_eq_some_iff.mp found
        by_contra between
        have member := apart.found c call a b ids calling (by rw [stage]; rfl) k row there
          (Bool.not_eq_false _ ▸ between)
        rw [Table.find_key there, List.contains_iff_mem.mpr member] at kept
        cases kept
      constructor
      · intro a' b' blocked k row found
        rcases blocked_cons _ a' b' blocked with before | same | same
        · obtain ⟨old, there, pair⟩ := fewer k row found
          rw [pair]
          exact apart.blocked a' b' before k old there
        · cases same
          exact gone k row found
        · cases same
          rw [Friend.between_comm]
          exact gone k row found
      · intro k call' a' b' ids' found snapshot k' row there between
        obtain ⟨old, there', pair⟩ := fewer k' row there
        exact apart.found k call' a' b' ids' (finish_find found) snapshot k' old there'
          (pair a' b' ▸ between)
    | removed => exact apart.fewer (.deleted rfl) (fun _ _ h => h) (finished rfl)

theorem empty_apart : Apart .empty := by
  constructor
  · intro a b blocked
    cases blocked
  · intro k call a b ids found
    cases found

/-- In a run that writes no request behind a block, nothing is between two users with a
block, and so no request of theirs can be accepted. -/
theorem blocks_separate {acts : List Act}
    (run : Run (Run.Where (Step roles) Clear) .empty acts s) (a b : UserId)
    (blocked : s.blocked a b = true) :
    ∀ row ∈ s.friends.rows, row.between a b = false := by
  have apart : Apart s := by
    refine run.preserves_where (I := fun _ => True) (P := Apart) ?_ ?_ trivial empty_apart
    · exact fun _ _ _ _ _ => trivial
    · exact fun s act t step clear _ apart => apart_step apart step clear
  exact fun row member => apart.blocked a b blocked row.id row (Table.mem_find member)

/-! ### Runs -/

def users : UserId → Role := fun _ => .user

/-- So many statements of a call; a row that it creates has the id of the call. -/
def steps (c : CallId) (n : Nat) : List Act := List.replicate n (.step c c)

/-- A check of a step that is enough for it to be clear. -/
def clears (s : State) : Act → Bool
  | .step c _ => (s.calls.find c).all fun call =>
    match call.op with
    | .send a b (.commit _) =>
      !s.blocked a b && s.calls.rows.all fun other => other.op.snapshot.isNone
    | _ => true
  | _ => true

theorem clears_clear (h : clears s act = true) : Clear s act := by
  cases act with
  | step c fresh =>
    intro call a b id found op
    rw [clears, found] at h
    dsimp only [Option.all] at h
    rw [op] at h
    obtain ⟨unblocked, none'⟩ := Bool.and_eq_true _ _ ▸ h
    refine ⟨Bool.not_eq_true' _ ▸ unblocked, fun k other a' b' ids there snapshot => ?_⟩
    have absent := List.all_eq_true.mp none' other (Table.find_mem there)
    rw [snapshot] at absent
    cases absent
  | _ => trivial

/-- A request is sent, and the one who receives it blocks the sender. -/
def refused : List Act :=
  [.setActive 1 true, .setActive 2 true, .start 1 (.send 1 2 .target)] ++ steps 1 7 ++
    .start 2 (.block 2 1 .target) :: steps 2 8

theorem refused_play : ((refused.foldlM (Run.whenever clears (State.next users)) .empty).any
    fun s => s.blocked 1 2) = true := by
  decide +kernel

theorem blocks_separate_refused : ∃ s, Run (Run.Where (Step users) Clear) .empty refused s ∧
    s.blocked 1 2 = true ∧ ∀ row ∈ s.friends.rows, row.between 1 2 = false := by
  obtain ⟨s, played, blocked⟩ := (Option.any_eq_true _ _).mp refused_play
  have run : Run (Run.Where (Step users) Clear) .empty refused s :=
    (Run.where_of_foldlM played).mono fun _ _ _ h => ⟨h.1, clears_clear h.2⟩
  exact ⟨s, run, blocked, blocks_separate run 1 2 blocked⟩

/-- The sender has looked for a block; the block is set, the request written and accepted. -/
def crossing : List Act :=
  [.setActive 1 true, .setActive 2 true, .start 1 (.send 1 2 .target)] ++ steps 1 3 ++
    .start 2 (.block 2 1 .target) :: steps 2 8 ++ steps 1 4 ++
    .start 3 (.handle 2 1 .accepted .read) :: steps 3 7

theorem crossing_play : ((crossing.foldlM (State.next users) .empty).any fun s =>
    s.calls.rows.isEmpty && s.blocked 1 2 &&
      (s.friends.find 1).any fun row => row.between 1 2 && row.state = .accepted) = true := by
  decide +kernel

theorem friends_behind_block : ¬ ∀ (acts : List Act) (s : State) (a b : UserId),
    Run (Step users) .empty acts s → s.calls.rows = [] → s.blocked a b = true →
      ∀ row ∈ s.friends.rows, row.between a b = true → row.live = false := by
  intro separate
  obtain ⟨s, played, ends⟩ := (Option.any_eq_true _ _).mp crossing_play
  obtain ⟨quiet, row⟩ := Bool.and_eq_true _ _ ▸ ends
  obtain ⟨quiet, blocked⟩ := Bool.and_eq_true _ _ ▸ quiet
  obtain ⟨row, found, ends⟩ := (Option.any_eq_true _ _).mp row
  obtain ⟨between, accepted⟩ := Bool.and_eq_true _ _ ▸ ends
  have dead := separate crossing s 1 2 (.of_foldlM played) (List.isEmpty_iff.mp quiet) blocked row
    (Table.find_mem found) between
  rw [Friend.live, of_decide_eq_true accepted] at dead
  cases dead

end Between

end CircleBackend.Friends
