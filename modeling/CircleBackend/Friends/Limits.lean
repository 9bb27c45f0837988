import CircleBackend.Friends.Blocks

/-!
# The friend limit

A request counts the friends of its sender when it is sent, an acceptance those of its
recipient before it begins its transaction. The limit of both holds where both have room
when the acceptance is committed (`limits_hold`); requests that are still open are not
counted.
-/

namespace CircleBackend.Friends

open Library
open Session (UserId)

section Limits

variable {roles : UserId → Role} {s t : State} {act : Act}

def Friend.friendOf (row : Friend) (id : UserId) : Bool := row.of id && row.state = .accepted

/-- An acceptance is committed only where both have room for a friend. -/
def Room (roles : UserId → Role) (s : State) : Act → Prop
  | .step c _ => ∀ call recipientId id row, s.calls.find c = some call →
    call.op = .handle recipientId id .accepted .commit → s.friends.find id = some row →
      s.belowLimit roles row.userID = true ∧ s.belowLimit roles row.friendID = true
  | _ => True

def WithinLimits (roles : UserId → Role) (s : State) : Prop :=
  ∀ id, s.friendCount id ≤ friendLimit (roles id)

theorem count_put {id : UserId} {row : Friend} (row' : Friend)
    (found : s.friends.find row.id = some row) (own : row'.id = row.id) (none' : row'.friendOf id = false) :
    (s.friends.put row').count (·.friendOf id) ≤ s.friendCount id := by
  refine Table.count_le fun k row'' after counted => ?_
  rw [Table.find_put_own found own] at after
  split at after
  · cases after
    rw [none'] at counted
    cases counted
  · exact ⟨row'', after, counted⟩

theorem count_put_succ {row : Friend} (row' : Friend) (id : UserId)
    (found : s.friends.find row.id = some row) (own : row'.id = row.id) :
    (s.friends.put row').count (·.friendOf id) ≤ s.friendCount id + 1 := by
  refine Table.count_le_succ row.id fun k row'' apart after counted => ?_
  rw [Table.find_put_own found own, if_neg apart] at after
  exact ⟨row'', after, counted⟩

theorem count_deleted (p : Friend → Bool) (id : UserId) :
    (s.friends.deleteMany p).count (·.friendOf id) ≤ s.friendCount id := by
  refine Table.count_le fun k row after counted => ?_
  rw [Table.find_deleteMany] at after
  exact ⟨row, (Option.filter_eq_some_iff.mp after).1, counted⟩

theorem limits_step (within : WithinLimits roles s) (step : Step roles s act t)
    (room : Room roles s act) : WithinLimits roles t := by
  unfold Step State.next at step
  cases act with
  | start c op =>
    dsimp only at step
    split at step
    · obtain ⟨calls, -, rfl⟩ := Option.map_eq_some_iff.mp step
      exact within
    · cases step
  | abort c | unblock a b | setActive id active =>
    cases step
    exact within
  | step c fresh =>
    obtain ⟨call, calling, step⟩ := Option.bind_eq_some_iff.mp step
    cases call_step step with
    | goes | finds | ends | appended => exact within
    | @sent a b id friends stage inserted =>
      intro u
      refine Nat.le_trans (Table.count_le fun k row after counted => ?_) (within u)
      rw [Table.find_insert inserted] at after
      split at after
      · cases after
        simp at counted
      · exact ⟨row, after, counted⟩
    | @decided recipientId id decision row stage found =>
      intro u
      have own : s.friends.find row.id = some row := Table.mem_find (Table.find_mem found)
      by_cases gains : ({ row with state := decision.state } : Friend).friendOf u = true
      · simp only [Friend.friendOf, Bool.and_eq_true, decide_eq_true_eq] at gains
        obtain ⟨side, accepted⟩ := gains
        have accepted : decision = .accepted := by
          cases decision with
          | accepted => rfl
          | rejected => cases accepted
        subst accepted
        have below : s.friendCount u < friendLimit (roles u) := by
          obtain ⟨first, second⟩ := room call recipientId id row calling stage found
          simp only [Friend.of, Bool.or_eq_true, decide_eq_true_eq] at side
          rcases side with rfl | rfl
          · exact of_decide_eq_true first
          · exact of_decide_eq_true second
        exact Nat.le_trans (count_put_succ _ u own rfl) below
      · exact Nat.le_trans (count_put _ own rfl (Bool.not_eq_true _ ▸ gains)) (within u)
    | @withdrawn senderId id row stage found =>
      intro u
      have own : s.friends.find row.id = some row := Table.mem_find (Table.find_mem found)
      exact Nat.le_trans (count_put _ own rfl (by simp [Friend.friendOf])) (within u)
    | blocked | removed => exact fun u => Nat.le_trans (count_deleted _ u) (within u)

/-- Where acceptances are committed only with room on both sides, nobody has more friends
than his limit. -/
theorem limits_hold {acts : List Act}
    (run : Run (Run.Where (Step roles) (Room roles)) .empty acts s) (id : UserId) :
    s.friendCount id ≤ friendLimit (roles id) := by
  have within : WithinLimits roles s := by
    refine run.preserves_where (I := fun _ => True) (P := WithinLimits roles) ?_ ?_ trivial ?_
    · exact fun _ _ _ _ _ => trivial
    · exact fun s act t step room _ within => limits_step within step room
    · exact fun _ => Nat.zero_le _
  exact within id

/-! ### Runs -/

def rooms (roles : UserId → Role) (s : State) : Act → Bool
  | .step c _ => (s.calls.find c).all fun call =>
    match call.op with
    | .handle _ id .accepted .commit =>
      (s.friends.find id).all fun row => s.belowLimit roles row.userID && s.belowLimit roles row.friendID
    | _ => true
  | _ => true

theorem rooms_room (h : rooms roles s act = true) : Room roles s act := by
  cases act with
  | step c fresh =>
    intro call recipientId id row found op there
    rw [rooms, found] at h
    dsimp only [Option.all] at h
    rw [op] at h
    dsimp only at h
    rw [there] at h
    exact Bool.and_eq_true _ _ ▸ h
  | _ => trivial

def accepted : List Act :=
  [.setActive 1 true, .setActive 2 true, .start 1 (.send 1 2 .target)] ++ steps 1 7 ++
    .start 3 (.handle 2 1 .accepted .read) :: steps 3 7

theorem accepted_play : ((accepted.foldlM (Run.whenever (rooms users) (State.next users)) .empty).any
    fun s => s.friendCount 1 = 1) = true := by
  decide +kernel

theorem limits_hold_accepted : ∃ s, Run (Run.Where (Step users) (Room users)) .empty accepted s ∧
    s.friendCount 1 = 1 ∧ s.friendCount 2 ≤ friendLimit (users 2) := by
  obtain ⟨s, played, count⟩ := (Option.any_eq_true _ _).mp accepted_play
  have run : Run (Run.Where (Step users) (Room users)) .empty accepted s :=
    (Run.where_of_foldlM played).mono fun _ _ _ h => ⟨h.1, rooms_room h.2⟩
  exact ⟨s, run, of_decide_eq_true count, limits_hold run 2⟩

end Limits

/-! ### One call after another -/

section Sequential

variable {roles : UserId → Role} {c : CallId} {op op' : Op}

/-- A state with one call. -/
def State.solo (s : State) (c : CallId) (op : Op) : State :=
  { s with calls := ⟨[⟨c, op⟩], List.nodup_singleton _⟩ }

/-- A state with none. -/
def State.idle (s : State) : State := { s with calls := .empty }

theorem solo_find (s : State) : (s.solo c op).calls.find c = some ⟨c, op⟩ := by
  simp [State.solo, Table.find]

theorem solo_goto (s : State) : (s.solo c op).goto c op' = s.solo c op' := by
  simp [State.solo, State.goto, Table.put]

theorem solo_finish (s : State) : (s.solo c op).finish c = s.idle := by
  simp [State.solo, State.finish, State.idle, Table.deleteMany, Table.empty]

theorem solo_free (s : State) (lock : Lock) : (s.solo c op).free c lock = true := by
  simp [State.solo, State.free]

theorem solo_unlocked (s : State) (id : RequestId) : (s.solo c op).unlocked c id = true := by
  simp [State.solo, State.unlocked]

theorem solo_start (s : State) (c : CallId) (starts : op.starts = true) :
    Step roles s.idle (.start c op) (s.solo c op) := by
  simp [Step, State.next, starts, State.idle, State.solo, Table.insert, Table.empty]

theorem solo_step {t : State} {fresh : RequestId} (s : State)
    (next : op.next roles (s.solo c op) c fresh = some t) :
    Step roles (s.solo c op) (.step c fresh) t := by
  rw [Step, State.next, solo_find]
  exact next

theorem solo_check (s : State) {test : Bool} (holds : test = true) :
    (s.solo c op).check c test op' = s.solo c op' := by
  rw [State.check, if_pos holds, solo_goto]

theorem solo_acquire (s : State) (lock : Lock) :
    (s.solo c op).acquire c lock op' = some (s.solo c op') := by
  rw [State.acquire, if_pos (solo_free s lock), solo_goto]

/-- A request that nothing refuses. -/
theorem send_run {a b : UserId} {id : RequestId} {friends : Table Friend RequestId (·.id)}
    (s : State) (c : CallId) (apart : a ≠ b) (active : s.active b = true)
    (unblocked : s.blocked a b = false) (below : s.belowLimit roles a = true)
    (none' : (s.friends.rows.any fun row => row.between a b && row.live) = false)
    (inserted : s.friends.insert { id := id, userID := a, friendID := b, state := .pending } =
      some friends) : ∃ acts, Run (Step roles) s.idle acts { s.idle with friends := friends } := by
  have step (stage stage' : Sending)
      (next : stage.next roles (s.solo c (.send a b stage)) c id a b =
        some (s.solo c (.send a b stage'))) :
      Step roles (s.solo c (.send a b stage)) (.step c id) (s.solo c (.send a b stage')) :=
    solo_step s next
  have last : Step roles (s.solo c (.send a b (.commit id))) (.step c id)
      { s.idle with friends := friends } := by
    refine solo_step s ?_
    dsimp only [Op.next, Sending.next]
    rw [solo_finish, show (s.solo c (.send a b (.commit id))).friends = s.friends from rfl, inserted]
  have first : Step roles s.idle (.start c (.send a b .target)) (s.solo c (.send a b .target)) :=
    solo_start s c (decide_eq_true apart)
  refine ⟨_, .cons first (.cons (step .target .blocks ?_)
    (.cons (step .blocks .limit ?_) (.cons (step .limit .lock ?_) (.cons (step .lock .find ?_)
      (.cons (step .find .create ?_) (.cons (step .create (.commit id) ?_) (.single last)))))))⟩
  · exact congrArg some (solo_check s active)
  · refine congrArg some (solo_check s ?_)
    rw [show (s.solo c (.send a b .blocks)).blocked a b = s.blocked a b from rfl, unblocked]
    rfl
  · exact congrArg some (solo_check s below)
  · exact solo_acquire s _
  · refine congrArg some (solo_check s ?_)
    rw [show (s.solo c (.send a b .find)).friends = s.friends from rfl, none']
    rfl
  · exact congrArg some (solo_goto s)

/-- A request that is accepted. -/
theorem accept_run {row : Friend} (s : State) (c : CallId)
    (found : s.friends.find row.id = some row) (pending : row.state = .pending)
    (active : s.active row.userID = true) (below : s.belowLimit roles row.friendID = true) :
    ∃ acts, Run (Step roles) s.idle acts
      { s.idle with friends := s.friends.put { row with state := .accepted } } := by
  let handle (stage : Handling) : Op := .handle row.friendID row.id .accepted stage
  have mine : row.pendingFor row.friendID = true := by simp [Friend.pendingFor, pending]
  have any (stage : Handling) :
      (((s.solo c (handle stage)).friends.find row.id).any (·.pendingFor row.friendID)) = true := by
    rw [show (s.solo c (handle stage)).friends = s.friends from rfl, found]
    exact mine
  have step (stage stage' : Handling)
      (next : stage.next roles (s.solo c (handle stage)) c row.friendID row.id .accepted =
        some (s.solo c (handle stage'))) :
      Step roles (s.solo c (handle stage)) (.step c 0) (s.solo c (handle stage')) :=
    solo_step s next
  have last : Step roles (s.solo c (handle .commit)) (.step c 0)
      { s.idle with friends := s.friends.put { row with state := .accepted } } := by
    refine solo_step s ?_
    dsimp only [handle, Op.next, Handling.next]
    rw [solo_finish, show (s.solo c _).friends = s.friends from rfl, found]
    rfl
  refine ⟨_, .cons (solo_start s c rfl) (.cons (step .read (.sender row.userID) ?_)
    (.cons (step (.sender row.userID) .limit ?_) (.cons (step .limit .lock ?_)
      (.cons (step .lock .check ?_) (.cons (step .check .update ?_)
        (.cons (step .update .commit ?_) (.single last)))))))⟩
  · dsimp only [Handling.next]
    rw [show (s.solo c (handle .read)).friends = s.friends from rfl, found, Option.filter_some,
      if_pos mine]
    exact congrArg some (solo_goto s)
  · exact congrArg some (solo_check s active)
  · exact congrArg some (solo_check s below)
  · exact solo_acquire s _
  · exact congrArg some (solo_check s (any .check))
  · dsimp only [Handling.next]
    rw [if_pos (solo_unlocked s row.id)]
    exact congrArg some (solo_check s (any .update))

/-- Requests of user 0 to the users 1, …, of which the first ones have been accepted. -/
def row (accepted i : Nat) : Friend :=
  ⟨i, 0, i + 1, if i < accepted then .accepted else .pending⟩

def rows (sent accepted : Nat) : Table Friend RequestId (·.id) where
  rows := (List.range sent).map (row accepted)
  unique := by
    rw [List.map_map]
    have same : (fun f : Friend => f.id) ∘ row accepted = id := rfl
    rw [same, List.map_id]
    exact List.nodup_range

def known (sent accepted : Nat) : State where
  active := fun id => id ≤ sent
  friends := rows sent accepted
  blocks := []
  messages := []
  calls := .empty

theorem row_accepted {accepted i : Nat} : (row accepted i).state = .accepted ↔ i < accepted := by
  unfold row
  dsimp only
  split
  · rename_i below
    exact iff_of_true rfl below
  · rename_i above
    exact iff_of_false nofun above

theorem row_of {accepted i id : Nat} : (row accepted i).of id = true ↔ id = 0 ∨ id = i + 1 := by
  simp only [Friend.of, Bool.or_eq_true, decide_eq_true_eq]
  exact or_congr eq_comm eq_comm

theorem row_later {accepted i : Nat} (other : i ≠ accepted) :
    row accepted i = row (accepted + 1) i := by
  unfold row
  congr 1
  by_cases below : i < accepted
  · rw [if_pos below, if_pos (by omega)]
  · rw [if_neg below, if_neg (by omega)]

theorem rows_find {sent accepted i : Nat} (h : i < sent) :
    (rows sent accepted).find i = some (row accepted i) := by
  refine Table.find_eq_some.mpr ⟨?_, rfl⟩
  exact List.mem_map_of_mem (List.mem_range.mpr h)

theorem rows_count_own (sent accepted id : Nat) (open' : accepted < id) :
    (rows sent accepted).count (fun row => row.of id && row.state = .accepted) = 0 := by
  rw [Table.count, List.countP_eq_zero]
  intro r member counted
  obtain ⟨i, -, rfl⟩ := List.mem_map.mp member
  simp only [Bool.and_eq_true, decide_eq_true_eq, row_of, row_accepted] at counted
  omega

theorem rows_count_zero (sent : Nat) :
    (rows sent 0).count (fun row => row.of 0 && row.state = .accepted) = 0 := by
  rw [Table.count, List.countP_eq_zero]
  intro r member counted
  obtain ⟨i, -, rfl⟩ := List.mem_map.mp member
  simp only [Bool.and_eq_true, decide_eq_true_eq, row_accepted] at counted
  omega

theorem rows_insert (sent : Nat) :
    (rows sent 0).insert (row 0 sent) = some (rows (sent + 1) 0) := by
  have fresh : (rows sent 0).find sent = none := by
    rw [Table.find_eq_none]
    intro r member own
    obtain ⟨i, inside, rfl⟩ := List.mem_map.mp member
    have below := List.mem_range.mp inside
    have same : i = sent := own
    omega
  have fresh : (rows sent 0).find (row 0 sent).id = none := fresh
  obtain ⟨u, inserted⟩ := Table.insert_of_fresh fresh
  rw [inserted]
  have rows' := Table.insert_rows inserted
  cases u with
  | mk us unique =>
    dsimp only at rows'
    subst rows'
    simp [rows, List.range_succ]

theorem rows_put {sent accepted : Nat} :
    (rows sent accepted).put { row accepted accepted with state := .accepted } =
      rows sent (accepted + 1) := by
  simp only [rows, Table.put, List.map_map]
  congr 1
  refine List.map_congr_left fun i _ => ?_
  dsimp only [Function.comp_apply]
  by_cases here : i = accepted
  · subst here
    simp [row]
  · rw [← row_later here]
    split
    · rename_i own
      exact absurd own here
    · rfl

theorem below_limit {s : State} {id : UserId} (none' : s.friendCount id = 0) :
    s.belowLimit users id = true := by
  rw [State.belowLimit, none']
  rfl

/-- User 0 sends any number of requests, one after another. -/
theorem sends (sent : Nat) : ∃ acts, Run (Step users) .empty acts (known sent 0) := by
  induction sent with
  | zero =>
    refine ⟨[.setActive 0 true], .single ?_⟩
    simp only [Step, State.next, Option.some.injEq]
    have active : Function.update State.empty.active 0 true = (known 0 0).active := by
      funext id
      by_cases zero : id = 0
      · subst zero
        rfl
      · rw [Function.update_of_ne zero]
        exact (decide_eq_false (Nat.not_le.mpr (Nat.pos_of_ne_zero zero))).symm
    rw [active]
    rfl
  | succ sent ih =>
    obtain ⟨acts, run⟩ := ih
    let s : State := { known sent 0 with active := (known (sent + 1) 0).active }
    have registered : Step users (known sent 0) (.setActive (sent + 1) true) s := by
      simp only [Step, State.next, Option.some.injEq]
      have active : Function.update (known sent 0).active (sent + 1) true =
          (known (sent + 1) 0).active := by
        funext id
        by_cases new : id = sent + 1
        · subst new
          simp [known]
        · rw [Function.update_of_ne new]
          refine decide_eq_decide.mpr ⟨Nat.le_succ_of_le, fun h => ?_⟩
          exact Nat.le_of_lt_succ (Nat.lt_of_le_of_ne h new)
      rw [active]
    have none' : (s.friends.rows.any fun r => r.between 0 (sent + 1) && r.live) = false := by
      refine List.any_eq_false.mpr fun r member between => ?_
      obtain ⟨i, inside, rfl⟩ := List.mem_map.mp member
      have below := List.mem_range.mp inside
      simp only [Friend.between, Bool.and_eq_true, Bool.or_eq_true, decide_eq_true_eq] at between
      rcases between.1 with ⟨-, same⟩ | ⟨same, -⟩
      · exact absurd (Nat.succ.inj same) (Nat.ne_of_lt below)
      · cases same
    have sending : ∃ acts, Run (Step users) s.idle acts
        { s.idle with friends := rows (sent + 1) 0 } :=
      send_run s 0 (Nat.succ_ne_zero sent).symm (decide_eq_true (Nat.le_refl _)) rfl
        (below_limit (rows_count_zero sent)) none' (rows_insert sent)
    obtain ⟨acts', sent'⟩ := sending
    exact ⟨_, (run.snoc registered).append sent'⟩

/-- And then they are accepted. -/
theorem accepts (sent accepted : Nat) (within : accepted ≤ sent) :
    ∃ acts, Run (Step users) .empty acts (known sent accepted) := by
  induction accepted with
  | zero => exact sends sent
  | succ accepted ih =>
    obtain ⟨acts, run⟩ := ih (by omega)
    have found : (rows sent accepted).find (row accepted accepted).id =
        some (row accepted accepted) := rows_find (show accepted < sent by omega)
    have pending : (row accepted accepted).state = .pending := by simp [row]
    have below := below_limit (s := known sent accepted)
      (rows_count_own sent accepted (accepted + 1) (by omega))
    have active : (known sent accepted).active (row accepted accepted).userID = true :=
      decide_eq_true (Nat.zero_le sent)
    have accepting : ∃ acts, Run (Step users) (known sent accepted).idle acts
        { (known sent accepted).idle with
          friends := (rows sent accepted).put { row accepted accepted with state := .accepted } } :=
      accept_run (known sent accepted) 0 found pending active below
    obtain ⟨acts', accepted'⟩ := accepting
    rw [rows_put] at accepted'
    exact ⟨_, run.append accepted'⟩

theorem friends_of_all (n : Nat) : (known n n).friendCount 0 = n := by
  rw [State.friendCount, Table.count, List.countP_eq_length.mpr]
  · rw [show (known n n).friends.rows = (List.range n).map (row n) from rfl, List.length_map,
      List.length_range]
  · intro r member
    obtain ⟨i, inside, rfl⟩ := List.mem_map.mp member
    have below := List.mem_range.mp inside
    simp only [Bool.and_eq_true, decide_eq_true_eq, row_of, row_accepted]
    exact ⟨.inl trivial, below⟩

/-- One request more than the limit, sent one after another and then accepted. -/
theorem limit_exceeded : ¬ ∀ (acts : List Act) (s : State) (id : UserId),
    Run (Step users) .empty acts s → s.friendCount id ≤ friendLimit (users id) := by
  intro within
  obtain ⟨acts, run⟩ := accepts 1001 1001 (Nat.le_refl _)
  have bound := within acts _ 0 run
  rw [friends_of_all] at bound
  simp [friendLimit, users, friendLimitUser] at bound

end Sequential

end CircleBackend.Friends
