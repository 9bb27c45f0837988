import CircleBackend.Plaza.Exact

/-!
# Runs of the plaza

`plaza_counts`: the counters are exact in every state, what is closed stays closed, and a signup
ends signed, also where two of one user meet, unless its post is gone by then.
-/

namespace CircleBackend.Plaza

open Library Library.ReadCommitted

variable {s t : State} {id w : TxId} {tx tx' : Tx} {postId : PostId} {post : CirclePost}

/-- No call is under way; the counters are exact. -/
structure Start (s : State) : Prop where
  txs : ∀ id, s.txs id = none
  outcomes : ∀ id, s.outcomes id = none
  posts : ∀ postId, (s.posts postId).pending = none
  signups : ∀ key, (s.signups key).pending = none
  circles : ∀ circleId, (s.circles circleId).pending = none
  knownPosts : ∀ postId, postId ∉ s.postIds → s.posts postId = ⟨none, none⟩
  knownSignups : ∀ key, key ∉ s.signupKeys → s.signups key = ⟨none, none⟩
  distinctPosts : s.postIds.Nodup
  distinctSignups : s.signupKeys.Nodup
  linked : ∀ postId post, (s.posts postId).committed = some post → Linked post
  signupCounts : ∀ postId, s.signupCount postId = s.signed postId
  postCounts : ∀ circleId, s.postCount circleId = s.linked circleId

theorem Start.rows (start : Start s) : Rows s := by
  constructor
  case knownPosts => exact start.knownPosts
  case knownSignups => exact start.knownSignups
  case committed => exact start.linked
  case pending =>
    intro postId id post held
    rw [start.posts] at held
    cases held
  case onward =>
    intro postId id post before held
    rw [start.posts] at held
    cases held
  case unheld =>
    intro id _ postId post held
    rw [start.posts] at held
    cases held
  case signs =>
    intro key id present held
    rw [start.signups] at held
    cases held
  case proper =>
    intro id tx there
    rw [start.txs] at there
    cases there

theorem balanced_of_quiet {κ χ α β : Type} {b : Counted κ χ TxId α β} {owed : TxId → χ → Int}
    (distinct : b.ids.Nodup) (exact' : ∀ c, b.count c = b.total c) (nothing : ∀ id c, owed id c = 0)
    (rows : ∀ k, (b.rows k).pending = none) (counters : ∀ c, (b.counters c).pending = none) :
    b.Balanced owed where
  distinct := distinct
  exact := exact'
  due id c := by
    have counted : b.counted c id = 0 := by
      apply Cell.gain_apart
      intro a held
      rw [counters] at held
      cases held
    have drift : b.drift c id = 0 := by
      apply List.sum_eq_zero
      intro x member
      obtain ⟨k, -, rfl⟩ := List.mem_map.mp member
      apply Cell.gain_apart
      intro a held
      rw [rows] at held
      cases held
    rw [counted, drift, nothing]
    rfl

theorem Start.sound (start : Start s) : Sound s where
  rows := start.rows
  books := by
    constructor
    case signups =>
      apply balanced_of_quiet start.distinctSignups
      case exact' =>
        intro postId
        exact (start.signupCounts postId).trans
          (signed_total s.signupKeys fun key => (s.signups key).committed).symm
      case nothing => exact fun id postId => by simp [State.owed, start.txs]
      case rows => exact start.signups
      case counters => exact start.posts
    case posts =>
      apply balanced_of_quiet start.distinctPosts
      case exact' =>
        intro circleId
        exact (start.postCounts circleId).trans
          (linked_total s.postIds fun postId => (s.posts postId).committed).symm
      case nothing => exact fun id circleId => by simp [State.owed, start.txs]
      case rows => exact start.posts
      case counters => exact start.circles

/-! ## Steps -/

theorem fresh_spec (fresh : tx.fresh = true) :
    tx.Proper s id ∧ tx.owedSignups = 0 ∧ tx.owedPosts = 0 := by
  cases tx with
  | signupForPost call stage =>
    cases of_decide_eq_true fresh
    exact ⟨trivial, rfl, rfl⟩
  | cancelSignup userId postId stage =>
    cases of_decide_eq_true fresh
    exact ⟨trivial, rfl, rfl⟩
  | createPost call stage =>
    obtain ⟨first, nonempty⟩ := (Bool.and_eq_true ..).mp fresh
    cases of_decide_eq_true first
    have nonempty : normalizeCircleIds call.circleIds ≠ [] := of_decide_eq_true nonempty
    exact ⟨nonempty, rfl, rfl⟩
  | deletePost call stage =>
    cases of_decide_eq_true fresh
    exact ⟨trivial, rfl, rfl⟩
  | sweepExpiredPosts now stage =>
    cases of_decide_eq_true fresh
    exact ⟨trivial, rfl, rfl⟩

theorem Sound.begin (sound : Sound s) (new : s.txs id = none) (fresh : tx.fresh = true) :
    Sound (s.goto id tx) ∧ Kept s (s.goto id tx) := by
  have rows := sound.rows
  have spec : tx.Proper (s.goto id tx) id ∧ tx.owedSignups = 0 ∧ tx.owedPosts = 0 := fresh_spec fresh
  have ends : Ends s (s.goto id tx) id := by
    refine ⟨rfl, rfl, .inr ⟨?_, ?_⟩⟩
    · funext postId
      refine (Cell.abort_apart ?_).symm
      apply rows.unheld id
      intro found there
      rw [new] at there
      cases there
    · funext key
      refine (Cell.abort_apart ?_).symm
      intro present held
      obtain ⟨found, there, -⟩ := rows.signs key id present held
      rw [new] at there
      cases there
  have same : ∀ {χ : Type} {f : Tx → χ → Int}, f tx = 0 → (s.goto id tx).owed f = s.owed f := by
    intro χ f nothing
    funext w
    by_cases own : w = id
    · rw [own, owed_self rfl, nothing]
      funext c
      simp [State.owed, new]
    · exact owed_other rfl own
  refine ⟨⟨rows.ends ends rfl ?_, ?_, ?_⟩, ?_⟩
  · intro found own
    cases own
    exact spec.1
  · rw [same spec.2.1]
    exact sound.books.signups
  · rw [same spec.2.2]
    exact sound.books.posts
  · exact {
      signups := fun _ _ absent present => absurd present absent
      closed := fun _ post found _ => ⟨post, found, rfl⟩ }

theorem Sound.step {act : Act} (sound : Sound s) (step : Step s act t) : Sound t ∧ Kept s t := by
  unfold Step at step
  cases act with
  | start id tx =>
    simp only [State.next] at step
    split at step
    case isTrue opens =>
      cases step
      exact sound.begin opens.2.1 opens.1
    case isFalse => cases step
  | turn id =>
    simp only [State.next, State.turn] at step
    obtain ⟨tx, here, step⟩ := Option.bind_eq_some_iff.mp step
    cases tx with
    | signupForPost call stage => exact sound.signupTurn here step
    | cancelSignup userId postId stage => exact sound.cancelTurn here step
    | createPost call stage => exact sound.createTurn here step
    | deletePost call stage => exact sound.deleteTurn here step
    | sweepExpiredPosts now stage => exact sound.sweepTurn here step
  | refuse id =>
    simp only [State.next] at step
    split at step
    case isTrue =>
      cases step
      exact sound.throw id _
    case isFalse => cases step
  | fail id =>
    simp only [State.next] at step
    split at step
    case isTrue =>
      cases step
      exact sound.throw id _
    case isFalse => cases step

/-- A post that is closed keeps its status and gains no signup. -/
structure Settled (s t : State) : Prop where
  status : ∀ postId post, (s.posts postId).committed = some post → post.status ≠ .active →
    ∃ after, (t.posts postId).committed = some after ∧ after.status = post.status
  signups : ∀ postId post userId, (s.posts postId).committed = some post →
    post.status ≠ .active → (s.signups (postId, userId)).committed ≠ some true →
      (t.signups (postId, userId)).committed ≠ some true

theorem Settled.next {u : State} (settled : Settled s t) (kept : Kept t u) : Settled s u where
  status postId post found closed := by
    obtain ⟨after, there, same⟩ := settled.status postId post found closed
    obtain ⟨later, now, same'⟩ := kept.closed postId after there (same ▸ closed)
    exact ⟨later, now, same'.trans same⟩
  signups postId post userId found closed absent := by
    have absent := settled.signups postId post userId found closed absent
    obtain ⟨after, there, same⟩ := settled.status postId post found closed
    intro present
    obtain ⟨⟨before, found', active⟩, -⟩ := kept.signups postId userId absent present
    rw [there] at found'
    cases found'
    exact closed (same.symm.trans active)

theorem Sound.run {acts : List Act} (sound : Sound s) (run : Run Step s acts t) :
    Sound t ∧ Settled s t := by
  induction run with
  | nil => exact ⟨sound, ⟨fun _ post found _ => ⟨post, found, rfl⟩, fun _ _ _ _ _ absent => absent⟩⟩
  | snoc _ last ih =>
    obtain ⟨sound', settled⟩ := ih
    obtain ⟨after, kept⟩ := sound'.step last
    exact ⟨after, settled.next kept⟩

/-! ## How a signup ends -/

def Act.txId : Act → TxId
  | .start id _ | .turn id | .refuse id | .fail id => id

/-- A statement goes on under its id or ends the call. -/
def Moved (s t : State) (id : TxId) : Prop :=
  (∃ tx, t.txs = Function.update s.txs id (some tx) ∧ t.outcomes = s.outcomes) ∨
    ∃ outcome, t.txs = Function.update s.txs id none ∧
      t.outcomes = Function.update s.outcomes id (some outcome)

theorem moved_goto {u : State} (txs : u.txs = s.txs) (outcomes : u.outcomes = s.outcomes) :
    Moved s (u.goto id tx) id :=
  .inl ⟨tx, by rw [← txs]; rfl, outcomes⟩

theorem moved_finish {u : State} {outcome : Outcome} (txs : u.txs = s.txs)
    (outcomes : u.outcomes = s.outcomes) : Moved s (u.finish id outcome) id :=
  .inr ⟨outcome, by rw [← txs]; rfl, by rw [← outcomes]; rfl⟩

theorem turn_moved (step : s.turn id = some t) : Moved s t id := by
  unfold State.turn at step
  obtain ⟨tx, -, step⟩ := Option.bind_eq_some_iff.mp step
  cases tx with
  | signupForPost call stage =>
    cases stage <;> simp only [State.signupTurn] at step <;> repeat' split at step
    all_goals cases step
    all_goals first | exact moved_goto rfl rfl | exact moved_finish rfl rfl
  | cancelSignup userId postId stage =>
    cases stage <;> simp only [State.cancelTurn] at step <;> repeat' split at step
    all_goals cases step
    all_goals first | exact moved_goto rfl rfl | exact moved_finish rfl rfl
  | createPost call stage =>
    rcases stage with _ | ⟨_ | _⟩ | _ <;> simp only [State.createTurn] at step <;>
      repeat' split at step
    all_goals cases step
    all_goals first | exact moved_goto rfl rfl | exact moved_finish rfl rfl
  | deletePost call stage =>
    rcases stage with _ | _ | _ | ⟨_ | _⟩ | _ <;> simp only [State.deleteTurn] at step <;>
      repeat' split at step
    all_goals cases step
    all_goals first | exact moved_goto rfl rfl | exact moved_finish rfl rfl
  | sweepExpiredPosts now stage =>
    rcases stage with _ | _ | ⟨_ | _⟩ | _ <;> simp only [State.sweepTurn] at step <;>
      repeat' split at step
    all_goals cases step
    all_goals first | exact moved_goto rfl rfl | exact moved_finish rfl rfl

theorem step_moved {act : Act} (step : Step s act t) : Moved s t act.txId := by
  unfold Step at step
  cases act with
  | start id tx =>
    simp only [State.next] at step
    split at step
    case isTrue =>
      cases step
      exact moved_goto rfl rfl
    case isFalse => cases step
  | turn id => exact turn_moved step
  | refuse id | fail id =>
    simp only [State.next] at step
    split at step
    case isTrue =>
      cases step
      exact moved_finish rfl rfl
    case isFalse => cases step

/-- What a signup may end with. -/
def Answered (s : State) (act : Act) (id : TxId) (call : SignupCall) : Outcome → Prop
  | .signup signed _ => signed = true
  | .threw .postNotFound => ∀ post, (s.posts call.postId).view id = some post →
      post.activeUnexpired call.now = false
  | .threw .signupSelf => ∃ post, (s.posts call.postId).view id = some post ∧
      post.authorID = call.userId
  | .threw .refused => act = .refuse id
  | .threw .failed => act = .fail id
  | .done | .threw .deleteAuthorOnly => False

/-- It goes on or has its answer. -/
def Goes (s t : State) (act : Act) (id : TxId) (call : SignupCall) : Prop :=
  (∃ stage, t.txs id = some (.signupForPost call stage)) ∨
    ∃ outcome, t.txs id = none ∧ t.outcomes id = some outcome ∧ Answered s act id call outcome

section Goes

variable {call : SignupCall} {act : Act} {stage : SignupStage} {u : State} {outcome : Outcome}

theorem goes_goto : Goes s (u.goto id (.signupForPost call stage)) act id call :=
  .inl ⟨stage, Function.update_self ..⟩

theorem goes_finish (answered : Answered s act id call outcome) :
    Goes s (u.finish id outcome) act id call :=
  .inr ⟨outcome, Function.update_self .., Function.update_self .., answered⟩

/-- A look at the post that finds none, or one that is over. -/
theorem goes_gone
    (gone : ((s.posts call.postId).view id).any (·.activeUnexpired call.now) = false) :
    Goes s (s.throw id .postNotFound) act id call :=
  goes_finish fun post seen => by simpa [seen] using gone

theorem signupTurn_goes (step : s.signupTurn id call stage = some t) : Goes s t act id call := by
  cases stage with
  | findPost =>
    simp only [State.signupTurn] at step
    split at step
    case h_1 post seen =>
      split at step
      case isTrue =>
        split at step
        case isTrue own =>
          cases step
          exact goes_finish ⟨post, seen, own⟩
        case isFalse =>
          cases step
          exact goes_goto
      case isFalse past =>
        cases step
        exact goes_gone (by simpa [seen] using past)
    case h_2 unseen =>
      cases step
      exact goes_gone (by simp [unseen])
  | findExisting n =>
    simp only [State.signupTurn] at step
    split at step
    · cases step
      exact goes_finish rfl
    · cases step
      exact goes_goto
  | create =>
    simp only [State.signupTurn] at step
    split at step
    case isFalse => cases step
    case isTrue =>
      split at step
      · cases step
        exact goes_goto
      · cases step
        exact goes_goto
  | count =>
    simp only [State.signupTurn] at step
    split at step
    case h_1 post seen =>
      split at step
      case isTrue =>
        split at step
        case isTrue =>
          cases step
          exact goes_goto
        case isFalse => cases step
      case isFalse past =>
        cases step
        exact goes_gone (by simpa [seen] using past)
    case h_2 unseen =>
      cases step
      exact goes_gone (by simp [unseen])
  | commit n | findCurrent =>
    cases step
    exact goes_finish rfl

theorem step_goes (here : s.txs id = some (.signupForPost call stage)) (step : Step s act t) :
    Goes s t act id call := by
  by_cases own : act.txId = id
  · cases act with
    | start other tx =>
      simp only [Step, State.next] at step
      split at step
      case isTrue opens =>
        rw [show other = id from own, here] at opens
        cases opens.2.1
      case isFalse => cases step
    | turn other =>
      have own : other = id := own
      rw [own] at step
      simp only [Step, State.next, State.turn, here] at step
      exact signupTurn_goes step
    | refuse other =>
      cases own
      simp only [Step, State.next] at step
      split at step
      case isTrue =>
        cases step
        have answered : Answered s (.refuse other) other call (.threw .refused) := rfl
        exact goes_finish answered
      case isFalse => cases step
    | fail other =>
      cases own
      simp only [Step, State.next] at step
      split at step
      case isTrue =>
        cases step
        have answered : Answered s (.fail other) other call (.threw .failed) := rfl
        exact goes_finish answered
      case isFalse => cases step
  · have txs : t.txs id = s.txs id := by
      obtain ⟨tx, txs, -⟩ | ⟨outcome, txs, -⟩ := step_moved step
      · rw [txs, Function.update_of_ne (Ne.symm own)]
      · rw [txs, Function.update_of_ne (Ne.symm own)]
    exact .inl ⟨stage, txs.trans here⟩

/-- How many statements are left. -/
def SignupStage.left : SignupStage → Nat
  | .findPost => 5
  | .findExisting _ => 4
  | .create => 3
  | .count => 2
  | .commit _ | .findCurrent => 1

/-- No other call holds the rows that the signup writes. -/
def Unblocked (s : State) (id : TxId) (call : SignupCall) : Prop :=
  (s.posts call.postId).Free id ∧ (s.signups (call.postId, call.userId)).Free id

theorem free_write {α : Type} {c : Cell TxId α} {a : α} : (c.write id a).Free id := by
  intro w held
  cases held
  rfl

theorem free_abort {α : Type} {c : Cell TxId α} (free : c.Free id) : (c.abort id).Free id := by
  intro w held
  exact free w (Cell.pending_abort held).1

/-- A statement that nobody blocks runs. -/
theorem signupTurn_runs (unblocked : Unblocked s id call) :
    ∃ t, s.signupTurn id call stage = some t ∧ (t.txs id = none ∨
      ∃ stage', t.txs id = some (.signupForPost call stage') ∧ stage'.left < stage.left ∧
        Unblocked t id call) := by
  obtain ⟨post, key⟩ := unblocked
  cases stage with
  | findPost =>
    simp only [State.signupTurn]
    split
    · split
      · split
        · exact ⟨_, rfl, .inl (Function.update_self ..)⟩
        · exact ⟨_, rfl, .inr ⟨_, Function.update_self .., Nat.lt_succ_self _, post, key⟩⟩
      · exact ⟨_, rfl, .inl (Function.update_self ..)⟩
    · exact ⟨_, rfl, .inl (Function.update_self ..)⟩
  | findExisting n =>
    simp only [State.signupTurn]
    split
    · exact ⟨_, rfl, .inl (Function.update_self ..)⟩
    · exact ⟨_, rfl, .inr ⟨_, Function.update_self .., Nat.lt_succ_self _, post, key⟩⟩
  | create =>
    simp only [State.signupTurn, if_pos key]
    split
    · exact ⟨_, rfl, .inr ⟨.findCurrent, Function.update_self .., by decide, free_abort post,
        free_abort key⟩⟩
    · refine ⟨_, rfl, .inr ⟨_, Function.update_self .., by decide, post, ?_⟩⟩
      show (Function.update s.signups _ _ _).Free id
      rw [Function.update_self]
      exact free_write
  | count =>
    simp only [State.signupTurn, if_pos post]
    split
    · split
      · refine ⟨_, rfl, .inr ⟨_, Function.update_self .., Nat.lt_succ_self 1, ?_, key⟩⟩
        show (Function.update s.posts _ _ _).Free id
        rw [Function.update_self]
        exact free_write
      · exact ⟨_, rfl, .inl (Function.update_self ..)⟩
    · exact ⟨_, rfl, .inl (Function.update_self ..)⟩
  | commit n | findCurrent => exact ⟨_, rfl, .inl (Function.update_self ..)⟩

theorem signup_ends (here : s.txs id = some (.signupForPost call stage))
    (unblocked : Unblocked s id call) :
    ∃ n t, Run Step s (List.replicate n (.turn id)) t ∧ t.txs id = none := by
  induction turns : stage.left using Nat.strong_induction_on generalizing s stage with
  | _ left ih =>
    obtain ⟨t, turn, next⟩ := @signupTurn_runs s id call stage unblocked
    have step : Step s (.turn id) t := by
      simp only [Step, State.next, State.turn, here]
      exact turn
    rcases next with ends | ⟨stage', there, fewer, unblocked'⟩
    · exact ⟨1, t, Run.single step, ends⟩
    · obtain ⟨n, u, run, ends⟩ := ih stage'.left (turns ▸ fewer) there unblocked' rfl
      exact ⟨n + 1, u, Run.cons step run, ends⟩

end Goes

/-- Statement by statement, by any calls: the counters are exact, what is closed stays closed, and
a signup that nobody blocks ends, signed unless its post is gone. -/
theorem plaza_counts {s₀ : State} {acts : List Act} (start : Start s₀)
    (run : Run Step s₀ acts s) :
    (s.signupKeys.Nodup ∧ ∀ postId, s.signupCount postId = s.signed postId) ∧
      (s.postIds.Nodup ∧ ∀ circleId, s.postCount circleId = s.linked circleId) ∧
      (∀ more t, Run Step s more t → Settled s t) ∧
      (∀ act t id call stage, Step s act t → s.txs id = some (.signupForPost call stage) →
        Goes s t act id call) ∧
      ∀ id call stage, s.txs id = some (.signupForPost call stage) → Unblocked s id call →
        ∃ n t, Run Step s (List.replicate n (.turn id)) t ∧ t.txs id = none := by
  have sound := (start.sound.run run).1
  refine ⟨⟨sound.books.signups.distinct, sound.books.exact.1⟩,
    ⟨sound.books.posts.distinct, sound.books.exact.2⟩, ?_, ?_, ?_⟩
  · intro more t onward
    exact (sound.run onward).2
  · intro act t id call stage step here
    exact step_goes here step
  · intro id call stage here unblocked
    exact signup_ends here unblocked

def noPosts : State where
  postIds := []
  posts _ := ⟨none, none⟩
  signupKeys := []
  signups _ := ⟨none, none⟩
  circles _ := ⟨some 0, none⟩
  txs _ := none
  outcomes _ := none
  sweeper := none

theorem noPosts_start : Start noPosts where
  txs _ := rfl
  outcomes _ := rfl
  posts _ := rfl
  signups _ := rfl
  circles _ := rfl
  knownPosts _ _ := rfl
  knownSignups _ _ := rfl
  distinctPosts := List.nodup_nil
  distinctSignups := List.nodup_nil
  linked _ _ found := by cases found
  signupCounts _ := rfl
  postCounts _ := rfl

def turns (id : TxId) (n : Nat) : List Act := List.replicate n (.turn id)

/-- User 5 signs up twice at once, and user 6 while the post is deleted. -/
def twoTaps : List Act :=
  .start 0 (.createPost ⟨1, 7, [1, 2, 1], 0, 100⟩ .create) :: turns 0 5 ++
    .start 1 (.signupForPost ⟨5, 7, 10⟩ .findPost) :: turns 1 2 ++
    .start 2 (.signupForPost ⟨5, 7, 10⟩ .findPost) :: turns 2 2 ++ turns 1 3 ++ turns 2 2 ++
    .start 3 (.signupForPost ⟨6, 7, 20⟩ .findPost) :: turns 3 3 ++
    .start 4 (.deletePost ⟨1, 7, 20⟩ .findPost) :: turns 4 7 ++ [.turn 3]

theorem plaza_counts_twoTaps : ∃ s, Run Step noPosts twoTaps s ∧ s.signupCount 7 = s.signed 7 ∧
    s.signed 7 = 1 ∧ s.postCount 1 = s.linked 1 ∧ s.linked 1 = 0 ∧
    s.outcomes 1 = some (.signup true 1) ∧ s.outcomes 2 = some (.signup true 1) ∧
    s.outcomes 3 = some (.threw .postNotFound) := by
  have played : twoTaps.foldlM State.next noPosts = some _ := rfl
  have counts := plaza_counts noPosts_start (Run.of_foldlM played)
  exact ⟨_, Run.of_foldlM played, counts.1.2 7, by decide, counts.2.1.2 1, by decide, by decide,
    by decide, by decide⟩

end CircleBackend.Plaza
