import CircleBackend.Plaza.Rows

/-!
# The counters of the plaza

A signup is owed to the counter of its post until the statement after it, a post to the counters
of its circles until each of them has been moved. `plaza_counts` puts the counters, what a step
may do to a closed post and how a signup ends together.
-/

namespace CircleBackend.Plaza

open Library Library.ReadCommitted

/-! ## The books -/

def signupWeight (postId : PostId) (key : PostId × UserId) (present : Option Bool) : Int :=
  if key.1 = postId ∧ present = some true then 1 else 0

def signupValue (post : Option CirclePost) : Int := (post.map CirclePost.signupCount).getD 0

def postWeight (circleId : CircleId) (_ : PostId) (post : Option CirclePost) : Int :=
  if post.any fun post => post.status ≠ .deleted && circleId ∈ post.links then 1 else 0

def postValue (postCount : Option Int) : Int := postCount.getD 0

def State.signupBook (s : State) : Counted (PostId × UserId) PostId TxId Bool CirclePost :=
  ⟨s.signupKeys, s.signups, s.posts, signupWeight, signupValue⟩

def State.postBook (s : State) : Counted PostId CircleId TxId CirclePost Int :=
  ⟨s.postIds, s.posts, s.circles, postWeight, postValue⟩

def Tx.owedSignups : Tx → PostId → Int
  | .signupForPost call .count, postId => if call.postId = postId then 1 else 0
  | .cancelSignup _ own .decrement, postId => if own = postId then -1 else 0
  | _, _ => 0

def Tx.owedPosts : Tx → CircleId → Int
  | .createPost _ (.count left), circleId => (left.count circleId : Nat)
  | .deletePost _ (.decrement left), circleId => -(left.count circleId : Nat)
  | _, _ => 0

def State.owed {χ : Type} (s : State) (f : Tx → χ → Int) (id : TxId) (c : χ) : Int :=
  match s.txs id with
  | some tx => f tx c
  | none => 0

structure Books (s : State) : Prop where
  signups : s.signupBook.Balanced (s.owed Tx.owedSignups)
  posts : s.postBook.Balanced (s.owed Tx.owedPosts)

structure Sound (s : State) : Prop where
  rows : Rows s
  books : Books s

variable {s t : State} {id w : TxId} {tx tx' : Tx} {postId : PostId} {post : CirclePost}

section Owed

variable {χ : Type} {f : Tx → χ → Int} {next : Option Tx}

theorem owed_of (here : s.txs id = some tx) : s.owed f id = f tx := by
  funext c
  simp [State.owed, here]

theorem owed_self (txs : t.txs = Function.update s.txs id (some tx)) : t.owed f id = f tx :=
  owed_of (by rw [txs, Function.update_self])

theorem owed_other (txs : t.txs = Function.update s.txs id next) (other : w ≠ id) :
    t.owed f w = s.owed f w := by
  funext c
  simp [State.owed, txs, Function.update_of_ne other]

theorem owed_none (txs : t.txs = Function.update s.txs id none) : t.owed f id = 0 := by
  funext c
  simp [State.owed, txs]

/-- A transaction that goes on owing what it owed. -/
theorem owed_same (here : s.txs id = some tx) (txs : t.txs = Function.update s.txs id (some tx'))
    (same : f tx' = f tx) : t.owed f = s.owed f := by
  funext w
  by_cases own : w = id
  · rw [own, owed_self txs, owed_of here, same]
  · exact owed_other txs own

end Owed

theorem signed_total (keys : List (PostId × UserId)) (signups : PostId × UserId → Option Bool) :
    (keys.map fun key => signupWeight postId key (signups key)).sum =
      (keys.countP fun key => key.1 = postId ∧ signups key = some true : Nat) := by
  induction keys with
  | nil => rfl
  | cons key keys ih =>
    rw [List.map_cons, List.sum_cons, ih, List.countP_cons]
    unfold signupWeight
    by_cases own : key.1 = postId ∧ signups key = some true
    · rw [if_pos own, if_pos (decide_eq_true own)]
      omega
    · rw [if_neg own, if_neg (by simpa using own)]
      omega

theorem linked_total {circleId : CircleId} (postIds : List PostId)
    (posts : PostId → Option CirclePost) :
    (postIds.map fun postId => postWeight circleId postId (posts postId)).sum =
      (postIds.countP fun postId => (posts postId).any fun post =>
        post.status ≠ .deleted && circleId ∈ post.links : Nat) := by
  induction postIds with
  | nil => rfl
  | cons postId postIds ih =>
    rw [List.map_cons, List.sum_cons, ih, List.countP_cons]
    unfold postWeight
    cases counts : (posts postId).any fun post =>
        post.status ≠ .deleted && circleId ∈ post.links with
    | true =>
      simp
      omega
    | false => simp

theorem Books.exact (books : Books s) :
    (∀ postId, s.signupCount postId = s.signed postId) ∧
      ∀ circleId, s.postCount circleId = s.linked circleId := by
  constructor
  · intro postId
    have exact' := books.signups.exact postId
    rw [show s.signupBook.total postId = (s.signed postId : Nat) from
      signed_total s.signupKeys fun key => (s.signups key).committed] at exact'
    exact exact'
  · intro circleId
    have exact' := books.posts.exact circleId
    rw [show s.postBook.total circleId = (s.linked circleId : Nat) from
      linked_total s.postIds fun postId => (s.posts postId).committed] at exact'
    exact exact'

/-! ## What a step may do to closed posts -/

/-- A signup appears only on an active post; a post that is not active stays what it is. -/
structure Kept (s t : State) : Prop where
  signups : ∀ postId userId, (s.signups (postId, userId)).committed ≠ some true →
    (t.signups (postId, userId)).committed = some true →
    (∃ post, (s.posts postId).committed = some post ∧ post.status = .active) ∧
      ∃ post, (t.posts postId).committed = some post ∧ post.status = .active
  closed : ∀ postId post, (s.posts postId).committed = some post → post.status ≠ .active →
    ∃ after, (t.posts postId).committed = some after ∧ after.status = post.status

theorem Moves.kept (moves : Moves s t id tx') : Kept s t where
  signups postId userId absent present := by
    obtain same | ⟨-, b, written, -⟩ := moves.signups (postId, userId)
    · rw [same] at present
      exact absurd present absent
    · rw [written] at present
      exact absurd present absent
  closed postId post found _ := ⟨post, (moves.committed postId).trans found, rfl⟩

theorem Ends.kept (ends : Ends s t id) (rows : Rows s)
    (counts : ∀ key, (s.signups key).pending = some (id, true) →
      t.signups = s.signups.commit id → Counts s id key.1 ∧ t.posts = s.posts.commit id) :
    Kept s t where
  signups postId userId absent present := by
    obtain ⟨-, signups⟩ | ⟨-, signups⟩ := ends.cells
    · rw [signups] at present
      rcases (s.signups (postId, userId)).committed_commit (t := id) with same | ⟨b, held, now⟩
      · exact absurd (same ▸ present) absent
      · have own : b = true := Option.some.inj (now.symm.trans present)
        rw [own] at held
        obtain ⟨⟨post, before, locked, active, found, active'⟩, posts⟩ := counts _ held signups
        refine ⟨⟨before, found, active'⟩, post, ?_, active⟩
        rw [posts]
        show ((s.posts postId).commit id).committed = _
        simp [Cell.commit, locked]
    · rw [signups] at present
      exact absurd present absent
  closed postId post found inactive := by
    obtain ⟨after, now, onward⟩ := ends.onward rows found
    exact ⟨after, now, onward.status.resolve_left inactive⟩

/-! ## Statements -/

/-- A statement that writes no counted row. -/
theorem Sound.stays (sound : Sound s) (here : s.txs id = some tx)
    (moves : Moves s t id tx') (signupBook : t.signupBook = s.signupBook)
    (postBook : t.postBook = s.postBook) (signupsOwed : tx'.owedSignups = tx.owedSignups)
    (postsOwed : tx'.owedPosts = tx.owedPosts)
    (holds : tx'.holdsPosts = false → tx.holdsPosts = false)
    (signs : ∀ key present, tx.Signs key present → tx'.Signs key present)
    (proper : tx'.Proper t id) : Sound t ∧ Kept s t := by
  refine ⟨⟨sound.rows.moves here moves holds signs proper, ?_, ?_⟩, moves.kept⟩
  · rw [signupBook, owed_same here moves.txs signupsOwed]
    exact sound.books.signups
  · rw [postBook, owed_same here moves.txs postsOwed]
    exact sound.books.posts

theorem Sound.next (sound : Sound s) (here : s.txs id = some tx)
    (signupsOwed : tx'.owedSignups = tx.owedSignups) (postsOwed : tx'.owedPosts = tx.owedPosts)
    (holds : tx'.holdsPosts = false → tx.holdsPosts = false)
    (signs : ∀ key present, tx.Signs key present → tx'.Signs key present)
    (proper : tx'.Proper (s.goto id tx') id) : Sound (s.goto id tx') ∧ Kept s (s.goto id tx') :=
  sound.stays here (sound.rows.stay (t := s.goto id tx') rfl rfl rfl rfl rfl) rfl rfl signupsOwed
    postsOwed holds signs proper

theorem Sound.writePost (sound : Sound s) (here : s.txs id = some tx) (member : postId ∈ s.postIds)
    (free : (s.posts postId).Free id) (linked : Linked post)
    (after : ∀ seen, (s.posts postId).view id = some seen → Onward seen post)
    (apart : ∀ other, other ≠ postId → tx'.owedSignups other = tx.owedSignups other)
    (signupsOwed : tx'.owedSignups postId = tx.owedSignups postId -
      (post.signupCount - signupValue ((s.posts postId).view id)))
    (postsOwed : ∀ circleId, tx'.owedPosts circleId = tx.owedPosts circleId +
      (postWeight circleId postId (some post) -
        postWeight circleId postId ((s.posts postId).view id))) (holds : tx'.holdsPosts = true)
    (signs : ∀ key present, tx.Signs key present → tx'.Signs key present)
    (proper : tx'.Proper ((s.writePost id postId post).goto id tx') id) :
    Sound ((s.writePost id postId post).goto id tx') ∧
      Kept s ((s.writePost id postId post).goto id tx') := by
  have moves : Moves s ((s.writePost id postId post).goto id tx') id tx' :=
    sound.rows.writePost member free holds linked after
  refine ⟨⟨sound.rows.moves here moves (fun still => ?_) signs proper, ?_, ?_⟩, moves.kept⟩
  · rw [holds] at still
    cases still
  · apply sound.books.signups.putCounter free
    · exact fun w other => owed_other moves.txs other
    · intro other away
      rw [owed_self moves.txs, owed_of here]
      exact apart other away
    · rw [owed_self moves.txs, owed_of here]
      exact signupsOwed
  · apply sound.books.posts.putRow member free
    · exact fun w other => owed_other moves.txs other
    · intro circleId
      rw [owed_self moves.txs, owed_of here]
      exact postsOwed circleId

theorem Sound.writeSignup {key : PostId × UserId} {present : Bool} (sound : Sound s)
    (here : s.txs id = some tx) (free : (s.signups key).Free id)
    (signupsOwed : ∀ postId, tx'.owedSignups postId = tx.owedSignups postId +
      (signupWeight postId key (some present) - signupWeight postId key ((s.signups key).view id)))
    (postsOwed : tx'.owedPosts = tx.owedPosts)
    (holds : tx'.holdsPosts = false → tx.holdsPosts = false)
    (unsigned : ∀ key present, ¬ tx.Signs key present) (signs : tx'.Signs key present)
    (proper : tx'.Proper ((s.writeSignup id key present).goto id tx') id) :
    Sound ((s.writeSignup id key present).goto id tx') ∧
      Kept s ((s.writeSignup id key present).goto id tx') := by
  have moves := sound.rows.writeSignup free signs
  have entered : (⟨(s.writeSignup id key present).signupKeys, s.signups, s.posts, signupWeight,
      signupValue⟩ : Counted (PostId × UserId) PostId TxId Bool CirclePost).Balanced
        (s.owed Tx.owedSignups) ∧ key ∈ (s.writeSignup id key present).signupKeys := by
    unfold State.writeSignup
    dsimp only
    split
    case isTrue there => exact ⟨sound.books.signups, there⟩
    case isFalse absent =>
      refine ⟨sound.books.signups.enter absent (sound.rows.knownSignups key absent) fun c => ?_,
        by simp⟩
      simp [State.signupBook, signupWeight]
  refine ⟨⟨sound.rows.moves here moves holds ?_ proper, ?_, ?_⟩, moves.kept⟩
  · exact fun key' present' before => absurd before (unsigned key' present')
  · apply entered.1.putRow entered.2 free
    · exact fun w other => owed_other moves.txs other
    · intro postId
      rw [owed_self moves.txs, owed_of here]
      exact signupsOwed postId
  · rw [owed_same here moves.txs postsOwed]
    exact sound.books.posts

theorem Sound.addPostCount {circleId : CircleId} {n : Int} (sound : Sound s)
    (here : s.txs id = some tx) (free : (s.circles circleId).Free id)
    (signupsOwed : tx'.owedSignups = tx.owedSignups)
    (apart : ∀ other, other ≠ circleId → tx'.owedPosts other = tx.owedPosts other)
    (pays : tx'.owedPosts circleId = tx.owedPosts circleId - n)
    (holds : tx'.holdsPosts = false → tx.holdsPosts = false)
    (signs : ∀ key present, tx.Signs key present → tx'.Signs key present)
    (proper : tx'.Proper ((s.addPostCount id circleId n).goto id tx') id) :
    Sound ((s.addPostCount id circleId n).goto id tx') ∧
      Kept s ((s.addPostCount id circleId n).goto id tx') := by
  have moves : Moves s ((s.addPostCount id circleId n).goto id tx') id tx' :=
    sound.rows.stay rfl rfl rfl rfl rfl
  refine ⟨⟨sound.rows.moves here moves holds signs proper, ?_, ?_⟩, moves.kept⟩
  · rw [owed_same here moves.txs signupsOwed]
    exact sound.books.signups
  · apply sound.books.posts.putCounter free
    · exact fun w other => owed_other moves.txs other
    · intro other away
      rw [owed_self moves.txs, owed_of here]
      exact apart other away
    · rw [owed_self moves.txs, owed_of here, pays]
      simp only [State.postBook, postValue, Option.getD_some]
      omega

/-! ## Ends -/

theorem ends_commit (s : State) (id : TxId) (outcome : Outcome) :
    Ends s ((s.commit id).finish id outcome) id :=
  ⟨rfl, rfl, .inl ⟨rfl, rfl⟩⟩

theorem Sound.commit (sound : Sound s) (here : s.txs id = some tx) (outcome : Outcome)
    (signupsPaid : tx.owedSignups = 0) (postsPaid : tx.owedPosts = 0)
    (counts : ∀ key, tx.Signs key true → Counts s id key.1) :
    Sound ((s.commit id).finish id outcome) ∧ Kept s ((s.commit id).finish id outcome) := by
  have ends := ends_commit s id outcome
  have same : ∀ {χ : Type} {f : Tx → χ → Int}, f tx = 0 →
      ((s.commit id).finish id outcome).owed f = s.owed f := by
    intro χ f paid
    funext w
    by_cases own : w = id
    · rw [own, owed_none rfl, owed_of here, paid]
    · exact owed_other rfl own
  refine ⟨⟨sound.rows.ends ends rfl (fun _ other => by cases other), ?_, ?_⟩,
    ends.kept sound.rows ?_⟩
  · rw [same signupsPaid]
    apply sound.books.signups.commit
    intro c
    rw [owed_of here, signupsPaid]
    rfl
  · rw [same postsPaid]
    apply sound.books.posts.commit
    intro c
    rw [owed_of here, postsPaid]
    rfl
  · intro key held _
    obtain ⟨found, there, signs⟩ := sound.rows.signs key id true held
    rw [here] at there
    cases there
    exact ⟨counts key signs, rfl⟩

/-- A transaction that rolls back, and goes on as one that owes nothing if it goes on. -/
theorem Sound.rollback {next : Option Tx} (sound : Sound s)
    (cells : t.posts = s.posts.abort id ∧ t.signups = s.signups.abort id ∧
      t.circles = s.circles.abort id) (keys : t.postIds = s.postIds ∧ t.signupKeys = s.signupKeys)
    (txs : t.txs = Function.update s.txs id next)
    (after : ∀ tx, next = some tx → tx.Proper t id ∧ tx.owedSignups = 0 ∧ tx.owedPosts = 0) :
    Sound t ∧ Kept s t := by
  have ends : Ends s t id := ⟨keys.1, keys.2, .inr ⟨cells.1, cells.2.1⟩⟩
  have nothing : ∀ {χ : Type} {f : Tx → χ → Int}, (∀ tx, next = some tx → f tx = 0) →
      t.owed f id = 0 := by
    intro χ f paid
    cases next with
    | none => exact owed_none txs
    | some tx => exact (owed_self txs).trans (paid tx rfl)
  refine ⟨⟨sound.rows.ends ends txs fun tx own => (after tx own).1, ?_, ?_⟩, ?_⟩
  · have rolled : (s.signupBook.abort id).Balanced (t.owed Tx.owedSignups) :=
      sound.books.signups.abort (fun w other => owed_other txs other)
        (fun c => congrFun (nothing fun tx own => (after tx own).2.1) c)
    unfold State.signupBook
    rw [keys.2, cells.1, cells.2.1]
    exact rolled
  · have rolled : (s.postBook.abort id).Balanced (t.owed Tx.owedPosts) :=
      sound.books.posts.abort (fun w other => owed_other txs other)
        (fun c => congrFun (nothing fun tx own => (after tx own).2.2) c)
    unfold State.postBook
    rw [keys.1, cells.1, cells.2.2]
    exact rolled
  · refine { signups := ?_, closed := ?_ }
    · intro postId userId absent present
      rw [cells.2.1] at present
      exact absurd present absent
    · intro postId post found _
      exact ⟨post, by rw [cells.1]; exact found, rfl⟩

theorem Sound.throw (sound : Sound s) (id : TxId) (fault : Fault) :
    Sound (s.throw id fault) ∧ Kept s (s.throw id fault) :=
  sound.rollback (t := s.throw id fault) ⟨rfl, rfl, rfl⟩ ⟨rfl, rfl⟩ rfl
    fun _ other => by cases other

/-- A call that has written nothing answers. -/
theorem Sound.answer (sound : Sound s) (here : s.txs id = some tx) (outcome : Outcome)
    (idle : tx.holdsPosts = false) (unsigned : ∀ key present, ¬ tx.Signs key present)
    (signupsPaid : tx.owedSignups = 0) (postsPaid : tx.owedPosts = 0) :
    Sound (s.finish id outcome) ∧ Kept s (s.finish id outcome) := by
  have ends : Ends s (s.finish id outcome) id :=
    sound.rows.idle here idle unsigned rfl rfl rfl rfl
  have same : ∀ {χ : Type} {f : Tx → χ → Int}, f tx = 0 →
      (s.finish id outcome).owed f = s.owed f := by
    intro χ f paid
    funext w
    by_cases own : w = id
    · rw [own, owed_none rfl, owed_of here, paid]
    · exact owed_other rfl own
  refine ⟨⟨sound.rows.ends ends rfl (fun _ other => by cases other), ?_, ?_⟩, ?_⟩
  · rw [same signupsPaid]
    exact sound.books.signups
  · rw [same postsPaid]
    exact sound.books.posts
  · exact {
      signups := fun _ _ absent present => absurd present absent
      closed := fun _ post found _ => ⟨post, found, rfl⟩ }

end CircleBackend.Plaza
