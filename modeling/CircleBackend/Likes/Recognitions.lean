import CircleBackend.Likes.Received

/-!
# Recognised collaborators

A post is claimed under its row lock by the transaction that finds it unmarked, so that it is
recognised once, with recipients that had signed up for it. `likes_counted` puts this beside the
counter.
-/

namespace CircleBackend.Likes

open Library Library.ReadCommitted

variable {s t : State} {id : TxId} {tx tx' : Tx} {row : UserLike} {u : UserId}

/-! ## The marks of the posts -/

/-- The statements that come after the signups were looked up. -/
def RecognizeStage.checked : RecognizeStage → Bool
  | .lockShared | .findPost | .findSignups => false
  | _ => true

def RecognizeStage.claimed : RecognizeStage → Bool
  | .lockShared | .findPost | .findSignups | .claim => false
  | _ => true

/-- The post is marked, and it was not when it was claimed. -/
def Claimed (posts : Store PostId TxId CirclePost) (id : TxId) (postId : PostId) : Prop :=
  (∃ post, (posts postId).pending = some (id, post)) ∧
    ∃ post, (posts postId).committed = some post ∧ post.collaborationRecognizedAt = none

def Tx.Proper (s : State) (id : TxId) : Tx → Prop
  | .recognize call stage =>
    call.uniqueRecipientIds.length ≤ maxCollaborationRecognitionsPerPost ∧
    (stage.checked = true →
      ∀ recipientId ∈ call.uniqueRecipientIds, (call.postId, recipientId) ∈ s.signedUp) ∧
    (stage.claimed = true → Claimed s.posts id call.postId)
  | _ => True

/-- A post with its recipients, each of whom had signed up for it. -/
def ProperRecognition (s : State) (postId : PostId) (recipientIds : List UserId) : Prop :=
  recipientIds.Nodup ∧ recipientIds.length ≤ maxCollaborationRecognitionsPerPost ∧
    ∀ recipientId ∈ recipientIds, (postId, recipientId) ∈ s.signedUp

structure Recorded (s : State) : Prop where
  signups : ∀ signup ∈ s.signups, signup ∈ s.signedUp
  txs : ∀ id tx, s.txs id = some tx → tx.Proper s id
  written : ∀ postId id post, (s.posts postId).pending = some (id, post) →
    post.collaborationRecognizedAt ≠ none
  marked : ∀ postId ∈ s.recognitions.map (·.1), ∀ post, (s.posts postId).committed = some post →
    post.collaborationRecognizedAt ≠ none
  once : (s.recognitions.map (·.1)).Nodup
  proper : ∀ batch ∈ s.recognitions, ProperRecognition s batch.1 batch.2

/-- The tables that only `recognizePostCollaborators` and the signups write. -/
structure State.Aside (s t : State) : Prop where
  posts : t.posts = s.posts
  signups : t.signups = s.signups
  signedUp : t.signedUp = s.signedUp
  recognitions : t.recognitions = s.recognitions
  txs : t.txs = s.txs

theorem aside_refl (s : State) : s.Aside s := ⟨rfl, rfl, rfl, rfl, rfl⟩

theorem Tx.Proper.of_same (proper : tx.Proper s id) (posts : t.posts = s.posts)
    (signedUp : t.signedUp = s.signedUp) : tx.Proper t id := by
  cases tx with
  | recognize call stage =>
    unfold Tx.Proper at proper ⊢
    rw [posts, signedUp]
    exact proper
  | like | unlike | reconcile => trivial

theorem Recorded.goto (recorded : Recorded s) (aside : s.Aside t) (proper : tx.Proper s id) :
    Recorded (t.goto id tx) := by
  constructor
  case signups =>
    show ∀ signup ∈ t.signups, signup ∈ t.signedUp
    rw [aside.signups, aside.signedUp]
    exact recorded.signups
  case txs =>
    intro w tx' here
    have here : Function.update t.txs id (some tx) w = some tx' := here
    by_cases own : w = id
    · rw [own, Function.update_self] at here
      cases here
      exact own ▸ proper.of_same aside.posts aside.signedUp
    · rw [Function.update_of_ne own, aside.txs] at here
      exact (recorded.txs w tx' here).of_same aside.posts aside.signedUp
  case written =>
    show ∀ postId w post, (t.posts postId).pending = some (w, post) → _
    rw [aside.posts]
    exact recorded.written
  case marked =>
    show ∀ postId ∈ t.recognitions.map (·.1), ∀ post, (t.posts postId).committed = some post → _
    rw [aside.recognitions, aside.posts]
    exact recorded.marked
  case once =>
    show (t.recognitions.map (·.1)).Nodup
    rw [aside.recognitions]
    exact recorded.once
  case proper =>
    show ∀ batch ∈ t.recognitions, ProperRecognition t batch.1 batch.2
    unfold ProperRecognition
    rw [aside.recognitions, aside.signedUp]
    exact recorded.proper

/-- A transaction that ends holds no claim of another. -/
theorem Claimed.ends {posts : Store PostId TxId CirclePost} {w : TxId} {postId : PostId}
    (claimed : Claimed posts w postId) (other : w ≠ id) :
    Claimed (posts.commit id) w postId ∧ Claimed (posts.abort id) w postId := by
  obtain ⟨⟨post, held⟩, before⟩ := claimed
  have apart : ∀ a, (posts postId).pending ≠ some (id, a) := by
    intro a mine
    rw [held] at mine
    cases mine
    exact other rfl
  unfold Claimed Store.commit Store.abort
  rw [Cell.commit_apart apart, Cell.abort_apart apart]
  exact ⟨⟨⟨post, held⟩, before⟩, ⟨post, held⟩, before⟩

theorem Tx.Proper.ends {w : TxId} (proper : tx.Proper s w) (other : w ≠ id)
    (signedUp : t.signedUp = s.signedUp)
    (posts : t.posts = s.posts.commit id ∨ t.posts = s.posts.abort id ∨ t.posts = s.posts) :
    tx.Proper t w := by
  cases tx with
  | recognize call stage =>
    obtain ⟨few, signed, claimed⟩ := proper
    refine ⟨few, ?_, ?_⟩
    · rw [signedUp]
      exact signed
    · intro after
      rcases posts with same | same | same
      · exact same ▸ ((claimed after).ends other).1
      · exact same ▸ ((claimed after).ends other).2
      · exact same ▸ claimed after
  | like | unlike | reconcile => trivial

theorem Recorded.ends (recorded : Recorded s) (txs : t.txs = (s.leave id).txs)
    (posts : t.posts = s.posts.commit id ∨ t.posts = s.posts.abort id ∨ t.posts = s.posts)
    (signups : t.signups = s.signups) (signedUp : t.signedUp = s.signedUp)
    (recognitions : t.recognitions = s.recognitions) : Recorded t := by
  constructor
  case signups =>
    rw [signups, signedUp]
    exact recorded.signups
  case txs =>
    intro w tx' here
    rw [txs] at here
    have here : Function.update s.txs id none w = some tx' := here
    by_cases own : w = id
    · rw [own, Function.update_self] at here
      cases here
    · rw [Function.update_of_ne own] at here
      exact (recorded.txs w tx' here).ends own signedUp posts
  case written =>
    intro postId w post held
    rcases posts with same | same | same
    · rw [same] at held
      exact recorded.written postId w post (Cell.pending_commit held).1
    · rw [same] at held
      exact recorded.written postId w post (Cell.pending_abort held).1
    · rw [same] at held
      exact recorded.written postId w post held
  case marked =>
    intro postId listed post found
    rw [recognitions] at listed
    rcases posts with same | same | same
    · rw [same] at found
      have cases' := (s.posts postId).committed_commit (t := id)
      rcases cases' with before | ⟨written, held, now⟩
      · exact recorded.marked postId listed post (before ▸ found)
      · have same : some written = some post := now.symm.trans found
        exact Option.some.inj same ▸ recorded.written postId id written held
    · rw [same] at found
      exact recorded.marked postId listed post found
    · rw [same] at found
      exact recorded.marked postId listed post found
  case once =>
    rw [recognitions]
    exact recorded.once
  case proper =>
    unfold ProperRecognition
    rw [recognitions, signedUp]
    exact recorded.proper

theorem Recorded.rollback (recorded : Recorded s) (id : TxId) : Recorded (s.rollback id) :=
  recorded.ends (t := s.rollback id) rfl (.inr (.inl rfl)) rfl rfl rfl

theorem Recorded.commit (recorded : Recorded s) (id : TxId) : Recorded (s.commit id) :=
  recorded.ends (t := s.commit id) rfl (.inl rfl) rfl rfl rfl

theorem Recorded.lockShared (recorded : Recorded s) (step : s.lockShared id tx = some t)
    (proper : tx.Proper s id) : Recorded t := by
  unfold State.lockShared at step
  split at step
  case isTrue =>
    cases step
    exact recorded.goto ⟨rfl, rfl, rfl, rfl, rfl⟩ proper
  case isFalse => cases step

theorem Recorded.likeTurn {stage : LikeStage} (recorded : Recorded s)
    (step : s.likeTurn id row stage = some t) : Recorded t := by
  cases stage with
  | lockShared snapshot => exact recorded.lockShared step trivial
  | countToday snapshot =>
    dsimp only [State.likeTurn] at step
    split at step
    · cases step
      exact recorded.rollback id
    · cases step
      exact recorded.goto (aside_refl s) trivial
  | create snapshot =>
    dsimp only [State.likeTurn] at step
    split at step
    · split at step
      · cases step
        exact recorded.rollback id
      · cases step
        exact recorded.goto ⟨rfl, rfl, rfl, rfl, rfl⟩ trivial
    · cases step
  | increment snapshot =>
    dsimp only [State.likeTurn] at step
    split at step
    · split at step
      · cases step
        exact recorded.goto ⟨rfl, rfl, rfl, rfl, rfl⟩ trivial
      · cases step
        exact recorded.rollback id
    · cases step
  | commit =>
    cases step
    exact recorded.commit id

theorem Recorded.unlikeTurn {stage : UnlikeStage} (recorded : Recorded s)
    (step : s.unlikeTurn id row stage = some t) : Recorded t := by
  cases stage with
  | lockShared => exact recorded.lockShared step trivial
  | deleteMany =>
    dsimp only [State.unlikeTurn] at step
    split at step
    · split at step
      · cases step
        exact recorded.goto ⟨rfl, rfl, rfl, rfl, rfl⟩ trivial
      · cases step
    · cases step
      exact recorded.goto (aside_refl s) trivial
  | decrement =>
    dsimp only [State.unlikeTurn] at step
    split at step
    · cases step
      exact recorded.goto ⟨rfl, rfl, rfl, rfl, rfl⟩ trivial
    · cases step
  | commit =>
    cases step
    exact recorded.commit id

theorem aside_repairs (s : State) (id : TxId) (value : UserId → Nat) (us : List UserId) :
    s.Aside (us.foldl (fun s u => s.writeCount id u fun _ => value u) s) := by
  induction us generalizing s with
  | nil => exact aside_refl s
  | cons u us ih =>
    have rest := ih (s.writeCount id u fun _ => value u)
    exact ⟨rest.posts, rest.signups, rest.signedUp, rest.recognitions, rest.txs⟩

theorem Recorded.reconcileTurn {stage : ReconcileStage} (recorded : Recorded s)
    (step : s.reconcileTurn id stage = some t) : Recorded t := by
  cases stage with
  | tryLockJob =>
    dsimp only [State.reconcileTurn] at step
    split at step
    · cases step
      exact recorded.goto ⟨rfl, rfl, rfl, rfl, rfl⟩ trivial
    · cases step
      exact recorded.ends (t := s.leave id) rfl (.inr (.inr rfl)) rfl rfl rfl
  | lockCounters snapshot =>
    dsimp only [State.reconcileTurn] at step
    split at step
    · cases step
      exact recorded.goto ⟨rfl, rfl, rfl, rfl, rfl⟩ trivial
    · cases step
  | update snapshot =>
    dsimp only [State.reconcileTurn] at step
    split at step
    · split at step
      · cases step
        exact recorded.goto (aside_repairs s id _ _) trivial
      · cases step
        exact recorded.rollback id
    · cases step
  | commit =>
    cases step
    exact recorded.commit id

theorem uniqueRecipientIds_nodup (call : RecognizeCall) : call.uniqueRecipientIds.Nodup :=
  List.nodup_reverse.mpr (List.nodup_dedup _)

/-- The post is claimed by the transaction that finds it unmarked under its lock. -/
theorem Recorded.claim {call : RecognizeCall} {post : CirclePost} (recorded : Recorded s)
    (here : s.txs id = some (.recognize call .claim)) (free : (s.posts call.postId).Free id)
    (seen : (s.posts call.postId).view id = some post)
    (unmarked : post.collaborationRecognizedAt = none) :
    Recorded ({ s with
      posts := s.posts.insert id call.postId
        { post with collaborationRecognizedAt := some call.now } }.goto id
          (.recognize call .createRecognitions)) := by
  obtain ⟨few, signed, -⟩ := recorded.txs id _ here
  have committed : (s.posts call.postId).committed = some post := by
    obtain ⟨a, held, mine⟩ | ⟨-, same⟩ := (s.posts call.postId).view_cases id
    · rw [seen] at mine
      cases mine
      exact absurd unmarked (recorded.written call.postId id post held)
    · exact same ▸ seen
  constructor
  case signups => exact recorded.signups
  case txs =>
    intro w tx' found
    have found : Function.update s.txs id (some _) w = some tx' := found
    by_cases own : w = id
    · rw [own, Function.update_self] at found
      cases found
      refine ⟨few, fun _ => signed rfl, fun _ =>
        ⟨⟨{ post with collaborationRecognizedAt := some call.now }, ?_⟩, post, ?_, unmarked⟩⟩
      · show (Function.update s.posts call.postId _ call.postId).pending = _
        rw [Function.update_self, own]
        rfl
      · exact Store.committed_insert.trans committed
    · rw [Function.update_of_ne own] at found
      have proper := recorded.txs w tx' found
      cases tx' with
      | recognize call' stage =>
        obtain ⟨few', signed', claimed'⟩ := proper
        refine ⟨few', signed', fun after => ?_⟩
        obtain ⟨⟨post', held⟩, post₀, before, unmarked'⟩ := claimed' after
        refine ⟨⟨post', ?_⟩, post₀, Store.committed_insert.trans before, unmarked'⟩
        have elsewhere : call'.postId ≠ call.postId := by
          intro same
          rw [same] at held
          exact own (free _ held)
        show (Function.update s.posts call.postId _ call'.postId).pending = _
        rw [Function.update_of_ne elsewhere]
        exact held
      | like | unlike | reconcile => trivial
  case written =>
    intro postId w written held
    obtain ⟨-, held⟩ | ⟨-, -, rfl⟩ := Store.pending_insert held
    · exact recorded.written postId w written held
    · exact Option.some_ne_none call.now
  case marked =>
    intro postId listed marked found
    exact recorded.marked postId listed marked (Store.committed_insert.symm.trans found)
  case once => exact recorded.once
  case proper => exact recorded.proper

theorem Recorded.recognizes {call : RecognizeCall} (recorded : Recorded s)
    (few : call.uniqueRecipientIds.length ≤ maxCollaborationRecognitionsPerPost)
    (signed : ∀ recipientId ∈ call.uniqueRecipientIds, (call.postId, recipientId) ∈ s.signedUp)
    (claimed : Claimed s.posts id call.postId) :
    Recorded { s.commit id with
      recognitions := s.recognitions ++ [(call.postId, call.uniqueRecipientIds)] } := by
  obtain ⟨⟨post, held⟩, post₀, before, unmarked⟩ := claimed
  have first : call.postId ∉ s.recognitions.map (·.1) :=
    fun listed => recorded.marked _ listed post₀ before unmarked
  have ended := recorded.commit id
  refine { ended with marked := ?marked, once := ?once, proper := ?proper }
  case marked =>
    intro postId listed found there
    rw [List.map_append, List.mem_append] at listed
    rcases listed with listed | new'
    · exact ended.marked postId listed found there
    · have own : postId = call.postId := by simpa using new'
      rw [own] at there
      have committed : ((s.posts call.postId).commit id).committed = some post := by
        simp [Cell.commit, held]
      have same : post = found := Option.some.inj (committed.symm.trans there)
      exact same ▸ recorded.written _ _ _ held
  case once =>
    show (List.map (·.1) (s.recognitions ++ [(call.postId, call.uniqueRecipientIds)])).Nodup
    rw [List.map_append, List.nodup_append]
    refine ⟨recorded.once, List.pairwise_singleton _ _, ?_⟩
    intro postId listed other own same
    have own : other = call.postId := by simpa using own
    exact first (own ▸ same ▸ listed)
  case proper =>
    intro batch listed
    rcases List.mem_append.mp listed with listed | new'
    · exact recorded.proper batch listed
    · rw [List.mem_singleton.mp new']
      exact ⟨uniqueRecipientIds_nodup call, few, signed⟩

theorem Recorded.recognizeTurn {call : RecognizeCall} {stage : RecognizeStage}
    (recorded : Recorded s) (here : s.txs id = some (.recognize call stage))
    (step : s.recognizeTurn id call stage = some t) : Recorded t := by
  have proper := recorded.txs id _ here
  obtain ⟨few, signed, claimed⟩ := proper
  cases stage with
  | lockShared => exact recorded.lockShared step ⟨few, signed, claimed⟩
  | findPost =>
    dsimp only [State.recognizeTurn] at step
    split at step
    · split at step
      · cases step
        exact recorded.goto (aside_refl s) ⟨few, signed, claimed⟩
      · cases step
        exact recorded.rollback id
    · cases step
      exact recorded.rollback id
  | findSignups =>
    dsimp only [State.recognizeTurn] at step
    split at step
    case isTrue all =>
      cases step
      refine recorded.goto (aside_refl s) ⟨few, ?_, claimed⟩
      intro _ recipientId member
      exact recorded.signups _ (all recipientId member)
    case isFalse =>
      cases step
      exact recorded.rollback id
  | claim =>
    dsimp only [State.recognizeTurn] at step
    split at step
    case isFalse => cases step
    case isTrue free =>
      split at step
      case h_2 =>
        cases step
        exact recorded.rollback id
      case h_1 post seen =>
        split at step
        case isFalse =>
          cases step
          exact recorded.rollback id
        case isTrue unclaimed =>
          cases step
          exact recorded.claim here free seen unclaimed.2
  | createRecognitions =>
    cases step
    exact recorded.goto (aside_refl s) ⟨few, fun _ => signed rfl, fun _ => claimed rfl⟩
  | findLikes =>
    dsimp only [State.recognizeTurn] at step
    split at step
    · cases step
      exact recorded.goto (aside_refl s) ⟨few, fun _ => signed rfl, fun _ => claimed rfl⟩
    · cases step
      exact recorded.goto (aside_refl s) ⟨few, fun _ => signed rfl, fun _ => claimed rfl⟩
  | createLikes done left =>
    have onward : ∀ stage, Tx.Proper s id (.recognize call stage) :=
      fun _ => ⟨few, fun _ => signed rfl, fun _ => claimed rfl⟩
    cases left with
    | nil =>
      cases step
      exact recorded.goto (aside_refl s) (onward _)
    | cons recipientId left =>
      dsimp only [State.recognizeTurn] at step
      split at step
      · split at step
        · cases step
          exact recorded.goto (aside_refl s) (onward _)
        · cases step
          exact recorded.goto ⟨rfl, rfl, rfl, rfl, rfl⟩ (onward _)
      · cases step
  | increment left =>
    have onward : ∀ stage, Tx.Proper s id (.recognize call stage) :=
      fun _ => ⟨few, fun _ => signed rfl, fun _ => claimed rfl⟩
    cases left with
    | nil =>
      cases step
      exact recorded.goto (aside_refl s) (onward _)
    | cons recipientId left =>
      dsimp only [State.recognizeTurn] at step
      split at step
      · cases step
        exact recorded.goto ⟨rfl, rfl, rfl, rfl, rfl⟩ (onward _)
      · cases step
  | commit =>
    cases step
    exact recorded.recognizes few (signed rfl) (claimed rfl)

theorem Recorded.begin (recorded : Recorded s) (step : s.begin id tx = some t)
    (proper : tx.Proper s id) : Recorded t := by
  unfold State.begin at step
  split at step
  · cases step
  · cases step
    exact recorded.goto (aside_refl s) proper

theorem Recorded.signedMore (recorded : Recorded s) (signup : PostId × UserId) :
    Recorded { s with signups := signup :: s.signups, signedUp := signup :: s.signedUp } := by
  refine { recorded with signups := ?signups, txs := ?txs, proper := ?proper }
  case signups =>
    intro other listed
    rcases List.mem_cons.mp listed with own | before
    · exact own ▸ List.mem_cons_self
    · exact List.mem_cons_of_mem _ (recorded.signups other before)
  case txs =>
    intro w tx here
    have proper := recorded.txs w tx here
    cases tx with
    | recognize call stage =>
      obtain ⟨few, signed, claimed⟩ := proper
      refine ⟨few, ?_, claimed⟩
      exact fun after recipientId member => List.mem_cons_of_mem _ (signed after recipientId member)
    | like | unlike | reconcile => trivial
  case proper =>
    intro batch listed
    obtain ⟨distinct, few, signed⟩ := recorded.proper batch listed
    exact ⟨distinct, few, fun recipientId member =>
      List.mem_cons_of_mem _ (signed recipientId member)⟩

theorem Recorded.step {act : Act} (step : Step s act t) (recorded : Recorded s) : Recorded t := by
  unfold Step at step
  cases act with
  | like id row =>
    dsimp only [State.next] at step
    split at step
    · cases step
    · exact recorded.begin step trivial
  | unlike id row => exact recorded.begin step trivial
  | recognize id call =>
    dsimp only [State.next] at step
    split at step
    case isTrue => cases step
    case isFalse accepted =>
      have few : call.uniqueRecipientIds.length ≤ maxCollaborationRecognitionsPerPost := by
        by_contra many
        exact accepted (.inr (.inl (Nat.lt_of_not_le many)))
      apply recorded.begin step
      exact ⟨few, nofun, nofun⟩
  | reconcile id => exact recorded.begin step trivial
  | turn id =>
    obtain ⟨tx, here, step⟩ := Option.bind_eq_some_iff.mp step
    cases tx with
    | like row stage => exact recorded.likeTurn step
    | unlike row stage => exact recorded.unlikeTurn step
    | recognize call stage => exact recorded.recognizeTurn here step
    | reconcile stage => exact recorded.reconcileTurn step
  | abort id =>
    dsimp only [State.next] at step
    split at step
    · cases step
      exact recorded.rollback id
    · cases step
  | signup postId userId =>
    cases step
    exact recorded.signedMore (postId, userId)
  | cancelSignup postId userId =>
    cases step
    refine { recorded with signups := ?signups }
    intro other listed
    exact recorded.signups other (List.mem_of_mem_filter listed)

/-! ## Runs -/

/-- No transaction is open and the counters are exact. -/
structure Start (s : State) : Prop where
  distinct : s.keys.Nodup
  known : ∀ row, row ∉ s.keys → (s.likes row).committed = none
  likes : ∀ row, (s.likes row).pending = none
  counts : ∀ u, (s.counts u).pending = none
  posts : ∀ postId, (s.posts postId).pending = none
  exact : ∀ u, s.receivedLikeCount u = s.received u
  signups : ∀ signup ∈ s.signups, signup ∈ s.signedUp
  recognitions : s.recognitions = []
  txs : ∀ id, s.txs id = none

theorem Start.sound (start : Start s) : Sound s := by
  have apart : ∀ u id n, (s.counts u).pending ≠ some (id, n) := by
    intro u id n held
    rw [start.counts] at held
    cases held
  have unwritten : ∀ row id b, (s.likes row).pending ≠ some (id, b) := by
    intro row id b held
    rw [start.likes] at held
    cases held
  constructor
  case balanced =>
    constructor
    case distinct => exact start.distinct
    case exact =>
      intro u
      rw [total_received, ← start.exact u]
      rfl
    case due =>
      intro id u
      have nothing : s.book.drift u id = 0 := by
        apply List.sum_eq_zero
        intro x member
        obtain ⟨row, -, rfl⟩ := List.mem_map.mp member
        exact Cell.gain_apart (unwritten row id)
      have none' : s.book.counted u id = 0 := Cell.gain_apart (apart u id)
      rw [nothing, none']
      simp [State.owed, start.txs]
  case known =>
    intro row absent
    have committed := start.known row absent
    have pending := start.likes row
    cases cell : s.likes row with
    | mk c p =>
      rw [cell] at committed pending
      rw [show c = none from committed, show p = none from pending]
  case uncounted => exact fun id _ u n => apart u id n
  case calm =>
    intro id tx here
    rw [start.txs] at here
    cases here

theorem Start.recorded (start : Start s) : Recorded s := by
  constructor
  case signups => exact start.signups
  case txs =>
    intro id tx here
    rw [start.txs] at here
    cases here
  case written =>
    intro postId id post held
    rw [start.posts] at held
    cases held
  case marked =>
    intro postId listed
    rw [start.recognitions] at listed
    cases listed
  case once =>
    rw [start.recognitions]
    exact List.nodup_nil
  case proper =>
    intro batch listed
    rw [start.recognitions] at listed
    cases listed

/-- Where no recognition meets a like it did not see, the counters are exact. There is one row for
a day and two users, and a post is recognised once, with up to three who had signed up for it. -/
theorem likes_counted {s₀ : State} {acts : List Act} (start : Start s₀)
    (run : Run (Run.Where Step fun s act => inTime s act = true) s₀ acts s) :
    (∀ u, s.receivedLikeCount u = s.received u) ∧ s.rows.Nodup ∧
      (s.recognitions.map (·.1)).Nodup ∧
        ∀ batch ∈ s.recognitions, ProperRecognition s batch.1 batch.2 := by
  have both : Sound s ∧ Recorded s := by
    apply run.preserves (P := fun s => Sound s ∧ Recorded s) _ ⟨start.sound, start.recorded⟩
    rintro s act t step ⟨sound, recorded⟩
    exact ⟨sound.step step.1 step.2, recorded.step step.1⟩
  obtain ⟨sound, recorded⟩ := both
  exact ⟨sound.exact, sound.balanced.distinct.filter _, recorded.once, recorded.proper⟩

/-- User 1 wrote post 1, which user 2 signed up for. -/
def noLikes : State where
  keys := []
  likes _ := ⟨none, none⟩
  users := [1, 2, 3]
  counts _ := ⟨some 0, none⟩
  versions _ := 0
  posts postId := ⟨if postId = 1 then some ⟨1, .active, none⟩ else none, none⟩
  signups := [(1, 2)]
  signedUp := [(1, 2)]
  recognitions := []
  txs _ := none
  shared := []
  exclusive := none
  job := none

theorem noLikes_start : Start noLikes where
  distinct := List.nodup_nil
  known _ _ := rfl
  likes _ := rfl
  counts _ := rfl
  posts _ := rfl
  exact _ := rfl
  signups _ member := member
  recognitions := rfl
  txs _ := rfl

def turns (id : TxId) (k : Nat) : List Act := List.replicate k (.turn id)

/-- User 3 likes user 2, whom user 1 recognises; user 3 takes the like back. -/
def likesInTurn : List Act :=
  .recognize 0 ⟨1, 1, [2], 0, 0⟩ :: turns 0 6 ++ .like 1 ⟨3, 2, 0⟩ :: turns 1 5 ++ turns 0 5 ++
    .reconcile 2 :: turns 2 4 ++ .unlike 3 ⟨3, 2, 0⟩ :: turns 3 4

theorem likes_counted_inTurn : ∃ s, Run Step noLikes likesInTurn s ∧ s.rows = [⟨1, 2, 0⟩] ∧
    s.receivedLikeCount 2 = s.received 2 ∧ s.recognitions = [(1, [2])] := by
  have played : likesInTurn.foldlM (Run.whenever inTime State.next) noLikes = some _ := rfl
  have run := Run.where_of_foldlM played
  exact ⟨_, run.mono fun s act t step => step.1, by decide, (likes_counted noLikes_start run).1 2,
    by decide⟩

/-- User 1 likes user 2 between the look for existing likes and their creation. -/
def likesCrossing : List Act :=
  .recognize 0 ⟨1, 1, [2], 0, 0⟩ :: turns 0 6 ++ .like 1 ⟨1, 2, 0⟩ :: turns 1 5 ++ turns 0 5

theorem likes_counted_twice : Start noLikes ∧ ∃ s, Run Step noLikes likesCrossing s ∧
    s.txs 0 = none ∧ s.txs 1 = none ∧ s.received 2 = 1 ∧ s.receivedLikeCount 2 = 2 := by
  have played : likesCrossing.foldlM State.next noLikes = some _ := rfl
  exact ⟨noLikes_start, _, Run.of_foldlM played, by decide, by decide, by decide, by decide⟩

end CircleBackend.Likes
