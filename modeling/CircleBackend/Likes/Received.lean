import CircleBackend.Likes.Model

/-!
# The received likes and their counter

Each transaction that changes `UserLike` rows counts them before it commits. What it has not
counted yet is what it owes; `reconcileReceivedLikeCounts` sees a snapshot in which nothing is
owed and finds nothing to repair.

`recognizePostCollaborators` counts the likes it means to write. Where one of them was there after
all, `skipDuplicates` leaves the counter one too high.
-/

namespace CircleBackend.Likes

open Library Library.ReadCommitted

/-! ## The book of the likes -/

def likeWeight (u : UserId) (row : UserLike) (present : Option Bool) : Int :=
  if present = some true ∧ row.toUserID = u then 1 else 0

def countValue (count : Option Nat) : Int := (count.getD 0 : Nat)

def State.book (s : State) : Counted UserLike UserId TxId Bool Nat :=
  ⟨s.keys, s.likes, s.counts, likeWeight, countValue⟩

/-- What a transaction has changed and not counted. -/
def Tx.owed : Tx → UserId → Int
  | .like row (.increment _), u => if row.toUserID = u then 1 else 0
  | .unlike row .decrement, u => if row.toUserID = u then -1 else 0
  | .recognize _ (.createLikes done _), u => (done.count u : Nat)
  | .recognize _ (.increment left), u => (left.count u : Nat)
  | _, _ => 0

def State.owed (s : State) (id : TxId) (u : UserId) : Int :=
  match s.txs id with
  | some tx => tx.owed u
  | none => 0

/-- A transaction that may have written a counter. -/
def Tx.counting : Tx → Bool
  | .like _ .commit | .unlike _ .commit | .recognize _ (.increment _) | .recognize _ .commit
  | .reconcile .commit => true
  | _ => false

def Snapshot.Exact (snapshot : Snapshot) : Prop :=
  ∀ u, snapshot.counts u = snapshot.received u

/-- A snapshot that a repair goes by has nothing to repair. -/
def Tx.Calm : Tx → Prop
  | .reconcile (.lockCounters snapshot) | .reconcile (.update snapshot) => snapshot.Exact
  | _ => True

structure Sound (s : State) : Prop where
  balanced : s.book.Balanced s.owed
  known : ∀ row, row ∉ s.keys → s.likes row = ⟨none, none⟩
  uncounted : ∀ id, (∀ tx, s.txs id = some tx → tx.counting = false) →
    ∀ u n, (s.counts u).pending ≠ some (id, n)
  calm : ∀ id tx, s.txs id = some tx → tx.Calm

/-- `recognizePostCollaborators` meets no like that it did not see when it looked. -/
def inTime (s : State) : Act → Bool
  | .turn id =>
    match s.txs id with
    | some (.recognize call (.createLikes _ (recipientId :: _))) =>
      (s.likes ⟨call.authorId, recipientId, call.likedOn⟩).view id ≠ some true
    | _ => true
  | _ => true

variable {s t : State} {id : TxId} {tx tx' : Tx} {row : UserLike} {u : UserId}

theorem total_eq (keys : List UserLike) (likes : UserLike → Option Bool) :
    (keys.map fun row => likeWeight u row (likes row)).sum =
      ((keys.filter fun row => likes row = some true).countP fun row => row.toUserID = u : Nat) := by
  induction keys with
  | nil => rfl
  | cons row keys ih =>
    rw [List.map_cons, List.sum_cons, ih, List.filter_cons]
    unfold likeWeight
    by_cases here : likes row = some true
    · by_cases own : row.toUserID = u
      · simp [here, own]
        omega
      · simp [here, own]
    · simp [here]

theorem total_received (s : State) (u : UserId) : s.book.total u = s.received u :=
  total_eq s.keys fun row => (s.likes row).committed

theorem total_nonneg (b : Counted UserLike UserId TxId Bool Nat) (own : b.weight = likeWeight)
    (u : UserId) : 0 ≤ b.total u := by
  unfold Counted.total
  rw [own, total_eq b.ids fun row => (b.rows row).committed]
  omega

theorem Sound.exact (sound : Sound s) (u : UserId) : s.receivedLikeCount u = s.received u := by
  have exact' := sound.balanced.exact u
  rw [total_received] at exact'
  have value : s.book.count u = (s.receivedLikeCount u : Nat) := rfl
  omega

theorem Sound.snapshot (sound : Sound s) : s.snapshot.Exact := sound.exact

/-! ## Statements -/

theorem owed_goto_self : (s.goto id tx).owed id = tx.owed := by
  funext u
  simp [State.owed, State.goto]

theorem owed_goto_other {w : TxId} (other : w ≠ id) : (s.goto id tx).owed w = s.owed w := by
  funext u
  simp [State.owed, State.goto, Function.update_of_ne other]

theorem owed_of (here : s.txs id = some tx) : s.owed id = tx.owed := by
  funext u
  simp [State.owed, here]

/-- What of `Sound` speaks of one transaction, after a move of it. -/
theorem Sound.moved (sound : Sound s) (balanced : t.book.Balanced (t.goto id tx).owed)
    (known : ∀ row, row ∉ t.keys → t.likes row = ⟨none, none⟩) (txs : t.txs = s.txs)
    (counts : ∀ w u n, w ≠ id → (t.counts u).pending = some (w, n) →
      (s.counts u).pending = some (w, n))
    (uncounted : tx.counting = false → ∀ u n, (t.counts u).pending ≠ some (id, n))
    (calm : tx.Calm) : Sound (t.goto id tx) := by
  constructor
  case balanced => exact balanced
  case known => exact known
  case uncounted =>
    intro w idle u n held
    by_cases own : w = id
    · rw [own] at idle held
      exact uncounted (idle tx (Function.update_self ..)) u n held
    · have held := counts w u n own held
      refine sound.uncounted w ?_ u n held
      intro tx' here
      apply idle
      show Function.update t.txs id (some tx) w = some tx'
      rw [Function.update_of_ne own, txs]
      exact here
  case calm =>
    intro w tx' here
    have here : Function.update t.txs id (some tx) w = some tx' := here
    by_cases own : w = id
    · rw [own, Function.update_self] at here
      cases here
      exact calm
    · rw [Function.update_of_ne own, txs] at here
      exact sound.calm w tx' here

theorem Sound.goto (sound : Sound s) (same : tx.owed = s.owed id)
    (uncounted : tx.counting = false → ∀ u n, (s.counts u).pending ≠ some (id, n))
    (calm : tx.Calm) : Sound (s.goto id tx) := by
  have owed : (s.goto id tx).owed = s.owed := by
    funext w
    by_cases own : w = id
    · rw [own, owed_goto_self, same]
    · exact owed_goto_other own
  exact sound.moved (owed ▸ sound.balanced) sound.known rfl (fun _ _ _ _ held => held) uncounted
    calm

/-- To a statement of a transaction that has not counted yet, or that has. -/
theorem Sound.next (sound : Sound s) (here : s.txs id = some tx) (same : tx'.owed = tx.owed)
    (counting : tx'.counting = false → tx.counting = false) (calm : tx'.Calm) :
    Sound (s.goto id tx') := by
  apply sound.goto (same.trans (owed_of here).symm) _ calm
  intro still
  apply sound.uncounted
  intro found there
  rw [here] at there
  cases there
  exact counting still

theorem Sound.writeLike {present : Bool} (sound : Sound s) (here : s.txs id = some tx)
    (free : (s.likes row).Free id) (owes : ∀ u, tx'.owed u = tx.owed u +
      (likeWeight u row (some present) - likeWeight u row ((s.likes row).view id)))
    (counting : tx'.counting = false → tx.counting = false) (calm : tx'.Calm) :
    Sound ((s.writeLike id row present).goto id tx') := by
  have known : ∀ other, other ∉ (s.writeLike id row present).keys →
      (s.writeLike id row present).likes other = ⟨none, none⟩ := by
    intro other absent
    have absent : other ∉ s.keys ∧ other ≠ row := by
      unfold State.writeLike at absent
      dsimp only at absent
      split at absent
      case isTrue there => exact ⟨absent, fun same => absent (same ▸ there)⟩
      case isFalse =>
        rw [List.mem_append, List.mem_singleton, not_or] at absent
        exact absent
    show Function.update s.likes row _ other = _
    rw [Function.update_of_ne absent.2]
    exact sound.known other absent.1
  have entered : (⟨(s.writeLike id row present).keys, s.likes, s.counts, likeWeight, countValue⟩ :
      Counted UserLike UserId TxId Bool Nat).Balanced s.owed ∧
        row ∈ (s.writeLike id row present).keys := by
    unfold State.writeLike
    dsimp only
    split
    case isTrue there => exact ⟨sound.balanced, there⟩
    case isFalse absent =>
      refine ⟨sound.balanced.enter absent (sound.known row absent) fun u => ?_, by simp⟩
      simp [State.book, likeWeight]
  apply sound.moved _ known rfl (fun _ _ _ _ held => held) _ calm
  · apply entered.1.putRow entered.2 free
    · intro w other
      exact owed_goto_other other
    · intro u
      rw [owed_goto_self, owed_of here]
      exact owes u
  · intro still
    apply sound.uncounted
    intro found there
    rw [here] at there
    cases there
    exact counting still

theorem Sound.writeCount {f : Nat → Nat} (sound : Sound s) (here : s.txs id = some tx)
    (free : (s.counts u).Free id) (apart : ∀ v, v ≠ u → tx'.owed v = tx.owed v)
    (pays : tx'.owed u = tx.owed u -
      ((f (((s.counts u).view id).getD 0) : Nat) - (((s.counts u).view id).getD 0 : Nat) : Int))
    (counting : tx'.counting = true) (calm : tx'.Calm) :
    Sound ((s.writeCount id u f).goto id tx') := by
  apply sound.moved (t := s.writeCount id u f) _ sound.known rfl _ _ calm
  · apply sound.balanced.putCounter free
    · intro w other
      exact owed_goto_other other
    · intro v other
      rw [owed_goto_self, owed_of here]
      exact apart v other
    · rw [owed_goto_self, owed_of here]
      exact pays
  · intro w v n other held
    obtain ⟨-, held⟩ | ⟨-, own, -⟩ := Store.pending_insert held
    · exact held
    · exact absurd own other
  · intro still
    rw [counting] at still
    cases still

/-! ## Ends -/

theorem owed_leave_self : (s.leave id).owed id = 0 := by
  funext u
  simp [State.owed, State.leave]

theorem owed_leave_other {w : TxId} (other : w ≠ id) : (s.leave id).owed w = s.owed w := by
  funext u
  simp [State.owed, State.leave, Function.update_of_ne other]

theorem Sound.left (sound : Sound s) (txs : t.txs = (s.leave id).txs)
    (balanced : t.book.Balanced t.owed) (known : ∀ row, row ∉ t.keys → t.likes row = ⟨none, none⟩)
    (counts : ∀ w u n, (t.counts u).pending = some (w, n) →
      (s.counts u).pending = some (w, n) ∧ w ≠ id) : Sound t := by
  constructor
  case balanced => exact balanced
  case known => exact known
  case uncounted =>
    intro w idle u n held
    obtain ⟨held, other⟩ := counts w u n held
    refine sound.uncounted w ?_ u n held
    intro tx' here
    apply idle
    rw [txs]
    show Function.update s.txs id none w = some tx'
    rw [Function.update_of_ne other]
    exact here
  case calm =>
    intro w tx' here
    rw [txs] at here
    have here : Function.update s.txs id none w = some tx' := here
    by_cases own : w = id
    · rw [own, Function.update_self] at here
      cases here
    · rw [Function.update_of_ne own] at here
      exact sound.calm w tx' here

theorem Sound.leave (sound : Sound s) (here : s.txs id = some tx) (idle : tx.counting = false)
    (paid : tx.owed = 0) : Sound (s.leave id) := by
  have owed : (s.leave id).owed = s.owed := by
    funext w
    by_cases own : w = id
    · rw [own, owed_leave_self, owed_of here, paid]
    · exact owed_leave_other own
  apply sound.left rfl (owed ▸ sound.balanced) sound.known
  intro w u n held
  refine ⟨held, ?_⟩
  rintro rfl
  refine sound.uncounted w ?_ u n held
  intro found there
  rw [here] at there
  cases there
  exact idle

theorem Sound.rollback (sound : Sound s) (id : TxId) : Sound (s.rollback id) := by
  apply sound.left (t := s.rollback id) rfl
  · apply sound.balanced.abort
    · intro w other
      exact owed_leave_other other
    · intro u
      exact congrFun owed_leave_self u
  · intro row absent
    show (s.likes row).abort id = _
    rw [sound.known row absent]
    rfl
  · intro w u n held
    exact Cell.pending_abort held

theorem Sound.commit (sound : Sound s) (here : s.txs id = some tx) (paid : tx.owed = 0) :
    Sound (s.commit id) := by
  have owed : (s.commit id).owed = s.owed := by
    funext w
    by_cases own : w = id
    · rw [own, owed_of here, paid]
      exact owed_leave_self
    · exact owed_leave_other own
  apply sound.left (t := s.commit id) rfl
  · rw [owed]
    apply sound.balanced.commit
    intro u
    rw [owed_of here, paid]
    rfl
  · intro row absent
    show (s.likes row).commit id = _
    rw [sound.known row absent]
    rfl
  · intro w u n held
    exact Cell.pending_commit held

/-! ## The transactions -/

theorem likeWeight_true : likeWeight u row (some true) = if row.toUserID = u then 1 else 0 := by
  simp [likeWeight]

theorem likeWeight_false : likeWeight u row (some false) = 0 := by
  simp [likeWeight]

theorem likeWeight_absent {present : Option Bool} (absent : present ≠ some true) :
    likeWeight u row present = 0 := by
  simp [likeWeight, absent]

theorem Sound.lockShared (sound : Sound s) (here : s.txs id = some tx)
    (step : s.lockShared id tx' = some t) (same : tx'.owed = tx.owed)
    (counting : tx.counting = false) (calm : tx'.Calm) : Sound t := by
  unfold State.lockShared at step
  split at step
  case isTrue =>
    cases step
    have locked : Sound { s with shared := id :: s.shared } :=
      ⟨sound.balanced, sound.known, sound.uncounted, sound.calm⟩
    exact locked.next here same (fun _ => counting) calm
  case isFalse => cases step

theorem Sound.likeTurn {stage : LikeStage} (sound : Sound s)
    (here : s.txs id = some (.like row stage)) (step : s.likeTurn id row stage = some t) :
    Sound t := by
  cases stage with
  | lockShared snapshot => exact sound.lockShared here step rfl rfl trivial
  | countToday snapshot =>
    dsimp only [State.likeTurn] at step
    split at step
    · cases step
      exact sound.rollback id
    · cases step
      exact sound.next here rfl (fun _ => rfl) trivial
  | create snapshot =>
    dsimp only [State.likeTurn] at step
    split at step
    case isFalse => cases step
    case isTrue free =>
      split at step
      case isTrue =>
        cases step
        exact sound.rollback id
      case isFalse absent =>
        cases step
        apply sound.writeLike here free
        · intro u
          rw [likeWeight_true, likeWeight_absent absent]
          simp [Tx.owed]
        · exact fun _ => rfl
        · trivial
  | increment snapshot =>
    dsimp only [State.likeTurn] at step
    split at step
    case isFalse => cases step
    case isTrue free =>
      split at step
      case isFalse =>
        cases step
        exact sound.rollback id
      case isTrue =>
        cases step
        apply sound.writeCount here free
        · intro v other
          simp [Tx.owed, Ne.symm other]
        · simp [Tx.owed]
        · rfl
        · trivial
  | commit =>
    cases step
    exact sound.commit here rfl

/-- The row that is deleted is still counted. -/
theorem Sound.counted (sound : Sound s) (here : s.txs id = some (.unlike row .decrement)) :
    1 ≤ ((s.counts row.toUserID).view id).getD 0 := by
  have apart : ∀ n, (s.counts row.toUserID).pending ≠ some (id, n) := by
    intro n
    apply sound.uncounted
    intro found there
    rw [here] at there
    cases there
    rfl
  have seen : (s.counts row.toUserID).view id = (s.counts row.toUserID).committed := by
    obtain ⟨n, held, -⟩ | ⟨-, seen⟩ := (s.counts row.toUserID).view_cases id
    · exact absurd held (apart n)
    · exact seen
  have due := sound.balanced.due id row.toUserID
  have none' : s.book.counted row.toUserID id = 0 := Cell.gain_apart apart
  have left := total_nonneg (s.book.commit id) rfl row.toUserID
  have exact' := sound.balanced.exact row.toUserID
  rw [none', owed_of here] at due
  rw [Counted.total_commit, ← exact', ← due] at left
  have value : s.book.count row.toUserID = (s.receivedLikeCount row.toUserID : Nat) := rfl
  rw [value] at left
  simp only [Tx.owed, if_pos] at left
  rw [seen]
  show 1 ≤ s.receivedLikeCount row.toUserID
  omega

theorem Sound.unlikeTurn {stage : UnlikeStage} (sound : Sound s)
    (here : s.txs id = some (.unlike row stage)) (step : s.unlikeTurn id row stage = some t) :
    Sound t := by
  cases stage with
  | lockShared => exact sound.lockShared here step rfl rfl trivial
  | deleteMany =>
    dsimp only [State.unlikeTurn] at step
    split at step
    case isFalse =>
      cases step
      exact sound.next here rfl (fun _ => rfl) trivial
    case isTrue there =>
      split at step
      case isFalse => cases step
      case isTrue free =>
        cases step
        apply sound.writeLike here free
        · intro u
          rw [likeWeight_false, there, likeWeight_true]
          by_cases own : row.toUserID = u <;> simp [Tx.owed, own]
        · exact fun _ => rfl
        · trivial
  | decrement =>
    dsimp only [State.unlikeTurn] at step
    split at step
    case isFalse => cases step
    case isTrue free =>
      cases step
      have some' := sound.counted here
      apply sound.writeCount here free
      · intro v other
        simp [Tx.owed, Ne.symm other]
      · simp only [Tx.owed, if_pos]
        omega
      · rfl
      · trivial
  | commit =>
    cases step
    exact sound.commit here rfl

theorem Sound.recognizeTurn {call : RecognizeCall} {stage : RecognizeStage} (sound : Sound s)
    (here : s.txs id = some (.recognize call stage)) (timely : inTime s (.turn id) = true)
    (step : s.recognizeTurn id call stage = some t) : Sound t := by
  cases stage with
  | lockShared => exact sound.lockShared here step rfl rfl trivial
  | findPost =>
    dsimp only [State.recognizeTurn] at step
    split at step
    · split at step
      · cases step
        exact sound.next here rfl (fun _ => rfl) trivial
      · cases step
        exact sound.rollback id
    · cases step
      exact sound.rollback id
  | findSignups =>
    dsimp only [State.recognizeTurn] at step
    split at step
    · cases step
      exact sound.next here rfl (fun _ => rfl) trivial
    · cases step
      exact sound.rollback id
  | claim =>
    dsimp only [State.recognizeTurn] at step
    split at step
    case isFalse => cases step
    case isTrue =>
      split at step
      · split at step
        · cases step
          have claimed : ∀ posts, Sound { s with posts := posts } :=
            fun posts => ⟨sound.balanced, sound.known, sound.uncounted, sound.calm⟩
          exact (claimed _).next here rfl (fun _ => rfl) trivial
        · cases step
          exact sound.rollback id
      · cases step
        exact sound.rollback id
  | createRecognitions =>
    cases step
    exact sound.next here rfl (fun _ => rfl) trivial
  | findLikes =>
    dsimp only [State.recognizeTurn] at step
    split at step
    · cases step
      exact sound.next here rfl (fun _ => rfl) trivial
    · cases step
      exact sound.next here rfl (fun _ => rfl) trivial
  | createLikes done left =>
    cases left with
    | nil =>
      cases step
      exact sound.next here rfl (fun still => by cases still) trivial
    | cons recipientId left =>
      have absent : (s.likes ⟨call.authorId, recipientId, call.likedOn⟩).view id ≠ some true := by
        simp only [inTime, here] at timely
        exact of_decide_eq_true timely
      dsimp only [State.recognizeTurn] at step
      rw [if_neg absent] at step
      split at step
      case isFalse => cases step
      case isTrue free =>
        cases step
        apply sound.writeLike here free
        · intro u
          rw [likeWeight_true, likeWeight_absent absent]
          simp only [Tx.owed, List.count_append, List.count_singleton, beq_iff_eq]
          split <;> simp
        · exact fun _ => rfl
        · trivial
  | increment left =>
    cases left with
    | nil =>
      cases step
      exact sound.next here rfl (fun still => by cases still) trivial
    | cons recipientId left =>
      dsimp only [State.recognizeTurn] at step
      split at step
      case isFalse => cases step
      case isTrue free =>
        cases step
        apply sound.writeCount here free
        · intro v other
          simp [Tx.owed, Ne.symm other]
        · simp [Tx.owed]
        · rfl
        · trivial
  | commit =>
    cases step
    have ended := sound.commit here rfl
    exact ⟨ended.balanced, ended.known, ended.uncounted, ended.calm⟩

theorem drifted_exact {snapshot : Snapshot} (exact' : snapshot.Exact) :
    s.drifted snapshot = [] := by
  unfold State.drifted
  rw [List.filter_eq_nil_iff]
  intro u _ drifts
  exact of_decide_eq_true drifts (exact' u)

theorem Sound.reconcileTurn {stage : ReconcileStage} (sound : Sound s)
    (here : s.txs id = some (.reconcile stage)) (step : s.reconcileTurn id stage = some t) :
    Sound t := by
  cases stage with
  | tryLockJob =>
    dsimp only [State.reconcileTurn] at step
    split at step
    · cases step
      have locked : Sound { s with job := some id } :=
        ⟨sound.balanced, sound.known, sound.uncounted, sound.calm⟩
      exact locked.next here rfl (fun _ => rfl) sound.snapshot
    · cases step
      exact sound.leave here rfl rfl
  | lockCounters snapshot =>
    have exact' : snapshot.Exact := sound.calm id _ here
    dsimp only [State.reconcileTurn] at step
    split at step
    · cases step
      have locked : Sound { s with exclusive := some id } :=
        ⟨sound.balanced, sound.known, sound.uncounted, sound.calm⟩
      exact locked.next here rfl (fun _ => rfl) exact'
    · cases step
  | update snapshot =>
    have exact' : snapshot.Exact := sound.calm id _ here
    simp only [State.reconcileTurn, drifted_exact exact', List.not_mem_nil, false_imp_iff,
      implies_true, if_pos, List.foldl_nil] at step
    cases step
    exact sound.next here rfl (fun still => by cases still) trivial
  | commit =>
    cases step
    exact sound.commit here rfl

theorem Sound.begin (sound : Sound s) (step : s.begin id tx = some t) (owes : tx.owed = 0)
    (calm : tx.Calm) : Sound t := by
  unfold State.begin at step
  split at step
  case isTrue => cases step
  case isFalse idle =>
    cases step
    have absent : s.txs id = none := by simpa using idle
    apply sound.goto _ _ calm
    · funext u
      simp [owes, State.owed, absent]
    · intro _
      apply sound.uncounted
      intro found there
      rw [absent] at there
      cases there

theorem Sound.step {act : Act} (step : Step s act t) (timely : inTime s act = true)
    (sound : Sound s) : Sound t := by
  unfold Step at step
  cases act with
  | like id row =>
    dsimp only [State.next] at step
    split at step
    · cases step
    · exact sound.begin step rfl trivial
  | unlike id row => exact sound.begin step rfl trivial
  | recognize id call =>
    dsimp only [State.next] at step
    split at step
    · cases step
    · exact sound.begin step rfl trivial
  | reconcile id => exact sound.begin step rfl trivial
  | turn id =>
    obtain ⟨tx, here, step⟩ := Option.bind_eq_some_iff.mp step
    cases tx with
    | like row stage => exact sound.likeTurn here step
    | unlike row stage => exact sound.unlikeTurn here step
    | recognize call stage => exact sound.recognizeTurn here timely step
    | reconcile stage => exact sound.reconcileTurn here step
  | abort id =>
    dsimp only [State.next] at step
    split at step
    · cases step
      exact sound.rollback id
    · cases step
  | signup postId userId =>
    cases step
    exact ⟨sound.balanced, sound.known, sound.uncounted, sound.calm⟩
  | cancelSignup postId userId =>
    cases step
    exact ⟨sound.balanced, sound.known, sound.uncounted, sound.calm⟩

end CircleBackend.Likes
