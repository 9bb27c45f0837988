import CircleBackend.Plaza.Counters

/-!
# The calls of the plaza

Every statement of every call keeps the books and the closed posts; `plaza_counts` is about all
runs.
-/

namespace CircleBackend.Plaza

open Library Library.ReadCommitted

variable {s t : State} {id w : TxId} {tx tx' : Tx} {postId : PostId} {post : CirclePost}

theorem Rows.member (rows : Rows s) (seen : (s.posts postId).view id = some post) :
    postId ∈ s.postIds := by
  by_contra absent
  rw [rows.knownPosts postId absent] at seen
  cases seen

theorem active_of_activeUnexpired {now : Time} (opens : post.activeUnexpired now = true) :
    post.status = .active := by
  unfold CirclePost.activeUnexpired at opens
  simp only [Bool.and_eq_true, decide_eq_true_eq] at opens
  exact opens.1

theorem signupWeight_true {key : PostId × UserId} :
    signupWeight postId key (some true) = if key.1 = postId then 1 else 0 := by
  simp [signupWeight]

theorem signupWeight_false {key : PostId × UserId} : signupWeight postId key (some false) = 0 := by
  simp [signupWeight]

theorem signupWeight_absent {key : PostId × UserId} {present : Option Bool}
    (absent : present ≠ some true) : signupWeight postId key present = 0 := by
  simp [signupWeight, absent]

/-- A version that counts where the one before it did. -/
theorem postWeight_same {after : CirclePost} (links : after.links = post.links)
    (deleted : after.status = .deleted ↔ post.status = .deleted) (circleId : CircleId) :
    postWeight circleId postId (some after) = postWeight circleId postId (some post) := by
  simp [postWeight, links, deleted]

/-- A write to a post that the transaction sees, which counts where it did. -/
theorem Sound.rewritePost {after : CirclePost} (sound : Sound s) (here : s.txs id = some tx)
    (seen : (s.posts postId).view id = some post) (free : (s.posts postId).Free id)
    (onward : Onward post after) (deleted : after.status = .deleted ↔ post.status = .deleted)
    (apart : ∀ other, other ≠ postId → tx'.owedSignups other = tx.owedSignups other)
    (signupsOwed : tx'.owedSignups postId = tx.owedSignups postId -
      (after.signupCount - post.signupCount))
    (postsOwed : tx'.owedPosts = tx.owedPosts) (holds : tx'.holdsPosts = true)
    (signs : ∀ key present, tx.Signs key present → tx'.Signs key present)
    (proper : tx'.Proper ((s.writePost id postId after).goto id tx') id) :
    Sound ((s.writePost id postId after).goto id tx') ∧
      Kept s ((s.writePost id postId after).goto id tx') := by
  have linked : Linked after := by
    rw [Linked, onward.links]
    exact (sound.rows.seen seen).1
  apply sound.writePost here (sound.rows.member seen) free linked _ apart _ _ holds signs proper
  · intro other there
    cases seen.symm.trans there
    exact onward
  · rw [seen]
    exact signupsOwed
  · intro circleId
    rw [seen, postWeight_same onward.links deleted, postsOwed, Int.sub_self, Int.add_zero]

theorem postWeight_live (live : post.status ≠ .deleted) (distinct : post.links.Nodup)
    (circleId : CircleId) :
    postWeight circleId postId (some post) = (post.links.count circleId : Nat) := by
  rw [distinct.count]
  simp [postWeight, live]

theorem Sound.signupTurn {call : SignupCall} {stage : SignupStage} (sound : Sound s)
    (here : s.txs id = some (.signupForPost call stage)) (step : s.signupTurn id call stage = some t) :
    Sound t ∧ Kept s t := by
  cases stage with
  | findPost =>
    dsimp only [State.signupTurn] at step
    split at step
    · split at step
      · split at step
        · cases step
          exact sound.throw id _
        · cases step
          exact sound.next here rfl rfl (fun _ => rfl) (fun _ _ signs => signs) trivial
      · cases step
        exact sound.throw id _
    · cases step
      exact sound.throw id _
  | findExisting n =>
    dsimp only [State.signupTurn] at step
    split at step
    · cases step
      exact sound.answer here _ rfl (fun _ _ signs => signs) rfl rfl
    · cases step
      exact sound.next here rfl rfl (fun _ => rfl) (fun _ _ signs => signs) trivial
  | create =>
    dsimp only [State.signupTurn] at step
    split at step
    case isFalse => cases step
    case isTrue free =>
      split at step
      case isTrue =>
        cases step
        apply sound.rollback (t := (s.rollback id).goto id (.signupForPost call .findCurrent))
          ⟨rfl, rfl, rfl⟩ ⟨rfl, rfl⟩ rfl
        intro tx own
        cases own
        exact ⟨trivial, rfl, rfl⟩
      case isFalse absent =>
        cases step
        apply sound.writeSignup here free
        case signupsOwed =>
          intro postId
          rw [signupWeight_true, signupWeight_absent absent]
          simp [Tx.owedSignups]
        case postsOwed => rfl
        case holds => exact fun _ => rfl
        case unsigned => exact fun _ _ signs => signs
        case signs => exact ⟨rfl, rfl⟩
        case proper => trivial
  | count =>
    dsimp only [State.signupTurn] at step
    split at step
    case h_2 =>
      cases step
      exact sound.throw id _
    case h_1 post seen =>
      split at step
      case isFalse =>
        cases step
        exact sound.throw id _
      case isTrue opens =>
        split at step
        case isFalse => cases step
        case isTrue free =>
          cases step
          have active := active_of_activeUnexpired opens
          have committed := (sound.rows.fresh here rfl call.postId).symm.trans seen
          apply sound.rewritePost here seen free
          case onward => exact ⟨rfl, rfl, .inr rfl⟩
          case deleted => exact Iff.rfl
          case apart => exact fun other away => (if_neg (Ne.symm away)).symm
          case signupsOwed => simp [Tx.owedSignups]
          case postsOwed => rfl
          case holds => rfl
          case signs => exact fun _ _ signs => signs
          case proper =>
            refine ⟨{ post with signupCount := post.signupCount + 1 }, post, ?_, active, ?_, active⟩
            · show (Function.update s.posts call.postId _ call.postId).pending = _
              rw [Function.update_self]
              rfl
            · exact Store.committed_insert.trans committed
  | commit n =>
    cases step
    apply sound.commit here _ rfl rfl
    rintro key ⟨-, own⟩
    rw [own]
    exact sound.rows.proper id _ here
  | findCurrent =>
    cases step
    exact sound.answer here _ rfl (fun _ _ signs => signs) rfl rfl

theorem Sound.cancelTurn {userId : UserId} {stage : CancelStage} (sound : Sound s)
    (here : s.txs id = some (.cancelSignup userId postId stage))
    (step : s.cancelTurn id userId postId stage = some t) : Sound t ∧ Kept s t := by
  cases stage with
  | deleteMany =>
    dsimp only [State.cancelTurn] at step
    split at step
    case isFalse =>
      cases step
      exact sound.next here rfl rfl (fun _ => rfl) (fun _ _ signs => signs) trivial
    case isTrue there =>
      split at step
      case isFalse => cases step
      case isTrue free =>
        cases step
        apply sound.writeSignup here free
        case signupsOwed =>
          intro other
          rw [signupWeight_false, there, signupWeight_true]
          by_cases own : postId = other <;> simp [Tx.owedSignups, own]
        case postsOwed => rfl
        case holds => exact fun _ => rfl
        case unsigned => exact fun _ _ signs => signs
        case signs => exact ⟨rfl, rfl⟩
        case proper => trivial
  | findCurrent =>
    cases step
    exact sound.answer here _ rfl (fun _ _ signs => signs) rfl rfl
  | decrement =>
    dsimp only [State.cancelTurn] at step
    split at step
    case h_2 =>
      cases step
      exact sound.throw id _
    case h_1 post seen =>
      split at step
      case isFalse => cases step
      case isTrue free =>
        cases step
        apply sound.rewritePost here seen free
        case onward => exact ⟨rfl, rfl, .inr rfl⟩
        case deleted => exact Iff.rfl
        case apart => exact fun other away => (if_neg (Ne.symm away)).symm
        case signupsOwed => simp [Tx.owedSignups]
        case postsOwed => rfl
        case holds => rfl
        case signs => exact fun _ _ signs => signs
        case proper => trivial
  | commit n =>
    cases step
    apply sound.commit here _ rfl rfl
    rintro key ⟨deleted, -⟩
    cases deleted

theorem normalizeCircleIds_nodup (circleIds : List CircleId) :
    (normalizeCircleIds circleIds).Nodup :=
  (List.nodup_reverse.mpr (List.nodup_dedup _)).sublist (List.take_sublist _ _)

/-- A new key changes nothing. -/
theorem Sound.enter (sound : Sound s) (fresh : postId ∉ s.postIds) :
    Sound { s with postIds := s.postIds ++ [postId] } := by
  have rows := sound.rows
  constructor
  case rows =>
    refine { rows with knownPosts := ?_, proper := ?_ }
    · intro other absent
      exact rows.knownPosts other fun there => absent (List.mem_append_left _ there)
    · intro w tx there
      have proper := rows.proper w tx there
      cases tx with
      | signupForPost call stage => cases stage <;> exact proper
      | createPost call stage => cases stage <;> exact proper
      | deletePost call stage => cases stage <;> exact proper
      | cancelSignup | sweepExpiredPosts => trivial
  case books =>
    constructor
    case signups => exact sound.books.signups
    case posts =>
      apply sound.books.posts.enter fresh (rows.knownPosts postId fresh)
      intro circleId
      rfl

theorem Sound.createTurn {call : CreateCall} {stage : CreateStage} (sound : Sound s)
    (here : s.txs id = some (.createPost call stage)) (step : s.createTurn id call stage = some t) :
    Sound t ∧ Kept s t := by
  cases stage with
  | create =>
    dsimp only [State.createTurn] at step
    split at step
    case isTrue => cases step
    case isFalse fresh =>
      cases step
      have empty := sound.rows.knownPosts call.postId fresh
      have nonempty : normalizeCircleIds call.circleIds ≠ [] := sound.rows.proper id _ here
      have entered := sound.enter fresh
      have here' : { s with postIds := s.postIds ++ [call.postId] }.txs id =
          some (.createPost call .create) := here
      have unseen : ({ s with postIds := s.postIds ++ [call.postId] }.posts call.postId).view id =
          none := by
        show (s.posts call.postId).view id = none
        rw [empty]
        rfl
      have written : Sound (({ s with postIds := s.postIds ++ [call.postId] }.writePost id
          call.postId call.post).goto id (.createPost call (.count
            (normalizeCircleIds call.circleIds)))) ∧
          Kept { s with postIds := s.postIds ++ [call.postId] }
            (({ s with postIds := s.postIds ++ [call.postId] }.writePost id call.postId
              call.post).goto id (.createPost call (.count
                (normalizeCircleIds call.circleIds)))) := by
        apply entered.writePost here'
        case member => exact List.mem_append_right _ List.mem_cons_self
        case free =>
          show (s.posts call.postId).Free id
          rw [empty]
          exact nofun
        case linked => exact ⟨nonempty, normalizeCircleIds_nodup _⟩
        case after =>
          intro seen there
          rw [unseen] at there
          cases there
        case apart => exact fun _ _ => rfl
        case signupsOwed =>
          rw [unseen]
          rfl
        case postsOwed =>
          intro circleId
          have live : call.post.status ≠ .deleted := nofun
          rw [unseen, postWeight_live live (normalizeCircleIds_nodup _)]
          simp [Tx.owedPosts, postWeight, CreateCall.post]
        case holds => rfl
        case signs => exact fun _ _ signs => signs
        case proper => trivial
      exact ⟨written.1, written.2.signups, written.2.closed⟩
  | count left =>
    cases left with
    | nil =>
      cases step
      exact sound.next here rfl rfl (fun still => by cases still) (fun _ _ signs => signs) trivial
    | cons circleId left =>
      dsimp only [State.createTurn] at step
      split at step
      case isFalse => cases step
      case isTrue free =>
        cases step
        apply sound.addPostCount here free
        case signupsOwed => rfl
        case apart =>
          intro other away
          simp [Tx.owedPosts, Ne.symm away]
        case pays => simp [Tx.owedPosts]
        case holds => exact fun still => by cases still
        case signs => exact fun _ _ signs => signs
        case proper => trivial
  | commit =>
    cases step
    exact sound.commit here _ rfl rfl fun _ signs => signs.elim

theorem Sound.deleteTurn {call : DeleteCall} {stage : DeleteStage} (sound : Sound s)
    (here : s.txs id = some (.deletePost call stage)) (step : s.deleteTurn id call stage = some t) :
    Sound t ∧ Kept s t := by
  cases stage with
  | findPost =>
    dsimp only [State.deleteTurn] at step
    split at step
    · split at step
      · split at step
        · cases step
          exact sound.next here rfl rfl (fun _ => rfl) (fun _ _ signs => signs) trivial
        · cases step
          exact sound.throw id _
      · cases step
        exact sound.throw id _
    · cases step
      exact sound.throw id _
  | findLinks =>
    dsimp only [State.deleteTurn] at step
    split at step
    case h_1 post seen =>
      cases step
      have committed := (sound.rows.fresh here rfl call.postId).symm.trans seen
      exact sound.next here rfl rfl (fun _ => rfl) (fun _ _ signs => signs) ⟨post, committed, rfl⟩
    case h_2 =>
      cases step
      exact sound.throw id _
  | claim linkedCircleIds =>
    dsimp only [State.deleteTurn] at step
    split at step
    case h_2 =>
      cases step
      exact sound.next here rfl rfl (fun still => by cases still) (fun _ _ signs => signs) trivial
    case h_1 post seen =>
      split at step
      case isFalse =>
        cases step
        exact sound.next here rfl rfl (fun still => by cases still) (fun _ _ signs => signs) trivial
      case isTrue active =>
        split at step
        case isFalse => cases step
        case isTrue free =>
          cases step
          have committed := (sound.rows.fresh here rfl call.postId).symm.trans seen
          obtain ⟨found, there, own⟩ := sound.rows.proper id _ here
          have same : found = post := Option.some.inj (there.symm.trans committed)
          have linked := (sound.rows.seen seen).1
          have circles : linkedCircleIds = post.links.dedup := by
            rw [own, same]
            exact if_neg linked.1
          apply sound.writePost here (sound.rows.member seen) free
          case linked => exact linked
          case after =>
            intro other there
            rw [seen] at there
            cases there
            exact ⟨rfl, rfl, .inl active⟩
          case apart => exact fun _ _ => rfl
          case signupsOwed =>
            rw [seen]
            simp [Tx.owedSignups, signupValue]
          case postsOwed =>
            intro circleId
            have live : post.status ≠ .deleted := by
              rw [active]
              decide
            rw [seen, postWeight_live live linked.2, circles, linked.2.dedup]
            simp [Tx.owedPosts, postWeight]
          case holds => rfl
          case signs => exact fun _ _ signs => signs
          case proper => trivial
  | decrement left =>
    cases left with
    | nil =>
      cases step
      exact sound.next here rfl rfl (fun still => by cases still) (fun _ _ signs => signs) trivial
    | cons circleId left =>
      dsimp only [State.deleteTurn] at step
      split at step
      case isFalse => cases step
      case isTrue free =>
        cases step
        apply sound.addPostCount here free
        case signupsOwed => rfl
        case apart =>
          intro other away
          simp [Tx.owedPosts, Ne.symm away]
        case pays =>
          simp only [Tx.owedPosts, List.count_cons_self]
          omega
        case holds => exact fun still => by cases still
        case signs => exact fun _ _ signs => signs
        case proper => trivial
  | commit =>
    cases step
    exact sound.commit here _ rfl rfl fun _ signs => signs.elim

theorem Sound.sweepTurn {now : Time} {stage : SweepStage} (sound : Sound s)
    (here : s.txs id = some (.sweepExpiredPosts now stage))
    (step : s.sweepTurn id now stage = some t) : Sound t ∧ Kept s t := by
  cases stage with
  | lock =>
    dsimp only [State.sweepTurn] at step
    split at step
    case isFalse => cases step
    case isTrue =>
      cases step
      exact sound.stays here (sound.rows.stay rfl rfl rfl rfl rfl) rfl rfl rfl rfl (fun _ => rfl)
        (fun _ _ signs => signs) trivial
  | findBatch =>
    cases step
    exact sound.next here rfl rfl (fun _ => rfl) (fun _ _ signs => signs) trivial
  | update left =>
    cases left with
    | nil =>
      cases step
      exact sound.next here rfl rfl (fun still => by cases still) (fun _ _ signs => signs) trivial
    | cons postId left =>
      dsimp only [State.sweepTurn] at step
      split at step
      case h_2 =>
        cases step
        exact sound.next here rfl rfl (fun still => by cases still) (fun _ _ signs => signs) trivial
      case h_1 post seen =>
        split at step
        case isFalse =>
          cases step
          exact sound.next here rfl rfl (fun still => by cases still) (fun _ _ signs => signs)
            trivial
        case isTrue active =>
          split at step
          case isFalse => cases step
          case isTrue free =>
            cases step
            apply sound.rewritePost here seen free
            case onward => exact ⟨rfl, rfl, .inl active⟩
            case deleted => simp [active]
            case apart => exact fun _ _ => rfl
            case signupsOwed => simp [Tx.owedSignups]
            case postsOwed => rfl
            case holds => rfl
            case signs => exact fun _ _ signs => signs
            case proper => trivial
  | commit =>
    cases step
    exact sound.commit here _ rfl rfl fun _ signs => signs.elim

end CircleBackend.Plaza
