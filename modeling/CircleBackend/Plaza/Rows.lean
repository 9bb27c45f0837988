import CircleBackend.Plaza.Model

/-!
# Rows of the plaza

What a statement writes and how a call ends (`Moves`, `Ends`), and what every state keeps: a
version of a post differs from the one before only as `Onward` says, and a signup that is to be
committed has its post locked while that is active.
-/

namespace CircleBackend.Plaza

open Library Library.ReadCommitted

/-- The circles of a post stay, and its status moves only from `ACTIVE`. -/
structure Onward (before after : CirclePost) : Prop where
  links : after.links = before.links
  circleID : after.circleID = before.circleID
  status : before.status = .active ∨ after.status = before.status

/-- A transaction that may have written a post. -/
def Tx.holdsPosts : Tx → Bool
  | .signupForPost _ (.commit _) | .cancelSignup _ _ (.commit _) | .createPost _ (.count _)
  | .createPost _ .commit | .deletePost _ (.decrement _) | .deletePost _ .commit
  | .sweepExpiredPosts _ (.update _) | .sweepExpiredPosts _ .commit => true
  | _ => false

/-- A transaction that has created or deleted this signup. -/
def Tx.Signs (key : PostId × UserId) (present : Bool) : Tx → Prop
  | .signupForPost call .count | .signupForPost call (.commit _) =>
    present = true ∧ key = (call.postId, call.userId)
  | .cancelSignup userId postId .decrement | .cancelSignup userId postId (.commit _) =>
    present = false ∧ key = (postId, userId)
  | _ => False

/-- The post of a counted signup is locked, and active in both versions. -/
def Counts (s : State) (id : TxId) (postId : PostId) : Prop :=
  ∃ post before, (s.posts postId).pending = some (id, post) ∧ post.status = .active ∧
    (s.posts postId).committed = some before ∧ before.status = .active

def Tx.Proper (s : State) (id : TxId) : Tx → Prop
  | .signupForPost call (.commit _) => Counts s id call.postId
  | .createPost call .create => normalizeCircleIds call.circleIds ≠ []
  | .deletePost call (.claim linkedCircleIds) => ∃ post,
      (s.posts call.postId).committed = some post ∧ linkedCircleIds = post.linkedCircleIds
  | _ => True

def Linked (post : CirclePost) : Prop := post.links ≠ [] ∧ post.links.Nodup

structure Rows (s : State) : Prop where
  knownPosts : ∀ postId, postId ∉ s.postIds → s.posts postId = ⟨none, none⟩
  knownSignups : ∀ key, key ∉ s.signupKeys → s.signups key = ⟨none, none⟩
  committed : ∀ postId post, (s.posts postId).committed = some post → Linked post
  pending : ∀ postId id post, (s.posts postId).pending = some (id, post) → Linked post
  onward : ∀ postId id post before, (s.posts postId).pending = some (id, post) →
    (s.posts postId).committed = some before → Onward before post
  unheld : ∀ id, (∀ tx, s.txs id = some tx → tx.holdsPosts = false) →
    ∀ postId post, (s.posts postId).pending ≠ some (id, post)
  signs : ∀ key id present, (s.signups key).pending = some (id, present) →
    ∃ tx, s.txs id = some tx ∧ tx.Signs key present
  proper : ∀ id tx, s.txs id = some tx → tx.Proper s id

variable {s t : State} {id w : TxId} {tx tx' : Tx} {postId : PostId} {post : CirclePost}

theorem onward_refl (post : CirclePost) : Onward post post := ⟨rfl, rfl, .inr rfl⟩

theorem Onward.trans {a b c : CirclePost} (first : Onward a b) (second : Onward b c) :
    Onward a c where
  links := second.links.trans first.links
  circleID := second.circleID.trans first.circleID
  status := by
    rcases first.status with active | same
    · exact .inl active
    · rcases second.status with active | same'
      · exact .inl (same ▸ active)
      · exact .inr (same'.trans same)

theorem Onward.linkedCircleIds {a b : CirclePost} (onward : Onward a b) :
    b.linkedCircleIds = a.linkedCircleIds := by
  unfold CirclePost.linkedCircleIds
  rw [onward.links, onward.circleID]

theorem Rows.seen (rows : Rows s) (here : (s.posts postId).view id = some post) :
    Linked post ∧ ∀ before, (s.posts postId).committed = some before → Onward before post := by
  obtain ⟨a, held, mine⟩ | ⟨-, same⟩ := (s.posts postId).view_cases id
  · rw [here] at mine
    cases mine
    exact ⟨rows.pending postId id post held, fun before => rows.onward postId id post before held⟩
  · rw [here] at same
    refine ⟨rows.committed postId post same.symm, ?_⟩
    intro before found
    rw [← same] at found
    cases found
    exact onward_refl post

/-- Without a version of its own a transaction sees what is committed. -/
theorem Rows.fresh (rows : Rows s) (here : s.txs id = some tx) (idle : tx.holdsPosts = false)
    (postId : PostId) : (s.posts postId).view id = (s.posts postId).committed := by
  obtain ⟨post, held, -⟩ | ⟨-, same⟩ := (s.posts postId).view_cases id
  · refine absurd held (rows.unheld id ?_ postId post)
    intro found there
    rw [here] at there
    cases there
    exact idle
  · exact same

/-! ## Statements -/

/-- What a statement of a transaction may write. -/
structure Moves (s t : State) (id : TxId) (tx' : Tx) : Prop where
  txs : t.txs = Function.update s.txs id (some tx')
  knownPosts : ∀ postId, postId ∉ t.postIds → t.posts postId = ⟨none, none⟩
  knownSignups : ∀ key, key ∉ t.signupKeys → t.signups key = ⟨none, none⟩
  posts : ∀ postId, t.posts postId = s.posts postId ∨
    (s.posts postId).Free id ∧ tx'.holdsPosts = true ∧ ∃ post,
      t.posts postId = (s.posts postId).write id post ∧ Linked post ∧
        ∀ seen, (s.posts postId).view id = some seen → Onward seen post
  signups : ∀ key, t.signups key = s.signups key ∨
    (s.signups key).Free id ∧ ∃ present,
      t.signups key = (s.signups key).write id present ∧ tx'.Signs key present

theorem Moves.committed (moves : Moves s t id tx') (postId : PostId) :
    (t.posts postId).committed = (s.posts postId).committed := by
  obtain same | ⟨-, -, post, written, -⟩ := moves.posts postId
  · rw [same]
  · rw [written]
    rfl

theorem Moves.pending_other (moves : Moves s t id tx') (other : w ≠ id) :
    (t.posts postId).pending = some (w, post) ↔ (s.posts postId).pending = some (w, post) := by
  obtain same | ⟨free, -, row, written, -⟩ := moves.posts postId
  · rw [same]
  · rw [written]
    constructor
    · intro held
      cases held
      exact absurd rfl other
    · intro held
      exact absurd (free _ held) other

theorem Tx.Proper.moves (proper : tx.Proper s w) (moves : Moves s t id tx') (other : w ≠ id) :
    tx.Proper t w := by
  cases tx with
  | signupForPost call stage =>
    cases stage with
    | commit n =>
      obtain ⟨post, before, held, active, found, active'⟩ := proper
      exact ⟨post, before, (moves.pending_other other).mpr held, active,
        (moves.committed _).trans found, active'⟩
    | findPost | findExisting | create | count | findCurrent => trivial
  | createPost call stage =>
    cases stage with
    | create => exact proper
    | count | commit => trivial
  | deletePost call stage =>
    cases stage with
    | claim linkedCircleIds =>
      obtain ⟨post, found, own⟩ := proper
      exact ⟨post, (moves.committed _).trans found, own⟩
    | findPost | findLinks | decrement | commit => trivial
  | cancelSignup | sweepExpiredPosts => trivial

theorem Rows.moves (rows : Rows s) (here : s.txs id = some tx) (moves : Moves s t id tx')
    (holds : tx'.holdsPosts = false → tx.holdsPosts = false)
    (signs : ∀ key present, tx.Signs key present → tx'.Signs key present)
    (proper : tx'.Proper t id) : Rows t := by
  constructor
  case knownPosts => exact moves.knownPosts
  case knownSignups => exact moves.knownSignups
  case committed =>
    intro postId post found
    rw [moves.committed] at found
    exact rows.committed postId post found
  case pending =>
    intro postId w post held
    obtain same | ⟨-, -, row, written, linked, -⟩ := moves.posts postId
    · rw [same] at held
      exact rows.pending postId w post held
    · rw [written] at held
      cases held
      exact linked
  case onward =>
    intro postId w post before held found
    rw [moves.committed] at found
    obtain same | ⟨free, -, row, written, -, after⟩ := moves.posts postId
    · rw [same] at held
      exact rows.onward postId w post before held found
    · rw [written] at held
      cases held
      obtain ⟨seen, mine, view⟩ | ⟨-, view⟩ := (s.posts postId).view_cases id
      · exact (rows.onward postId id seen before mine found).trans (after seen view)
      · exact after before (view.trans found)
  case unheld =>
    intro w idle postId post held
    by_cases own : w = id
    · rw [own] at idle held
      have idle := idle tx' (by rw [moves.txs, Function.update_self])
      obtain same | ⟨-, holding, -⟩ := moves.posts postId
      · rw [same] at held
        refine rows.unheld id ?_ postId post held
        intro found there
        rw [here] at there
        cases there
        exact holds idle
      · rw [idle] at holding
        cases holding
    · refine rows.unheld w ?_ postId post ((moves.pending_other own).mp held)
      intro found there
      apply idle
      rw [moves.txs, Function.update_of_ne own]
      exact there
  case signs =>
    intro key w present held
    rw [moves.txs]
    obtain same | ⟨-, b, written, own⟩ := moves.signups key
    · rw [same] at held
      obtain ⟨found, there, signs'⟩ := rows.signs key w present held
      by_cases mine : w = id
      · rw [mine, here] at there
        cases there
        exact ⟨tx', by rw [mine, Function.update_self], signs key present signs'⟩
      · exact ⟨found, by rw [Function.update_of_ne mine]; exact there, signs'⟩
    · rw [written] at held
      cases held
      exact ⟨tx', Function.update_self .., own⟩
  case proper =>
    intro w found there
    rw [moves.txs] at there
    by_cases own : w = id
    · rw [own, Function.update_self] at there
      cases there
      exact own ▸ proper
    · rw [Function.update_of_ne own] at there
      exact (rows.proper w found there).moves moves own

/-- A statement that reads, or one that writes neither a post nor a signup. -/
theorem Rows.stay (rows : Rows s) (txs : t.txs = Function.update s.txs id (some tx'))
    (postIds : t.postIds = s.postIds) (posts : t.posts = s.posts)
    (signupKeys : t.signupKeys = s.signupKeys) (signups : t.signups = s.signups) :
    Moves s t id tx' where
  txs := txs
  knownPosts := by
    rw [postIds, posts]
    exact rows.knownPosts
  knownSignups := by
    rw [signupKeys, signups]
    exact rows.knownSignups
  posts postId := .inl (by rw [posts])
  signups key := .inl (by rw [signups])

theorem Rows.writePost (rows : Rows s) (member : postId ∈ s.postIds)
    (free : (s.posts postId).Free id) (holds : tx'.holdsPosts = true) (linked : Linked post)
    (after : ∀ seen, (s.posts postId).view id = some seen → Onward seen post) :
    Moves s ((s.writePost id postId post).goto id tx') id tx' where
  txs := rfl
  knownPosts other absent := by
    have apart : other ≠ postId := fun same => absent (same ▸ member)
    show Function.update s.posts postId _ other = _
    rw [Function.update_of_ne apart]
    exact rows.knownPosts other absent
  knownSignups := rows.knownSignups
  posts other := by
    by_cases own : other = postId
    · rw [own]
      exact .inr ⟨free, holds, post, Function.update_self .., linked, after⟩
    · exact .inl (Function.update_of_ne own ..)
  signups _ := .inl rfl

theorem Rows.writeSignup {key : PostId × UserId} {present : Bool} (rows : Rows s)
    (free : (s.signups key).Free id) (signs : tx'.Signs key present) :
    Moves s ((s.writeSignup id key present).goto id tx') id tx' where
  txs := rfl
  knownPosts := rows.knownPosts
  knownSignups other absent := by
    have absent : other ∉ (if key ∈ s.signupKeys then s.signupKeys else s.signupKeys ++ [key]) :=
      absent
    have apart : other ∉ s.signupKeys ∧ other ≠ key := by
      split at absent
      case isTrue there => exact ⟨absent, fun same => absent (same ▸ there)⟩
      case isFalse =>
        rw [List.mem_append, List.mem_singleton, not_or] at absent
        exact absent
    show Function.update s.signups key _ other = _
    rw [Function.update_of_ne apart.2]
    exact rows.knownSignups other apart.1
  posts _ := .inl rfl
  signups other := by
    by_cases own : other = key
    · rw [own]
      exact .inr ⟨free, present, Function.update_self .., signs⟩
    · exact .inl (Function.update_of_ne own ..)

/-! ## Ends -/

structure Ends (s t : State) (id : TxId) : Prop where
  postIds : t.postIds = s.postIds
  signupKeys : t.signupKeys = s.signupKeys
  cells : t.posts = s.posts.commit id ∧ t.signups = s.signups.commit id ∨
    t.posts = s.posts.abort id ∧ t.signups = s.signups.abort id

/-- A call that has written nothing ends as if it rolled back. -/
theorem Rows.idle (rows : Rows s) (here : s.txs id = some tx) (idle : tx.holdsPosts = false)
    (unsigned : ∀ key present, ¬ tx.Signs key present) (postIds : t.postIds = s.postIds)
    (signupKeys : t.signupKeys = s.signupKeys) (posts : t.posts = s.posts)
    (signups : t.signups = s.signups) : Ends s t id where
  postIds := postIds
  signupKeys := signupKeys
  cells := by
    refine .inr ⟨posts.trans ?_, signups.trans ?_⟩
    · funext postId
      refine (Cell.abort_apart ?_).symm
      apply rows.unheld id
      intro found there
      rw [here] at there
      cases there
      exact idle
    · funext key
      refine (Cell.abort_apart ?_).symm
      intro present held
      obtain ⟨found, there, signs⟩ := rows.signs key id present held
      rw [here] at there
      cases there
      exact unsigned key present signs

theorem Ends.known (ends : Ends s t id) (rows : Rows s) :
    (∀ postId, postId ∉ t.postIds → t.posts postId = ⟨none, none⟩) ∧
      ∀ key, key ∉ t.signupKeys → t.signups key = ⟨none, none⟩ := by
  rw [ends.postIds, ends.signupKeys]
  obtain ⟨posts, signups⟩ | ⟨posts, signups⟩ := ends.cells
  · rw [posts, signups]
    constructor
    · intro postId absent
      show (s.posts postId).commit id = _
      rw [rows.knownPosts postId absent]
      rfl
    · intro key absent
      show (s.signups key).commit id = _
      rw [rows.knownSignups key absent]
      rfl
  · rw [posts, signups]
    constructor
    · intro postId absent
      show (s.posts postId).abort id = _
      rw [rows.knownPosts postId absent]
      rfl
    · intro key absent
      show (s.signups key).abort id = _
      rw [rows.knownSignups key absent]
      rfl

/-- What is committed afterwards was so before or is what the transaction wrote. -/
theorem Ends.committed (ends : Ends s t id) (found : (t.posts postId).committed = some post) :
    (s.posts postId).committed = some post ∨ (s.posts postId).pending = some (id, post) := by
  obtain ⟨posts, -⟩ | ⟨posts, -⟩ := ends.cells
  · rw [posts] at found
    rcases (s.posts postId).committed_commit (t := id) with same | ⟨row, held, now⟩
    · exact .inl (same ▸ found)
    · exact .inr (Option.some.inj (now.symm.trans found) ▸ held)
  · rw [posts] at found
    exact .inl found

theorem Ends.pending (ends : Ends s t id) (held : (t.posts postId).pending = some (w, post)) :
    (s.posts postId).pending = some (w, post) ∧ w ≠ id := by
  obtain ⟨posts, -⟩ | ⟨posts, -⟩ := ends.cells
  · rw [posts] at held
    exact Cell.pending_commit held
  · rw [posts] at held
    exact Cell.pending_abort held

/-- A cell that another transaction has written is left alone. -/
theorem Ends.apart (ends : Ends s t id) (held : (s.posts postId).pending = some (w, post))
    (other : w ≠ id) : t.posts postId = s.posts postId := by
  have apart : ∀ a, (s.posts postId).pending ≠ some (id, a) := by
    intro a mine
    rw [held] at mine
    cases mine
    exact other rfl
  obtain ⟨posts, -⟩ | ⟨posts, -⟩ := ends.cells
  · rw [posts]
    exact Cell.commit_apart apart
  · rw [posts]
    exact Cell.abort_apart apart

theorem Ends.signup (ends : Ends s t id) {key : PostId × UserId} {present : Bool}
    (held : (t.signups key).pending = some (w, present)) :
    (s.signups key).pending = some (w, present) ∧ w ≠ id := by
  obtain ⟨-, signups⟩ | ⟨-, signups⟩ := ends.cells
  · rw [signups] at held
    exact Cell.pending_commit held
  · rw [signups] at held
    exact Cell.pending_abort held

/-- The committed version stays or moves on. -/
theorem Ends.onward (ends : Ends s t id) (rows : Rows s)
    (found : (s.posts postId).committed = some post) :
    ∃ after, (t.posts postId).committed = some after ∧ Onward post after := by
  obtain ⟨posts, -⟩ | ⟨posts, -⟩ := ends.cells
  · rw [posts]
    rcases (s.posts postId).committed_commit (t := id) with same | ⟨row, held, now⟩
    · exact ⟨post, same.trans found, onward_refl post⟩
    · exact ⟨row, now, rows.onward postId id row post held found⟩
  · rw [posts]
    exact ⟨post, found, onward_refl post⟩

theorem Tx.Proper.ends (proper : tx.Proper s w) (rows : Rows s) (ends : Ends s t id)
    (other : w ≠ id) : tx.Proper t w := by
  cases tx with
  | signupForPost call stage =>
    cases stage with
    | commit n =>
      obtain ⟨post, before, held, active, found, active'⟩ := proper
      have same := ends.apart held other
      exact ⟨post, before, same ▸ held, active, same ▸ found, active'⟩
    | findPost | findExisting | create | count | findCurrent => trivial
  | createPost call stage =>
    cases stage with
    | create => exact proper
    | count | commit => trivial
  | deletePost call stage =>
    cases stage with
    | claim linkedCircleIds =>
      obtain ⟨post, found, own⟩ := proper
      obtain ⟨after, now, onward⟩ := ends.onward rows found
      exact ⟨after, now, own.trans onward.linkedCircleIds.symm⟩
    | findPost | findLinks | decrement | commit => trivial
  | cancelSignup | sweepExpiredPosts => trivial

/-- `next` is the transaction that goes on under the id, if one does. -/
theorem Rows.ends {next : Option Tx} (rows : Rows s) (ends : Ends s t id)
    (txs : t.txs = Function.update s.txs id next) (proper : ∀ tx, next = some tx → tx.Proper t id) :
    Rows t := by
  constructor
  case knownPosts => exact (ends.known rows).1
  case knownSignups => exact (ends.known rows).2
  case committed =>
    intro postId post found
    rcases ends.committed found with before | held
    · exact rows.committed postId post before
    · exact rows.pending postId id post held
  case pending =>
    intro postId w post held
    exact rows.pending postId w post (ends.pending held).1
  case onward =>
    intro postId w post before held found
    obtain ⟨held, other⟩ := ends.pending held
    rw [ends.apart held other] at found
    exact rows.onward postId w post before held found
  case unheld =>
    intro w idle postId post held
    obtain ⟨held, other⟩ := ends.pending held
    refine rows.unheld w ?_ postId post held
    intro found there
    apply idle
    rw [txs, Function.update_of_ne other]
    exact there
  case signs =>
    intro key w present held
    obtain ⟨held, other⟩ := ends.signup held
    rw [txs, Function.update_of_ne other]
    exact rows.signs key w present held
  case proper =>
    intro w found there
    rw [txs] at there
    by_cases own : w = id
    · rw [own, Function.update_self] at there
      exact own ▸ proper found there
    · rw [Function.update_of_ne own] at there
      exact (rows.proper w found there).ends rows ends own

end CircleBackend.Plaza
