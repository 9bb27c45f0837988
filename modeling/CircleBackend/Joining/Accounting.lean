import CircleBackend.Joining.Effects
import CircleBackend.Library.Transition

/-!
# The count of the members

`memberCount` is the number of `ACTIVE` rows in every state of a run, whatever the
order of the transactions, and whoever becomes a member finds room for it: in the
circle, and among the circles of the user.
-/

namespace CircleBackend.Joining

open Library Memberships
open CircleBackend.Circle (CircleMemberRole CircleMemberStatus)
open Session (UserId)

namespace Db

variable {db db' : Db}

/-- The invariant of the counts. -/
structure Accounted (db : Db) : Prop where
  counts : ∀ c circle, db.circles.find c = some circle → circle.memberCount = db.activeCount c
  housed : ∀ u c, (db.memberOf u c).isSome → (db.circles.find c).isSome

/-! ## Counting by user -/

theorem counted_at (c₀ : CircleId) (k : UserId × CircleId) :
    ((db.members.find k).any fun m => m.circleID = c₀ && m.status = .active) =
      (decide (k.2 = c₀) && db.isActive k.1 k.2) := by
  obtain ⟨u, c⟩ := k
  rw [isActive, memberOf]
  cases row : db.members.find (u, c) with
  | none => simp
  | some m =>
    obtain ⟨rfl, rfl⟩ := memberOf_key row
    rfl

variable {c : CircleId} {now : Time}

theorem activeCount_same (same : ∀ u, db'.isActive u c = db.isActive u c) :
    db'.activeCount c = db.activeCount c := by
  apply Table.count_same
  intro k
  rw [counted_at, counted_at]
  by_cases here : k.2 = c
  · rw [here, same]
  · simp [here]

/-- The users of `us`, and nobody else, become members of the circle. -/
theorem activeCount_gain {us : List UserId} (distinct : us.Nodup)
    (gained : ∀ u ∈ us, db.isActive u c = false ∧ db'.isActive u c = true)
    (same : ∀ u, u ∉ us → db'.isActive u c = db.isActive u c) :
    db'.activeCount c = db.activeCount c + us.length := by
  have pairs : (us.map fun u => (u, c)).length = us.length := List.length_map ..
  rw [activeCount, activeCount, ← pairs]
  apply Table.count_gain
  · exact distinct.map fun u v same => congrArg Prod.fst same
  · intro k hk
    obtain ⟨u, hu, rfl⟩ := List.mem_map.mp hk
    rw [counted_at, counted_at, (gained u hu).1, (gained u hu).2]
    simp
  · intro k hk
    rw [counted_at, counted_at]
    by_cases here : k.2 = c
    · have apart : k.1 ∉ us := fun hu => hk (List.mem_map.mpr ⟨k.1, hu, by rw [← here]⟩)
      rw [here, same k.1 apart]
    · simp [here]

theorem activeCount_none (none : ∀ u, db.isActive u c = false) : db.activeCount c = 0 := by
  rw [activeCount, Table.count, List.countP_eq_zero]
  intro m member
  have idle := none m.userID
  intro active
  simp only [Bool.and_eq_true, decide_eq_true_eq] at active
  obtain ⟨rfl, active⟩ := active
  rw [isActive_iff.mpr ⟨m, Table.mem_find member, active⟩] at idle
  cases idle

/-- One more membership of the user, which is not the owner's. -/
theorem joinedCount_gain {u : UserId} (outside : db.isActive u c = false)
    (joined : db'.memberOf u c = some ⟨u, c, .member, .active⟩)
    (same : ∀ d, d ≠ c → db'.memberOf u d = db.memberOf u d) :
    db'.joinedCount u = db.joinedCount u + 1 := by
  refine Table.count_gain (List.nodup_singleton (u, c)) ?_ ?_
  · intro k hk
    obtain rfl := List.mem_singleton.mp hk
    constructor
    · rw [isActive, memberOf] at outside
      cases row : db.members.find (u, c) with
      | none => rfl
      | some m =>
        rw [row] at outside
        simp only [Option.any_some, decide_eq_false_iff_not] at outside
        simp [outside]
    · rw [show db'.members.find (u, c) = _ from joined]
      simp
  · rintro ⟨v, d⟩ apart
    have other : ∀ old : Db, v ≠ u → ((old.members.find (v, d)).any
        fun m => m.userID = u && m.role ≠ .owner && m.status = .active) = false := by
      intro old hv
      cases row : old.members.find (v, d) with
      | none => rfl
      | some m => simp [(memberOf_key row).1, hv]
    by_cases here : v = u
    · subst here
      have elsewhere : d ≠ c := fun hd => apart (by rw [hd]; exact List.mem_singleton.mpr rfl)
      have rows : db'.members.find (v, d) = db.members.find (v, d) := same d elsewhere
      rw [rows]
    · rw [other db' here, other db here]

/-! ## The steps -/

theorem Activated.accounted {circleId : CircleId} {asked gained : List UserId}
    (h : Activated db circleId asked now db' gained) (fit : Accounted db) : Accounted db' := by
  have elsewhere : ∀ u c, ¬ (c = circleId ∧ u ∈ gained) → db'.isActive u c = db.isActive u c := by
    intro u c apart
    apply isActive_congr
    rw [h.members, if_neg apart]
  rcases h.seats with ⟨rfl, circles⟩ | ⟨circle, found, -, -, -, circles⟩
  · constructor
    · intro c circle there
      rw [circles] at there
      rw [fit.counts c circle there, activeCount_same fun u => elsewhere u c nofun]
    · intro u c there
      rw [h.members, if_neg nofun] at there
      rw [circles]
      exact fit.housed u c there
  · constructor
    · intro c held there
      rw [circles] at there
      by_cases here : c = circleId
      · subst here
        rw [Function.update_self] at there
        cases there
        have gain : db'.activeCount c = db.activeCount c + gained.length := by
          apply activeCount_gain h.distinct
          · exact fun u hu => ⟨h.outside u hu, (h.isActive u c).mpr (Or.inl ⟨rfl, hu⟩)⟩
          · exact fun u hu => elsewhere u c fun both => hu both.2
        have before := fit.counts c circle found
        dsimp only
        omega
      · rw [Function.update_of_ne here] at there
        rw [fit.counts c held there, activeCount_same fun u => elsewhere u c fun both => here both.1]
    · intro u c there
      rw [circles]
      by_cases here : c = circleId
      · rw [here, Function.update_self]
        rfl
      · rw [Function.update_of_ne here]
        rw [h.members, if_neg fun both => here both.1] at there
        exact fit.housed u c there

theorem Still.accounted (h : Still db db') (fit : Accounted db) : Accounted db' := by
  constructor
  · intro c circle' there
    have counts := h.counts c
    rw [there, Option.map_some] at counts
    obtain ⟨circle, found, same⟩ := Option.map_eq_some_iff.mp counts.symm
    rw [← same, fit.counts c circle found, activeCount_same fun u => h.active u c]
  · intro u c there
    have kept := congrArg Option.isSome (h.counts c)
    rw [Option.isSome_map, Option.isSome_map] at kept
    rw [kept]
    rcases h.housed u c there with member | circle
    · exact fit.housed u c member
    · exact circle

theorem Moves.accounted (h : Moves db now db') (fit : Accounted db) : Accounted db' := by
  cases h with
  | still h => exact h.accounted fit
  | activates before members circles users program h =>
    apply h.accounted
    constructor
    · intro c circle found
      rw [circles] at found
      rw [fit.counts c circle found, activeCount, activeCount, members]
    · intro u c there
      rw [memberOf, members] at there
      rw [circles]
      exact fit.housed u c there
  | founds circle fresh alive one max members circles =>
    have alone : ∀ u, db.isActive u circle.id = false := by
      intro u
      cases member : db.memberOf u circle.id with
      | none =>
        rw [isActive, member]
        rfl
      | some m =>
        have house := fit.housed u circle.id (Option.isSome_of_eq_some member)
        rw [fresh] at house
        cases house
    constructor
    · intro c held there
      rw [circles] at there
      by_cases here : c = circle.id
      · subst here
        rw [Function.update_self] at there
        cases there
        have gain : db'.activeCount circle.id = db.activeCount circle.id + 1 := by
          refine activeCount_gain (List.nodup_singleton circle.ownerID) ?_ ?_
          · intro u hu
            obtain rfl := List.mem_singleton.mp hu
            refine ⟨alone _, isActive_iff.mpr
              ⟨⟨circle.ownerID, circle.id, .owner, .active⟩, ?_, rfl⟩⟩
            rw [members, if_pos ⟨rfl, rfl⟩]
          · intro u hu
            apply isActive_congr
            rw [members, if_neg fun both => hu (List.mem_singleton.mpr both.1)]
        have zero := activeCount_none alone
        omega
      · rw [Function.update_of_ne here] at there
        rw [fit.counts c held there, activeCount_same]
        intro u
        apply isActive_congr
        rw [members, if_neg fun both => here both.2]
    · intro u c there
      rw [circles]
      by_cases here : c = circle.id
      · rw [here, Function.update_self]
        rfl
      · rw [Function.update_of_ne here]
        rw [members, if_neg fun both => here both.2] at there
        exact fit.housed u c there
  | loses m circle member active found members circles =>
    constructor
    · intro c held there
      rw [circles] at there
      by_cases here : c = m.circleID
      · subst here
        rw [Function.update_self] at there
        cases there
        have loss : db.activeCount m.circleID = db'.activeCount m.circleID + 1 := by
          refine activeCount_gain (List.nodup_singleton m.userID) ?_ ?_
          · intro u hu
            obtain rfl := List.mem_singleton.mp hu
            refine ⟨?_, isActive_iff.mpr ⟨m, member, active⟩⟩
            rw [isActive, members, if_pos ⟨rfl, rfl⟩]
            rfl
          · intro u hu
            apply (isActive_congr _).symm
            rw [members, if_neg fun both => hu (List.mem_singleton.mpr both.1)]
        have before := fit.counts m.circleID circle found
        dsimp only
        omega
      · rw [Function.update_of_ne here] at there
        rw [fit.counts c held there, activeCount_same]
        intro u
        apply isActive_congr
        rw [members, if_neg fun both => here both.2]
    · intro u c there
      rw [circles]
      by_cases here : c = m.circleID
      · rw [here, Function.update_self]
        rfl
      · rw [Function.update_of_ne here]
        rw [members, if_neg fun both => here both.2] at there
        exact fit.housed u c there

/-! ## Room -/

/-- Where somebody becomes a member, the circle is there and has the room, and so, but
for its founder, does the user. -/
structure Room (db : Db) (now : Time) (db' : Db) (u : UserId) (c : CircleId) (circle : Circle) :
    Prop where
  found : db'.circles.find c = some circle
  alive : circle.deleted = false
  maxMembers : ∀ max, circle.maxMembers = some max → circle.memberCount ≤ max
  capacity : circle.memberCount ≤ db'.ownerCapacity circle now
  quota : circle.ownerID = u ∧ db.circles.find c = none ∨ ∃ user, db.users.find u = some user ∧
    db'.joinedCount u ≤ (db.tierOf user.membership now).joinedCircles

theorem Moves.room {u : UserId} (h : Moves db now db') (outside : db.isActive u c = false)
    (inside : db'.isActive u c = true) : ∃ circle, Room db now db' u c circle := by
  cases h with
  | still h =>
    rw [h.active, outside] at inside
    cases inside
  | @activates circleId asked gained before members circles users program h =>
    have same : before.isActive u c = db.isActive u c := by
      rw [isActive, memberOf, members, isActive, memberOf]
    rw [h.isActive, same, outside] at inside
    obtain ⟨rfl, chosen⟩ : c = circleId ∧ u ∈ gained := by simpa using inside
    rcases h.seats with ⟨rfl, -⟩ | ⟨circle, found, alive, max, capacity, rows⟩
    · cases chosen
    · refine ⟨{ circle with memberCount := circle.memberCount + gained.length }, ?_, alive, max,
        ?_, ?_⟩
      · rw [rows, Function.update_self]
      · rw [ownerCapacity, h.rest.1, tierOf, h.rest.2.2.1]
        exact capacity
      · obtain ⟨user, known, below⟩ := h.quota u chosen
        refine Or.inr ⟨user, users ▸ known, ?_⟩
        have gain : db'.joinedCount u = before.joinedCount u + 1 := by
          apply joinedCount_gain (c := c) (same.trans outside)
          · rw [h.members, if_pos ⟨rfl, chosen⟩]
          · exact fun d hd => by rw [h.members, if_neg fun both => hd both.1]
        rw [tierOf, program] at below
        rw [tierOf]
        omega
  | founds circle fresh alive one max members circles =>
    have founder : u = circle.ownerID ∧ c = circle.id := by
      by_contra apart
      rw [isActive, members, if_neg apart] at inside
      rw [isActive, inside] at outside
      cases outside
    obtain ⟨rfl, rfl⟩ := founder
    refine ⟨circle, ?_, alive, ?_, ?_, Or.inl ⟨rfl, fresh⟩⟩
    · rw [circles, Function.update_self]
    · intro max' stored
      have := max max' stored
      omega
    · have pos := groupMembers_pos (resolveEntitlementWith db'.programEnabled
        (((db'.users.find circle.ownerID).map (·.membership)).getD ⟨0, none⟩) now)
      rw [ownerCapacity, tierOf, one]
      omega
  | loses m circle member active found members circles =>
    rw [isActive, members] at inside
    split at inside
    · cases inside
    · rw [isActive, inside] at outside
      cases outside

end Db

theorem accounted {acts : List Act} {db : Db} (run : Run Step Db.empty acts db) : db.Accounted := by
  apply run.preserves (P := Db.Accounted)
  · exact fun _ _ _ step fit => (Db.commit_moves step).accounted fit
  · exact ⟨nofun, nofun⟩

/-- In every state that is reached the count of a circle is that of its `ACTIVE` rows;
a transaction that throws changes nothing; and whoever one makes a member joins a circle
that is not deleted, within the bounds of the circle and of the user. -/
theorem membership_accounted {acts : List Act} {db : Db} (run : Run Step Db.empty acts db) :
    (∀ c circle, db.circles.find c = some circle → circle.memberCount = db.activeCount c) ∧
    ∀ act, (∀ fault, db.commit act = .error fault → db.next act = db) ∧
      ∀ db', Step db act db' → ∀ u c, db.isActive u c = false → db'.isActive u c = true →
        ∃ circle, db.Room act.now db' u c circle := by
  refine ⟨(accounted run).counts, fun act => ⟨?_, ?_⟩⟩
  · intro fault thrown
    rw [Db.next, thrown]
    rfl
  · exact fun db' step u c outside inside => (Db.commit_moves step).room outside inside

/-! ## Runs of given transactions -/

/-- The state that a list of transactions leads to, where each commits. -/
def Db.after (db : Db) (acts : List Act) : Option Db :=
  acts.foldlM (fun db act => (db.commit act).toOption) db

theorem run_of_after {acts : List Act} {db db' : Db} (h : db.after acts = some db') :
    Run Step db acts db' :=
  (Run.of_foldlM h).mono fun _ _ _ committed => toOption_some committed

/-- Everybody is a friend of everybody, and may be invited. -/
def Relations.everybody : Relations := ⟨fun _ _ => true, fun _ _ => false, fun _ => .everyone⟩

def callAt (now : Time) (mint : InvitationId) : Call :=
  ⟨now, .everybody, fun _ => true, fun id => id, fun _ => mint⟩

def User.regular (id : UserId) : User := ⟨id, 0, none, 0, false, none, false⟩

/-- User 1 creates circle 10, which admits by one vote. -/
def foundingActs : List Act :=
  [.setUser (.regular 1), .setUser (.regular 2),
    .createCircle 1 ⟨none, none, none, false, none⟩ 10 0]

/-- User 2 has applied. -/
def applyingActs : List Act := foundingActs ++ [.joinCircle 2 10 (callAt 1 0)]

def applied : Db := (Db.empty.after applyingActs).getD Db.empty

def admitted : Db := (applied.after [.adminApprove 1 0 (callAt 2 0)]).getD applied

theorem membership_accounted_admitted :
    (∃ circle, applied.circles.find 10 = some circle ∧ circle.memberCount = 1) ∧
      ∃ circle, applied.Room 2 admitted 2 10 circle := by
  have run : Run Step Db.empty applyingActs applied := run_of_after rfl
  have accounted := membership_accounted run
  refine ⟨?_, ?_⟩
  · obtain ⟨circle, found⟩ : ∃ circle, applied.circles.find 10 = some circle := ⟨_, rfl⟩
    refine ⟨circle, found, ?_⟩
    rw [accounted.1 10 circle found]
    decide
  · exact (accounted.2 (.adminApprove 1 0 (callAt 2 0))).2 admitted rfl 2 10 (by decide) (by decide)

end CircleBackend.Joining
