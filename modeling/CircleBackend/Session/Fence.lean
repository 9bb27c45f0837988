import CircleBackend.Js
import CircleBackend.Library.Table
import CircleBackend.Library.Transition

/-!
# The scope revocation fence

`ScopeRevocationFence` of one process. The state of a key is an object that the leases of
its handlers share; a handler begins, asks `isLatest` and releases with anything between.

`since` is what the fence is for: the generations that have begun for a key since it last
had no active handler.
-/

namespace CircleBackend.Session.Fence

open Library

abbrev ObjectId := Nat
abbrev LeaseId := Nat

inductive RevocationScope
  | account
  | audience
  | device
  | family
  deriving DecidableEq, Repr

/-- `JSON.stringify([event.userId, event.scope, event.scopeKey])` -/
structure FenceKey where
  userId : JsString
  scope : RevocationScope
  scopeKey : JsString
  deriving DecidableEq, Repr

structure ScopeRevocationBroadcast where
  key : FenceKey
  generation : Int

structure HandlerState where
  latestGeneration : Int
  handlers : Int

structure Lease where
  id : LeaseId
  key : FenceKey
  generation : Int
  state : ObjectId
  released : Bool

structure ScopeRevocationFence where
  active : FenceKey → Option ObjectId
  states : ObjectId → Option HandlerState
  leases : Table Lease LeaseId (·.id)
  since : FenceKey → List Int

inductive Act
  /-- The ids are for the lease and for the state, where the key has none. -/
  | begin (event : ScopeRevocationBroadcast) (lease : LeaseId) (state : ObjectId)
  | release (lease : LeaseId)

namespace ScopeRevocationFence

def new : ScopeRevocationFence := ⟨fun _ => none, fun _ => none, .empty, fun _ => []⟩

/-- A handler of a key that has not released. -/
def Active (f : ScopeRevocationFence) (key : FenceKey) : Prop :=
  ∃ l ∈ f.leases.rows, l.key = key ∧ l.released = false

/-- The state of a key, or the one that `begin` makes for it. -/
def stateOf (f : ScopeRevocationFence) (event : ScopeRevocationBroadcast) (fresh : ObjectId) :
    Option (ObjectId × HandlerState) :=
  match f.active event.key with
  | some o => (f.states o).map (o, ·)
  | none => if (f.states fresh).isSome then none else some (fresh, ⟨event.generation, 0⟩)

def begin (f : ScopeRevocationFence) (event : ScopeRevocationBroadcast) (lease : LeaseId)
    (fresh : ObjectId) : Option ScopeRevocationFence := do
  let (o, state) ← f.stateOf event fresh
  let leases ← f.leases.insert ⟨lease, event.key, event.generation, o, false⟩
  some
    { active := Function.update f.active event.key (some o)
      states := Function.update f.states o (some
        ⟨max state.latestGeneration event.generation, state.handlers + 1⟩)
      leases := leases
      since := Function.update f.since event.key
        ((if f.leases.rows.any fun l => l.key = event.key && !l.released then f.since event.key
          else []) ++ [event.generation]) }

def isLatest (f : ScopeRevocationFence) (lease : LeaseId) : Bool :=
  (f.leases.find lease).any fun l =>
    !l.released && f.active l.key = some l.state &&
      (f.states l.state).any fun state => state.latestGeneration = l.generation

def release (f : ScopeRevocationFence) (lease : LeaseId) : Option ScopeRevocationFence := do
  let l ← f.leases.find lease
  if l.released then some f
  else
    let state ← f.states l.state
    let left : HandlerState := { state with handlers := state.handlers - 1 }
    some
      { f with
        states := Function.update f.states l.state (some left)
        leases := f.leases.put { l with released := true }
        active :=
          if left.handlers = 0 ∧ f.active l.key = some l.state then
            Function.update f.active l.key none
          else f.active }

def next (f : ScopeRevocationFence) : Act → Option ScopeRevocationFence
  | .begin event lease fresh => f.begin event lease fresh
  | .release lease => f.release lease

def Step (f : ScopeRevocationFence) (act : Act) (g : ScopeRevocationFence) : Prop :=
  f.next act = some g

/-! ## The newest handler -/

variable {f g : ScopeRevocationFence} {o : ObjectId} {key : FenceKey} {lease : LeaseId} {l : Lease}
  {state : HandlerState}

/-- The handlers of a state. -/
def holders (f : ScopeRevocationFence) (o : ObjectId) : Nat :=
  f.leases.count fun l => !l.released && l.state = o

structure Sound (f : ScopeRevocationFence) : Prop where
  mapped : ∀ l ∈ f.leases.rows, l.released = false → f.active l.key = some l.state
  keyed : ∀ key o, f.active key = some o →
    f.Active key ∧ ∃ state, f.states o = some state ∧ state.handlers = f.holders o ∧
      state.latestGeneration ∈ f.since key ∧ ∀ n ∈ f.since key, n ≤ state.latestGeneration
  apart : ∀ key key' o, f.active key = some o → f.active key' = some o → key = key'
  own : ∀ l ∈ f.leases.rows, l.released = false → l.generation ∈ f.since l.key
  made : ∀ l ∈ f.leases.rows, (f.states l.state).isSome = true

theorem Sound.new : Sound new := by
  constructor <;> simp [ScopeRevocationFence.new, Table.empty]

theorem Sound.active_iff (sound : f.Sound) : (f.active key).isSome = true ↔ f.Active key := by
  constructor
  · intro there
    obtain ⟨o, mapped⟩ := Option.isSome_iff_exists.mp there
    exact (sound.keyed key o mapped).1
  · rintro ⟨l, member, rfl, live⟩
    rw [sound.mapped l member live]
    rfl

theorem Sound.isLatest_iff (sound : f.Sound) (found : f.leases.find lease = some l) :
    f.isLatest lease = true ↔ l.released = false ∧ ∀ n ∈ f.since l.key, n ≤ l.generation := by
  have member := Table.find_mem found
  unfold isLatest
  rw [found, Option.any_some]
  cases live : l.released with
  | true => simp
  | false =>
    have mapped := sound.mapped l member live
    obtain ⟨-, state, there, -, latest, greatest⟩ := sound.keyed l.key l.state mapped
    have own := sound.own l member live
    simp only [Bool.not_false, mapped, there, Option.any_some, decide_true, Bool.true_and,
      decide_eq_true_eq, true_and]
    constructor
    · intro same n listed
      rw [← same]
      exact greatest n listed
    · intro greatest'
      have low := greatest' _ latest
      have high := greatest _ own
      omega

theorem of_holders (some' : 0 < f.holders o) :
    ∃ l ∈ f.leases.rows, l.released = false ∧ l.state = o := by
  obtain ⟨l, member, holds⟩ := List.countP_pos_iff.mp some'
  simp only [Bool.and_eq_true, Bool.not_eq_true', decide_eq_true_eq] at holds
  exact ⟨l, member, holds⟩

/-- What `begin` finds: the state of the key, or that the key has no handler. -/
theorem Sound.stateOf {event : ScopeRevocationBroadcast} {fresh : ObjectId} (sound : f.Sound)
    (h : f.stateOf event fresh = some (o, state)) :
    state.handlers = f.holders o ∧ (f.active event.key = some o ∨ f.states o = none) ∧
    (∀ l ∈ f.leases.rows, l.released = false → l.key = event.key → l.state = o) ∧
    (∀ key, f.active key = some o → key = event.key) ∧
    max state.latestGeneration event.generation ∈
      (if f.leases.rows.any fun l => l.key = event.key && !l.released then f.since event.key
        else []) ++ [event.generation] ∧
    ∀ n ∈ (if f.leases.rows.any fun l => l.key = event.key && !l.released then f.since event.key
        else []) ++ [event.generation], n ≤ max state.latestGeneration event.generation := by
  unfold ScopeRevocationFence.stateOf at h
  split at h
  case h_1 o' mapped =>
    obtain ⟨state', there, same⟩ := Option.map_eq_some_iff.mp h
    cases same
    obtain ⟨⟨l, member, own, live⟩, state', there', handlers, latest, greatest⟩ :=
      sound.keyed event.key o mapped
    cases there.symm.trans there'
    have busy : (f.leases.rows.any fun l => l.key = event.key && !l.released) = true :=
      List.any_eq_true.mpr ⟨l, member, by simp [own, live]⟩
    rw [if_pos busy]
    refine ⟨handlers, .inl mapped, ?_, fun key mapped' => sound.apart key event.key o mapped' mapped,
      ?_, ?_⟩
    · intro l' member' live' own'
      have mapped' := sound.mapped l' member' live'
      rw [own', mapped] at mapped'
      exact (Option.some.inj mapped').symm
    · rw [List.mem_append, List.mem_singleton]
      rcases le_total state.latestGeneration event.generation with less | more
      · right
        omega
      · left
        rw [max_eq_left more]
        exact latest
    · intro n listed
      rcases List.mem_append.mp listed with old | new'
      · have bound := greatest n old
        omega
      · rw [List.mem_singleton.mp new']
        omega
  case h_2 empty =>
    split at h
    · cases h
    · rename_i free
      cases h
      have free := Option.not_isSome_iff_eq_none.mp free
      have idle : ¬f.Active event.key := by
        intro active
        have there := sound.active_iff.mpr active
        rw [empty] at there
        cases there
      have quiet : (f.leases.rows.any fun l => l.key = event.key && !l.released) = false := by
        rw [List.any_eq_false]
        intro l member holds
        simp only [Bool.and_eq_true, Bool.not_eq_true', decide_eq_true_eq] at holds
        exact idle ⟨l, member, holds⟩
      have unheld : f.holders o = 0 := by
        by_contra held
        obtain ⟨l, member, -, own⟩ := of_holders (Nat.pos_of_ne_zero held)
        have made := sound.made l member
        rw [own, free] at made
        cases made
      rw [quiet]
      refine ⟨by rw [unheld]; rfl, .inr free, ?_, ?_, ?_, ?_⟩
      · intro l member live own
        exact absurd ⟨l, member, own, live⟩ idle
      · intro key mapped
        obtain ⟨-, state', there, -⟩ := sound.keyed key o mapped
        cases free.symm.trans there
      · simp
      · simp

theorem Sound.begin {event : ScopeRevocationBroadcast} {fresh : ObjectId} (sound : f.Sound)
    (h : f.begin event lease fresh = some g) : g.Sound := by
  obtain ⟨⟨o, state⟩, found, h⟩ := Option.bind_eq_some_iff.mp h
  obtain ⟨leases, inserted, h⟩ := Option.bind_eq_some_iff.mp h
  cases h
  obtain ⟨handlers, before, theirs, only, latest, greatest⟩ := sound.stateOf found
  have count := Table.count_insert (fun l => !l.released && l.state = o) inserted
  have others : ∀ o', o' ≠ o → leases.count (fun l => !l.released && l.state = o') = f.holders o' := by
    intro o' other
    rw [Table.count_insert _ inserted, if_neg]
    · rfl
    · simp [Ne.symm other]
  constructor
  case mapped =>
    intro l member live
    dsimp only
    rcases (Table.mem_insert inserted).mp member with old | new'
    · by_cases same : l.key = event.key
      · rw [same, Function.update_self, theirs l old live same]
      · rw [Function.update_of_ne same]
        exact sound.mapped l old live
    · rw [new', Function.update_self]
  case keyed =>
    intro key o' mapped
    dsimp only at mapped ⊢
    by_cases same : key = event.key
    · subst same
      rw [Function.update_self] at mapped
      cases mapped
      refine ⟨⟨_, (Table.mem_insert inserted).mpr (.inr rfl), rfl, rfl⟩, _,
        Function.update_self .., ?_, ?_⟩
      · have counted : ScopeRevocationFence.holders
            { active := Function.update f.active event.key (some o)
              states := Function.update f.states o (some
                ⟨max state.latestGeneration event.generation, state.handlers + 1⟩)
              leases := leases
              since := Function.update f.since event.key
                ((if f.leases.rows.any fun l => l.key = event.key && !l.released
                  then f.since event.key else []) ++ [event.generation]) } o = f.holders o + 1 := by
          unfold holders
          rw [count]
          simp
        rw [counted, handlers]
        rfl
      · rw [Function.update_self]
        exact ⟨latest, greatest⟩
    · rw [Function.update_of_ne same] at mapped
      obtain ⟨⟨l, member, own, live⟩, state', there, handlers', latest', greatest'⟩ :=
        sound.keyed key o' mapped
      have other : o' ≠ o := by
        rintro rfl
        exact same (only key mapped)
      refine ⟨⟨l, (Table.mem_insert inserted).mpr (.inl member), own, live⟩, state',
        (Function.update_of_ne other ..).trans there, ?_, ?_⟩
      · rw [handlers']
        exact congrArg Nat.cast (others o' other).symm
      · rw [Function.update_of_ne same]
        exact ⟨latest', greatest'⟩
  case apart =>
    intro key key' o' mapped mapped'
    dsimp only at mapped mapped'
    by_cases same : key = event.key <;> by_cases same' : key' = event.key
    · rw [same, same']
    · subst same
      rw [Function.update_self] at mapped
      rw [Function.update_of_ne same'] at mapped'
      cases mapped
      exact (only key' mapped').symm
    · subst same'
      rw [Function.update_self] at mapped'
      rw [Function.update_of_ne same] at mapped
      cases mapped'
      exact only key mapped
    · rw [Function.update_of_ne same] at mapped
      rw [Function.update_of_ne same'] at mapped'
      exact sound.apart key key' o' mapped mapped'
  case own =>
    intro l member live
    dsimp only
    rcases (Table.mem_insert inserted).mp member with old | new'
    · by_cases same : l.key = event.key
      · have busy : (f.leases.rows.any fun l => l.key = event.key && !l.released) = true :=
          List.any_eq_true.mpr ⟨l, old, by simp [same, live]⟩
        rw [same, Function.update_self, if_pos busy]
        exact List.mem_append_left _ (same ▸ sound.own l old live)
      · rw [Function.update_of_ne same]
        exact sound.own l old live
    · rw [new', Function.update_self]
      exact List.mem_append_right _ List.mem_cons_self
  case made =>
    intro l member
    dsimp only
    rw [Function.update_apply]
    split
    · rfl
    · rename_i other
      rcases (Table.mem_insert inserted).mp member with old | new'
      · exact sound.made l old
      · exact absurd (congrArg Lease.state new') other

theorem Sound.release (sound : f.Sound) (h : f.release lease = some g) : g.Sound := by
  obtain ⟨l, found, h⟩ := Option.bind_eq_some_iff.mp h
  split at h
  · cases h
    exact sound
  rename_i live
  have live := Bool.eq_false_iff.mpr live
  obtain ⟨state, there, h⟩ := Option.bind_eq_some_iff.mp h
  have member := Table.find_mem found
  have mapped := sound.mapped l member live
  obtain ⟨-, state', there', handlers, latest, greatest⟩ := sound.keyed l.key l.state mapped
  cases there.symm.trans there'
  have found : f.leases.find ({ l with released := true } : Lease).id = some l := by
    rw [← Table.find_key found] at found
    exact found
  have finds := Table.find_put_of_find found
  -- the rows but the one released
  have rows : ∀ m ∈ (f.leases.put { l with released := true }).rows, m.released = false →
      m ∈ f.leases.rows := by
    intro m inside live'
    have there := Table.mem_find inside
    rw [finds] at there
    split at there
    · cases there
      cases live'
    · exact Table.find_mem there
  have stays : ∀ m ∈ f.leases.rows, m.id ≠ l.id → m ∈ (f.leases.put { l with released := true }).rows := by
    intro m inside other
    apply Table.find_mem (k := m.id)
    rw [finds, if_neg other]
    exact Table.mem_find inside
  have count := Table.count_put (fun m => !m.released && m.state = l.state) found
  simp only [live, Bool.not_false, decide_true, Bool.and_self, ↓reduceIte, Bool.not_true,
    Bool.false_and, Bool.false_eq_true, Nat.add_zero] at count
  have others : ∀ o', o' ≠ l.state →
      (f.leases.put { l with released := true }).count (fun m => !m.released && m.state = o') =
        f.holders o' := by
    intro o' other
    have count := Table.count_put (fun m => !m.released && m.state = o') found
    unfold holders
    simpa [live, Ne.symm other] using count
  have keep (active : FenceKey → Option ObjectId)
      (away : ∀ key, key ≠ l.key → active key = f.active key)
      (here : active l.key = some l.state ∧ state.handlers - 1 ≠ 0 ∨
        active l.key = none ∧ state.handlers - 1 = 0) :
      Sound
        { f with
          states := Function.update f.states l.state (some { state with
            handlers := state.handlers - 1 })
          leases := f.leases.put { l with released := true }
          active := active } := by
    have sub : ∀ key o', active key = some o' → f.active key = some o' := by
      intro key o' mapped'
      by_cases same : key = l.key
      · subst same
        rcases here with ⟨there, -⟩ | ⟨gone, -⟩
        · cases there.symm.trans mapped'
          exact mapped
        · cases gone.symm.trans mapped'
      · rw [away key same] at mapped'
        exact mapped'
    constructor
    case mapped =>
      intro m inside live'
      have old := sound.mapped m (rows m inside live') live'
      by_cases same : m.key = l.key
      · rw [same] at old ⊢
        have own : m.state = l.state := Option.some.inj (old.symm.trans mapped)
        rcases here with ⟨there, -⟩ | ⟨-, last⟩
        · rw [own]
          exact there
        · -- somebody still holds the state
          have held : 0 < (f.leases.put { l with released := true }).count
              (fun m => !m.released && m.state = l.state) :=
            Table.count_pos inside (by simp [live', own])
          unfold holders at handlers
          omega
      · dsimp only
        rw [away m.key same]
        exact old
    case keyed =>
      intro key o' mapped'
      dsimp only at mapped' ⊢
      by_cases same : key = l.key
      · subst same
        rcases here with ⟨there, more⟩ | ⟨gone, -⟩
        · cases there.symm.trans mapped'
          have held : 0 < (f.leases.put { l with released := true }).count
              (fun m => !m.released && m.state = l.state) := by
            unfold holders at handlers
            omega
          obtain ⟨m, inside, holds⟩ := List.countP_pos_iff.mp held
          simp only [Bool.and_eq_true, Bool.not_eq_true', decide_eq_true_eq] at holds
          have old := sound.mapped m (rows m inside holds.1) holds.1
          rw [holds.2] at old
          refine ⟨⟨m, inside, sound.apart _ _ _ old mapped, holds.1⟩, _, Function.update_self .., ?_,
            latest, greatest⟩
          unfold holders at handlers ⊢
          dsimp only
          omega
        · cases gone.symm.trans mapped'
      · rw [away key same] at mapped'
        obtain ⟨⟨m, inside, own, live'⟩, state', there', handlers', rest⟩ := sound.keyed key o' mapped'
        have other : o' ≠ l.state := by
          rintro rfl
          exact same (sound.apart _ _ _ mapped' mapped)
        have apart : m.id ≠ l.id := by
          intro same'
          have equal := f.leases.row_unique inside member same'
          exact same (own ▸ congrArg Lease.key equal)
        refine ⟨⟨m, stays m inside apart, own, live'⟩, state',
          (Function.update_of_ne other ..).trans there', ?_, rest⟩
        rw [handlers']
        exact congrArg Nat.cast (others o' other).symm
    case apart => exact fun key key' o' a b => sound.apart key key' o' (sub _ _ a) (sub _ _ b)
    case own => exact fun m inside live' => sound.own m (rows m inside live') live'
    case made =>
      intro m inside
      dsimp only
      rw [Function.update_apply]
      split
      · rfl
      · rename_i other
        have there := Table.mem_find inside
        rw [finds] at there
        split at there
        · cases there
          exact absurd rfl other
        · exact sound.made m (Table.find_mem there)
  cases h
  dsimp only
  by_cases last : state.handlers - 1 = 0
  · rw [if_pos ⟨last, mapped⟩]
    refine keep _ ?_ (.inr ⟨Function.update_self .., last⟩)
    exact fun key other => Function.update_of_ne other ..
  · rw [if_neg fun both => last both.1]
    exact keep _ (fun _ _ => rfl) (.inl ⟨mapped, last⟩)

theorem fence_sound (h : Reachable (· = .new) Step f) : f.Sound := by
  apply h.invariant
  · rintro _ rfl
    exact .new
  · intro f act g step sound
    cases act with
    | begin event lease fresh => exact sound.begin step
    | release lease => exact sound.release step

/-- A handler is the latest as long as it has not released and none of its key has begun
with a greater generation since the key last had no handler; the key has an entry as long
as it has a handler. -/
theorem fence_newest (h : Reachable (· = .new) Step f) :
    (∀ lease l, f.leases.find lease = some l →
      (f.isLatest lease = true ↔ l.released = false ∧ l.generation ∈ f.since l.key ∧
        ∀ n ∈ f.since l.key, n ≤ l.generation)) ∧
    ∀ key, (f.active key).isSome = true ↔ f.Active key := by
  have sound := fence_sound h
  refine ⟨fun lease l found => ?_, fun key => sound.active_iff⟩
  rw [sound.isLatest_iff found]
  constructor
  · rintro ⟨live, greatest⟩
    exact ⟨live, sound.own l (Table.find_mem found) live, greatest⟩
  · rintro ⟨live, -, greatest⟩
    exact ⟨live, greatest⟩

def loginKey : FenceKey := ⟨[65], .account, [65]⟩

/-- A handler of generation 5 overlaps one of generation 3, which overlaps one of 4. -/
def chained : List Act :=
  [.begin ⟨loginKey, 5⟩ 1 0, .begin ⟨loginKey, 3⟩ 2 0, .release 1, .begin ⟨loginKey, 4⟩ 3 0]

theorem fence_newest_chained : ∃ f : ScopeRevocationFence,
    (f.leases.find 2).any (fun l => !l.released && l.generation = 3) ∧
      (f.leases.find 3).any (fun l => !l.released && l.generation = 4) ∧
        (f.active loginKey).isSome = true ∧ f.Active loginKey := by
  have run : Run Step new chained _ :=
    Run.of_foldlM (show chained.foldlM ScopeRevocationFence.next new = some _ from rfl)
  exact ⟨_, rfl, rfl, rfl, ((fence_newest ⟨_, _, rfl, run⟩).2 loginKey).mp rfl⟩

/-- Of two handlers that overlap, that of the greater generation is not the latest: a
third one that began before it has come and gone. -/
theorem fence_suppresses : ∃ f : ScopeRevocationFence, Reachable (· = .new) Step f ∧
    (∀ l ∈ f.leases.rows, l.released = false → l.key = loginKey ∧ l.generation ≤ 4) ∧
      (∃ l, f.leases.find 3 = some l ∧ l.released = false ∧ l.generation = 4) ∧
        f.isLatest 3 = false := by
  have run : Run Step new chained _ :=
    Run.of_foldlM (show chained.foldlM ScopeRevocationFence.next new = some _ from rfl)
  refine ⟨_, ⟨_, _, rfl, run⟩, ?_, ⟨_, rfl, rfl, rfl⟩, rfl⟩
  intro l member live
  rcases List.mem_cons.mp member with rfl | member
  · cases live
  rcases List.mem_cons.mp member with rfl | member
  · exact ⟨rfl, by decide⟩
  · rw [List.mem_singleton.mp member]
    exact ⟨rfl, by decide⟩

end ScopeRevocationFence

end CircleBackend.Session.Fence
