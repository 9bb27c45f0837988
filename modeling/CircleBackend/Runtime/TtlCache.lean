import CircleBackend.Js
import CircleBackend.Library.Transition
import Mathlib.Logic.Function.Basic

/-!
# The TTL cache

`TtlCache` with the loads it has begun. A load is a chain of promises: it is requested,
called, answers, may store its value and is then taken out of `loading`. Each of these is
a job of its own, and the jobs of different loads and the calls come in any order.

A load belongs to the generation it was requested in: the number of times `clear` had
been called.
-/

namespace CircleBackend.Runtime.TtlCache

open Library

variable {κ ν : Type}

abbrev LoadId := Nat

structure TtlCacheOptions where
  ttlMs : Nat
  maxEntries : Nat

/-- What a load answers: a value, or that it failed. -/
abbrev Outcome (ν : Type) := Option ν

inductive Stage (ν : Type)
  | requested
  | called
  /-- The load has answered, and the callback with its value is to run. -/
  | loaded (value : ν)
  /-- The `finally` is to run. -/
  | finishing (outcome : Outcome ν)
  | settled (outcome : Outcome ν)

def Stage.inFlight : Stage ν → Bool
  | .settled _ => false
  | _ => true

def Stage.outcome : Stage ν → Option (Outcome ν)
  | .requested | .called => none
  | .loaded value => some (some value)
  | .finishing outcome | .settled outcome => some outcome

structure Load (κ ν : Type) where
  key : κ
  generation : Nat
  stage : Stage ν
  /-- What `load` answered. -/
  produced : Option (Outcome ν)

structure Entry (κ ν : Type) where
  key : κ
  value : ν
  expiresAt : Time
  /-- The load that stored it, and when. -/
  load : LoadId
  storedAt : Time

inductive Answer (κ ν : Type)
  | cached (entry : Entry κ ν)
  | promise (load : LoadId)

/-- A call of `getOrLoad` that has returned. -/
structure Call (κ ν : Type) where
  key : κ
  generation : Nat
  calledAt : Time
  answer : Answer κ ν

structure State (κ ν : Type) where
  /-- In the order of their insertion. -/
  entries : List (Entry κ ν)
  loading : κ → Option LoadId
  generation : Nat
  clock : Time
  loads : LoadId → Option (Load κ ν)
  calls : List (Call κ ν)

def new (κ ν : Type) : State κ ν := ⟨[], fun _ => none, 0, 0, fun _ => none, []⟩

inductive Act (κ ν : Type)
  /-- The id is for the load it may request. -/
  | getOrLoad (key : κ) (id : LoadId)
  | clear
  | call (id : LoadId)
  | answer (id : LoadId) (outcome : Outcome ν)
  | callback (id : LoadId)
  | finish (id : LoadId)
  | tick (clock : Time)

namespace State

variable [DecidableEq κ] (options : TtlCacheOptions) (s : State κ ν)

def deleteEntry (entries : List (Entry κ ν)) (key : κ) : List (Entry κ ν) :=
  entries.filter fun e => e.key ≠ key

def setLoad (id : LoadId) (load : Load κ ν) : State κ ν :=
  { s with loads := Function.update s.loads id (some load) }

def returns (key : κ) (answer : Answer κ ν) : State κ ν :=
  { s with calls := s.calls ++ [⟨key, s.generation, s.clock, answer⟩] }

/-- The part of `getOrLoad` after the entries. -/
def join (key : κ) (id : LoadId) : Option (State κ ν) :=
  match s.loading key with
  | some running => some (s.returns key (.promise running))
  | none =>
    if (s.loads id).isSome then none
    else
      some (({ s with loading := Function.update s.loading key (some id) }.setLoad id
        ⟨key, s.generation, .requested, none⟩).returns key (.promise id))

def getOrLoad (key : κ) (id : LoadId) : Option (State κ ν) :=
  match s.entries.find? (·.key = key) with
  | some hit =>
    if s.clock < hit.expiresAt then some (s.returns key (.cached hit))
    else { s with entries := deleteEntry s.entries key }.join key id
  | none => s.join key id

def store (key : κ) (value : ν) (id : LoadId) : List (Entry κ ν) :=
  let entries := deleteEntry s.entries key ++ [⟨key, value, s.clock + options.ttlMs, id, s.clock⟩]
  if entries.length ≤ options.maxEntries then entries
  else
    let live := entries.filter fun e => s.clock < e.expiresAt
    live.drop (live.length - options.maxEntries)

def clear : State κ ν :=
  { s with generation := s.generation + 1, entries := [], loading := fun _ => none }

/-- The callback with the value. -/
def stored (id : LoadId) (load : Load κ ν) (value : ν) : State κ ν :=
  let finishing := { load with stage := .finishing (some value) }
  if load.generation = s.generation then
    { s with entries := s.store options load.key value id }.setLoad id finishing
  else s.setLoad id finishing

/-- The `finally`. -/
def finished (id : LoadId) (load : Load κ ν) (outcome : Outcome ν) : State κ ν :=
  let settled := { load with stage := .settled outcome }
  if s.loading load.key = some id then
    { s with loading := Function.update s.loading load.key none }.setLoad id settled
  else s.setLoad id settled

def next : Act κ ν → Option (State κ ν)
  | .getOrLoad key id => s.getOrLoad key id
  | .clear => some s.clear
  | .call id => do
    let load ← s.loads id
    match load.stage with
    | .requested => some (s.setLoad id { load with stage := .called })
    | _ => none
  | .answer id outcome => do
    let load ← s.loads id
    match load.stage with
    | .called =>
      let stage : Stage ν := outcome.elim (.finishing none) .loaded
      some (s.setLoad id { load with stage := stage, produced := some outcome })
    | _ => none
  | .callback id => do
    let load ← s.loads id
    match load.stage with
    | .loaded value => some (s.stored options id load value)
    | _ => none
  | .finish id => do
    let load ← s.loads id
    match load.stage with
    | .finishing outcome => some (s.finished id load outcome)
    | _ => none
  | .tick clock => if s.clock ≤ clock then some { s with clock := clock } else none

end State

def Step [DecidableEq κ] (options : TtlCacheOptions) (s : State κ ν) (act : Act κ ν) (t : State κ ν) : Prop :=
  s.next options act = some t

/-! ## What a load keeps -/

section Sound

variable {options : TtlCacheOptions} {s t : State κ ν} {key : κ} {id : LoadId} {l : Load κ ν}
  {e : Entry κ ν} {c : Call κ ν} {g : Nat}

/-- A load is never another's, and what it has answered stands. -/
structure Load.Onward (l l' : Load κ ν) : Prop where
  key : l'.key = l.key
  generation : l'.generation = l.generation
  produced : ∀ outcome, l.produced = some outcome → l'.produced = some outcome

theorem Load.Onward.refl (l : Load κ ν) : l.Onward l := ⟨rfl, rfl, fun _ h => h⟩

def State.Onward (s t : State κ ν) : Prop :=
  ∀ i l, s.loads i = some l → ∃ l', t.loads i = some l' ∧ l.Onward l'

theorem State.Onward.same (same : t.loads = s.loads) : s.Onward t :=
  fun i l found => ⟨l, by rw [same, found], .refl l⟩

/-- The value of an entry is what its load, of that generation, has answered. -/
def Entry.From (options : TtlCacheOptions) (s : State κ ν) (g : Nat) (e : Entry κ ν) : Prop :=
  e.expiresAt = e.storedAt + options.ttlMs ∧ ∃ l, s.loads e.load = some l ∧ l.key = e.key ∧
    l.generation = g ∧ l.produced = some (some e.value)

theorem Entry.From.onward (h : e.From options s g) (onward : s.Onward t) : e.From options t g := by
  obtain ⟨expires, l, found, key, generation, produced⟩ := h
  obtain ⟨l', there, kept⟩ := onward e.load l found
  exact ⟨expires, l', there, kept.key.trans key, kept.generation.trans generation,
    kept.produced _ produced⟩

/-- What a call has got is of a load of its key and of its generation. -/
def Call.Own (options : TtlCacheOptions) (s : State κ ν) (c : Call κ ν) : Prop :=
  match c.answer with
  | .cached e => e.From options s c.generation ∧ e.key = c.key ∧ c.calledAt < e.expiresAt
  | .promise i => ∃ l, s.loads i = some l ∧ l.key = c.key ∧ l.generation = c.generation

theorem Call.Own.onward (h : c.Own options s) (onward : s.Onward t) : c.Own options t := by
  unfold Call.Own at h ⊢
  split at h
  · exact ⟨h.1.onward onward, h.2⟩
  · rename_i i _
    obtain ⟨l, found, key, generation⟩ := h
    obtain ⟨l', there, kept⟩ := onward i l found
    exact ⟨l', there, kept.key.trans key, kept.generation.trans generation⟩

structure Sound (options : TtlCacheOptions) (s : State κ ν) : Prop where
  produced : ∀ i l, s.loads i = some l → l.stage.outcome = l.produced
  past : ∀ i l, s.loads i = some l → l.generation ≤ s.generation
  loading : ∀ k i, s.loading k = some i → ∃ l, s.loads i = some l ∧ l.key = k ∧
    l.generation = s.generation ∧ l.stage.inFlight = true
  current : ∀ i l, s.loads i = some l → l.stage.inFlight = true → l.generation = s.generation →
    s.loading l.key = some i
  alone : ∀ i j l m, s.loads i = some l → s.loads j = some m → l.stage.inFlight = true →
    m.stage.inFlight = true → l.key = m.key → l.generation = m.generation → i = j
  entries : ∀ e ∈ s.entries, e.From options s s.generation
  bound : s.entries.length ≤ options.maxEntries
  calls : ∀ c ∈ s.calls, c.Own options s

theorem Sound.new : Sound options (new κ ν) := by
  constructor <;> simp [TtlCache.new]

theorem setLoad_loads (s : State κ ν) (id i : LoadId) (l : Load κ ν) :
    (s.setLoad id l).loads i = if i = id then some l else s.loads i := by
  unfold State.setLoad
  dsimp only
  by_cases own : i = id
  · rw [own, Function.update_self, if_pos rfl]
  · rw [Function.update_of_ne own, if_neg own]

theorem setLoad_onward {l' : Load κ ν} (found : s.loads id = some l) (kept : l.Onward l') :
    s.Onward (s.setLoad id l') := by
  intro i m there
  by_cases own : i = id
  · subst own
    cases found.symm.trans there
    exact ⟨l', by rw [setLoad_loads, if_pos rfl], kept⟩
  · exact ⟨m, by rw [setLoad_loads, if_neg own, there], .refl m⟩

/-- A job of a load that stays in flight. -/
theorem Sound.advance {l' : Load κ ν} (sound : Sound options s) (found : s.loads id = some l)
    (kept : l.Onward l') (before : l.stage.inFlight = true) (after : l'.stage.inFlight = true)
    (outcome : l'.stage.outcome = l'.produced) : Sound options (s.setLoad id l') := by
  have onward := setLoad_onward found kept
  -- every load in flight was in flight, with the same key and generation
  have back : ∀ i m, (s.setLoad id l').loads i = some m → ∃ m', s.loads i = some m' ∧
      m.key = m'.key ∧ m.generation = m'.generation ∧
        (m.stage.inFlight = true → m'.stage.inFlight = true) := by
    intro i m there
    rw [setLoad_loads] at there
    split at there
    case isTrue own =>
      cases there
      exact ⟨l, own ▸ found, kept.key, kept.generation, fun _ => before⟩
    case isFalse => exact ⟨m, there, rfl, rfl, fun h => h⟩
  constructor
  case produced =>
    intro i m there
    rw [setLoad_loads] at there
    split at there
    · cases there
      exact outcome
    · exact sound.produced i m there
  case past =>
    intro i m there
    obtain ⟨m', there', -, generation, -⟩ := back i m there
    exact generation ▸ sound.past i m' there'
  case loading =>
    intro k i loads
    obtain ⟨m, there, key, generation, flies⟩ := sound.loading k i loads
    rw [setLoad_loads]
    by_cases own : i = id
    · subst own
      cases found.symm.trans there
      exact ⟨l', if_pos rfl, kept.key.trans key, kept.generation.trans generation, after⟩
    · exact ⟨m, (if_neg own).trans there, key, generation, flies⟩
  case current =>
    intro i m there flies generation
    obtain ⟨m', there', key, generation', flies'⟩ := back i m there
    rw [key]
    exact sound.current i m' there' (flies' flies) (generation' ▸ generation)
  case alone =>
    intro i j m n there there' flies flies' key generation
    obtain ⟨m', found', key₁, generation₁, flies₁⟩ := back i m there
    obtain ⟨n', found'', key₂, generation₂, flies₂⟩ := back j n there'
    exact sound.alone i j m' n' found' found'' (flies₁ flies) (flies₂ flies')
      (key₁ ▸ key₂ ▸ key) (generation₁ ▸ generation₂ ▸ generation)
  case entries => exact fun e member => (sound.entries e member).onward onward
  case bound => exact sound.bound
  case calls => exact fun c member => (sound.calls c member).onward onward

theorem Sound.withEntries {entries : List (Entry κ ν)} (sound : Sound options s)
    (from' : ∀ e ∈ entries, e.From options s s.generation)
    (bound : entries.length ≤ options.maxEntries) : Sound options { s with entries := entries } :=
  { sound with entries := from', bound := bound }

theorem Sound.returns {answer : Answer κ ν} (sound : Sound options s)
    (own : (⟨key, s.generation, s.clock, answer⟩ : Call κ ν).Own options s) :
    Sound options (s.returns key answer) := by
  refine { sound with calls := ?_ }
  intro c member
  rcases List.mem_append.mp member with old | new'
  · exact sound.calls c old
  · rw [List.mem_singleton.mp new']
    exact own

theorem Sound.clear (sound : Sound options s) : Sound options s.clear := by
  have older : ∀ i l, s.loads i = some l → l.generation ≠ s.generation + 1 := by
    intro i l found same
    have past := sound.past i l found
    omega
  constructor
  case produced => exact sound.produced
  case past => exact fun i l found => (sound.past i l found).trans (Nat.le_succ _)
  case loading => intro k i loads; cases loads
  case current => exact fun i l found _ generation => absurd generation (older i l found)
  case alone => exact sound.alone
  case entries => intro e member; cases member
  case bound => exact Nat.zero_le _
  case calls => exact fun c member => (sound.calls c member).onward (.same rfl)

variable [DecidableEq κ]

theorem deleteEntry_sub (entries : List (Entry κ ν)) (key : κ) :
    (State.deleteEntry entries key).Sublist entries :=
  List.filter_sublist

theorem mem_store (member : e ∈ s.store options key value id) :
    e ∈ s.entries ∨ e = ⟨key, value, s.clock + options.ttlMs, id, s.clock⟩ := by
  have within : e ∈ State.deleteEntry s.entries key ++
      [⟨key, value, s.clock + options.ttlMs, id, s.clock⟩] := by
    unfold State.store at member
    dsimp only at member
    split at member
    · exact member
    · exact (List.mem_filter.mp (List.mem_of_mem_drop member)).1
  rcases List.mem_append.mp within with old | own
  · exact .inl ((deleteEntry_sub s.entries key).subset old)
  · exact .inr (List.mem_singleton.mp own)

theorem store_length (value : ν) : (s.store options key value id).length ≤ options.maxEntries := by
  unfold State.store
  dsimp only
  split
  case isTrue short => exact short
  case isFalse =>
    rw [List.length_drop]
    omega

/-- A load that is requested is the only one of its key and generation in flight. -/
theorem Sound.request (sound : Sound options s) (idle : s.loading key = none)
    (fresh : s.loads id = none) :
    Sound options ({ s with loading := Function.update s.loading key (some id) }.setLoad id
      ⟨key, s.generation, .requested, none⟩) := by
  have onward : s.Onward ({ s with loading := Function.update s.loading key (some id) }.setLoad id
      ⟨key, s.generation, .requested, none⟩) := by
    intro i m there
    have other : i ≠ id := by
      rintro rfl
      cases fresh.symm.trans there
    exact ⟨m, by rw [setLoad_loads, if_neg other]; exact there, .refl m⟩
  -- another load in flight of this generation has another key
  have apart : ∀ i m, s.loads i = some m → m.stage.inFlight = true →
      m.generation = s.generation → m.key ≠ key := by
    rintro i m there flies generation rfl
    cases idle.symm.trans (sound.current i m there flies generation)
  constructor
  case produced =>
    intro i m there
    rw [setLoad_loads] at there
    split at there
    · cases there
      rfl
    · exact sound.produced i m there
  case past =>
    intro i m there
    rw [setLoad_loads] at there
    split at there
    · cases there
      exact Nat.le_refl _
    · exact sound.past i m there
  case loading =>
    intro k i loads
    rw [setLoad_loads]
    by_cases own : k = key
    · subst own
      have loads : Function.update s.loading k (some id) k = some i := loads
      rw [Function.update_self] at loads
      cases loads
      exact ⟨_, if_pos rfl, rfl, rfl, rfl⟩
    · have loads : Function.update s.loading key (some id) k = some i := loads
      rw [Function.update_of_ne own] at loads
      obtain ⟨m, there, rest⟩ := sound.loading k i loads
      have other : i ≠ id := by
        rintro rfl
        cases fresh.symm.trans there
      exact ⟨m, (if_neg other).trans there, rest⟩
  case current =>
    intro i m there flies generation
    rw [setLoad_loads] at there
    rw [State.setLoad]
    dsimp only
    split at there
    case isTrue own =>
      cases there
      rw [own, Function.update_self]
    case isFalse =>
      rw [Function.update_of_ne (apart i m there flies generation)]
      exact sound.current i m there flies generation
  case alone =>
    intro i j m n there there' flies flies' keys generations
    rw [setLoad_loads] at there there'
    split at there <;> split at there'
    case isTrue.isTrue own own' => rw [own, own']
    case isTrue.isFalse =>
      cases there
      exact absurd keys.symm (apart j n there' flies' generations.symm)
    case isFalse.isTrue =>
      cases there'
      exact absurd keys (apart i m there flies generations)
    case isFalse.isFalse => exact sound.alone i j m n there there' flies flies' keys generations
  case entries => exact fun e member => (sound.entries e member).onward onward
  case bound => exact sound.bound
  case calls => exact fun c member => (sound.calls c member).onward onward

theorem Sound.join (sound : Sound options s) (h : s.join key id = some t) : Sound options t := by
  unfold State.join at h
  split at h
  case h_1 running loads =>
    cases h
    obtain ⟨l, found, own, generation, -⟩ := sound.loading key running loads
    exact sound.returns ⟨l, found, own, generation⟩
  case h_2 idle =>
    split at h
    · cases h
    · rename_i fresh
      cases h
      have fresh := Option.not_isSome_iff_eq_none.mp fresh
      exact (sound.request idle fresh).returns
        ⟨_, by rw [setLoad_loads, if_pos rfl], rfl, rfl⟩

theorem Sound.getOrLoad (sound : Sound options s) (h : s.getOrLoad key id = some t) :
    Sound options t := by
  unfold State.getOrLoad at h
  split at h
  case h_1 hit found =>
    have own : hit.key = key := by simpa using List.find?_some found
    split at h
    case isTrue live =>
      cases h
      exact sound.returns ⟨sound.entries hit (List.mem_of_find?_eq_some found), own, live⟩
    case isFalse =>
      have fewer := deleteEntry_sub s.entries key
      refine Sound.join (sound.withEntries ?_ ?_) h
      · exact fun e member => sound.entries e (fewer.subset member)
      · exact fewer.length_le.trans sound.bound
  case h_2 => exact sound.join h

theorem Sound.stored {value : ν} (sound : Sound options s) (found : s.loads id = some l)
    (stage : l.stage = .loaded value) : Sound options (s.stored options id l value) := by
  have produced : l.produced = some (some value) := by
    rw [← sound.produced id l found, stage]
    rfl
  have flies : l.stage.inFlight = true := by
    rw [stage]
    rfl
  unfold State.stored
  dsimp only
  split
  case isTrue current =>
    have kept : Sound options { s with entries := s.store options l.key value id } := by
      refine sound.withEntries ?_ (store_length value)
      intro e member
      rcases mem_store member with old | own
      · exact sound.entries e old
      · rw [own]
        exact ⟨rfl, l, found, rfl, current, produced⟩
    exact kept.advance (s := { s with entries := s.store options l.key value id }) found
      ⟨rfl, rfl, fun _ h => h⟩ flies rfl produced.symm
  case isFalse => exact sound.advance found ⟨rfl, rfl, fun _ h => h⟩ flies rfl produced.symm

theorem Sound.finished {outcome : Outcome ν} (sound : Sound options s) (found : s.loads id = some l)
    (stage : l.stage = .finishing outcome) : Sound options (s.finished id l outcome) := by
  have produced : l.produced = some outcome := by
    rw [← sound.produced id l found, stage]
    rfl
  have flies : l.stage.inFlight = true := by
    rw [stage]
    rfl
  have kept : l.Onward { l with stage := .settled outcome } := ⟨rfl, rfl, fun _ h => h⟩
  have onward := setLoad_onward (s := s) found kept
  -- the loads in flight after it are others that were
  have back : ∀ i m, (s.setLoad id { l with stage := .settled outcome }).loads i = some m →
      m.stage.inFlight = true → i ≠ id ∧ s.loads i = some m := by
    intro i m there flies
    rw [setLoad_loads] at there
    split at there
    · cases there
      cases flies
    · rename_i other
      exact ⟨other, there⟩
  have loads : (s.finished id l outcome).loads =
      (s.setLoad id { l with stage := .settled outcome }).loads := by
    unfold State.finished
    dsimp only
    split <;> rfl
  have loading : ∀ k, (s.finished id l outcome).loading k =
      if s.loading k = some id then none else s.loading k := by
    intro k
    unfold State.finished
    dsimp only
    split
    case isTrue own =>
      by_cases same : k = l.key
      · rw [same, if_pos own]
        exact Function.update_self ..
      · have other : s.loading k ≠ some id := by
          intro loads
          obtain ⟨m, there, key, -⟩ := sound.loading k id loads
          cases found.symm.trans there
          exact same key.symm
        rw [if_neg other]
        exact Function.update_of_ne same ..
    case isFalse away =>
      have other : s.loading k ≠ some id := by
        intro loads
        obtain ⟨m, there, key, -⟩ := sound.loading k id loads
        cases found.symm.trans there
        exact away (key ▸ loads)
      rw [if_neg other]
      rfl
  have rest : (s.finished id l outcome).generation = s.generation ∧
      (s.finished id l outcome).entries = s.entries ∧
        (s.finished id l outcome).calls = s.calls := by
    unfold State.finished
    dsimp only
    split <;> exact ⟨rfl, rfl, rfl⟩
  have onward' : s.Onward (s.finished id l outcome) := by
    intro i m there
    rw [loads]
    exact onward i m there
  constructor
  case produced =>
    intro i m there
    rw [loads, setLoad_loads] at there
    split at there
    · cases there
      exact produced.symm
    · exact sound.produced i m there
  case past =>
    intro i m there
    rw [rest.1]
    rw [loads, setLoad_loads] at there
    split at there
    · cases there
      exact sound.past id l found
    · exact sound.past i m there
  case loading =>
    intro k i loads'
    rw [loading] at loads'
    split at loads'
    · cases loads'
    · rename_i other
      obtain ⟨m, there, key, generation, flies⟩ := sound.loading k i loads'
      refine ⟨m, ?_, key, by rw [rest.1]; exact generation, flies⟩
      rw [loads, setLoad_loads, if_neg]
      · exact there
      · rintro rfl
        exact other loads'
  case current =>
    intro i m there flies generation
    rw [loads] at there
    rw [rest.1] at generation
    obtain ⟨other, there⟩ := back i m there flies
    have runs := sound.current i m there flies generation
    rw [loading, if_neg]
    · exact runs
    · intro own
      exact other (Option.some.inj (runs.symm.trans own))
  case alone =>
    intro i j m n there there' flies flies' keys generations
    rw [loads] at there there'
    exact sound.alone i j m n (back i m there flies).2 (back j n there' flies').2 flies flies' keys
      generations
  case entries =>
    rw [rest.1, rest.2.1]
    exact fun e member => (sound.entries e member).onward onward'
  case bound =>
    rw [rest.2.1]
    exact sound.bound
  case calls =>
    rw [rest.2.2]
    exact fun c member => (sound.calls c member).onward onward'

theorem Sound.next {act : Act κ ν} (sound : Sound options s) (step : Step options s act t) :
    Sound options t := by
  unfold Step at step
  cases act with
  | getOrLoad key id => exact sound.getOrLoad step
  | clear =>
    cases step
    exact sound.clear
  | call id =>
    obtain ⟨l, found, step⟩ := Option.bind_eq_some_iff.mp step
    split at step
    · rename_i stage
      cases step
      have none' : l.produced = none := by
        rw [← sound.produced id l found, stage]
        rfl
      exact sound.advance found ⟨rfl, rfl, fun _ h => h⟩ (by rw [stage]; rfl) rfl none'.symm
    · cases step
  | answer id outcome =>
    obtain ⟨l, found, step⟩ := Option.bind_eq_some_iff.mp step
    split at step
    · rename_i stage
      cases step
      have none' : l.produced = none := by
        rw [← sound.produced id l found, stage]
        rfl
      have kept : l.Onward { l with
          stage := outcome.elim (.finishing none) .loaded, produced := some outcome } := by
        refine ⟨rfl, rfl, fun _ before => ?_⟩
        cases none'.symm.trans before
      refine sound.advance found kept (by rw [stage]; rfl) ?_ ?_ <;> cases outcome <;> rfl
    · cases step
  | callback id =>
    obtain ⟨l, found, step⟩ := Option.bind_eq_some_iff.mp step
    split at step
    · rename_i stage
      cases step
      exact sound.stored found stage
    · cases step
  | finish id =>
    obtain ⟨l, found, step⟩ := Option.bind_eq_some_iff.mp step
    split at step
    · rename_i stage
      cases step
      exact sound.finished found stage
    · cases step
  | tick clock =>
    dsimp only [State.next] at step
    split at step
    · cases step
      exact { sound with }
    · cases step

theorem cache_sound (h : Reachable (fun s => s = new κ ν) (Step options) s) : Sound options s := by
  apply h.invariant
  · rintro _ rfl
    exact .new
  · exact fun s act t step sound => sound.next step

/-- The jobs that are left of a load that has answered settle its promise with the answer. -/
theorem Sound.settles {outcome : Outcome ν} (sound : Sound options s) (found : s.loads id = some l)
    (answered : l.produced = some outcome) :
    ∃ acts t l', Run (Step options) s acts t ∧ (∀ act ∈ acts, act = .callback id ∨ act = .finish id) ∧
      t.loads id = some l' ∧ l'.stage = .settled outcome := by
  have finishes : ∀ (s : State κ ν) (l : Load κ ν), s.loads id = some l →
      l.stage = .finishing outcome → ∃ t l', Step options s (.finish id) t ∧
        t.loads id = some l' ∧ l'.stage = .settled outcome := by
    intro s l found stage
    refine ⟨s.finished id l outcome, { l with stage := .settled outcome }, ?_, ?_, rfl⟩
    · simp only [Step, State.next, found, stage, Option.bind_eq_bind, Option.bind_some]
    · unfold State.finished
      dsimp only
      split <;> rw [setLoad_loads, if_pos rfl]
  have same := sound.produced id l found
  rw [answered] at same
  cases stage : l.stage with
  | requested =>
    rw [stage] at same
    cases same
  | called =>
    rw [stage] at same
    cases same
  | loaded value =>
    rw [stage] at same
    cases same
    have there : (s.stored options id l value).loads id =
        some { l with stage := .finishing (some value) } := by
      unfold State.stored
      dsimp only
      split <;> rw [setLoad_loads, if_pos rfl]
    obtain ⟨t, l', step, after, settled⟩ := finishes _ _ there rfl
    have first : Step options s (.callback id) (s.stored options id l value) := by
      simp only [Step, State.next, found, stage, Option.bind_eq_bind, Option.bind_some]
    refine ⟨_, t, l', (Run.single first).append (.single step), ?_, after, settled⟩
    intro act member
    rcases List.mem_append.mp member with own | own
    · exact .inl (List.mem_singleton.mp own)
    · exact .inr (List.mem_singleton.mp own)
  | finishing outcome' =>
    rw [stage] at same
    cases same
    obtain ⟨t, l', step, after, settled⟩ := finishes s l found stage
    refine ⟨_, t, l', .single step, ?_, after, settled⟩
    intro act member
    exact .inr (List.mem_singleton.mp member)
  | settled outcome' =>
    rw [stage] at same
    cases same
    exact ⟨[], s, l, .nil s, fun act member => absurd member List.not_mem_nil, found, stage⟩

/-- A call that is given a promise is given one of a load in flight. -/
theorem Sound.promises (sound : Sound options s) (step : Step options s (.getOrLoad key id) t) :
    ∃ c, t.calls = s.calls ++ [c] ∧ c.key = key ∧ c.generation = s.generation ∧
      ∀ i, c.answer = .promise i → ∃ l, t.loads i = some l ∧ l.stage.inFlight = true := by
  have joins : ∀ u : State κ ν, Sound options u → u.join key id = some t → u.calls = s.calls →
      u.generation = s.generation →
      ∃ c, t.calls = s.calls ++ [c] ∧ c.key = key ∧ c.generation = s.generation ∧
        ∀ i, c.answer = .promise i → ∃ l, t.loads i = some l ∧ l.stage.inFlight = true := by
    intro u sound h calls generation
    unfold State.join at h
    split at h
    case h_1 running loads =>
      cases h
      refine ⟨⟨key, u.generation, u.clock, .promise running⟩, by rw [← calls]; rfl, rfl, generation, ?_⟩
      intro i own
      cases own
      obtain ⟨l, found, -, -, flies⟩ := sound.loading key running loads
      exact ⟨l, found, flies⟩
    case h_2 idle =>
      split at h
      · cases h
      · cases h
        refine ⟨⟨key, u.generation, u.clock, .promise id⟩, by rw [← calls]; rfl, rfl, generation, ?_⟩
        intro i own
        cases own
        exact ⟨_, by unfold State.returns; rw [setLoad_loads, if_pos rfl], rfl⟩
  unfold Step State.next State.getOrLoad at step
  dsimp only at step
  split at step
  case h_1 hit found =>
    split at step
    case isTrue live =>
      cases step
      refine ⟨⟨key, s.generation, s.clock, .cached hit⟩, rfl, rfl, rfl, ?_⟩
      intro i own
      cases own
    case isFalse =>
      have fewer := deleteEntry_sub s.entries key
      refine joins _ (sound.withEntries ?_ ?_) step rfl rfl
      · exact fun e member => sound.entries e (fewer.subset member)
      · exact fewer.length_le.trans sound.bound
  case h_2 => exact joins s sound step rfl rfl

/-- What a call is given comes from a load of its own key that was requested after the
last `clear` before it. -/
theorem cache_fresh (h : Reachable (fun s => s = new κ ν) (Step options) s) :
    (∀ c ∈ s.calls, match c.answer with
      | .cached e => c.calledAt < e.storedAt + options.ttlMs ∧ ∃ l, s.loads e.load = some l ∧
          l.key = c.key ∧ l.generation = c.generation ∧ l.produced = some (some e.value)
      | .promise i => ∃ l, s.loads i = some l ∧ l.key = c.key ∧ l.generation = c.generation) ∧
    (∀ i j l m, s.loads i = some l → s.loads j = some m → l.stage.inFlight = true →
      m.stage.inFlight = true → l.key = m.key → l.generation = m.generation → i = j) ∧
    (∀ i l, s.loads i = some l → l.produced = some none → ∀ e ∈ s.entries, e.load ≠ i) ∧
    (∀ key id t, Step options s (.getOrLoad key id) t → ∃ c, t.calls = s.calls ++ [c] ∧
      c.key = key ∧ c.generation = s.generation ∧
        ∀ i, c.answer = .promise i → ∃ l, t.loads i = some l ∧ l.stage.inFlight = true) ∧
    (∀ i l outcome, s.loads i = some l →
      (l.stage = .settled outcome → l.produced = some outcome) ∧
      (l.produced = some outcome → ∃ acts t l', Run (Step options) s acts t ∧
        (∀ act ∈ acts, act = .callback i ∨ act = .finish i) ∧
          t.loads i = some l' ∧ l'.stage = .settled outcome)) ∧
    s.entries.length ≤ options.maxEntries := by
  have sound := cache_sound h
  refine ⟨?_, sound.alone, ?_, fun key id t => sound.promises, ?_, sound.bound⟩
  · intro c member
    have own := sound.calls c member
    unfold Call.Own at own
    split at own
    · obtain ⟨⟨expires, l, found, key, generation, produced⟩, same, live⟩ := own
      exact ⟨expires ▸ live, l, found, key.trans same, generation, produced⟩
    · exact own
  · intro i l found failed e member own
    obtain ⟨-, l', there, -, -, produced⟩ := sound.entries e member
    rw [own, found] at there
    cases there
    cases failed.symm.trans produced
  · intro i l outcome found
    constructor
    · intro settled
      rw [← sound.produced i l found, settled]
      rfl
    · exact fun answered => sound.settles found answered

end Sound

/-- A load of before the `clear` answers after it, beside the one that replaces it. -/
def crossing : List (Act Nat Nat) :=
  [.getOrLoad 1 0, .call 0, .clear, .getOrLoad 1 1, .call 1, .answer 0 (some 7), .callback 0,
    .finish 0, .answer 1 (some 8), .callback 1, .getOrLoad 1 2]

theorem cache_fresh_crossing : ∃ s : State Nat Nat,
    s.calls.map (·.generation) = [0, 1, 1] ∧ s.entries.map (·.value) = [8] ∧
      s.entries.length ≤ 2 := by
  have run : Run (Step ⟨1000, 2⟩) (new Nat Nat) crossing _ :=
    Run.of_foldlM (show crossing.foldlM (State.next ⟨1000, 2⟩) _ = some _ from rfl)
  exact ⟨_, rfl, rfl, (cache_fresh ⟨_, _, rfl, run⟩).2.2.2.2.2⟩

end CircleBackend.Runtime.TtlCache
