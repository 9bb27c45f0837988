import CircleBackend.Js
import CircleBackend.Library.FixedWindow
import CircleBackend.Library.Transition

/-!
# The fallback of the rate limit store

`FallbackRateLimitStore` counts in the primary store, and in memory while the primary fails.
What runs up to an `await` is one act; the primary counts, answers and fails at any later time,
and a call that has failed may still be carried out (`elsewhere`, which other instances are too).

* `every_increment_counts`: every answer is a count of one of the stores, or the greatest;
* `misplaced_decrement`: a hit of memory can be taken off the primary.
-/

namespace CircleBackend.Redis.Fallback

open Library

abbrev Key := JsString

def maxSafeInteger : Nat := 9007199254740991
def primaryRetryCooldownMs : Time := 2000
def maxPrimaryInFlight : Int := 32

/-- A call that awaits `primary.increment`. -/
structure PrimaryIncrement where
  id : Nat
  key : Key
  ownsRecoveryProbe : Bool
  deriving DecidableEq

/-- A call that awaits `primary.decrement`, and whether it was carried out. -/
structure PrimaryDecrement where
  key : Key
  done : Bool
  deriving DecidableEq

/-- What `increment` resolved to. -/
structure Response where
  id : Nat
  key : Key
  totalHits : Nat
  deriving DecidableEq

/-- `lastProbe` is whether the last recovery probe that completed succeeded. -/
structure State where
  primary : Counter Key
  memory : Counter Key
  degraded : Bool
  nextPrimaryProbeAt : Time
  primaryProbeInFlight : Bool
  initializationPending : Bool
  primaryInFlight : Int
  now : Time
  increments : List PrimaryIncrement
  decrements : List PrimaryDecrement
  resets : List Key
  calls : Nat
  responses : List Response
  lastProbe : Option Bool

namespace State

def markDegraded (s : State) : State :=
  { s with nextPrimaryProbeAt := s.now + primaryRetryCooldownMs, degraded := true }

def beginInitializationFallback (s : State) : State := { s with degraded := true }

def finishInitializationFallback (s : State) : State :=
  if s.degraded then { s with degraded := false, nextPrimaryProbeAt := 0 } else s

def failInitialization (s : State) : State :=
  let s := { s with nextPrimaryProbeAt := s.now + primaryRetryCooldownMs }
  if s.degraded then s else s.markDegraded

def markRecovered (s : State) : State := { s with degraded := false, nextPrimaryProbeAt := 0 }

def answer (s : State) (id : Nat) (key : Key) (totalHits : Nat) : State :=
  { s with responses := s.responses ++ [{ id := id, key := key, totalHits := totalHits }] }

def incrementFallback (s : State) (id : Nat) (key : Key) : State :=
  { s with memory := s.memory.increment (some id) key }.answer id key (s.memory.hits key + 1)

/-- The `try` up to its `await`. -/
def callPrimary (s : State) (id : Nat) (key : Key) (ownsRecoveryProbe : Bool) : State :=
  { s with
    primaryInFlight := s.primaryInFlight + 1
    increments := s.increments ++
      [{ id := id, key := key, ownsRecoveryProbe := ownsRecoveryProbe }] }

def increment (s : State) (key : Key) : State :=
  let id := s.calls
  let s := { s with calls := s.calls + 1 }
  if s.initializationPending then s.incrementFallback id key
  else if s.primaryInFlight ≥ maxPrimaryInFlight then s.answer id key maxSafeInteger
  else if s.degraded then
    if s.now < s.nextPrimaryProbeAt || s.primaryProbeInFlight then s.incrementFallback id key
    else { s with primaryProbeInFlight := true }.callPrimary id key true
  else s.callPrimary id key false

/-- The `finally`, for the call at place `i`. -/
def settle (s : State) (i : Nat) (call : PrimaryIncrement) (succeeded : Bool) : State :=
  { s with
    primaryInFlight := s.primaryInFlight - 1
    primaryProbeInFlight := if call.ownsRecoveryProbe then false else s.primaryProbeInFlight
    lastProbe := if call.ownsRecoveryProbe then some succeeded else s.lastProbe
    increments := s.increments.eraseIdx i }

end State

inductive Initialization
  | returned | thrown | promised

/-- A new store, after `init`. -/
def init (now : Time) (initialization : Initialization) : State :=
  let s : State := {
    primary := .empty, memory := .empty, degraded := false, nextPrimaryProbeAt := 0
    primaryProbeInFlight := false, initializationPending := false, primaryInFlight := 0, now := now
    increments := [], decrements := [], resets := [], calls := 0, responses := []
    lastProbe := none }
  match initialization with
  | .returned => s
  | .thrown => s.markDegraded
  | .promised => { s with initializationPending := true }.beginInitializationFallback

inductive StoreOp
  | increment | decrement | restart
  deriving DecidableEq

def StoreOp.run (op : StoreOp) (c : Counter Key) (key : Key) : Counter Key :=
  match op with
  | .increment => c.increment none key
  | .decrement => c.decrement key
  | .restart => c.restart key

/-- The indices are places in the lists of calls under way; `request` is whose hit a decrement
is to undo. -/
inductive Act
  | initialized | initializationFailed
  | increment (key : Key)
  | primaryCounts (i : Nat)
  | primaryAnswers (i : Nat)
  | primaryFails (i : Nat)
  | decrement (request : Nat) (key : Key)
  | primaryDecrements (i : Nat)
  | decrementAnswers (i : Nat)
  | decrementFails (i : Nat)
  | resetKey (key : Key)
  | primaryResets (i : Nat)
  | elsewhere (op : StoreOp) (key : Key)
  | memoryWindowEnds (key : Key)
  | elapse (ms : Time)
  deriving DecidableEq

/-- What the primary counted for a call. -/
def counted (s : State) (call : PrimaryIncrement) : Option (Hit Key) :=
  s.primary.given.find? fun h => h.caller = some call.id && h.key = call.key

def next (s : State) : Act → Option State
  | .initialized =>
    if s.initializationPending then
      some { s with initializationPending := false }.finishInitializationFallback
    else none
  | .initializationFailed =>
    if s.initializationPending then
      some { s with initializationPending := false }.failInitialization
    else none
  | .increment key => some (s.increment key)
  | .primaryCounts i => do
    let call ← s.increments[i]?
    if (counted s call).isSome then none
    else return { s with primary := s.primary.increment (some call.id) call.key }
  | .primaryAnswers i => do
    let call ← s.increments[i]?
    let hit ← counted s call
    let s := if call.ownsRecoveryProbe then s.markRecovered else s
    return (s.answer call.id call.key hit.hits).settle i call true
  | .primaryFails i => do
    let call ← s.increments[i]?
    return (s.markDegraded.incrementFallback call.id call.key).settle i call false
  | .decrement _ key =>
    some { s with decrements := s.decrements ++ [{ key := key, done := false }] }
  | .primaryDecrements i => do
    let call ← s.decrements[i]?
    if call.done then none
    else return { s with
      primary := s.primary.decrement call.key
      decrements := s.decrements.set i { call with done := true } }
  | .decrementAnswers i => do
    let call ← s.decrements[i]?
    if call.done then some { s with decrements := s.decrements.eraseIdx i } else none
  | .decrementFails i => do
    let call ← s.decrements[i]?
    return { s with
      memory := s.memory.decrement call.key
      decrements := s.decrements.eraseIdx i }
  | .resetKey key => some { s with memory := s.memory.restart key, resets := s.resets ++ [key] }
  | .primaryResets i => do
    let key ← s.resets[i]?
    return { s with primary := s.primary.restart key, resets := s.resets.eraseIdx i }
  | .elsewhere op key => some { s with primary := op.run s.primary key }
  | .memoryWindowEnds key => some { s with memory := s.memory.restart key }
  | .elapse ms => some { s with now := s.now + ms }

def Step (s : State) (act : Act) (t : State) : Prop := next s act = some t

def Initial (s : State) : Prop := ∃ now initialization, s = init now initialization

/-! ## The breaker -/

/-- Told by one of the stores, or the greatest. -/
def Answered (s : State) (r : Response) : Prop :=
  r.totalHits = maxSafeInteger ∨ ∃ h, (h ∈ s.primary.given ∨ h ∈ s.memory.given) ∧
    h.caller = some r.id ∧ h.key = r.key ∧ h.hits = r.totalHits

structure Inv (s : State) : Prop where
  primary : s.primary.Sound
  memory : s.memory.Sound
  inFlight : s.primaryInFlight = s.increments.length
  bounded : s.primaryInFlight ≤ maxPrimaryInFlight
  probes : s.increments.countP (·.ownsRecoveryProbe) = if s.primaryProbeInFlight then 1 else 0
  pending : s.initializationPending = true → s.increments = [] ∧ s.lastProbe = none
  opened : s.lastProbe = some false → s.degraded = true
  calls : (s.increments.map (·.id) ++ s.responses.map (·.id)).Perm (List.range s.calls)
  answered : ∀ r ∈ s.responses, Answered s r

theorem Initial.inv {s : State} (initial : Initial s) : Inv s := by
  obtain ⟨now, initialization, rfl⟩ := initial
  have bounded : (0 : Int) ≤ maxPrimaryInFlight := by decide
  cases initialization <;>
    exact ⟨Counter.empty_sound, Counter.empty_sound, rfl, bounded, rfl, fun _ => ⟨rfl, rfl⟩, nofun,
      List.Perm.refl _, nofun⟩

/-- What was counted stays known. -/
theorem Answered.mono {s t : State} {r : Response} (primary : s.primary.given ⊆ t.primary.given)
    (memory : s.memory.given ⊆ t.memory.given) (answered : Answered s r) : Answered t r := by
  rcases answered with greatest | ⟨h, inside, told⟩
  · exact Or.inl greatest
  · exact Or.inr ⟨h, inside.imp (fun member => primary member) fun member => memory member, told⟩

section

variable {s : State}

/-- What the breaker does not look at. -/
theorem Inv.counters (inv : Inv s) {primary memory : Counter Key}
    {decrements : List PrimaryDecrement} {resets : List Key} {now : Time} (sound : primary.Sound)
    (sound' : memory.Sound) (kept : s.primary.given ⊆ primary.given)
    (kept' : s.memory.given ⊆ memory.given) :
    Inv { s with
      primary := primary, memory := memory, decrements := decrements, resets := resets
      now := now } :=
  ⟨sound, sound', inv.inFlight, inv.bounded, inv.probes, inv.pending, inv.opened, inv.calls,
    fun r member => (inv.answered r member).mono kept kept'⟩

/-- A call that was answered without the primary. -/
theorem Inv.answer (inv : Inv s) (key : Key) {totalHits : Nat}
    (told : Answered s ⟨s.calls, key, totalHits⟩) :
    Inv ({ s with calls := s.calls + 1 }.answer s.calls key totalHits) := by
  refine ⟨inv.primary, inv.memory, inv.inFlight, inv.bounded, inv.probes, inv.pending, inv.opened,
    ?_, ?_⟩
  · simp only [State.answer, List.range_succ, List.map_append, ← List.append_assoc]
    exact inv.calls.append_right _
  · exact List.forall_mem_append.mpr ⟨inv.answered, List.forall_mem_singleton.mpr told⟩

theorem Inv.fallback (inv : Inv s) (key : Key) :
    Inv ({ s with calls := s.calls + 1 }.incrementFallback s.calls key) := by
  have counted : Inv { s with memory := s.memory.increment (some s.calls) key } :=
    inv.counters inv.primary (inv.memory.increment _ _) (List.Subset.refl _)
      (List.subset_append_left ..)
  exact counted.answer key
    (Or.inr ⟨_, Or.inr (List.mem_append_right _ List.mem_cons_self), rfl, rfl, rfl⟩)

theorem Inv.callPrimary (inv : Inv s) (key : Key) (few : s.primaryInFlight < maxPrimaryInFlight)
    (ready : s.initializationPending = false) (probe : Bool)
    (free : probe = true → s.primaryProbeInFlight = false) :
    Inv ({ s with calls := s.calls + 1,
                  primaryProbeInFlight := probe || s.primaryProbeInFlight }.callPrimary
      s.calls key probe) := by
  refine ⟨inv.primary, inv.memory, ?_, ?_, ?_, ?_, inv.opened, ?_, inv.answered⟩
  · simp only [State.callPrimary, List.length_append, List.length_singleton, inv.inFlight]
    rfl
  · simp only [State.callPrimary]
    omega
  · have probes := inv.probes
    cases probe with
    | false => simpa [State.callPrimary] using probes
    | true =>
      rw [free rfl] at probes
      simpa [State.callPrimary] using probes
  · intro pending
    rw [show s.initializationPending = true from pending] at ready
    cases ready
  · simp only [State.callPrimary, List.range_succ, List.map_append, List.map_cons, List.map_nil,
      List.append_assoc]
    exact (List.perm_append_comm.append_left _).trans
      (by simpa only [List.append_assoc] using inv.calls.append_right _)

theorem Inv.increment (inv : Inv s) (key : Key) : Inv (s.increment key) := by
  unfold State.increment
  dsimp only
  split
  · exact inv.fallback key
  · rename_i ready
    split
    · exact inv.answer key (Or.inl rfl)
    · rename_i few
      split
      · split
        · exact inv.fallback key
        · rename_i open'
          have call := inv.callPrimary key (by omega) (by simpa using ready) true (by simp_all)
          exact call
      · exact inv.callPrimary key (by omega) (by simpa using ready) false nofun

/-- A call of the primary ends, with an answer. -/
theorem Inv.settle (inv : Inv s) {i : Nat} {call : PrimaryIncrement}
    (own : s.increments[i]? = some call) {totalHits : Nat} (succeeded : Bool)
    (told : Answered s ⟨call.id, call.key, totalHits⟩) {degraded : Bool}
    {nextPrimaryProbeAt : Time} (opened : (if call.ownsRecoveryProbe then some succeeded
      else s.lastProbe) = some false → degraded = true) :
    Inv (({ s with degraded := degraded, nextPrimaryProbeAt := nextPrimaryProbeAt }.answer call.id
      call.key totalHits).settle i call succeeded) := by
  obtain ⟨inside, rfl⟩ := List.getElem?_eq_some_iff.mp own
  have perm := List.getElem_cons_eraseIdx_perm inside
  refine ⟨inv.primary, inv.memory, ?_, ?_, ?_, ?_, opened, ?_, ?_⟩
  · have length := perm.length_eq
    have inFlight := inv.inFlight
    simp only [List.length_cons] at length
    simp only [State.settle, State.answer]
    omega
  · exact (Int.sub_le_self _ (by decide)).trans inv.bounded
  · have count := perm.countP_eq (·.ownsRecoveryProbe)
    rw [List.countP_cons, inv.probes] at count
    simp only [State.settle, State.answer]
    by_cases probe : s.increments[i].ownsRecoveryProbe = true
    · simp only [probe, ↓reduceIte, Bool.false_eq_true] at count ⊢
      split at count <;> omega
    · simpa [probe] using count
  · intro pending
    have none := (inv.pending pending).1
    rw [none] at inside
    cases inside
  · simp only [State.settle, State.answer, List.map_append, List.map_cons, List.map_nil]
    refine List.Perm.trans ?_ inv.calls
    refine List.Perm.trans ?_ ((perm.map (·.id)).append_right _)
    rw [← List.append_assoc]
    exact List.perm_append_comm
  · exact List.forall_mem_append.mpr ⟨inv.answered, List.forall_mem_singleton.mpr told⟩

/-- The breaker while no probe has failed, or as it is opened. -/
theorem Inv.breaker (inv : Inv s) {degraded initializationPending : Bool}
    {nextPrimaryProbeAt : Time} (opened : s.lastProbe = some false → degraded = true)
    (ready : initializationPending = true → s.initializationPending = true) :
    Inv { s with
      degraded := degraded, initializationPending := initializationPending
      nextPrimaryProbeAt := nextPrimaryProbeAt } :=
  ⟨inv.primary, inv.memory, inv.inFlight, inv.bounded, inv.probes,
    fun pending => inv.pending (ready pending), opened, inv.calls, inv.answered⟩

theorem Inv.next {t : State} {act : Act} (inv : Inv s) (step : Step s act t) : Inv t := by
  have same {α : Type} (l : List α) : l ⊆ l := List.Subset.refl l
  cases act with
  | initialized =>
    simp only [Step, Fallback.next] at step
    split at step
    · rename_i pending
      cases step
      have unknown := (inv.pending pending).2
      rw [State.finishInitializationFallback]
      split
      · exact inv.breaker (fun failed => by rw [unknown] at failed; cases failed) nofun
      · exact inv.breaker inv.opened nofun
    · cases step
  | initializationFailed =>
    simp only [Step, Fallback.next] at step
    split at step
    · rename_i pending
      cases step
      dsimp only [State.failInitialization]
      split
      · exact inv.breaker inv.opened nofun
      · exact inv.breaker (fun _ => rfl) nofun
    · cases step
  | increment key =>
    cases step
    exact inv.increment key
  | primaryCounts i =>
    obtain ⟨call, own, step⟩ := Option.bind_eq_some_iff.mp step
    split at step
    · cases step
    · cases step
      exact inv.counters (inv.primary.increment _ _) inv.memory (List.subset_append_left ..)
        (same _)
  | primaryAnswers i =>
    obtain ⟨call, own, step⟩ := Option.bind_eq_some_iff.mp step
    obtain ⟨hit, found, step⟩ := Option.bind_eq_some_iff.mp step
    have mine := List.find?_some found
    simp only [Bool.and_eq_true, decide_eq_true_eq] at mine
    have told : Answered s ⟨call.id, call.key, hit.hits⟩ :=
      Or.inr ⟨hit, Or.inl (List.mem_of_find?_eq_some found), mine.1, mine.2, rfl⟩
    cases step
    split
    · rename_i probe
      exact inv.settle own true told (by simp [probe])
    · rename_i probe
      exact inv.settle own true told (by simpa [probe] using inv.opened)
  | primaryFails i =>
    obtain ⟨call, own, step⟩ := Option.bind_eq_some_iff.mp step
    cases step
    have counted : Inv { s with memory := s.memory.increment (some call.id) call.key } :=
      inv.counters inv.primary (inv.memory.increment _ _) (same _) (List.subset_append_left ..)
    have told : Answered { s with memory := s.memory.increment (some call.id) call.key }
        ⟨call.id, call.key, s.memory.hits call.key + 1⟩ :=
      Or.inr ⟨_, Or.inr (List.mem_append_right _ List.mem_cons_self), rfl, rfl, rfl⟩
    exact counted.settle own false told fun _ => rfl
  | decrement request key =>
    cases step
    exact inv.counters inv.primary inv.memory (same _) (same _)
  | primaryDecrements i =>
    obtain ⟨call, own, step⟩ := Option.bind_eq_some_iff.mp step
    split at step
    · cases step
    · cases step
      exact inv.counters (inv.primary.decrement _) inv.memory (same _) (same _)
  | decrementAnswers i =>
    obtain ⟨call, own, step⟩ := Option.bind_eq_some_iff.mp step
    split at step
    · cases step
      exact inv.counters inv.primary inv.memory (same _) (same _)
    · cases step
  | decrementFails i =>
    obtain ⟨call, own, step⟩ := Option.bind_eq_some_iff.mp step
    cases step
    exact inv.counters inv.primary (inv.memory.decrement _) (same _) (same _)
  | resetKey key =>
    cases step
    exact inv.counters inv.primary (inv.memory.restart _) (same _) (same _)
  | primaryResets i =>
    obtain ⟨call, own, step⟩ := Option.bind_eq_some_iff.mp step
    cases step
    exact inv.counters (inv.primary.restart _) inv.memory (same _) (same _)
  | elsewhere op key =>
    cases step
    cases op with
    | increment =>
      exact inv.counters (inv.primary.increment _ _) inv.memory (List.subset_append_left ..)
        (same _)
    | decrement => exact inv.counters (inv.primary.decrement _) inv.memory (same _) (same _)
    | restart => exact inv.counters (inv.primary.restart _) inv.memory (same _) (same _)
  | memoryWindowEnds key =>
    cases step
    exact inv.counters inv.primary (inv.memory.restart _) (same _) (same _)
  | elapse ms =>
    cases step
    exact inv.counters inv.primary inv.memory (same _) (same _)

theorem reachable_inv (reachable : Reachable Initial Step s) : Inv s :=
  reachable.invariant (fun _ => Initial.inv) fun _ _ _ step inv => inv.next step

/-- The calls that one store told `L` or less in a window in which nothing is taken off. -/
theorem few_told {c : Counter Key} (sound : c.Sound) {responses : List Response}
    (distinct : (responses.map (·.id)).Nodup) {key : Key} {window L : Nat}
    (told : ∀ r ∈ responses, r.totalHits ≤ L ∧ c.Told r.id key window r.totalHits) :
    responses.length ≤ L := by
  rw [← List.length_map (·.id)]
  have each (id : Nat) (member : id ∈ responses.map (·.id)) :
      ∃ m ≤ L, c.Told id key window m := by
    obtain ⟨r, inside, rfl⟩ := List.mem_map.mp member
    exact ⟨r.totalHits, told r inside⟩
  exact sound.few distinct each

/-- Every call is under way or answered, with what a store counted or the greatest number; the
breaker lets one probe through and stays open after one that failed. -/
theorem every_increment_counts (reachable : Reachable Initial Step s) :
    ((s.increments.map (·.id) ++ s.responses.map (·.id)).Perm (List.range s.calls) ∧
      ∀ r ∈ s.responses, Answered s r) ∧
    (∀ key p m L, (s.responses.filter fun r => r.key = key ∧ r.totalHits ≤ L ∧
      (s.primary.Told r.id key p r.totalHits ∨ s.memory.Told r.id key m r.totalHits)).length ≤
        2 * L) ∧
    (∀ key, s.primary.counted key ≤ s.primary.hits key + s.primary.taken key ∧
      s.memory.counted key ≤ s.memory.hits key + s.memory.taken key) ∧
    (0 ≤ s.primaryInFlight ∧ s.primaryInFlight ≤ maxPrimaryInFlight) ∧
    s.increments.countP (·.ownsRecoveryProbe) ≤ 1 ∧
    (s.lastProbe = some false → s.degraded = true) := by
  have inv := reachable_inv reachable
  refine ⟨⟨inv.calls, inv.answered⟩, fun key p m L => ?_, fun key => ⟨inv.primary.kept key,
    inv.memory.kept key⟩, ⟨?_, inv.bounded⟩, ?_, inv.opened⟩
  · obtain ⟨few, same⟩ : ∃ few, few = s.responses.filter fun r => r.key = key ∧ r.totalHits ≤ L ∧
        (s.primary.Told r.id key p r.totalHits ∨ s.memory.Told r.id key m r.totalHits) := ⟨_, rfl⟩
    have all : (s.responses.map (·.id)).Nodup :=
      (List.nodup_append.mp (inv.calls.nodup_iff.mpr List.nodup_range)).2.1
    have distinct (q : Response → Bool) : ((few.filter q).map (·.id)).Nodup :=
      all.sublist ((List.filter_sublist.trans (same ▸ List.filter_sublist)).map _)
    have chosen (r : Response) (member : r ∈ few) : r.totalHits ≤ L ∧
        (s.primary.Told r.id key p r.totalHits ∨ s.memory.Told r.id key m r.totalHits) := by
      rw [same, List.mem_filter] at member
      exact (of_decide_eq_true member.2).2
    obtain ⟨shared, own⟩ : ∃ shared : Response → Bool, shared = fun r =>
        decide (s.primary.Told r.id key p r.totalHits) := ⟨_, rfl⟩
    have first (r) (member : r ∈ few.filter shared) :
        r.totalHits ≤ L ∧ s.primary.Told r.id key p r.totalHits := by
      obtain ⟨inside, told⟩ := List.mem_filter.mp member
      rw [own] at told
      exact ⟨(chosen r inside).1, of_decide_eq_true told⟩
    have second (r) (member : r ∈ few.filter fun r => !shared r) :
        r.totalHits ≤ L ∧ s.memory.Told r.id key m r.totalHits := by
      obtain ⟨inside, told⟩ := List.mem_filter.mp member
      obtain ⟨low, either⟩ := chosen r inside
      rw [own, Bool.not_eq_true', decide_eq_false_iff_not] at told
      exact ⟨low, either.resolve_left told⟩
    have few_primary := few_told inv.primary (distinct _) first
    have few_memory := few_told inv.memory (distinct _) second
    rw [← same, List.length_eq_length_filter_add shared]
    omega
  · rw [inv.inFlight]
    exact Int.natCast_nonneg _
  · rw [inv.probes]
    split <;> decide

end

/-- One hit in each of the stores; the second is counted in memory and taken off the primary. -/
theorem misplaced_decrement : ∃ acts s, Run Step (init 0 .returned) acts s ∧
    (∀ key, Act.decrement 0 key ∉ acts) ∧ s.primary.Told 0 [107] (s.primary.window [107]) 1 ∧
      s.primary.hits [107] = 0 := by
  refine ⟨[.increment [107], .primaryCounts 0, .primaryAnswers 0, .increment [107],
    .primaryFails 0, .decrement 1 [107], .primaryDecrements 0], _, Run.of_foldlM rfl, ?_, ?_, rfl⟩
  · simp
  · decide

theorem every_increment_counts_pending :
    ∃ s, (∀ r ∈ s.responses, Answered s r) ∧ s.responses.length = 1 := by
  have run : Run Step (init 0 .promised)
    [.increment [107], .initialized, .increment [107], .primaryCounts 0] _ := Run.of_foldlM rfl
  exact ⟨_, (every_increment_counts ⟨_, _, ⟨0, .promised, rfl⟩, run⟩).1.2, rfl⟩

end CircleBackend.Redis.Fallback
