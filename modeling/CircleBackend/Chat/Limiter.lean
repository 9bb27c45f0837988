import CircleBackend.Js
import Mathlib.Logic.Function.Basic

/-!
# The sliding window limiter

`SlidingWindowRateLimiter` against `Quota`, which keeps every call it has accepted and
drops nothing. Times and the window are whole milliseconds of any sign.

* `limiter_refines`: both give the same answers to every history of calls;
* the answers to a key are those of a history without the other calls.
-/

namespace CircleBackend.Chat

structure RateLimit where
  limit : Nat
  windowMs : Int

section Limiter

variable {κ : Type} [DecidableEq κ]

structure SlidingWindowRateLimiter (κ : Type) where
  hits : κ → Option (List Int)
  lastSweepAt : Int

inductive LimiterCall (κ : Type)
  | tryAcquire (key : κ) (now : Int)
  | pruneExpired (key : κ) (now : Int)
  deriving DecidableEq, Repr

def LimiterCall.now : LimiterCall κ → Int
  | .tryAcquire _ now | .pruneExpired _ now => now

/-- What `tryAcquire` answered for a key at a time. -/
structure Verdict (κ : Type) where
  key : κ
  now : Int
  accepted : Bool
  deriving DecidableEq, Repr

namespace SlidingWindowRateLimiter

def new (κ : Type) : SlidingWindowRateLimiter κ := ⟨fun _ => none, 0⟩

def within (config : RateLimit) (now : Int) (timestamps : List Int) : List Int :=
  timestamps.filter fun t => now - config.windowMs < t

def sweepIfDue (config : RateLimit) (s : SlidingWindowRateLimiter κ) (now : Int) :
    SlidingWindowRateLimiter κ :=
  if now - s.lastSweepAt < max config.windowMs 60000 then s
  else
    { hits := fun key => (s.hits key).filter fun timestamps =>
        !timestamps.all fun t => t ≤ now - config.windowMs
      lastSweepAt := now }

def set (s : SlidingWindowRateLimiter κ) (key : κ) (timestamps : Option (List Int)) :
    SlidingWindowRateLimiter κ :=
  { s with hits := Function.update s.hits key timestamps }

def tryAcquire (config : RateLimit) (s : SlidingWindowRateLimiter κ) (key : κ) (now : Int) :
    Bool × SlidingWindowRateLimiter κ :=
  let s := s.sweepIfDue config now
  let recent := within config now ((s.hits key).getD [])
  if config.limit ≤ recent.length then (false, s.set key (some recent))
  else (true, s.set key (some (recent ++ [now])))

def pruneExpired (config : RateLimit) (s : SlidingWindowRateLimiter κ) (key : κ) (now : Int) :
    SlidingWindowRateLimiter κ :=
  let recent := within config now ((s.hits key).getD [])
  if recent.length = 0 then s.set key none else s.set key (some recent)

/-- A history of calls: what was answered, and the limiter after it. -/
def play (config : RateLimit) (s : SlidingWindowRateLimiter κ) :
    List (LimiterCall κ) → List (Verdict κ) × SlidingWindowRateLimiter κ
  | [] => ([], s)
  | .tryAcquire key now :: calls =>
    let (accepted, s) := s.tryAcquire config key now
    let (verdicts, s) := s.play config calls
    (⟨key, now, accepted⟩ :: verdicts, s)
  | .pruneExpired key now :: calls => (s.pruneExpired config key now).play config calls

end SlidingWindowRateLimiter

/-! ## What it is for -/

/-- Every call that has been accepted. -/
abbrev Quota (κ : Type) := List (κ × Int)

namespace Quota

/-- The accepted calls of a key in `(now - windowMs, now]`. -/
def used (config : RateLimit) (q : Quota κ) (key : κ) (now : Int) : Nat :=
  q.countP fun call => call.1 = key && now - config.windowMs < call.2 && call.2 ≤ now

def admits (config : RateLimit) (q : Quota κ) (key : κ) (now : Int) : Bool :=
  q.used config key now < config.limit

def play (config : RateLimit) (q : Quota κ) : List (LimiterCall κ) → List (Verdict κ)
  | [] => []
  | .tryAcquire key now :: calls =>
    let accepted := q.admits config key now
    ⟨key, now, accepted⟩ :: Quota.play config (if accepted then q ++ [(key, now)] else q) calls
  | .pruneExpired _ _ :: calls => Quota.play config q calls

@[simp] theorem play_tryAcquire (config : RateLimit) (q : Quota κ) (key : κ) (now : Int)
    (calls : List (LimiterCall κ)) :
    Quota.play config q (.tryAcquire key now :: calls) =
      ⟨key, now, q.admits config key now⟩ ::
        Quota.play config (if q.admits config key now then q ++ [(key, now)] else q) calls := rfl

end Quota

open SlidingWindowRateLimiter

variable {config : RateLimit} {s : SlidingWindowRateLimiter κ} {q : Quota κ} {key : κ}
  {clock now : Int} {timestamps : List Int} {calls : List (LimiterCall κ)}

/-! ## The refinement -/

theorem within_within (later : clock ≤ now) :
    within config now (within config clock timestamps) = within config now timestamps := by
  unfold within
  rw [List.filter_filter]
  apply List.filter_congr
  intro t _
  by_cases fresh : now - config.windowMs < t
  · have old : clock - config.windowMs < t := by omega
    simp [fresh, old]
  · simp [fresh]

/-- The times at which a key was accepted. -/
def timesOf (q : Quota κ) (key : κ) : List Int :=
  (q.filter fun call => call.1 = key).map (·.2)

theorem timesOf_append (key key' : κ) (now : Int) :
    timesOf (q ++ [(key, now)]) key' = timesOf q key' ++ if key = key' then [now] else [] := by
  unfold timesOf
  by_cases own : key = key' <;> simp [own]

/-- What the limiter keeps of a key, up to what has left the window. -/
structure Refines (config : RateLimit) (s : SlidingWindowRateLimiter κ) (q : Quota κ)
    (clock : Int) : Prop where
  times : ∀ key, within config clock ((s.hits key).getD []) = within config clock (timesOf q key)
  past : ∀ call ∈ q, call.2 ≤ clock
  bound : ∀ key, ((s.hits key).getD []).length ≤ config.limit

theorem Refines.new (clock : Int) : Refines config (new κ) [] clock := by
  constructor <;> simp [SlidingWindowRateLimiter.new, timesOf]

theorem Refines.later (h : Refines config s q clock) (later : clock ≤ now) :
    Refines config s q now where
  times key := by
    rw [← within_within later, h.times key, within_within later]
  past call member := (h.past call member).trans later
  bound := h.bound

theorem Refines.sweepIfDue (h : Refines config s q now) :
    Refines config (s.sweepIfDue config now) q now := by
  unfold SlidingWindowRateLimiter.sweepIfDue
  split
  · exact h
  · constructor
    case times =>
      intro key
      rw [← h.times key]
      dsimp only
      cases kept : s.hits key with
      | none => rfl
      | some timestamps =>
        by_cases gone : (timestamps.all fun t => t ≤ now - config.windowMs) = true
        · have empty : within config now timestamps = [] := by
            rw [within, List.filter_eq_nil_iff]
            intro t member
            have old := List.all_eq_true.mp gone t member
            simp only [decide_eq_true_eq] at old ⊢
            omega
          simp only [Option.filter, gone, Bool.not_true, Bool.false_eq_true, ↓reduceIte,
            Option.getD_none, Option.getD_some, empty]
          rfl
        · simp [Option.filter, gone]
    case past => exact h.past
    case bound =>
      intro key
      have bound := h.bound key
      dsimp only
      cases kept : s.hits key with
      | none => exact Nat.zero_le _
      | some timestamps =>
        rw [kept] at bound
        unfold Option.filter
        dsimp only
        split
        · exact bound
        · exact Nat.zero_le _

/-- What is written for a key keeps what is in the window. -/
theorem Refines.set {q' : Quota κ} {kept : Option (List Int)} (h : Refines config s q now)
    (own : within config now (kept.getD []) = within config now (timesOf q' key))
    (others : ∀ other, other ≠ key → timesOf q' other = timesOf q other)
    (past : ∀ call ∈ q', call.2 ≤ now) (bound : (kept.getD []).length ≤ config.limit) :
    Refines config (s.set key kept) q' now where
  times other := by
    unfold SlidingWindowRateLimiter.set
    dsimp only
    by_cases same : other = key
    · rw [same, Function.update_self]
      exact own
    · rw [Function.update_of_ne same, others other same]
      exact h.times other
  past := past
  bound other := by
    unfold SlidingWindowRateLimiter.set
    dsimp only
    by_cases same : other = key
    · rw [same, Function.update_self]
      exact bound
    · rw [Function.update_of_ne same]
      exact h.bound other

theorem within_le (config : RateLimit) (now : Int) (timestamps : List Int) :
    (within config now timestamps).length ≤ timestamps.length :=
  List.length_filter_le ..

/-- What the limiter counts is what the quota counts. -/
theorem used_eq (h : Refines config s q now) (key : κ) :
    q.used config key now = (within config now ((s.hits key).getD [])).length := by
  rw [h.times key]
  unfold within timesOf Quota.used
  rw [List.filter_map, List.length_map, ← List.countP_eq_length_filter, List.countP_filter]
  apply List.countP_congr
  intro call member
  have past := h.past call member
  by_cases own : call.1 = key <;> simp [own, past]

theorem Refines.tryAcquire (h : Refines config s q now) (key : κ) :
    (s.tryAcquire config key now).1 = q.admits config key now ∧
      Refines config (s.tryAcquire config key now).2
        (if q.admits config key now then q ++ [(key, now)] else q) now := by
  have swept := h.sweepIfDue
  have used := used_eq swept key
  have fewer := within_le config now
    (((s.sweepIfDue config now).hits key).getD [])
  have bound := swept.bound key
  unfold SlidingWindowRateLimiter.tryAcquire Quota.admits
  dsimp only
  split
  case isTrue full =>
    have refused : ¬ q.used config key now < config.limit := by omega
    refine ⟨(decide_eq_false refused).symm, ?_⟩
    rw [if_neg (by simpa using refused)]
    refine swept.set ?_ (fun _ _ => rfl) swept.past ?_
    · rw [Option.getD_some, within_within (le_refl now), swept.times key]
    · rw [Option.getD_some]
      omega
  case isFalse room =>
    have admitted : q.used config key now < config.limit := by omega
    refine ⟨(decide_eq_true admitted).symm, ?_⟩
    rw [if_pos (by simpa using admitted)]
    refine swept.set ?_ ?_ ?_ ?_
    · have split : ∀ l : List Int, within config now (l ++ [now]) =
          within config now l ++ within config now [now] := fun l => List.filter_append ..
      rw [Option.getD_some, split, within_within (le_refl now), swept.times key, timesOf_append,
        if_pos rfl, split]
    · intro other apart
      rw [timesOf_append, if_neg (Ne.symm apart), List.append_nil]
    · intro call member
      rcases List.mem_append.mp member with old | new'
      · exact swept.past call old
      · rw [List.mem_singleton.mp new']
    · rw [Option.getD_some, List.length_append, List.length_singleton]
      omega

theorem Refines.pruneExpired (h : Refines config s q now) :
    Refines config (s.pruneExpired config key now) q now := by
  have fewer := within_le config now ((s.hits key).getD [])
  have bound := h.bound key
  have same : within config now (within config now ((s.hits key).getD [])) =
      within config now (timesOf q key) := by
    rw [within_within (le_refl now), h.times key]
  unfold SlidingWindowRateLimiter.pruneExpired
  dsimp only
  split
  case isTrue gone =>
    refine h.set ?_ (fun _ _ => rfl) h.past (Nat.zero_le _)
    rw [List.length_eq_zero_iff.mp gone] at same
    exact same
  case isFalse =>
    refine h.set same (fun _ _ => rfl) h.past ?_
    rw [Option.getD_some]
    omega

theorem Refines.play (h : Refines config s q clock)
    (ordered : (clock :: calls.map (·.now)).Pairwise (· ≤ ·)) :
    (s.play config calls).1 = q.play config calls ∧
      ∀ key, (((s.play config calls).2.hits key).getD []).length ≤ config.limit := by
  induction calls generalizing s q clock with
  | nil => exact ⟨rfl, h.bound⟩
  | cons call calls ih =>
    rw [List.map_cons, List.pairwise_cons] at ordered
    have later := h.later (ordered.1 call.now List.mem_cons_self)
    cases call with
    | tryAcquire key now =>
      have later : Refines config s q now := later
      obtain ⟨answer, refines⟩ := later.tryAcquire key
      obtain ⟨verdicts, bound⟩ := ih refines ordered.2
      refine ⟨?_, bound⟩
      rw [Quota.play_tryAcquire, ← verdicts, ← answer]
      rfl
    | pruneExpired key now => exact ih later.pruneExpired ordered.2

/-! ## One key at a time -/

def LimiterCall.acquires (key : κ) : LimiterCall κ → Bool
  | .tryAcquire k _ => k = key
  | .pruneExpired _ _ => false

theorem admits_own (q : Quota κ) (key : κ) (now : Int) :
    Quota.admits config (q.filter fun call => call.1 = key) key now = q.admits config key now := by
  unfold Quota.admits Quota.used
  rw [List.countP_filter]
  congr 2
  apply List.countP_congr
  intro call _
  by_cases own : call.1 = key <;> simp [own]

theorem play_own (q : Quota κ) (calls : List (LimiterCall κ)) (key : κ) :
    (q.play config calls).filter (fun v => v.key = key) =
      Quota.play config (q.filter fun call => call.1 = key) (calls.filter (·.acquires key)) := by
  induction calls generalizing q with
  | nil => rfl
  | cons call calls ih =>
    cases call with
    | tryAcquire k now =>
      rw [Quota.play_tryAcquire]
      by_cases own : k = key
      · subst own
        rw [List.filter_cons_of_pos (by simp), List.filter_cons_of_pos (by simp [LimiterCall.acquires]),
          ih, Quota.play_tryAcquire, admits_own]
        congr 2
        by_cases admitted : Quota.admits config q k now = true <;> simp [admitted]
      · rw [List.filter_cons_of_neg (by simp [own]),
          List.filter_cons_of_neg (by simp [LimiterCall.acquires, own]), ih]
        congr 1
        by_cases admitted : Quota.admits config q k now = true <;> simp [admitted, own]
    | pruneExpired k now =>
      rw [List.filter_cons_of_neg (by simp [LimiterCall.acquires])]
      exact ih q

/-- The limiter accepts as the quota does, whatever other keys, pruning and sweeps do, and
keeps no more than `limit` times of a key. -/
theorem limiter_refines (config : RateLimit) (calls : List (LimiterCall κ))
    (ordered : (calls.map (·.now)).Pairwise (· ≤ ·)) :
    ((new κ).play config calls).1 = Quota.play config [] calls ∧
    (∀ key, ((new κ).play config calls).1.filter (fun v => v.key = key) =
      ((new κ).play config (calls.filter (·.acquires key))).1) ∧
    ∀ key, ((((new κ).play config calls).2.hits key).getD []).length ≤ config.limit := by
  have plays (calls : List (LimiterCall κ)) (ordered : (calls.map (·.now)).Pairwise (· ≤ ·)) :
      ((new κ).play config calls).1 = Quota.play config [] calls ∧
        ∀ key, ((((new κ).play config calls).2.hits key).getD []).length ≤ config.limit := by
    cases calls with
    | nil => exact ⟨rfl, fun _ => Nat.zero_le _⟩
    | cons call calls =>
      apply (Refines.new call.now).play
      rw [List.pairwise_cons]
      refine ⟨?_, ordered⟩
      intro now member
      rw [List.map_cons] at member ordered
      rcases List.mem_cons.mp member with rfl | member
      · exact le_refl _
      · exact (List.pairwise_cons.mp ordered).1 now member
  obtain ⟨answers, bound⟩ := plays calls ordered
  refine ⟨answers, fun key => ?_, bound⟩
  have fewer : ((calls.filter (·.acquires key)).map (·.now)).Pairwise (· ≤ ·) :=
    ordered.sublist (List.filter_sublist.map _)
  rw [answers, play_own, (plays _ fewer).1]
  rfl

/-- At the limit, and just out of the window. -/
theorem limiter_refines_edge :
    ((new Nat).play ⟨2, 10⟩ [.tryAcquire 1 0, .tryAcquire 1 5, .tryAcquire 1 9, .pruneExpired 1 9,
      .tryAcquire 1 10]).1 = Quota.play ⟨2, 10⟩ [] [.tryAcquire 1 0, .tryAcquire 1 5,
        .tryAcquire 1 9, .pruneExpired 1 9, .tryAcquire 1 10] :=
  (limiter_refines ⟨2, 10⟩ _ (by decide)).1

end Limiter

end CircleBackend.Chat
