import CircleBackend.Library.Transition
import CircleBackend.Memberships.Calendar

/-!
# What a grant leaves of a membership

The level of a member at every later time, before and after a grant. It never falls,
but where a membership of a level below the lifetime one that has no end is followed
by a higher one that ends.
-/

namespace CircleBackend.Memberships

open Library
open Session (UserId)

structure GrantCall where
  now : Time
  operatorUserId : UserId
  targetUserId : UserId
  dto : CreateMembershipGrantDto

def Registry.call (r : Registry) (c : GrantCall) : Except GrantFault Registry :=
  grant r c.now c.operatorUserId c.targetUserId c.dto

/-- A call that throws is rolled back. -/
def Registry.after (r : Registry) (c : GrantCall) : Registry := (r.call c).toOption.getD r

def GrantStep (r : Registry) (c : GrantCall) (r' : Registry) : Prop := r.after c = r'

/-- The call commits a grant of its own. -/
structure Registry.Commits (r : Registry) (c : GrantCall) (r' : Registry) : Prop where
  fresh : r.grants.find c.dto.idempotencyKey = none
  returns : r.call c = .ok r'

def Member.levelAt (m : Member) (t : Time) : MembershipLevel :=
  resolveEffectiveMembershipLevel m.stored t

/-- A level below the lifetime one that is read as one that does not end. -/
def Member.unending (m : Member) : Bool :=
  1 ≤ m.vipLevel && m.vipLevel ≤ 3 && m.vipExpiresAt.isNone

/-! ## The level over time -/

section Levels

variable {m : Member} {t : Time}

theorem levelAt_eq (m : Member) (t : Time) : m.levelAt t =
    if m.vipLevel = 0 then 0
    else if 4 ≤ m.vipLevel then 4
    else if m.vipExpiresAt.any (· ≤ t) then 0
    else Fin.ofNat 5 m.vipLevel := rfl

theorem levelAt_lifetime (lifetime : 4 ≤ m.vipLevel) : m.levelAt t = 4 := by
  rw [levelAt_eq, if_neg (by omega), if_pos lifetime]

theorem levelAt_ended {e : Time} (below : m.vipLevel < 4) (ends : m.vipExpiresAt = some e)
    (past : e ≤ t) : m.levelAt t = 0 := by
  rw [levelAt_eq]
  by_cases none' : m.vipLevel = 0
  · exact if_pos none'
  · rw [if_neg none', if_neg (Nat.not_le.mpr below), if_pos]
    rw [ends]
    exact decide_eq_true past

theorem levelAt_running (below : m.vipLevel < 4) (runs : ∀ e ∈ m.vipExpiresAt, t < e) :
    (m.levelAt t : Nat) = m.vipLevel := by
  rw [levelAt_eq]
  by_cases none' : m.vipLevel = 0
  · rw [if_pos none', none']
    rfl
  · have still : ¬ m.vipExpiresAt.any (· ≤ t) = true := by
      rw [Option.any_eq_true]
      rintro ⟨e, member, past⟩
      exact absurd (of_decide_eq_true past) (Nat.not_le.mpr (runs e member))
    rw [if_neg none', if_neg (Nat.not_le.mpr below), if_neg still]
    exact Nat.mod_eq_of_lt (Nat.lt_succ_of_lt below)

/-- Until it ends, a membership gives its level. -/
theorem levelAt_until {level : MembershipLevel} (own : m.vipLevel = level)
    (before : ∀ e ∈ m.vipExpiresAt, t < e) : m.levelAt t = level := by
  apply Fin.ext
  by_cases lifetime : 4 ≤ m.vipLevel
  · have top := level.isLt
    rw [levelAt_lifetime lifetime]
    change 4 = (level : Nat)
    omega
  · rw [levelAt_running (Nat.not_le.mp lifetime) before, own]

/-- While it runs, a membership has a level of at most its own, and none afterwards. -/
theorem levelAt_le (m : Member) (t : Time) : (m.levelAt t : Nat) ≤ m.vipLevel := by
  by_cases lifetime : 4 ≤ m.vipLevel
  · rw [levelAt_lifetime lifetime]
    exact lifetime
  · have below := Nat.not_le.mp lifetime
    by_cases runs : ∀ e ∈ m.vipExpiresAt, t < e
    · exact Nat.le_of_eq (levelAt_running below runs)
    · simp only [not_forall, not_lt] at runs
      obtain ⟨e, ends, past⟩ := runs
      rw [levelAt_ended below ends past]
      exact Nat.zero_le _

/-- A level is kept or lost as time passes. -/
theorem levelAt_antitone (m : Member) {t u : Time} (later : t ≤ u) : m.levelAt u ≤ m.levelAt t := by
  by_cases lifetime : 4 ≤ m.vipLevel
  · rw [levelAt_lifetime lifetime, levelAt_lifetime lifetime]
  · have below := Nat.not_le.mp lifetime
    by_cases runs : ∀ e ∈ m.vipExpiresAt, t < e
    · rw [Fin.le_def, levelAt_running below runs]
      exact levelAt_le m u
    · simp only [not_forall, not_lt] at runs
      obtain ⟨e, ends, past⟩ := runs
      rw [levelAt_ended below ends (le_trans past later)]
      exact Fin.zero_le _

end Levels

/-! ## One grant -/

section Grant

variable {r r' : Registry} {c : GrantCall} {target : Member} {input : CanonicalGrantInput}

/-- What a grant that is committed writes. -/
structure Written (r : Registry) (c : GrantCall) (input : CanonicalGrantInput) (target : Member)
    (expires : Option Time) (r' : Registry) : Prop where
  canonical : canonicalizeInput c.dto = .ok input
  found : r.members.find c.targetUserId = some target
  higher : target.levelAt c.now < input.targetLevel ∨
    target.levelAt c.now = input.targetLevel ∧ input.planId = .daily ∧
      target.vipExpiresAt.isSome = true
  ends : expires = newExpiresAt input
    (expiryBase target.vipExpiresAt (target.levelAt c.now) c.now)
  members : r'.members =
    r.members.put { target with vipLevel := input.targetLevel, vipExpiresAt := expires }

theorem Registry.Commits.written (h : r.Commits c r') :
    ∃ input target expires, Written r c input target expires r' := by
  obtain ⟨fresh, h⟩ := h
  unfold Registry.call grant at h
  obtain ⟨input, canonical, h⟩ := bind_ok h
  rw [(canonicalizeInput_ok canonical).1, fresh] at h
  obtain ⟨target, found, h⟩ := bind_ok h
  obtain ⟨_, level, h⟩ := bind_ok h
  obtain ⟨grants, -, h⟩ := bind_ok h
  cases h
  have level := throwIf_ok level
  refine ⟨input, target, _, canonical, orThrow_ok found, ?_, rfl, rfl⟩
  simp only [Bool.or_eq_false_iff, decide_eq_false_iff_not, not_lt, Bool.and_eq_false_iff,
    not_not, Option.isNone_eq_false_iff] at level
  rcases lt_or_eq_of_le level.1 with below | same
  · exact Or.inl below
  · rcases level.2 with other | daily
    · exact absurd same.symm other
    · exact Or.inr ⟨same, daily⟩

theorem le_newExpiresAt {base e : Time} (h : e ∈ newExpiresAt input base) : base ≤ e := by
  unfold newExpiresAt at h
  split at h
  · cases h
    exact Nat.le_add_right _ _
  · split at h
    · cases h
    · cases h
      exact addUtcCalendarMonths_le _ _

theorem le_expiryBase (vipExpiresAt : Option Time) (level : MembershipLevel) (now : Time) :
    now ≤ expiryBase vipExpiresAt level now := by
  unfold expiryBase
  split
  · cases runs : vipExpiresAt.filter (now < ·) with
    | none => exact Nat.le_refl _
    | some e => exact Nat.le_of_lt (of_decide_eq_true (Option.filter_eq_some_iff.mp runs).2)
  · exact Nat.le_refl _

theorem expiryBase_running {e now : Time} {level : MembershipLevel} (paid : 0 < level)
    (below : level < 4) (runs : now < e) : expiryBase (some e) level now = e := by
  unfold expiryBase
  rw [if_pos ⟨paid, below⟩, Option.filter_some, if_pos (decide_eq_true runs), Option.getD_some]

variable {expires : Option Time}

theorem Written.level (h : Written r c input target expires r') :
    (input.targetLevel : Nat) = c.dto.targetLevel ∧ 0 < input.targetLevel := by
  obtain ⟨-, -, own, positive, -⟩ := canonicalizeInput_ok h.canonical
  refine ⟨own, Fin.pos_iff_ne_zero.mpr fun zero => ?_⟩
  rw [zero] at own
  have none' : c.dto.targetLevel = 0 := own.symm
  omega

/-- Only the lifetime level has no end. -/
theorem Written.endless (h : Written r c input target expires r') :
    expires = none ↔ input.targetLevel = 4 := by
  rw [h.ends, newExpiresAt_none]
  constructor
  · exact And.right
  · intro lifetime
    refine ⟨fun daily => ?_, lifetime⟩
    have silver := (canonicalizeInput_ok h.canonical).2.2.2.2 daily
    have own := h.level.1
    rw [lifetime, silver] at own
    exact absurd own (by decide)

/-- What was running when the grant was made, and ends, ends no sooner than the grant. -/
theorem Written.ends_later (h : Written r c input target expires r') {old new : Time}
    (before : target.vipExpiresAt = some old) (paid : 0 < target.levelAt c.now)
    (below : target.vipLevel < 4) (after : expires = some new) : old ≤ new := by
  have runs : c.now < old := by
    by_contra past
    rw [levelAt_ended below before (Nat.not_lt.mp past)] at paid
    exact absurd paid (lt_irrefl _)
  have low : target.levelAt c.now < 4 := by
    have bound := levelAt_le target c.now
    exact Fin.lt_def.mpr (lt_of_le_of_lt bound below)
  rw [h.ends, before, expiryBase_running paid low runs] at after
  exact le_newExpiresAt after

theorem Written.lapsed (h : Written r c input target expires r')
    (unending : target.unending = true → input.targetLevel = 4) {e t : Time}
    (after : expires = some e) (past : e ≤ t) (late : c.now ≤ t) : target.levelAt t = 0 := by
  have below : input.targetLevel ≠ 4 := by
    intro lifetime
    rw [h.endless.mpr lifetime] at after
    cases after
  have low : target.vipLevel < 4 := by
    by_contra lifetime
    have top : target.levelAt c.now = 4 := levelAt_lifetime (Nat.not_lt.mp lifetime)
    rcases h.higher with above | same
    · rw [top] at above
      exact absurd above (Fin.le_last _).not_gt
    · exact below (same.1.symm.trans top)
  by_cases paid : 0 < target.levelAt c.now
  · cases before : target.vipExpiresAt with
    | none =>
      have positive := lt_of_lt_of_le (Fin.lt_def.mp paid) (levelAt_le target c.now)
      apply absurd (unending _) below
      simp only [Member.unending, Bool.and_eq_true, decide_eq_true_eq, before, Option.isNone_none,
        and_true]
      exact ⟨positive, by omega⟩
    | some old =>
      exact levelAt_ended low before (le_trans (h.ends_later before paid low after) past)
  · have lost := le_trans (levelAt_antitone target late) (not_lt.mp paid)
    exact le_antisymm lost (Fin.zero_le _)

/-- The level never falls by a grant, unless it was one that does not end. -/
theorem Written.levels (h : Written r c input target expires r') {target' : Member}
    (own : target' = { target with vipLevel := input.targetLevel, vipExpiresAt := expires }) :
    (∀ t, c.now ≤ t → target.levelAt t ≤ target'.levelAt t) ↔
      (target.unending = true → input.targetLevel = 4) := by
  constructor
  · intro kept unending
    by_contra ends
    obtain ⟨e, after⟩ := Option.ne_none_iff_exists'.mp fun none' => ends (h.endless.mp none')
    simp only [Member.unending, Bool.and_eq_true, decide_eq_true_eq, Option.isNone_iff_eq_none]
      at unending
    obtain ⟨⟨positive, below⟩, none'⟩ := unending
    have later : c.now ≤ e := by
      rw [h.ends] at after
      exact le_trans (le_expiryBase _ _ _) (le_newExpiresAt after)
    have before : (target.levelAt e : Nat) = target.vipLevel := by
      apply levelAt_running (by omega)
      rw [none']
      exact nofun
    have gone : target'.levelAt e = 0 := by
      subst own
      apply levelAt_ended (e := e) ?_ after (Nat.le_refl e)
      have bound := input.targetLevel.isLt
      have other : (input.targetLevel : Nat) ≠ 4 := fun same => ends (Fin.ext same)
      change (input.targetLevel : Nat) < 4
      omega
    have fell := Fin.le_def.mp (kept e later)
    rw [gone, before] at fell
    exact absurd fell (Nat.not_le.mpr positive)
  · intro unending t late
    have raised : target.levelAt c.now ≤ input.targetLevel := by
      rcases h.higher with below | same
      · exact below.le
      · exact same.1.le
    by_cases running : ∀ e ∈ expires, t < e
    · subst own
      have stands : ({ target with vipLevel := input.targetLevel, vipExpiresAt := expires } :
          Member).levelAt t = input.targetLevel := levelAt_until rfl running
      rw [stands]
      -- before its end the new level stands, which is above the old one from the start
      exact le_trans (levelAt_antitone target late) raised
    · simp only [not_forall, not_lt] at running
      obtain ⟨e, after, past⟩ := running
      rw [h.lapsed unending after past late]
      exact Fin.zero_le _

theorem Written.found' (h : Written r c input target expires r') (id : UserId) :
    r'.members.find id = if id = c.targetUserId then
      some { target with vipLevel := input.targetLevel, vipExpiresAt := expires }
    else r.members.find id := by
  rw [h.members]
  exact Table.find_put_own h.found (by rfl) id

end Grant

/-! ## Keys -/

section Keys

variable {r r' : Registry} {c c' : GrantCall} {calls : List GrantCall}

theorem after_grants {k : Uuid} {g : MembershipGrant} (step : GrantStep r c r')
    (found : r.grants.find k = some g) : r'.grants.find k = some g := by
  unfold GrantStep Registry.after at step
  cases answer : r.call c with
  | error e =>
    rw [answer] at step
    cases step
    exact found
  | ok s =>
    rw [answer] at step
    cases step
    obtain ⟨input, -, granted⟩ := grant_ok answer
    exact granted.grants found

theorem run_grants {k : Uuid} {g : MembershipGrant} (run : Run GrantStep r calls r')
    (found : r.grants.find k = some g) : r'.grants.find k = some g :=
  run.preserves (P := fun s => s.grants.find k = some g) (fun _ _ _ step => after_grants step) found

theorem Registry.Commits.recorded (h : r.Commits c r') : ∃ g input,
    canonicalizeInput c.dto = .ok input ∧
      r'.grants.find c.dto.idempotencyKey = some g ∧
      g.replays c.operatorUserId c.targetUserId input = true := by
  obtain ⟨input, canonical, granted⟩ := grant_ok h.returns
  obtain ⟨g, found, replays⟩ := granted.replay
  rw [(canonicalizeInput_ok canonical).1] at found
  exact ⟨g, input, canonical, found, replays⟩

theorem call_replays {g : MembershipGrant} {input : CanonicalGrantInput}
    (canonical : canonicalizeInput c.dto = .ok input)
    (found : r.grants.find c.dto.idempotencyKey = some g)
    (replays : g.replays c.operatorUserId c.targetUserId input = true) : r.call c = .ok r := by
  unfold Registry.call grant
  rw [canonical]
  dsimp only [bind, Except.bind]
  rw [(canonicalizeInput_ok canonical).1, found]
  dsimp only
  rw [throwIf_of (by rw [replays]; rfl)]

end Keys

/-- What a grant that is committed leaves, to the end of any run after it. The level never
falls exactly when it was no endless one below the lifetime one, or is the lifetime one. -/
theorem grant_terms {r r' s : Registry} {c : GrantCall} {later : List GrantCall}
    (commits : r.Commits c r') (run : Run GrantStep r' later s) :
    (∃ g, r'.grants.find c.dto.idempotencyKey = some g ∧
      s.grants.find c.dto.idempotencyKey = some g) ∧
    (∀ c', c'.dto.idempotencyKey = c.dto.idempotencyKey → ∀ s', ¬ s.Commits c' s') ∧
    (∀ c', c'.operatorUserId = c.operatorUserId → c'.targetUserId = c.targetUserId →
      canonicalizeInput c'.dto = canonicalizeInput c.dto → s.call c' = .ok s) ∧
    (∀ id, id ≠ c.targetUserId → r'.members.find id = r.members.find id) ∧
    ∃ target target', r.members.find c.targetUserId = some target ∧
      r'.members.find c.targetUserId = some target' ∧
      (target'.vipExpiresAt = none ↔ target'.vipLevel = 4) ∧
      (∀ t, c.now ≤ t → (∀ e ∈ target'.vipExpiresAt, t < e) →
        c.dto.targetLevel ≤ target'.levelAt t) ∧
      ((∀ t, c.now ≤ t → target.levelAt t ≤ target'.levelAt t) ↔
        (target.unending = true → c.dto.targetLevel = 4)) := by
  obtain ⟨g, input, canonical, recorded, replays⟩ := commits.recorded
  have kept := run_grants run recorded
  obtain ⟨input', target, expires, written⟩ := commits.written
  cases canonical.symm.trans written.canonical
  have level := written.level.1
  have top : input.targetLevel = 4 ↔ c.dto.targetLevel = 4 := by
    rw [← level, Fin.ext_iff]
    rfl
  refine ⟨⟨g, recorded, kept⟩, ?_, ?_, ?_, target,
    { target with vipLevel := input.targetLevel, vipExpiresAt := expires }, written.found,
    ?_, ?_, ?_, ?_⟩
  · intro c' same s' again
    have fresh := again.fresh
    rw [same, kept] at fresh
    cases fresh
  · intro c' operator user same
    rw [canonical] at same
    have key := (canonicalizeInput_ok same).1.symm.trans (canonicalizeInput_ok canonical).1
    exact call_replays same (key ▸ kept) (operator ▸ user ▸ replays)
  · intro id other
    rw [written.found', if_neg other]
  · rw [written.found', if_pos rfl]
  · rw [written.endless, top, level]
  · intro t _ before
    rw [levelAt_until rfl before, level]
  · rw [written.levels rfl, top]

/-- Gold of the time before memberships had an end, made diamond for a year. -/
def legacyGold : Registry := ⟨⟨[⟨1, .active, 2, none⟩], by decide⟩, ⟨[], by decide⟩⟩

/-- Gold for another month. -/
def paidGold : Registry :=
  ⟨⟨[⟨1, .active, 2, some (utcDays 2026 1 1 * msPerDay)⟩], by decide⟩, ⟨[], by decide⟩⟩

def diamondGrant : GrantCall where
  now := utcDays 2026 0 1 * msPerDay
  operatorUserId := 9
  targetUserId := 1
  dto := { quantity := none, daily := false, targetLevel := 3, idempotencyKey := 7, note := none }

theorem diamondGrant_commits (r : Registry) (h : (r.call diamondGrant).toOption.isSome = true)
    (fresh : r.grants.find 7 = none) : r.Commits diamondGrant (r.after diamondGrant) := by
  obtain ⟨r', answer⟩ := Option.isSome_iff_exists.mp h
  have returns := toOption_some answer
  refine ⟨fresh, ?_⟩
  rw [returns, Registry.after, returns]
  rfl

theorem grant_terms_paid : ∃ target target', paidGold.members.find 1 = some target ∧
    (paidGold.after diamondGrant).members.find 1 = some target' ∧
    ∀ t, diamondGrant.now ≤ t → target.levelAt t ≤ target'.levelAt t := by
  have commits := diamondGrant_commits paidGold (by decide +kernel) (by decide +kernel)
  obtain ⟨-, -, -, -, target, target', before, after, -, -, kept⟩ :=
    grant_terms commits (.nil _)
  refine ⟨target, target', before, after, kept.mpr ?_⟩
  have own : target = ⟨1, .active, 2, some (utcDays 2026 1 1 * msPerDay)⟩ := by
    apply Option.some.inj
    rw [← before]
    decide +kernel
  rw [own]
  decide

theorem grant_takes_away : legacyGold.Commits diamondGrant (legacyGold.after diamondGrant) ∧
    ∃ target target' t, legacyGold.members.find 1 = some target ∧
      (legacyGold.after diamondGrant).members.find 1 = some target' ∧ diamondGrant.now ≤ t ∧
      target'.levelAt t = 0 ∧ target.levelAt t = 2 := by
  refine ⟨diamondGrant_commits _ (by decide +kernel) (by decide +kernel), ⟨1, .active, 2, none⟩,
    ⟨1, .active, 3, some (utcDays 2027 0 1 * msPerDay)⟩, utcDays 2027 0 1 * msPerDay, ?_⟩
  decide +kernel

end CircleBackend.Memberships
