import CircleBackend.Library.Checked
import CircleBackend.Library.Table
import CircleBackend.Memberships.Catalog
import CircleBackend.Session.Model

/-!
# Membership grants

`MembershipAdminService.grant`: one serializable transaction under the lock of the
target user, with the key of a grant that has been made replayed.
-/

namespace CircleBackend.Memberships

open Library
open Session (UserId UserStatus)

abbrev Uuid := Nat

/-! ## Calendar months -/

def msPerDay : Nat := 24 * 60 * 60 * 1000

structure UtcDate where
  year : Nat
  /-- Zero is January. -/
  month : Nat
  day : Nat
  deriving DecidableEq, Repr

/-- The date of a day since the epoch, in years that begin in March. -/
def utcDate (days : Nat) : UtcDate :=
  let z := days + 719468
  let doe := z % 146097
  let yoe := (doe - doe / 1460 + doe / 36524 - doe / 146096) / 365
  let doy := doe - (365 * yoe + yoe / 4 - yoe / 100)
  let mp := (5 * doy + 2) / 153
  let month := if mp < 10 then mp + 2 else mp - 10
  { year := yoe + z / 146097 * 400 + (if month ≤ 1 then 1 else 0)
    month := month
    day := doy - (153 * mp + 2) / 5 + 1 }

/-- `Date.UTC`, as days since the epoch; a month past December is of a later year. -/
def utcDays (year month day : Nat) : Nat :=
  let year := year + month / 12
  let month := month % 12
  let y := if month ≤ 1 then year - 1 else year
  let yoe := y % 400
  let doy := (153 * (if 2 ≤ month then month - 2 else month + 10) + 2) / 5 + day - 1
  y / 400 * 146097 + (yoe * 365 + yoe / 4 - yoe / 100 + doy) - 719468

def addUtcCalendarMonths (source : Time) (months : Nat) : Time :=
  let date := utcDate (source / msPerDay)
  let first := utcDays date.year (date.month + months) 1
  let lastTargetDay := utcDays date.year (date.month + months + 1) 1 - first
  (first + min date.day lastTargetDay - 1) * msPerDay + source % msPerDay

/-- The last day of January 2024, and a month later. -/
example : addUtcCalendarMonths (utcDays 2024 0 31 * msPerDay) 1 = utcDays 2024 1 29 * msPerDay := by
  decide

/-! ## The rows -/

inductive PlanId
  | daily
  | regular
  | silver
  | gold
  | diamond
  | super
  deriving DecidableEq, Repr

/-- The `key` of the catalogue. -/
def MembershipLevel.key : MembershipLevel → PlanId
  | 0 => .regular
  | 1 => .silver
  | 2 => .gold
  | 3 => .diamond
  | 4 => .super

structure Member where
  id : UserId
  status : UserStatus
  vipLevel : Nat
  vipExpiresAt : Option Time
  deriving DecidableEq, Repr

def Member.stored (m : Member) : StoredMembership := ⟨m.vipLevel, m.vipExpiresAt⟩

structure MembershipGrant where
  idempotencyKey : Uuid
  /-- `null` on historical rows. -/
  planId : Option PlanId
  quantity : Nat
  targetUserID : UserId
  operatorUserID : UserId
  previousLevel : Nat
  previousEffectiveLevel : MembershipLevel
  newLevel : MembershipLevel
  previousExpiresAt : Option Time
  newExpiresAt : Option Time
  note : Option JsString
  createdAt : Time
  deriving DecidableEq, Repr

abbrev Members := Table Member UserId (·.id)
abbrev Grants := Table MembershipGrant Uuid (·.idempotencyKey)

structure CreateMembershipGrantDto where
  quantity : Option Nat
  /-- `planId`, which can only be `daily`. -/
  daily : Bool
  targetLevel : Nat
  idempotencyKey : Uuid
  note : Option JsString
  deriving DecidableEq, Repr

structure CanonicalGrantInput where
  quantity : Nat
  planId : PlanId
  targetLevel : MembershipLevel
  idempotencyKey : Uuid
  note : Option JsString
  deriving DecidableEq, Repr

inductive GrantFault
  | invalidLevel
  | invalidPlan
  | invalidQuantity
  | userNotFound
  | levelNotHigher
  | idempotencyConflict
  deriving DecidableEq, Repr

/-- `note?.trim() || null` -/
def trimmedNote (note : Option JsString) : Option JsString :=
  (note.map trim).filter fun text => !text.isEmpty

/-! ## A grant -/

def canonicalizeInput (dto : CreateMembershipGrantDto) : Except GrantFault CanonicalGrantInput := do
  throwIf (dto.targetLevel < 1 || 4 < dto.targetLevel) .invalidLevel
  throwIf (dto.daily && dto.targetLevel ≠ 1) .invalidPlan
  let quantity := dto.quantity.getD 1
  throwIf (quantity < 1 || 30 < quantity || (!dto.daily && quantity ≠ 1)) .invalidQuantity
  let targetLevel : MembershipLevel := Fin.ofNat 5 dto.targetLevel
  .ok
    { quantity := quantity
      planId := if dto.daily then .daily else targetLevel.key
      targetLevel := targetLevel
      idempotencyKey := dto.idempotencyKey
      note := trimmedNote dto.note }

def expiryBase (vipExpiresAt : Option Time) (previousEffectiveLevel : MembershipLevel)
    (now : Time) : Time :=
  if 0 < previousEffectiveLevel ∧ previousEffectiveLevel < 4 then
    (vipExpiresAt.filter (now < ·)).getD now
  else now

/-- Whether `replayOrThrow` returns. -/
def MembershipGrant.replays (grant : MembershipGrant) (operatorUserId targetUserId : UserId)
    (input : CanonicalGrantInput) : Bool :=
  grant.operatorUserID = operatorUserId && grant.targetUserID = targetUserId &&
    grant.newLevel = input.targetLevel &&
    grant.planId.getD grant.newLevel.key = input.planId &&
    grant.quantity = input.quantity && grant.note = input.note

structure Registry where
  members : Members
  grants : Grants

def newExpiresAt (input : CanonicalGrantInput) (base : Time) : Option Time :=
  if input.planId = .daily then some (base + input.quantity * msPerDay)
  else if (membershipCatalog input.targetLevel).lifetime then none
  else some (addUtcCalendarMonths base
    ((membershipCatalog input.targetLevel).durationMonths.getD 0))

/-- What is written where no grant has the key. -/
def grantAnew (r : Registry) (now : Time) (operatorUserId targetUserId : UserId)
    (input : CanonicalGrantInput) : Except GrantFault Registry := do
  let target ← orThrow (r.members.find targetUserId) .userNotFound
  let previous := resolveEffectiveMembershipLevel target.stored now
  throwIf
    (input.targetLevel < previous ||
      (input.targetLevel = previous &&
        (input.planId ≠ .daily || target.vipExpiresAt.isNone))) .levelNotHigher
  let expires := newExpiresAt input (expiryBase target.vipExpiresAt previous now)
  let grants ← orThrow (r.grants.insert
    { idempotencyKey := input.idempotencyKey
      planId := some input.planId
      quantity := input.quantity
      targetUserID := targetUserId
      operatorUserID := operatorUserId
      previousLevel := target.vipLevel
      previousEffectiveLevel := previous
      newLevel := input.targetLevel
      previousExpiresAt := target.vipExpiresAt
      newExpiresAt := expires
      note := input.note
      createdAt := now }) .idempotencyConflict
  .ok
    { members :=
        r.members.put { target with vipLevel := input.targetLevel, vipExpiresAt := expires }
      grants := grants }

def grant (r : Registry) (now : Time) (operatorUserId targetUserId : UserId)
    (dto : CreateMembershipGrantDto) : Except GrantFault Registry := do
  let input ← canonicalizeInput dto
  match r.grants.find input.idempotencyKey with
  | some replay =>
    throwIf (!replay.replays operatorUserId targetUserId input) .idempotencyConflict
    .ok r
  | none => grantAnew r now operatorUserId targetUserId input

/-! ## What a grant does -/

section Grant

variable {r r' : Registry} {now : Time} {operatorUserId targetUserId : UserId}
  {dto : CreateMembershipGrantDto} {input : CanonicalGrantInput}

theorem canonicalizeInput_ok (h : canonicalizeInput dto = .ok input) :
    input.idempotencyKey = dto.idempotencyKey ∧ input.note = trimmedNote dto.note ∧
      (input.targetLevel : Nat) = dto.targetLevel ∧ 1 ≤ dto.targetLevel ∧
      (input.planId = .daily → dto.targetLevel = 1) := by
  unfold canonicalizeInput at h
  obtain ⟨_, level, h⟩ := bind_ok h
  obtain ⟨_, plan, h⟩ := bind_ok h
  obtain ⟨_, -, h⟩ := bind_ok h
  have level := throwIf_ok level
  have plan := throwIf_ok plan
  simp only [Bool.or_eq_false_iff, decide_eq_false_iff_not, not_lt] at level
  cases h
  refine ⟨rfl, rfl, ?_, level.1, ?_⟩
  · rw [Fin.val_ofNat]
    omega
  · intro daily
    dsimp only at daily
    split at daily
    · rename_i chosen
      simpa [chosen] using plan
    · generalize Fin.ofNat 5 dto.targetLevel = target at daily
      match target, daily with
      | 0, daily | 1, daily | 2, daily | 3, daily | 4, daily => cases daily

/-- A level below the lifetime one ends, and there is no other. -/
def Member.sound (m : Member) : Prop :=
  m.vipLevel ≤ 4 ∧ (m.vipExpiresAt = none ↔ m.vipLevel = 0 ∨ m.vipLevel = 4)

/-- A grant is replayed, or it is made. -/
inductive Granted (r : Registry) (now : Time) (operatorUserId targetUserId : UserId)
    (input : CanonicalGrantInput) : Registry → Prop
  | replayed {g : MembershipGrant} (found : r.grants.find input.idempotencyKey = some g)
      (replays : g.replays operatorUserId targetUserId input = true) :
      Granted r now operatorUserId targetUserId input r
  | made {g : MembershipGrant} {target : Member} {grants : Grants} {expires : Option Time}
      (fresh : r.grants.find input.idempotencyKey = none)
      (member : r.members.find targetUserId = some target)
      (higher : resolveEffectiveMembershipLevel target.stored now < input.targetLevel ∨
        resolveEffectiveMembershipLevel target.stored now = input.targetLevel ∧
          input.planId = .daily)
      (ends : expires = none ↔ input.planId ≠ .daily ∧ input.targetLevel = 4)
      (replays : g.replays operatorUserId targetUserId input = true)
      (inserted : r.grants.insert g = some grants) (key : g.idempotencyKey = input.idempotencyKey) :
      Granted r now operatorUserId targetUserId input
        { members :=
            r.members.put { target with vipLevel := input.targetLevel, vipExpiresAt := expires }
          grants := grants }

theorem newExpiresAt_none (input : CanonicalGrantInput) (base : Time) :
    newExpiresAt input base = none ↔ input.planId ≠ .daily ∧ input.targetLevel = 4 := by
  unfold newExpiresAt
  split
  · rename_i daily
    simp [daily]
  · rename_i other
    generalize input.targetLevel = level
    match level with
    | 0 | 1 | 2 | 3 => simp [membershipCatalog]
    | 4 => simp [membershipCatalog, other]

theorem grant_ok (h : grant r now operatorUserId targetUserId dto = .ok r') :
    ∃ input, canonicalizeInput dto = .ok input ∧
      Granted r now operatorUserId targetUserId input r' := by
  unfold grant at h
  obtain ⟨input, canonical, h⟩ := bind_ok h
  refine ⟨input, canonical, ?_⟩
  cases found : r.grants.find input.idempotencyKey with
  | some replay =>
    rw [found] at h
    obtain ⟨_, same, h⟩ := bind_ok h
    cases h
    have same := throwIf_ok same
    rw [Bool.not_eq_false'] at same
    exact .replayed found same
  | none =>
    rw [found] at h
    obtain ⟨target, member, h⟩ := bind_ok h
    obtain ⟨_, level, h⟩ := bind_ok h
    obtain ⟨grants, inserted, h⟩ := bind_ok h
    cases h
    have level := throwIf_ok level
    refine .made found (orThrow_ok member) ?_ (newExpiresAt_none _ _) ?_ (orThrow_ok inserted) rfl
    · simp only [Bool.or_eq_false_iff, decide_eq_false_iff_not, not_lt, Bool.and_eq_false_iff,
        Bool.or_eq_false_iff, decide_eq_false_iff_not, not_not] at level
      rcases lt_or_eq_of_le level.1 with below | same
      · exact .inl below
      · refine .inr ⟨same, ?_⟩
        rcases level.2 with other | daily
        · exact absurd same.symm other
        · exact daily.1
    · simp [MembershipGrant.replays]

theorem Granted.grants (h : Granted r now operatorUserId targetUserId input r') {k : Uuid}
    {g : MembershipGrant} (found : r.grants.find k = some g) : r'.grants.find k = some g := by
  cases h with
  | replayed => exact found
  | made fresh _ _ _ _ inserted key =>
    rw [Table.find_insert inserted, key, if_neg]
    · exact found
    · rintro rfl
      rw [fresh] at found
      cases found

/-- A grant that is new has the key and the parameters of its call. -/
theorem Granted.fresh (h : Granted r now operatorUserId targetUserId input r') {k : Uuid}
    {g : MembershipGrant} (before : r.grants.find k = none) (after : r'.grants.find k = some g) :
    k = input.idempotencyKey ∧ g.replays operatorUserId targetUserId input = true := by
  cases h with
  | replayed =>
    rw [before] at after
    cases after
  | made _ _ _ _ replays inserted key =>
    rw [Table.find_insert inserted, key] at after
    split at after
    · rename_i own
      cases after
      exact ⟨own.symm, replays⟩
    · rw [before] at after
      cases after

theorem Granted.replay (h : Granted r now operatorUserId targetUserId input r') :
    ∃ g, r'.grants.find input.idempotencyKey = some g ∧
      g.replays operatorUserId targetUserId input = true := by
  cases h with
  | replayed found replays => exact ⟨_, found, replays⟩
  | made _ _ _ _ replays inserted key =>
    refine ⟨_, ?_, replays⟩
    rw [Table.find_insert inserted, if_pos key]

theorem Granted.members (h : Granted r now operatorUserId targetUserId input r') {id : UserId}
    {m' : Member} (found : r'.members.find id = some m') :
    r.members.find id = some m' ∨ ∃ m, r.members.find id = some m ∧
      (resolveEffectiveMembershipLevel m.stored now < input.targetLevel ∨
        resolveEffectiveMembershipLevel m.stored now = input.targetLevel ∧
          input.planId = .daily) ∧
      m'.vipLevel = input.targetLevel ∧
      (m'.vipExpiresAt = none ↔ input.planId ≠ .daily ∧ input.targetLevel = 4) := by
  cases h with
  | replayed => exact .inl found
  | @made g target grants expires _ member higher ends =>
    rw [Table.find_put_own (a := { target with
      vipLevel := input.targetLevel, vipExpiresAt := expires }) member rfl] at found
    split at found
    · rename_i same
      cases found
      exact .inr ⟨target, same ▸ member, higher, rfl, ends⟩
    · exact .inl found

theorem Granted.member_kept (h : Granted r now operatorUserId targetUserId input r') {id : UserId}
    (found : (r.members.find id).isSome = true) : (r'.members.find id).isSome = true := by
  cases h with
  | replayed => exact found
  | made _ member =>
    dsimp only
    rw [Table.find_put, Option.isSome_map]
    exact found

theorem Granted.elsewhere (h : Granted r now operatorUserId targetUserId input r') {id : UserId}
    (other : id ≠ targetUserId) : r'.members.find id = r.members.find id := by
  cases h with
  | replayed => rfl
  | @made g target grants expires _ member =>
    exact Eq.trans (Table.find_put_own member (by rfl) id) (if_neg other)

/-- A grant that is made is of a user without the lifetime membership. -/
theorem Granted.no_lifetime (canonical : canonicalizeInput dto = .ok input)
    (h : Granted r now operatorUserId targetUserId input r') {m : Member}
    (found : r.members.find targetUserId = some m) (level : m.vipLevel = 4) : r' = r := by
  cases h with
  | replayed => rfl
  | @made g target grants expires _ member higher =>
    exfalso
    cases found.symm.trans member
    have effective : resolveEffectiveMembershipLevel m.stored now = 4 := by
      simp [resolveEffectiveMembershipLevel, Member.stored, level]
    rw [effective] at higher
    rcases higher with below | ⟨same, daily⟩
    · exact absurd below (Fin.le_last _).not_gt
    · obtain ⟨-, -, exact', -, one⟩ := canonicalizeInput_ok canonical
      have one := one daily
      rw [← same, one] at exact'
      cases exact'

theorem Granted.lifetime (canonical : canonicalizeInput dto = .ok input)
    (h : Granted r now operatorUserId targetUserId input r') {id : UserId} {m : Member}
    (found : r.members.find id = some m) (level : m.vipLevel = 4) :
    r'.members.find id = some m := by
  by_cases own : id = targetUserId
  · rw [h.no_lifetime canonical (own ▸ found) level]
    exact found
  · rw [h.elsewhere own]
    exact found

/-- The level of a member with a grant of it, or the level that was there. -/
theorem Granted.levels (h : Granted r now operatorUserId targetUserId input r') {id : UserId}
    {m : Member} (found : r.members.find id = some m) : ∃ m', r'.members.find id = some m' ∧
      (m'.vipLevel = m.vipLevel ∨ id = targetUserId ∧ m'.vipLevel = input.targetLevel) := by
  have there : (r.members.find id).isSome = true := by rw [found]; rfl
  obtain ⟨m', after⟩ := Option.isSome_iff_exists.mp (h.member_kept there)
  refine ⟨m', after, ?_⟩
  by_cases own : id = targetUserId
  · rcases h.members after with before | ⟨m₀, -, -, level, -⟩
    · cases found.symm.trans before
      exact .inl rfl
    · exact .inr ⟨own, level⟩
  · rw [h.elsewhere own, found] at after
    cases after
    exact .inl rfl

/-- Once it has lapsed, any membership but the lifetime one is below every grant. -/
theorem grant_lapsed {m : Member} (canonical : canonicalizeInput dto = .ok input)
    (member : r.members.find targetUserId = some m) (sound : m.sound) (level : m.vipLevel ≠ 4)
    (lapsed : ∀ expires, m.vipExpiresAt = some expires → expires ≤ now)
    (fresh : r.grants.find input.idempotencyKey = none) :
    ∃ r', grant r now operatorUserId targetUserId dto = .ok r' := by
  have none' : resolveEffectiveMembershipLevel m.stored now = 0 := by
    unfold resolveEffectiveMembershipLevel
    rcases Nat.eq_zero_or_pos m.vipLevel with zero | positive
    · exact if_pos zero
    · have below : m.vipLevel < 4 := by
        have bound := sound.1
        omega
      rw [if_neg (by simp only [Member.stored]; omega), if_neg (by simp only [Member.stored]; omega)]
      cases ends : m.vipExpiresAt with
      | none =>
        have zero := sound.2.mp ends
        omega
      | some expires =>
        rw [if_pos]
        simpa [Member.stored, ends] using lapsed expires ends
  obtain ⟨-, -, exact', positive, -⟩ := canonicalizeInput_ok canonical
  have above : ¬ input.targetLevel < 0 ∧ input.targetLevel ≠ 0 := by
    refine ⟨Fin.not_lt_zero _, fun zero => ?_⟩
    rw [zero] at exact'
    simp at exact'
    omega
  unfold grant
  rw [canonical]
  dsimp only [bind, Except.bind]
  rw [fresh]
  unfold grantAnew
  rw [member]
  simp only [orThrow, Option.elim, none', throwIf, above.1, above.2, bind, Except.bind,
    decide_false, Bool.false_or, Bool.false_and, Bool.false_eq_true, if_false]
  obtain ⟨grants, inserted⟩ := Table.insert_of_fresh (t := r.grants) (a :=
    { idempotencyKey := input.idempotencyKey
      planId := some input.planId
      quantity := input.quantity
      targetUserID := targetUserId
      operatorUserID := operatorUserId
      previousLevel := m.vipLevel
      previousEffectiveLevel := 0
      newLevel := input.targetLevel
      previousExpiresAt := m.vipExpiresAt
      newExpiresAt := newExpiresAt input (expiryBase m.vipExpiresAt 0 now)
      note := input.note
      createdAt := now }) fresh
  rw [inserted]
  exact ⟨_, rfl⟩

end Grant

end CircleBackend.Memberships
