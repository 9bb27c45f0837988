import CircleBackend.Js
import Mathlib.Order.Fin.Basic

/-!
# Membership levels

The catalogue of the tiers, as far as anything here reads it, and the level that a
stored membership gives.
-/

namespace CircleBackend.Memberships

abbrev MembershipLevel := Fin 5

instance levels_neZero : NeZero 5 := ⟨by decide⟩

/-- The quotas are the `actual` ones. -/
structure MembershipTier where
  durationMonths : Option Nat
  lifetime : Bool
  groupMembers : Nat
  joinedCircles : Nat
  deriving DecidableEq, Repr

/-- `MEMBERSHIP_CATALOG` -/
def membershipCatalog : MembershipLevel → MembershipTier
  | 0 => ⟨none, false, 100, 100⟩
  | 1 => ⟨some 1, false, 200, 200⟩
  | 2 => ⟨some 6, false, 400, 300⟩
  | 3 => ⟨some 12, false, 1000, 1000⟩
  | 4 => ⟨none, true, 3000, 2000⟩

structure StoredMembership where
  vipLevel : Nat
  vipExpiresAt : Option Time
  deriving DecidableEq, Repr

def resolveEffectiveMembershipLevel (membership : StoredMembership) (now : Time) :
    MembershipLevel :=
  if membership.vipLevel = 0 then 0
  else if 4 ≤ membership.vipLevel then 4
  else if membership.vipExpiresAt.any (· ≤ now) then 0
  else Fin.ofNat 5 membership.vipLevel

/-- `MARKETING_ENTITLEMENT_FLOOR_LEVEL` -/
def marketingEntitlementFloorLevel : MembershipLevel := 2

/-- The level of the policy that `resolveEntitlementWith` gives, by whether the
programme is enabled. -/
def resolveEntitlementWith (enabled : Bool) (membership : StoredMembership) (now : Time) :
    MembershipLevel :=
  let actual := resolveEffectiveMembershipLevel membership now
  if enabled then actual else max actual marketingEntitlementFloorLevel

theorem groupMembers_pos (level : MembershipLevel) : 0 < (membershipCatalog level).groupMembers :=
  match level with
  | 0 | 1 | 2 | 3 | 4 => by decide

end CircleBackend.Memberships
