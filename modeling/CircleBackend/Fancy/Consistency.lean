import CircleBackend.Fancy.Expiry

/-!
# Accounts, numbers and leases agree

In every state of a run each account has its row, no identifier has two holders, the
status of a number is that of its lease, and the end of a lease gives its user back the
account they had when it began.
-/

namespace CircleBackend.Fancy

open Library
open Session (UserId)

namespace Db

variable {casing : Casing} {db db' : Db}

/-- As the account, as the invite code, or as the account to go back to. -/
inductive Holds (casing : Casing) (db : Db) (uid : UserId) : JsString → Prop
  | account (u : User) : db.users.find uid = some u → Holds casing db uid u.accountId
  | invite (u : User) : db.users.find uid = some u →
      Holds casing db uid (casing.lower u.inviteCode)
  | reserved (ai : AccountIdentifier) : db.identifiers.find ai.value = some ai →
      ai.reservedForUserID = some uid → Holds casing db uid ai.value

def ActiveOn (db : Db) (nid : NumberId) (l : FancyNumberLease) : Prop :=
  db.leases.find l.id = some l ∧ l.active = true ∧ l.fancyNumberID = nid

structure Consistent (casing : Casing) (db : Db) : Prop where
  account : ∀ uid u, db.users.find uid = some u →
    ∃ ai, db.identifiers.find u.accountId = some ai ∧ ai.currentUserID = some uid
  oneHolder : ∀ v a b, db.Holds casing a v → db.Holds casing b v → a = b
  leased : ∀ nid n, db.numbers.find nid = some n →
    (n.status = .leased ↔ ∃ l, db.ActiveOn nid l ∧ l.timed ∧ ∀ k, db.ActiveOn nid k → k = l)
  permanent : ∀ nid n, db.numbers.find nid = some n →
    (n.status = .permanent ↔
      ∃ l, db.ActiveOn nid l ∧ l.permanent ∧ ∀ k, db.ActiveOn nid k → k = l)
  available : ∀ nid n, db.numbers.find nid = some n → n.status = .available →
    ∃ ai, db.identifiers.find n.value = some ai ∧ ai.claimed = false
  held : ∀ lid l, db.leases.find lid = some l → l.active = true →
    ∃ u n, db.users.find l.userID = some u ∧ db.numbers.find l.fancyNumberID = some n ∧
      u.accountId = n.value
  restores : ∀ lid l r, db.leases.find lid = some l → l.active = true →
    l.restoreAccountId = some r →
      ∃ ai, db.identifiers.find r = some ai ∧ ai.reservedForUserID = some l.userID

theorem Sound.holds (sound : Sound casing db) {uid : UserId} {v : JsString}
    (h : db.Holds casing uid v) : ∃ ai, db.identifiers.find v = some ai ∧
      (ai.currentUserID = some uid ∨ ai.inviteOwnerUserID = some uid ∨
        ai.reservedForUserID = some uid) := by
  cases h with
  | account u found =>
    obtain ⟨ai, row, own⟩ := sound.market.account uid _ (market_account casing found)
    exact ⟨ai, row, Or.inl own⟩
  | invite u found =>
    have coded : (db.market casing).code uid = some (casing.lower u.inviteCode) := by
      simp [Db.market, found]
    obtain ⟨ai, row, own⟩ := sound.market.code uid _ coded
    exact ⟨ai, row, Or.inr (Or.inl own)⟩
  | reserved ai row own => exact ⟨ai, row, Or.inr (Or.inr own)⟩

theorem Sound.oneHolder (sound : Sound casing db) {a b : UserId} {v : JsString}
    (first : db.Holds casing a v) (second : db.Holds casing b v) : a = b := by
  obtain ⟨ai, row, one⟩ := sound.holds first
  obtain ⟨ai', row', two⟩ := sound.holds second
  rw [row] at row'
  cases row'
  obtain ⟨uid, holder⟩ := sound.market.oneHolder v ai row
  have only : ∀ u, (ai.currentUserID = some u ∨ ai.inviteOwnerUserID = some u ∨
      ai.reservedForUserID = some u) → u = uid := by
    rintro u (own | own | own)
    · exact holder.current u own
    · exact holder.owner u own
    · exact holder.reserved u own
  rw [only a one, only b two]

theorem activeOn_iff (casing : Casing) {nid : NumberId} {l : FancyNumberLease} :
    db.ActiveOn nid l ↔ (db.market casing).lease l.id = some l ∧ l.fancyNumberID = nid := by
  rw [ActiveOn, market_lease, and_assoc]

/-- A lease with some term is the only one of its number. -/
theorem Sound.only (sound : Sound casing db) {nid : NumberId} {term : FancyNumberLease → Prop} :
    (∃ lid l, (db.market casing).lease lid = some l ∧ l.fancyNumberID = nid ∧ term l) ↔
      ∃ l, db.ActiveOn nid l ∧ term l ∧ ∀ k, db.ActiveOn nid k → k = l := by
  constructor
  · rintro ⟨lid, l, lease, on, holds⟩
    obtain rfl : l.id = lid := Table.find_key (market_lease.mp lease).1
    refine ⟨l, (activeOn_iff casing).mpr ⟨lease, on⟩, holds, ?_⟩
    intro k other
    obtain ⟨lease', on'⟩ := (activeOn_iff casing).mp other
    have same := sound.market.oneTenant lease' lease (on'.trans on.symm)
    rw [same, lease] at lease'
    exact (Option.some.inj lease').symm
  · rintro ⟨l, active, holds, -⟩
    obtain ⟨lease, on⟩ := (activeOn_iff casing).mp active
    exact ⟨l.id, l, lease, on, holds⟩

theorem Sound.consistent (sound : Sound casing db) : Consistent casing db := by
  constructor
  case account => exact fun uid u found => sound.market.account uid _ (market_account casing found)
  case oneHolder => exact fun v a b first second => sound.oneHolder first second
  case leased =>
    intro nid n found
    exact (sound.market.leased nid _ _ (market_number casing found)).trans sound.only
  case permanent =>
    intro nid n found
    exact (sound.market.permanent nid _ _ (market_number casing found)).trans sound.only
  case available =>
    intro nid n found status
    exact sound.market.available (status ▸ market_number casing found)
  case held =>
    intro lid l found active
    obtain ⟨v, s, listed, account⟩ := sound.market.held lid l (market_lease.mpr ⟨found, active⟩)
    obtain ⟨n, number, rfl, -⟩ := market_number_some.mp listed
    obtain ⟨u, user, called⟩ := Option.map_eq_some_iff.mp account
    exact ⟨u, n, user, number, called⟩
  case restores =>
    intro lid l r found active restore
    exact (sound.market.restores lid l r (market_lease.mpr ⟨found, active⟩) restore).2

/-- Somewhere in the run the lease did not exist yet, and `restoreAccountId` was the account
of its user. -/
def Began (casing : Casing) (acts : List Act) (db : Db) (lid : LeaseId) (l : FancyNumberLease) :
    Prop :=
  ∃ before after earlier u, acts = before ++ after ∧ Run (Step casing) empty before earlier ∧
    Run (Step casing) earlier after db ∧ earlier.leases.find lid = none ∧
    earlier.users.find l.userID = some u ∧ l.restoreAccountId = some u.accountId

theorem run_began {acts : List Act} (run : Run (Step casing) empty acts db) (lid : LeaseId)
    (l : FancyNumberLease) (found : db.leases.find lid = some l) : Began casing acts db lid l := by
  induction run generalizing l with
  | nil => cases found
  | snoc run step ih =>
    rcases (next_ok (run_sound run) step).2.1.leases lid l found with
      ⟨k, stored, user, restore⟩ | ⟨absent, u, owner, restore⟩
    · obtain ⟨before, after, earlier, u, split, first, later, absent, owner, kept⟩ := ih k stored
      refine ⟨before, after ++ _, earlier, u, ?_, first, later.snoc step, absent, ?_, ?_⟩
      · rw [split, List.append_assoc]
      · rw [user, owner]
      · rw [restore, kept]
    · exact ⟨_, [_], _, u, rfl, run, .single step, absent, owner, restore⟩

/-- The lease that is overdue ends, and its user has the account of before again. -/
def Restores (casing : Casing) (db : Db) (lid : LeaseId) (l : FancyNumberLease) (now : Time) :
    Prop :=
  ∃ db' u r, db.expireLease casing lid now = .ok (db', true) ∧ l.restoreAccountId = some r ∧
    db'.users.find l.userID = some u ∧ u.accountId = r ∧ Consistent casing db'

theorem Sound.restoresAt (sound : Sound casing db) {lid : LeaseId} {l : FancyNumberLease}
    {now : Time} (found : db.leases.find lid = some l) (due : l.overdue now = true) :
    Restores casing db lid l now := by
  obtain rfl : l.id = lid := Table.find_key found
  obtain ⟨db', expired, -, sound', -, user, r, owner, restore, shape, -⟩ :=
    expireLease_due sound found due
  refine ⟨db', { user with
    accountId := r, fancyNumber := false, fancyNumberExpiresAt := none, fancyNumberPermanent := false },
    r, expired, restore, ?_, rfl, sound'.consistent⟩
  rw [shape]
  exact Eq.trans (Table.find_put_own owner (by rfl) _) (if_pos rfl)

theorem registry_consistent {acts : List Act} (run : Run (Step casing) empty acts db) :
    Consistent casing db ∧
      (∀ lid l, db.leases.find lid = some l → Began casing acts db lid l) ∧
      (∀ lid now, ∃ db' ended, db.expireLease casing lid now = .ok (db', ended)) ∧
      ∀ lid l now, db.leases.find lid = some l → l.overdue now = true →
        Restores casing db lid l now := by
  have sound := run_sound run
  refine ⟨sound.consistent, run_began run, fun lid now => ?_, ?_⟩
  · obtain ⟨db', ended, expired, -⟩ := expireLease_total sound lid now
    exact ⟨db', ended, expired⟩
  · intro lid l now found due
    exact sound.restoresAt found due

/-- The purchase of two months of a number, a month of which are over. -/
def soldActs : List Act :=
  [.createUser ⟨1, .active, [97, 108, 105, 99, 101], [73, 78, 86, 49], 0, none, false, none, false⟩,
    .adminBatchCreate [[118, 105, 112, 56, 56, 56]] fun _ => 7,
    .credit 1 500,
    .purchase 1 (.inventory 7) (some 2) (.client 1 [107]) 0 none ⟨8, 9, 10⟩]

theorem registry_consistent_sold :
    ∃ db l, Run (Step .ascii) empty soldActs db ∧ db.leases.find 9 = some l ∧
      Restores .ascii db 9 l 6000000000 := by
  have run : Run (Step .ascii) empty soldActs ((soldActs.foldlM (next .ascii) empty).getD empty) :=
    Run.of_foldlM rfl
  obtain ⟨-, -, -, restores⟩ := registry_consistent run
  exact ⟨_, _, run, rfl, restores 9 _ 6000000000 rfl rfl⟩

end Db

end CircleBackend.Fancy
