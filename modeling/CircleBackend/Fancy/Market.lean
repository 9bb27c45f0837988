import CircleBackend.Fancy.Model
import Mathlib.Logic.Function.Basic

/-!
# The marketplace by its laws

What is left of the tables when only the claims count: who has which account and
invite code, who holds on to which identifier, which numbers there are, and the
leases that have not ended. `Sound` is what must hold of it; each way to change it
has one lemma, with the condition under which it stays sound.
-/

namespace CircleBackend.Fancy

open Library
open Session (UserId)

def FancyNumberLease.timed (l : FancyNumberLease) : Prop :=
  l.expiresAt.isSome ∧ l.permanentAt = none

def FancyNumberLease.permanent (l : FancyNumberLease) : Prop :=
  l.permanentAt.isSome ∧ l.expiresAt = none

theorem FancyNumberLease.not_both {l : FancyNumberLease} (timed : l.timed) : ¬l.permanent := by
  intro permanent
  rw [FancyNumberLease.timed, permanent.2] at timed
  cases timed.1

/-- Whatever claims there are, they are of one user, and not at once as the current
and as the reserved identifier. -/
structure AccountIdentifier.HeldBy (ai : AccountIdentifier) (uid : UserId) : Prop where
  current : ∀ u ∈ ai.currentUserID, u = uid
  reserved : ∀ u ∈ ai.reservedForUserID, u = uid
  owner : ∀ u ∈ ai.inviteOwnerUserID, u = uid
  apart : ai.reservedForUserID = none ∨ ai.currentUserID = none

theorem AccountIdentifier.unclaimed {ai : AccountIdentifier} (h : ai.claimed = false) :
    ai.currentUserID = none ∧ ai.reservedForUserID = none ∧ ai.inviteOwnerUserID = none := by
  simpa [claimed, and_assoc] using h

structure Market where
  account : UserId → Option JsString
  code : UserId → Option JsString
  row : JsString → Option AccountIdentifier
  number : NumberId → Option (JsString × NumberStatus)
  lease : LeaseId → Option FancyNumberLease

namespace Market

structure Sound (lower : JsString → JsString) (m : Market) : Prop where
  folded : ∀ uid a, m.account uid = some a → lower a = a
  account : ∀ uid a, m.account uid = some a →
    ∃ ai, m.row a = some ai ∧ ai.currentUserID = some uid
  code : ∀ uid c, m.code uid = some c → ∃ ai, m.row c = some ai ∧ ai.inviteOwnerUserID = some uid
  current : ∀ v ai uid, m.row v = some ai → ai.currentUserID = some uid → m.account uid = some v
  owner : ∀ v ai uid, m.row v = some ai → ai.inviteOwnerUserID = some uid → m.code uid = some v
  oneHolder : ∀ v ai, m.row v = some ai → ∃ uid, ai.HeldBy uid
  reserved : ∀ v ai uid, m.row v = some ai → ai.reservedForUserID = some uid →
    ∃ lid l, m.lease lid = some l ∧ l.userID = uid ∧ l.restoreAccountId = some v
  listed : ∀ nid v s, m.number nid = some (v, s) → lower v = v ∧
    ∃ ai, m.row v = some ai ∧ ai.reservedForUserID = none ∧ ai.inviteOwnerUserID = none ∧
      ∀ uid, ai.currentUserID = some uid →
        ∃ lid l, m.lease lid = some l ∧ l.userID = uid ∧ l.fancyNumberID = nid
  oneNumber : ∀ i j v s t, m.number i = some (v, s) → m.number j = some (v, t) → i = j
  leased : ∀ nid v s, m.number nid = some (v, s) →
    (s = .leased ↔ ∃ lid l, m.lease lid = some l ∧ l.fancyNumberID = nid ∧ l.timed)
  permanent : ∀ nid v s, m.number nid = some (v, s) →
    (s = .permanent ↔ ∃ lid l, m.lease lid = some l ∧ l.fancyNumberID = nid ∧ l.permanent)
  held : ∀ lid l, m.lease lid = some l →
    ∃ v s, m.number l.fancyNumberID = some (v, s) ∧ m.account l.userID = some v
  restores : ∀ lid l r, m.lease lid = some l → l.restoreAccountId = some r →
    lower r = r ∧ ∃ ai, m.row r = some ai ∧ ai.reservedForUserID = some l.userID
  oneLease : ∀ i j l k, m.lease i = some l → m.lease j = some k → l.userID = k.userID → i = j
  terms : ∀ lid l, m.lease lid = some l →
    l.timed ∧ l.restoreAccountId.isSome ∨ l.permanent

variable {lower : JsString → JsString} {m : Market}

namespace Sound

/-- A number is leased by the one who has its value as the account. -/
theorem oneTenant (sound : Sound lower m) {i j : LeaseId} {l k : FancyNumberLease}
    (first : m.lease i = some l) (second : m.lease j = some k)
    (same : l.fancyNumberID = k.fancyNumberID) : i = j := by
  obtain ⟨v, s, number, account⟩ := sound.held i l first
  obtain ⟨w, t, number', account'⟩ := sound.held j k second
  rw [same, number'] at number
  cases number
  obtain ⟨ai, row, own⟩ := sound.account _ _ account
  obtain ⟨ai', row', own'⟩ := sound.account _ _ account'
  rw [row] at row'
  cases row'
  exact sound.oneLease i j l k first second (Option.some.inj (own.symm.trans own'))

/-- The row of a number is claimed by its tenant, if by anybody. -/
theorem tenant (sound : Sound lower m) {lid : LeaseId} {l : FancyNumberLease} {v : JsString}
    {s : NumberStatus} (lease : m.lease lid = some l)
    (number : m.number l.fancyNumberID = some (v, s)) :
    m.account l.userID = some v ∧ ∃ ai, m.row v = some ai ∧ ai.currentUserID = some l.userID ∧
      ai.reservedForUserID = none ∧ ai.inviteOwnerUserID = none := by
  obtain ⟨w, t, found, account⟩ := sound.held lid l lease
  rw [number] at found
  cases found
  obtain ⟨-, ai, row, unreserved, unowned, -⟩ := sound.listed _ _ _ number
  obtain ⟨ai', row', own⟩ := sound.account _ _ account
  rw [row] at row'
  cases row'
  exact ⟨account, ai, row, own, unreserved, unowned⟩

/-- The account of a user without a lease is no number. -/
theorem unlisted (sound : Sound lower m) {uid : UserId} {a : JsString}
    (account : m.account uid = some a) (idle : ∀ lid l, m.lease lid = some l → l.userID ≠ uid)
    (nid : NumberId) (s : NumberStatus) : m.number nid ≠ some (a, s) := by
  intro number
  obtain ⟨-, ai, row, -, -, tenant⟩ := sound.listed nid a s number
  obtain ⟨ai', row', own⟩ := sound.account uid a account
  rw [row] at row'
  cases row'
  obtain ⟨lid, l, lease, user, -⟩ := tenant uid own
  exact idle lid l lease user

theorem available (sound : Sound lower m) {nid : NumberId} {v : JsString}
    (number : m.number nid = some (v, .available)) :
    ∃ ai, m.row v = some ai ∧ ai.claimed = false := by
  obtain ⟨-, ai, row, unreserved, unowned, tenant⟩ := sound.listed _ _ _ number
  refine ⟨ai, row, ?_⟩
  cases current : ai.currentUserID with
  | none => simp [AccountIdentifier.claimed, current, unreserved, unowned]
  | some uid =>
    obtain ⟨lid, l, lease, -, on⟩ := tenant uid current
    rcases sound.terms lid l lease with ⟨timed, -⟩ | permanent
    · cases (sound.leased _ _ _ number).mpr ⟨lid, l, lease, on, timed⟩
    · cases (sound.permanent _ _ _ number).mpr ⟨lid, l, lease, on, permanent⟩

end Sound

/-! ## The inventory -/

def register (m : Market) (v : JsString) : Market :=
  { m with row := Function.update m.row v (some ⟨v, none, none, none⟩) }

theorem Sound.register (sound : Sound lower m) (v : JsString) (absent : m.row v = none) :
    Sound lower (m.register v) := by
  obtain ⟨folded, account, code, current, owner, oneHolder, reserved, listed, oneNumber, leased,
    permanent, held, restores, oneLease, terms⟩ := sound
  constructor <;> simp only [Market.register, Function.update_apply]
  case folded => exact folded
  case account => grind
  case code => grind
  case current => grind
  case owner => grind
  case oneHolder =>
    intro w ai found
    split at found
    · cases found
      exact ⟨0, by constructor <;> simp⟩
    · exact oneHolder w ai found
  case reserved => grind
  case listed =>
    intro nid w s found
    obtain ⟨lower_w, ai, row, rest⟩ := listed nid w s found
    have apart : w ≠ v := by
      rintro rfl
      rw [absent] at row
      cases row
    exact ⟨lower_w, ai, by rw [if_neg apart, row], rest⟩
  case oneNumber => exact oneNumber
  case leased => exact leased
  case permanent => exact permanent
  case held => exact held
  case restores => grind
  case oneLease => exact oneLease
  case terms => exact terms

def list (m : Market) (nid : NumberId) (v : JsString) : Market :=
  { m with number := Function.update m.number nid (some (v, .available)) }

variable {v : JsString} {s : NumberStatus} {old new : AccountIdentifier} {l : FancyNumberLease}
variable {lid : LeaseId}

theorem Sound.list (sound : Sound lower m) (nid : NumberId)
    {ai : AccountIdentifier} (fresh : m.number nid = none) (folds : lower v = v)
    (row : m.row v = some ai) (unclaimed : ai.claimed = false)
    (other : ∀ i s, m.number i ≠ some (v, s)) : Sound lower (m.list nid v) := by
  obtain ⟨noCurrent, noReserved, noOwner⟩ := AccountIdentifier.unclaimed unclaimed
  have untaken : ∀ lid l, m.lease lid = some l → l.fancyNumberID ≠ nid := by
    intro lid l lease on
    obtain ⟨w, s, number, -⟩ := sound.held lid l lease
    rw [on, fresh] at number
    cases number
  refine { sound with
    listed := ?listed, oneNumber := ?oneNumber, leased := ?leased, permanent := ?permanent,
    held := ?held } <;>
  obtain ⟨folded, account, code, current, owner, oneHolder, reserved, listed, oneNumber, leased,
    permanent, held, restores, oneLease, terms⟩ := sound <;>
  simp only [Market.list, Function.update_apply]
  case listed => grind
  case oneNumber => grind
  case leased => grind
  case permanent => grind
  case held => grind

def mark (m : Market) (nid : NumberId) (v : JsString) (s : NumberStatus) : Market :=
  { m with number := Function.update m.number nid (some (v, s)) }

/-- Only between the statuses that say nothing of a lease. -/
theorem Sound.mark (sound : Sound lower m) {nid : NumberId} {t : NumberStatus}
    (number : m.number nid = some (v, s)) (before : s ≠ .leased ∧ s ≠ .permanent)
    (after : t ≠ .leased ∧ t ≠ .permanent) : Sound lower (m.mark nid v t) := by
  refine { sound with
    listed := ?listed, oneNumber := ?oneNumber, leased := ?leased, permanent := ?permanent,
    held := ?held } <;>
  obtain ⟨folded, account, code, current, owner, oneHolder, reserved, listed, oneNumber, leased,
    permanent, held, restores, oneLease, terms⟩ := sound <;>
  simp only [Market.mark, Function.update_apply]
  case listed => grind
  case oneNumber => grind
  case leased => grind
  case permanent => grind
  case held => grind

/-! ## Users -/

def rowAt (m : Market) (v : JsString) : AccountIdentifier :=
  (m.row v).getD ⟨v, none, none, none⟩

/-- Nobody holds on to the identifier, and no number has its value. -/
def Free (m : Market) (v : JsString) : Prop :=
  ∀ ai, m.row v = some ai → ai.claimed = false ∧ ∀ nid s, m.number nid ≠ some (v, s)

theorem Free.unlisted (free : m.Free v) (sound : Sound lower m) (nid : NumberId)
    (s : NumberStatus) : m.number nid ≠ some (v, s) := by
  intro number
  obtain ⟨-, ai, row, -⟩ := sound.listed nid v s number
  exact (free ai row).2 nid s number

theorem rowAt_current {uid : UserId} (h : (m.rowAt v).currentUserID = some uid) :
    m.row v = some (m.rowAt v) := by
  unfold rowAt at h ⊢
  cases row : m.row v with
  | none =>
    rw [row] at h
    cases h
  | some ai => rfl

theorem Free.rowAt (free : m.Free v) :
    (m.rowAt v).currentUserID = none ∧ (m.rowAt v).reservedForUserID = none ∧
      (m.rowAt v).inviteOwnerUserID = none := by
  unfold Market.rowAt
  cases row : m.row v with
  | none => simp
  | some ai => exact AccountIdentifier.unclaimed (free ai row).1

def join (m : Market) (uid : UserId) (a c : JsString) : Market :=
  { m with
    account := Function.update m.account uid (some a)
    code := Function.update m.code uid (some c)
    row := fun v =>
      if v = a ∨ v = c then
        some { m.rowAt v with
          currentUserID := if v = a then some uid else (m.rowAt v).currentUserID
          inviteOwnerUserID := if v = c then some uid else (m.rowAt v).inviteOwnerUserID }
      else m.row v }

theorem Sound.join (sound : Sound lower m) (uid : UserId) (a c : JsString)
    (account : m.account uid = none) (code : m.code uid = none) (folds : lower a = a)
    (freeAccount : m.Free a) (freeCode : m.Free c) : Sound lower (m.join uid a c) := by
  have accountRow := freeAccount.rowAt
  have codeRow := freeCode.rowAt
  have unlisted := freeAccount.unlisted sound
  have unlisted' := freeCode.unlisted sound
  have unheld : ∀ v ai, m.row v = some ai → v = a ∨ v = c → ai.currentUserID = none ∧
      ai.reservedForUserID = none ∧ ai.inviteOwnerUserID = none := by
    rintro v ai row (rfl | rfl)
    · exact AccountIdentifier.unclaimed (freeAccount ai row).1
    · exact AccountIdentifier.unclaimed (freeCode ai row).1
  obtain ⟨folded, account', code', current, owner, oneHolder, reserved, listed, oneNumber, leased,
    permanent, held, restores, oneLease, terms⟩ := sound
  constructor <;> simp only [Market.join, Function.update_apply]
  case folded => grind
  case account => grind
  case code => grind
  case current => grind
  case owner => grind
  case oneHolder =>
    intro v ai found
    split at found
    · rename_i chosen
      cases found
      refine ⟨uid, ?_⟩
      rcases chosen with rfl | rfl
      · constructor <;> simp [accountRow]
      · constructor <;> simp [codeRow]
    · exact oneHolder v ai found
  case reserved => grind
  case listed => grind
  case oneNumber => exact oneNumber
  case leased => exact leased
  case permanent => exact permanent
  case held => grind
  case restores => grind
  case oneLease => exact oneLease
  case terms => exact terms

def recode (m : Market) (uid : UserId) (before after : JsString)
    (left : Option AccountIdentifier) : Market :=
  { m with
    code := Function.update m.code uid (some after)
    row := fun v =>
      if v = after then some { m.rowAt v with inviteOwnerUserID := some uid }
      else if v = before then left
      else m.row v }

/-- `left` is what remains of the old code's row: the row without its owner, or nothing
when it had nothing else. -/
theorem Sound.recode (sound : Sound lower m) {uid : UserId} {before after : JsString}
    {left : Option AccountIdentifier} (code : m.code uid = some before)
    (row : m.row before = some old)
    (free : ∀ ai, m.row after = some ai → (∀ u ∈ ai.currentUserID, u = uid) ∧
      ai.reservedForUserID = none ∧ ai.inviteOwnerUserID = none ∧
      ∀ nid s, m.number nid ≠ some (after, s))
    (dropped : left = some { old with inviteOwnerUserID := none } ∨
      left = none ∧ old.currentUserID = none ∧ old.reservedForUserID = none) :
    Sound lower (m.recode uid before after left) := by
  have unlisted : ∀ nid s, m.number nid ≠ some (after, s) := by
    intro nid s number
    obtain ⟨-, ai, row, -⟩ := sound.listed nid after s number
    exact (free ai row).2.2.2 nid s number
  have target : (∀ u, (m.rowAt after).currentUserID = some u → u = uid) ∧
      (m.rowAt after).reservedForUserID = none ∧ (m.rowAt after).inviteOwnerUserID = none := by
    unfold Market.rowAt
    cases row : m.row after with
    | none => simp
    | some ai =>
      obtain ⟨current, reserved, owner, -⟩ := free ai row
      exact ⟨fun u own => current u own, reserved, owner⟩
  have stays : ∀ ai, m.row after = some ai → m.rowAt after = ai := by
    intro ai row
    rw [Market.rowAt, row, Option.getD_some]
  have fresh : m.row after = none → (m.rowAt after).currentUserID = none := by
    intro row
    rw [Market.rowAt, row, Option.getD_none]
  have own : old.inviteOwnerUserID = some uid := by
    obtain ⟨ai, row', own⟩ := sound.code uid before code
    rw [row] at row'
    cases row'
    exact own
  obtain ⟨folded, account, code', current, owner, oneHolder, reserved, listed, oneNumber, leased,
    permanent, held, restores, oneLease, terms⟩ := sound
  constructor <;> simp only [Market.recode, Function.update_apply]
  case folded => exact folded
  case account => grind
  case code => grind
  case current =>
    intro v ai u found held'
    by_cases here : v = after
    · rw [if_pos here] at found
      cases found
      exact current v _ u (rowAt_current held') held'
    · grind
  case owner =>
    intro v ai u found owned
    by_cases here : v = after
    · rw [if_pos here] at found
      cases found
      cases owned
      rw [if_pos rfl, here]
    · rw [if_neg here] at found
      by_cases there : v = before
      · grind
      · rw [if_neg there] at found
        have coded := owner v ai u found owned
        have other : u ≠ uid := by
          rintro rfl
          rw [code] at coded
          exact there (Option.some.inj coded).symm
        rw [if_neg other, coded]
  case oneHolder =>
    intro v ai found
    split at found
    · rename_i here
      cases found
      rw [here]
      refine ⟨uid, ?_⟩
      constructor
      · exact target.1
      · simp [target.2.1]
      · simp
      · exact Or.inl target.2.1
    · split at found
      · rcases dropped with kept | ⟨gone, -⟩
        · rw [kept] at found
          cases found
          obtain ⟨u, holds⟩ := oneHolder before old row
          refine ⟨u, ?_⟩
          constructor
          · exact holds.current
          · exact holds.reserved
          · simp
          · exact holds.apart
        · rw [gone] at found
          cases found
      · exact oneHolder v ai found
  case reserved => grind
  case listed => grind
  case oneNumber => exact oneNumber
  case leased => exact leased
  case permanent => exact permanent
  case held => exact held
  case restores => grind
  case oneLease => exact oneLease
  case terms => exact terms

/-! ## Leases -/

/-- The lease begins, and the account that its user had is kept for them. -/
def take (m : Market) (l : FancyNumberLease) (a v : JsString) (old new : AccountIdentifier)
    (status : NumberStatus) : Market :=
  { m with
    account := Function.update m.account l.userID (some v)
    row := Function.update
      (Function.update m.row a
        (some { old with currentUserID := none, reservedForUserID := some l.userID }))
      v (some { new with currentUserID := some l.userID })
    number := Function.update m.number l.fancyNumberID (some (v, status))
    lease := Function.update m.lease l.id (some l) }

theorem Sound.take (sound : Sound lower m) (l : FancyNumberLease) (status : NumberStatus)
    {a : JsString} (account : m.account l.userID = some a) (restore : l.restoreAccountId = some a)
    (before : m.row a = some old) (own : old.currentUserID = some l.userID)
    (idle : ∀ lid k, m.lease lid = some k → k.userID ≠ l.userID)
    (number : m.number l.fancyNumberID = some (v, s)) (row : m.row v = some new)
    (unclaimed : new.claimed = false) (fresh : m.lease l.id = none)
    (term : l.timed ∧ status = .leased ∨ l.permanent ∧ status = .permanent) :
    Sound lower (m.take l a v old new status) := by
  obtain ⟨noCurrent, noReserved, noOwner⟩ := AccountIdentifier.unclaimed unclaimed
  have unlisted := sound.unlisted account idle
  have apart : a ≠ v := by
    rintro rfl
    exact unlisted _ _ number
  have vacant : ∀ lid k, m.lease lid = some k → k.fancyNumberID ≠ l.fancyNumberID := by
    intro lid k lease same
    rw [← same] at number
    obtain ⟨-, ai, row', tenant, -⟩ := sound.tenant lease number
    rw [row] at row'
    cases row'
    rw [noCurrent] at tenant
    cases tenant
  have exclusive := @FancyNumberLease.not_both l
  obtain ⟨folded, account', code, current, owner, oneHolder, reserved, listed, oneNumber, leased,
    permanent, held, restores, oneLease, terms⟩ := sound
  constructor <;> simp only [Market.take, Function.update_apply]
  case folded => grind
  case account => grind
  case code => grind
  case current => grind
  case owner => grind
  case oneHolder =>
    intro w ai found
    split at found
    · cases found
      refine ⟨l.userID, ?_⟩
      constructor <;> simp [noReserved, noOwner]
    · split at found
      · cases found
        obtain ⟨u, holds⟩ := oneHolder a old before
        obtain rfl := holds.current l.userID own
        refine ⟨l.userID, ?_⟩
        constructor
        · simp
        · simp
        · exact holds.owner
        · simp
      · exact oneHolder w ai found
  case reserved => grind
  case listed =>
    intro nid w t found
    by_cases here : nid = l.fancyNumberID
    · rw [if_pos here] at found
      cases found
      refine ⟨(listed _ _ _ number).1, _, if_pos rfl, noReserved, noOwner, ?_⟩
      intro uid own'
      exact ⟨l.id, l, if_pos rfl, Option.some.inj own', here.symm⟩
    · rw [if_neg here] at found
      obtain ⟨folds, ai, row', unreserved, unowned, tenant⟩ := listed nid w t found
      have notNew : w ≠ v := by
        rintro rfl
        exact here (oneNumber _ _ _ _ _ found number)
      have notOld : w ≠ a := by
        rintro rfl
        exact unlisted _ _ found
      refine ⟨folds, ai, by rw [if_neg notNew, if_neg notOld, row'], unreserved, unowned, ?_⟩
      intro uid own'
      obtain ⟨lid, k, lease, rest⟩ := tenant uid own'
      have other : lid ≠ l.id := by
        rintro rfl
        rw [fresh] at lease
        cases lease
      exact ⟨lid, k, by rw [if_neg other, lease], rest⟩
  case oneNumber => grind
  case leased => grind
  case permanent => grind
  case held => grind
  case restores =>
    intro lid k r found kept
    by_cases here : lid = l.id
    · rw [if_pos here] at found
      cases found
      rw [restore] at kept
      cases kept
      exact ⟨folded _ _ account, _, by rw [if_neg apart, if_pos rfl], rfl⟩
    · rw [if_neg here] at found
      obtain ⟨folds, ai, row', reserve⟩ := restores lid k r found kept
      have notNew : r ≠ v := by
        rintro rfl
        rw [row] at row'
        cases row'
        rw [noReserved] at reserve
        cases reserve
      have notOld : r ≠ a := by
        rintro rfl
        rw [before] at row'
        cases row'
        obtain ⟨u, holds⟩ := oneHolder _ _ before
        rcases holds.apart with none' | none'
        · rw [none'] at reserve
          cases reserve
        · rw [none'] at own
          cases own
      exact ⟨folds, ai, by rw [if_neg notNew, if_neg notOld, row'], reserve⟩
  case oneLease => grind
  case terms => grind

/-- The term of a lease changes. -/
def amend (m : Market) (lid : LeaseId) (l : FancyNumberLease) (v : JsString)
    (status : NumberStatus) : Market :=
  { m with
    number := Function.update m.number l.fancyNumberID (some (v, status))
    lease := Function.update m.lease lid (some l) }

theorem Sound.amend (sound : Sound lower m) (l' : FancyNumberLease) (status : NumberStatus)
    (lease : m.lease lid = some l) (user : l'.userID = l.userID)
    (on : l'.fancyNumberID = l.fancyNumberID) (restore : l'.restoreAccountId = l.restoreAccountId)
    (number : m.number l.fancyNumberID = some (v, s))
    (term : l'.timed ∧ l'.restoreAccountId.isSome ∧ status = .leased ∨
      l'.permanent ∧ status = .permanent) : Sound lower (m.amend lid l' v status) := by
  have only : ∀ i k, m.lease i = some k → k.fancyNumberID = l.fancyNumberID → i = lid :=
    fun i k found same => sound.oneTenant found lease same
  have exclusive := @FancyNumberLease.not_both l'
  obtain ⟨folded, account, code, current, owner, oneHolder, reserved, listed, oneNumber, leased,
    permanent, held, restores, oneLease, terms⟩ := sound
  constructor <;> simp only [Market.amend, Function.update_apply]
  case folded => exact folded
  case account => exact account
  case code => exact code
  case current => exact current
  case owner => exact owner
  case oneHolder => exact oneHolder
  case reserved => grind
  case listed =>
    intro nid w t found
    have listed' : ∃ t', m.number nid = some (w, t') := by
      by_cases here : nid = l'.fancyNumberID
      · rw [if_pos here] at found
        cases found
        exact ⟨s, by rw [here, on, number]⟩
      · rw [if_neg here] at found
        exact ⟨t, found⟩
    obtain ⟨t', stored⟩ := listed'
    obtain ⟨folds, ai, row, unreserved, unowned, tenant⟩ := listed nid w t' stored
    refine ⟨folds, ai, row, unreserved, unowned, ?_⟩
    intro uid own
    obtain ⟨i, k, lease', user', on'⟩ := tenant uid own
    by_cases here : i = lid
    · rw [here, lease] at lease'
      cases lease'
      exact ⟨lid, l', if_pos rfl, user.trans user', on.trans on'⟩
    · exact ⟨i, k, by rw [if_neg here, lease'], user', on'⟩
  case oneNumber => grind
  case leased => grind
  case permanent => grind
  case held => grind
  case restores => grind
  case oneLease => grind
  case terms => grind

/-- A permanent lease moves to another number. -/
def move (m : Market) (lid : LeaseId) (l : FancyNumberLease) (v w : JsString)
    (old new : AccountIdentifier) (nid : NumberId) (left : NumberStatus) : Market :=
  { m with
    account := Function.update m.account l.userID (some w)
    row := Function.update (Function.update m.row v (some { old with currentUserID := none }))
      w (some { new with currentUserID := some l.userID })
    number := Function.update (Function.update m.number l.fancyNumberID (some (v, left)))
      nid (some (w, .permanent))
    lease := Function.update m.lease lid (some { l with fancyNumberID := nid }) }

theorem Sound.move (sound : Sound lower m) {w : JsString} {nid : NumberId} {t left : NumberStatus}
    (lease : m.lease lid = some l) (permanent : l.permanent)
    (number : m.number l.fancyNumberID = some (v, s)) (row : m.row v = some old)
    (target : m.number nid = some (w, t)) (row' : m.row w = some new)
    (unclaimed : new.claimed = false) (vacated : left ≠ .leased ∧ left ≠ .permanent) :
    Sound lower (m.move lid l v w old new nid left) := by
  obtain ⟨noCurrent, noReserved, noOwner⟩ := AccountIdentifier.unclaimed unclaimed
  obtain ⟨account, ai, found, own, unreserved, unowned⟩ := sound.tenant lease number
  rw [row] at found
  cases found
  have only : ∀ i k, m.lease i = some k → k.fancyNumberID = l.fancyNumberID → i = lid :=
    fun i k found same => sound.oneTenant found lease same
  have apart : v ≠ w := by
    rintro rfl
    rw [row] at row'
    cases row'
    rw [noCurrent] at own
    cases own
  have other : l.fancyNumberID ≠ nid := by
    rintro rfl
    rw [number] at target
    cases target
    exact apart rfl
  have vacant : ∀ lid k, m.lease lid = some k → k.fancyNumberID ≠ nid := by
    intro i k found same
    rw [← same] at target
    obtain ⟨-, ai, stored, tenant, -⟩ := sound.tenant found target
    rw [row'] at stored
    cases stored
    rw [noCurrent] at tenant
    cases tenant
  have moved : ({ l with fancyNumberID := nid } : FancyNumberLease).permanent := permanent
  have exclusive := @FancyNumberLease.not_both { l with fancyNumberID := nid }
  obtain ⟨folded, account', code, current, owner, oneHolder, reserved, listed, oneNumber, leased,
    permanent', held, restores, oneLease, terms⟩ := sound
  constructor <;> simp only [Market.move, Function.update_apply]
  case folded => grind
  case account => grind
  case code => grind
  case current => grind
  case owner => grind
  case oneHolder =>
    intro u ai found
    split at found
    · cases found
      refine ⟨l.userID, ?_⟩
      constructor <;> simp [noReserved, noOwner]
    · split at found
      · cases found
        refine ⟨l.userID, ?_⟩
        constructor <;> simp [unreserved, unowned]
      · exact oneHolder u ai found
  case reserved => grind
  case listed =>
    intro i u t' found
    by_cases new' : i = nid
    · rw [if_pos new'] at found
      cases found
      refine ⟨(listed _ _ _ target).1, _, if_pos rfl, noReserved, noOwner, ?_⟩
      intro uid own'
      exact ⟨lid, _, if_pos rfl, Option.some.inj own', new'.symm⟩
    · rw [if_neg new'] at found
      by_cases old' : i = l.fancyNumberID
      · rw [if_pos old'] at found
        cases found
        refine ⟨(listed _ _ _ number).1, { old with currentUserID := none }, ?_, unreserved, unowned, ?_⟩
        · rw [if_neg apart, if_pos rfl]
        · intro uid none'
          cases none'
      · rw [if_neg old'] at found
        obtain ⟨folds, ai, stored, unreserved', unowned', tenant⟩ := listed i u t' found
        have notNew : u ≠ w := by
          rintro rfl
          exact new' (oneNumber _ _ _ _ _ found target)
        have notOld : u ≠ v := by
          rintro rfl
          exact old' (oneNumber _ _ _ _ _ found number)
        refine ⟨folds, ai, by rw [if_neg notNew, if_neg notOld, stored], unreserved', unowned', ?_⟩
        intro uid own'
        obtain ⟨j, k, lease', user, on⟩ := tenant uid own'
        have another : j ≠ lid := by
          rintro rfl
          rw [lease] at lease'
          cases lease'
          exact old' on.symm
        exact ⟨j, k, by rw [if_neg another, lease'], user, on⟩
  case oneNumber => grind
  case leased => grind
  case permanent => grind
  case held => grind
  case restores => grind
  case oneLease => grind
  case terms => grind

/-- The lease ends, and its user has the account of before. -/
def giveBack (m : Market) (lid : LeaseId) (l : FancyNumberLease) (v r : JsString)
    (new old : AccountIdentifier) (left : NumberStatus) : Market :=
  { m with
    account := Function.update m.account l.userID (some r)
    row := Function.update (Function.update m.row v (some { new with currentUserID := none }))
      r (some { old with currentUserID := some l.userID, reservedForUserID := none })
    number := Function.update m.number l.fancyNumberID (some (v, left))
    lease := Function.update m.lease lid none }

theorem Sound.giveBack (sound : Sound lower m) (left : NumberStatus) {r : JsString}
    (lease : m.lease lid = some l) (restore : l.restoreAccountId = some r)
    (number : m.number l.fancyNumberID = some (v, s)) (row : m.row v = some new)
    (row' : m.row r = some old) (vacated : left ≠ .leased ∧ left ≠ .permanent) :
    Sound lower (m.giveBack lid l v r new old left) := by
  obtain ⟨account, ai, found, own, unreserved, unowned⟩ := sound.tenant lease number
  rw [row] at found
  cases found
  obtain ⟨folds, ai, found, kept⟩ := sound.restores lid l r lease restore
  rw [row'] at found
  cases found
  have only : ∀ i k, m.lease i = some k → k.fancyNumberID = l.fancyNumberID → i = lid :=
    fun i k found same => sound.oneTenant found lease same
  have apart : v ≠ r := by
    rintro rfl
    rw [row] at row'
    cases row'
    rw [kept] at unreserved
    cases unreserved
  obtain ⟨folded, account', code, current, owner, oneHolder, reserved, listed, oneNumber, leased,
    permanent, held, restores, oneLease, terms⟩ := sound
  have holder : old.HeldBy l.userID := by
    obtain ⟨u, holds⟩ := oneHolder r old row'
    obtain rfl := holds.reserved l.userID kept
    exact holds
  constructor <;> simp only [Market.giveBack, Function.update_apply]
  case folded => grind
  case account =>
    intro uid a found
    by_cases here : uid = l.userID
    · rw [if_pos here] at found
      cases found
      exact ⟨_, if_pos rfl, here ▸ rfl⟩
    · rw [if_neg here] at found
      obtain ⟨ai, stored, own'⟩ := account' uid a found
      have notOld : a ≠ r := by
        rintro rfl
        rw [row'] at stored
        cases stored
        exact here (holder.current uid own')
      have notNew : a ≠ v := by
        rintro rfl
        rw [row] at stored
        cases stored
        rw [own] at own'
        exact here (Option.some.inj own').symm
      exact ⟨ai, by rw [if_neg notOld, if_neg notNew, stored], own'⟩
  case code => grind
  case current => grind
  case owner => grind
  case oneHolder =>
    intro u ai found
    split at found
    · cases found
      refine ⟨l.userID, ?_⟩
      constructor
      · simp
      · simp
      · exact holder.owner
      · simp
    · split at found
      · cases found
        refine ⟨l.userID, ?_⟩
        constructor <;> simp [unreserved, unowned]
      · exact oneHolder u ai found
  case reserved => grind
  case listed =>
    intro i u t found
    by_cases here : i = l.fancyNumberID
    · rw [if_pos here] at found
      cases found
      refine ⟨(listed _ _ _ number).1, { new with currentUserID := none }, ?_, unreserved, unowned, ?_⟩
      · rw [if_neg apart, if_pos rfl]
      · intro uid none'
        cases none'
    · rw [if_neg here] at found
      obtain ⟨folds, ai, stored, unreserved', unowned', tenant⟩ := listed i u t found
      have notNew : u ≠ v := by
        rintro rfl
        exact here (oneNumber _ _ _ _ _ found number)
      have notOld : u ≠ r := by
        rintro rfl
        rw [row'] at stored
        cases stored
        rw [kept] at unreserved'
        cases unreserved'
      refine ⟨folds, ai, by rw [if_neg notOld, if_neg notNew, stored], unreserved', unowned', ?_⟩
      intro uid own'
      obtain ⟨j, k, lease', user, on⟩ := tenant uid own'
      have another : j ≠ lid := by
        rintro rfl
        rw [lease] at lease'
        cases lease'
        exact here on.symm
      exact ⟨j, k, by rw [if_neg another, lease'], user, on⟩
  case oneNumber => grind
  case leased => grind
  case permanent => grind
  case held => grind
  case restores => grind
  case oneLease => grind
  case terms => grind

end Market

end CircleBackend.Fancy
