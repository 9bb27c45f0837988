import CircleBackend.Fancy.Leases

/-!
# The end of a lease

It never fails: what it needs of the registry is what every state of a run has. The
theorem about a run says what holds of the accounts, the numbers and the leases in
every state of it.
-/

namespace CircleBackend.Fancy

open Library
open Session (UserId UserStatus)

theorem FancyNumberLease.overdue_active {l : FancyNumberLease} {now : Time}
    (due : l.overdue now = true) : l.active = true := by
  simp only [overdue, Bool.and_eq_true] at due
  exact due.1.1

namespace Db

variable {casing : Casing} {db db' : Db}

variable {lease : FancyNumberLease} {now : Time} {uid : UserId} {expectedUnitPrice : Option Nat}
variable {key : OrderKey} {minted : Minted} {result : FancyNumberPurchaseResult}

theorem restoreAccount_ok (sound : Sound casing db)
    (found : (db.market casing).lease lease.id = some lease) (due : lease.overdue now = true) :
    ∃ user number r leases db',
      db.users.find lease.userID = some user ∧
      db.numbers.find lease.fancyNumberID = some number ∧
      lease.restoreAccountId = some r ∧ user.accountId = number.value ∧
      db.closeLease lease.id now = some leases ∧
      { db with leases := leases }.restoreAccount casing lease user number r = .ok db' ∧
      Sound casing db' ∧ Follows db db' ∧
      db' = { db with
        users := db.users.put
          { user with
            accountId := r
            fancyNumber := false
            fancyNumberExpiresAt := none
            fancyNumberPermanent := false }
        identifiers := db'.identifiers
        numbers := db'.numbers
        leases := leases } := by
  have overdue := due
  simp only [FancyNumberLease.overdue, Bool.and_eq_true, Option.isNone_iff_eq_none] at overdue
  obtain ⟨stored, active⟩ := market_lease.mp found
  obtain ⟨v, s, listed, account⟩ := sound.market.held _ _ found
  obtain ⟨number, number_found, rfl, rfl⟩ := market_number_some.mp listed
  obtain ⟨user, owner, called⟩ := Option.map_eq_some_iff.mp account
  have timed : lease.timed ∧ lease.restoreAccountId.isSome := by
    rcases sound.market.terms _ _ found with term | permanent
    · exact term
    · rw [FancyNumberLease.permanent, overdue.1.2] at permanent
      cases permanent.1
  obtain ⟨r, restore⟩ := Option.isSome_iff_exists.mp timed.2
  obtain ⟨-, new, row, own, unreserved, unowned⟩ := sound.market.tenant found listed
  obtain ⟨folds, old, row', kept⟩ := sound.market.restores _ _ r found restore
  obtain ⟨u, holds⟩ := sound.market.oneHolder r old row'
  have vacant : old.currentUserID = none := by
    rcases holds.apart with none' | none'
    · rw [none'] at kept
      cases kept
    · exact none'
  have apart : r ≠ number.value := by
    rintro rfl
    rw [row] at row'
    cases row'
    rw [own] at vacant
    cases vacant
  have row : db.identifiers.find number.value = some new := row
  have row' : db.identifiers.find r = some old := row'
  have user_id : user.id = lease.userID := Table.find_key owner
  obtain ⟨leases, closed, leases_eq⟩ := Table.updateOne_exists (·.overdue now)
    (fun l => { l with endedAt := some now }) stored due fun _ => rfl
  obtain ⟨released, freed, released_eq⟩ :=
    Table.updateOne_exists (·.currentUserID = some lease.userID)
      (fun ai => { ai with currentUserID := none }) row (by simp [own]) fun _ => rfl
  have kept' : released.find r = some old := by
    rw [released_eq, Function.update_of_ne apart, row']
  obtain ⟨identifiers, restored, identifiers_eq⟩ :=
    Table.updateOne_exists
      (fun ai => ai.currentUserID.isNone && ai.reservedForUserID = some lease.userID)
      (fun ai => { ai with currentUserID := some lease.userID, reservedForUserID := none })
      kept' (by simp [vacant, kept]) fun _ => rfl
  have leasedNow : number.status = .leased :=
    (sound.market.leased _ _ _ listed).mpr ⟨_, _, found, rfl, timed.1⟩
  obtain ⟨numbers, inventory, numbers_eq⟩ :=
    Table.updateOne_exists (·.status = .leased) (fun n => { n with status := .available })
      number_found (by simp [leasedNow]) fun _ => rfl
  let user' : User :=
    { user with
      accountId := r
      fancyNumber := false
      fancyNumberExpiresAt := none
      fancyNumberPermanent := false }
  let held : Db := { db with leases := leases, identifiers := identifiers }
  have identifiersAt : ∀ v, identifiers.find v =
      if v = r then
        some { old with currentUserID := some lease.userID, reservedForUserID := none }
      else if v = number.value then some { new with currentUserID := none }
      else db.identifiers.find v := by
    intro v
    rw [identifiers_eq, released_eq, Function.update_apply, Function.update_apply]
  have called' : held.updateUser casing user user' = .ok { held with users := held.users.put user' } := by
    apply updateUser_current
    · simp only [fold, user', folds, sound.upper _ user owner]
    · exact sound.market.folded _ _ (market_account casing owner)
    · rfl
    · exact called ▸ apart
    · exact (identifiersAt r).trans (if_pos rfl)
    · rw [user_id]
    · right
      rw [called, Option.isSome_iff_ne_none]
      intro absent
      exact numberOf_none.mp absent _ _ number_found rfl
  have freeRow : identifiers.find number.value = some { new with currentUserID := none } := by
    rw [identifiersAt, if_neg (Ne.symm apart), if_pos rfl]
  let restoredDb : Db := { held with users := held.users.put user', numbers := numbers }
  have returned : ({ held with users := held.users.put user' } : Db).releaseFancyNumberInventory
      lease.fancyNumberID number.value .leased = .ok restoredDb := by
    have first : ((held.identifiers.find number.value).filter (·.currentUserID.isNone)) =
        some { new with currentUserID := none } := by
      rw [show held.identifiers.find number.value = _ from freeRow]
      rfl
    have second : held.numbers.updateOne lease.fancyNumberID (·.status = .leased)
        (fun n => { n with
          status :=
            if new.reservedForUserID.isSome || new.inviteOwnerUserID.isSome then .disabled
            else .available }) = some numbers := by
      simpa [unreserved, unowned] using inventory
    unfold releaseFancyNumberInventory
    rw [orThrow_of first]
    dsimp only [bind, Except.bind]
    rw [orThrow_of second]
    rfl
  refine ⟨user, number, r, leases, restoredDb, owner, number_found, restore, called, closed, ?_, ?_,
    ?_, rfl⟩
  · unfold restoreAccount
    dsimp only
    rw [orThrow_of freed]
    dsimp only [bind, Except.bind]
    rw [orThrow_of restored]
    dsimp only
    rw [show updateUser _ casing user user' = _ from called']
    exact returned
  · have given := sound.market.giveBack .available found restore listed row row' (by simp)
    have owner' : db.users.find user'.id = some user := by
      rw [show user'.id = lease.userID from user_id, owner]
    have same : restoredDb.market casing = (db.market casing).giveBack lease.id lease number.value r
        new old .available := by
      have id' : user'.id = lease.userID := user_id
      have ended : Option.filter (·.active) (some { lease with endedAt := some now }) = none := rfl
      refine (market_put
        (show ({ held with numbers := numbers } : Db).users.find user'.id = some user from owner')
        rfl).trans ?_
      simp only [market, Market.giveBack, held, id', numbers_eq, identifiers_eq, released_eq,
        leases_eq, Function.comp_update, Option.map_some, ended]
      rfl
    exact ⟨same ▸ given, sound.upper_put owner' rfl⟩
  · exact ⟨value_update numbers_eq number_found rfl,
      fun lid l' found' => Or.inl (lease_update leases_eq stored rfl rfl lid l' found'),
      permanent_update leases_eq stored fun _ permanent =>
        absurd permanent (FancyNumberLease.not_both timed.1)⟩

/-- What the end of an overdue lease commits. -/
def Ended (db : Db) (lease : FancyNumberLease) (now : Time) (db' : Db) : Prop :=
  ∃ user r, db.users.find lease.userID = some user ∧ lease.restoreAccountId = some r ∧
    db' = { db with
      users := db.users.put
        { user with
          accountId := r
          fancyNumber := false
          fancyNumberExpiresAt := none
          fancyNumberPermanent := false }
      identifiers := db'.identifiers
      numbers := db'.numbers
      leases := db'.leases } ∧
    db.closeLease lease.id now = some db'.leases

theorem expireLease_due (sound : Sound casing db)
    (found : db.leases.find lease.id = some lease) (due : lease.overdue now = true) :
    ∃ db', db.expireLease casing lease.id now = .ok (db', true) ∧
      db.restoreExpiredLeaseInTransaction casing lease now = .ok db' ∧ Sound casing db' ∧
      Follows db db' ∧ Ended db lease now db' := by
  have active : (db.market casing).lease lease.id = some lease :=
    market_lease.mpr ⟨found, FancyNumberLease.overdue_active due⟩
  obtain ⟨user, number, r, leases, db', owner, held, restore, called, closed, restored, sound',
    follows, shape⟩ := restoreAccount_ok sound active due
  have account : lease.restoreAccountId.filter (fun _ => user.accountId = number.value) = some r := by
    simp [restore, called]
  refine ⟨db', ?_, ?_, sound', follows, user, r, owner, restore, ?_, ?_⟩
  · unfold expireLease
    rw [found, Option.filter_some, if_pos due]
    dsimp only
    rw [orThrow_of owner]
    dsimp only [bind, Except.bind]
    rw [orThrow_of held]
    dsimp only
    rw [orThrow_of account]
    dsimp only
    rw [closed]
    dsimp only
    rw [restored]
    rfl
  · unfold restoreExpiredLeaseInTransaction
    rw [orThrow_of owner]
    dsimp only [bind, Except.bind]
    rw [orThrow_of held]
    dsimp only
    rw [orThrow_of account]
    dsimp only
    rw [orThrow_of closed]
    dsimp only
    exact restored
  · rw [shape]
  · rw [shape]
    exact closed

theorem expireLease_idle {lid : LeaseId}
    (idle : (db.leases.find lid).filter (·.overdue now) = none) :
    db.expireLease casing lid now = .ok (db, false) := by
  unfold expireLease
  rw [idle]

/-- The end of a lease never fails, whatever else happened. -/
theorem expireLease_total (sound : Sound casing db) (lid : LeaseId) (now : Time) :
    ∃ db' ended, db.expireLease casing lid now = .ok (db', ended) ∧ Sound casing db' ∧
      Follows db db' ∧ (ended = false ∧ db' = db ∨ ended = true ∧
        ∃ lease, db.leases.find lid = some lease ∧ lease.overdue now = true ∧
          Ended db lease now db') := by
  cases due : (db.leases.find lid).filter (·.overdue now) with
  | none =>
    exact ⟨db, false, expireLease_idle due, sound, .of_same rfl rfl, Or.inl ⟨rfl, rfl⟩⟩
  | some lease =>
    rw [Option.filter_eq_some_iff] at due
    obtain rfl : lease.id = lid := Table.find_key due.1
    obtain ⟨db', expired, -, sound', follows, ended⟩ := expireLease_due sound due.1 due.2
    exact ⟨db', true, expired, sound', follows, Or.inr ⟨rfl, lease, due.1, due.2, ended⟩⟩

/-! ## One transaction -/

/-- Nobody pays. An order that is written is one of a conversion. -/
structure Unpaid (db db' : Db) : Prop where
  wallets : db'.wallets = db.wallets
  coinTransactions : db'.coinTransactions = db.coinTransactions
  orders : db'.orders = db.orders ∨ ∃ order lid, order.idempotencyKey = .superConversion lid ∧
    order.totalPrice = 0 ∧ db.orders.insert order = some db'.orders

theorem Unpaid.of_same (wallets : db'.wallets = db.wallets)
    (coinTransactions : db'.coinTransactions = db.coinTransactions)
    (orders : db'.orders = db.orders) : Unpaid db db' :=
  ⟨wallets, coinTransactions, Or.inl orders⟩

theorem Stocked.unpaid (stocked : Stocked db db') : Unpaid db db' := by
  obtain ⟨⟨_, _, rfl⟩, -⟩ := stocked
  exact .of_same rfl rfl rfl

theorem Ended.unpaid (ended : Ended db lease now db') : Unpaid db db' := by
  obtain ⟨user, r, -, -, shape, -⟩ := ended
  rw [shape]
  exact .of_same rfl rfl rfl

theorem convertActiveLeaseToPermanent_ok {orderId : OrderId}
    {converted : Bool} (sound : Sound casing db)
    (h : db.convertActiveLeaseToPermanent casing uid now orderId = .ok (db', converted)) :
    Sound casing db' ∧ Follows db db' ∧ Unpaid db db' := by
  unfold convertActiveLeaseToPermanent at h
  split at h
  · cases h
    exact ⟨sound, .of_same rfl rfl, .of_same rfl rfl rfl⟩
  · rename_i lease chosen
    simp only [Option.filter_eq_some_iff, Bool.and_eq_true, Option.isNone_iff_eq_none] at chosen
    obtain ⟨active, noPermanent, timed⟩ := chosen
    obtain ⟨found, user_eq⟩ := activeLease_some casing active
    obtain ⟨stored, running⟩ := market_lease.mp found
    split at h
    · rename_i due
      obtain ⟨db'', restored, h⟩ := map_ok h
      cases h
      have overdue : lease.overdue now = true := by
        simp [FancyNumberLease.overdue, running, noPermanent, due]
      obtain ⟨other, -, restored', sound', follows, ended⟩ := expireLease_due sound stored overdue
      rw [restored] at restored'
      cases restored'
      exact ⟨sound', follows, ended.unpaid⟩
    · obtain ⟨leases, amended, h⟩ := bind_ok h
      obtain ⟨numbers, marked, h⟩ := bind_ok h
      obtain ⟨user, owner, h⟩ := bind_ok h
      cases h
      have owner := orThrow_ok owner
      obtain ⟨l, here, -, leases_eq⟩ := Table.updateOne_update (orThrow_ok amended) fun _ => rfl
      obtain rfl : lease = l := Option.some.inj (stored.symm.trans here)
      obtain ⟨number, held, -, numbers_eq⟩ :=
        Table.updateOne_update (orThrow_ok marked) fun _ => rfl
      have listed := market_number casing held
      let lease' : FancyNumberLease := { lease with expiresAt := none, permanentAt := some now }
      have changed := sound.market.amend lease' .permanent found rfl rfl rfl listed
        (Or.inr ⟨⟨rfl, rfl⟩, rfl⟩)
      have user_id : user.id = uid := Table.find_key owner
      have stays : Option.filter (·.active) (some lease') = some lease' :=
        Option.filter_eq_some_iff.mpr ⟨rfl, running⟩
      let user' : User :=
        { user with
          fancyNumber := true, fancyNumberExpiresAt := none, fancyNumberPermanent := true }
      have owner' : db.users.find user'.id = some user := by
        rw [show user'.id = uid from user_id, owner]
      let written : Db := { db with leases := leases, numbers := numbers }
      have same : ({ written with users := written.users.put user' } : Db).market casing =
          (db.market casing).amend lease.id lease' number.value .permanent := by
        refine (market_put_same (show written.users.find user'.id = some user from owner') rfl
          rfl).trans ?_
        simp only [market, Market.amend, written, lease', leases_eq, numbers_eq,
          Function.comp_update, Option.map_some]
        exact congrArg (fun x => Market.mk _ _ _ _ (Function.update _ _ x)) stays
      have timed_lease : lease.timed := ⟨timed, noPermanent⟩
      refine ⟨⟨same ▸ changed, sound.upper_put owner' rfl⟩,
        ⟨value_update numbers_eq held rfl, ?_, ?_⟩, rfl, rfl, ?_⟩
      · intro lid l' found'
        exact Or.inl (lease_update leases_eq stored rfl rfl lid l' found')
      · exact permanent_update leases_eq stored fun _ permanent =>
          absurd permanent (FancyNumberLease.not_both timed_lease)
      · dsimp only
        cases inserted : db.orders.insert _ with
        | none => exact Or.inl rfl
        | some orders => exact Or.inr ⟨_, lease.id, rfl, rfl, inserted⟩

theorem purchaseTarget_ok {target : FancyNumberTarget} {months : Option Nat}
    (sound : Sound casing db)
    (h : db.purchaseTarget casing uid target months key now expectedUnitPrice minted =
      .ok (db', result)) :
    (∃ order, db.orders.find key = some order ∧ db' = db ∧
        db.replayPurchase casing uid target months order = .ok result) ∨
      db.orders.find key = none ∧ Sound casing db' ∧ Follows db db' ∧
        ∃ order, Charged db db' uid key order ∧
          db'.replayPurchase casing uid target months order = .ok result := by
  obtain ⟨user, owner, h⟩ := bind_ok h
  have found := (Option.filter_eq_some_iff.mp (orThrow_ok owner)).1
  obtain rfl : user.id = uid := Table.find_key found
  split at h
  · rename_i order recorded
    obtain ⟨answer, replayed, h⟩ := bind_ok h
    cases h
    exact Or.inl ⟨order, recorded, rfl, replayed⟩
  · rename_i absent
    exact Or.inr ⟨absent, purchaseAnew_ok sound found h⟩

theorem switchPermanentTarget_ok {target : FancyNumberTarget} (sound : Sound casing db)
    (h : db.switchPermanentTarget casing uid target key expectedUnitPrice minted =
      .ok (db', result)) :
    ∃ lease, db.activeLease uid = some lease ∧
      ((∃ order, db.orders.find key = some order ∧ db' = db ∧
          db.replaySwitch casing target (.switch target uid lease.id) order = .ok result) ∨
        db.orders.find key = none ∧ Sound casing db' ∧ Follows db db' ∧
          ∃ order, Charged db db' uid key order ∧
            db'.replaySwitch casing target (.switch target uid lease.id) order = .ok result) := by
  obtain ⟨lease, active, h⟩ := bind_ok h
  have active := orThrow_ok active
  obtain ⟨found, rfl⟩ := activeLease_some casing active
  refine ⟨lease, active, ?_⟩
  split at h
  · rename_i order recorded
    obtain ⟨answer, replayed, h⟩ := bind_ok h
    cases h
    exact Or.inl ⟨order, recorded, rfl, replayed⟩
  · rename_i absent
    exact Or.inr ⟨absent, switchAnew_ok sound found h⟩

theorem renew_ok {months : Nat} (sound : Sound casing db)
    (h : db.renew uid months key now expectedUnitPrice minted = .ok (db', result)) :
    ∃ lease, db.activeLease uid = some lease ∧
      ((∃ order, db.orders.find key = some order ∧ db' = db ∧
          db.replayRenewal (.renewal uid lease.id months) order = .ok result) ∨
        db.orders.find key = none ∧ Sound casing db' ∧ Follows db db' ∧
          ∃ order, Charged db db' uid key order ∧
            db'.replayRenewal (.renewal uid lease.id months) order = .ok result) := by
  obtain ⟨lease, active, h⟩ := bind_ok h
  have active := orThrow_ok active
  obtain ⟨found, rfl⟩ := activeLease_some casing active
  refine ⟨lease, active, ?_⟩
  split at h
  · rename_i order recorded
    obtain ⟨answer, replayed, h⟩ := bind_ok h
    cases h
    exact Or.inl ⟨order, recorded, rfl, replayed⟩
  · rename_i absent
    exact Or.inr ⟨absent, renewAnew_ok sound found h⟩

/-- What a transaction does to orders and balances. -/
def Settles (db db' : Db) : Act → Prop
  | .purchase userId _ _ key _ _ _
  | .switchPermanent userId _ key _ _
  | .renew userId _ key _ _ _ =>
    db' = db ∨ db.orders.find key = none ∧ ∃ order, Charged db db' userId key order
  | .credit userId points =>
    db'.orders = db.orders ∧ db'.coinTransactions = db.coinTransactions ∧
      db'.wallets = db.wallets.upsert ⟨userId, points⟩
        (fun w => { w with balance := w.balance + points }) (credited_userID points)
  | _ => Unpaid db db'

theorem updateUsers_ok {p : User → Bool} {f : User → User} {id : ∀ u, (f u).id = u.id}
    (sound : Sound casing db) (account : ∀ u, (f u).accountId = u.accountId)
    (code : ∀ u, (f u).inviteCode = u.inviteCode) :
    Sound casing { db with users := db.users.updateMany p f id } := by
  have rows : ∀ uid, (db.users.updateMany p f id).find uid =
      (db.users.find uid).map fun u => if p u then f u else u := fun uid => Table.find_updateMany ..
  refine sound.congr ?_ ?_
  · simp only [market, Market.mk.injEq, and_true]
    constructor
    · funext uid
      rw [Function.comp_apply, rows, Option.map_map]
      congr 1
      funext u
      dsimp only [Function.comp_apply]
      split
      · exact account u
      · rfl
    · funext uid
      rw [Function.comp_apply, rows, Option.map_map]
      congr 1
      funext u
      dsimp only [Function.comp_apply]
      split
      · rw [code u]
      · rfl
  · intro uid u found
    obtain ⟨w, before, rfl⟩ := Option.map_eq_some_iff.mp ((rows uid).symm.trans found)
    split
    · rw [code w]
      exact sound.upper uid w before
    · exact sound.upper uid w before

theorem next_ok {act : Act} (sound : Sound casing db) (h : db.next casing act = some db') :
    Sound casing db' ∧ Follows db db' ∧ Settles db db' act := by
  have h : db.commit casing act = .ok db' := toOption_some h
  cases act with
  | createUser user =>
    have sound' := sound.createUser h
    obtain ⟨-, -, users, identifiers, -, rfl, -⟩ := createUser_ok h
    exact ⟨sound', .of_same rfl rfl, .of_same rfl rfl rfl⟩
  | changeInviteCode userId inviteCode =>
    obtain ⟨sound', users, identifiers, rfl⟩ := sound.changeInviteCode h
    exact ⟨sound', .of_same rfl rfl, .of_same rfl rfl rfl⟩
  | purchase userId target months key now expectedUnitPrice minted =>
    obtain ⟨⟨_, result⟩, committed, rfl⟩ := map_ok h
    rcases purchaseTarget_ok sound committed with ⟨-, -, same, -⟩ | ⟨absent, sound', follows, order, charged, -⟩
    · exact ⟨same ▸ sound, .of_same (same ▸ rfl) (same ▸ rfl), Or.inl same⟩
    · exact ⟨sound', follows, Or.inr ⟨absent, order, charged⟩⟩
  | switchPermanent userId target key expectedUnitPrice minted =>
    obtain ⟨⟨_, result⟩, committed, rfl⟩ := map_ok h
    obtain ⟨lease, -, ⟨-, -, same, -⟩ | ⟨absent, sound', follows, order, charged, -⟩⟩ :=
      switchPermanentTarget_ok sound committed
    · exact ⟨same ▸ sound, .of_same (same ▸ rfl) (same ▸ rfl), Or.inl same⟩
    · exact ⟨sound', follows, Or.inr ⟨absent, order, charged⟩⟩
  | renew userId months key now expectedUnitPrice minted =>
    obtain ⟨⟨_, result⟩, committed, rfl⟩ := map_ok h
    obtain ⟨lease, -, ⟨-, -, same, -⟩ | ⟨absent, sound', follows, order, charged, -⟩⟩ :=
      renew_ok sound committed
    · exact ⟨same ▸ sound, .of_same (same ▸ rfl) (same ▸ rfl), Or.inl same⟩
    · exact ⟨sound', follows, Or.inr ⟨absent, order, charged⟩⟩
  | convertActiveLeaseToPermanent userId now orderId =>
    obtain ⟨⟨_, converted⟩, committed, rfl⟩ := map_ok h
    exact convertActiveLeaseToPermanent_ok sound committed
  | expireLease leaseId now =>
    obtain ⟨⟨_, ended⟩, committed, rfl⟩ := map_ok h
    obtain ⟨db'', ended', expired, sound', follows, done⟩ := expireLease_total sound leaseId now
    rw [committed] at expired
    cases expired
    refine ⟨sound', follows, ?_⟩
    rcases done with ⟨-, rfl⟩ | ⟨-, lease, -, -, ended⟩
    · exact .of_same rfl rfl rfl
    · exact ended.unpaid
  | adminBatchCreate values mint =>
    obtain ⟨sound', stocked⟩ := adminBatchCreate_ok sound h
    exact ⟨sound', stocked.follows, stocked.unpaid⟩
  | adminAddRecommendations values mint =>
    obtain ⟨sound', stocked⟩ := adminAddRecommendations_ok sound h
    exact ⟨sound', stocked.follows, stocked.unpaid⟩
  | adminSetAvailability fancyNumberId enabled =>
    obtain ⟨sound', stocked⟩ := adminSetAvailability_ok sound h
    exact ⟨sound', stocked.follows, stocked.unpaid⟩
  | setMembership userId vipLevel vipExpiresAt =>
    cases h
    exact ⟨updateUsers_ok sound (fun _ => rfl) fun _ => rfl, .of_same rfl rfl,
      .of_same rfl rfl rfl⟩
  | setStatus userId status =>
    cases h
    exact ⟨updateUsers_ok sound (fun _ => rfl) fun _ => rfl, .of_same rfl rfl,
      .of_same rfl rfl rfl⟩
  | credit userId points =>
    cases h
    exact ⟨sound.congr rfl sound.upper, .of_same rfl rfl, rfl, rfl, rfl⟩

theorem empty_sound (casing : Casing) : Sound casing empty := by
  constructor
  · constructor <;> simp [market, empty]
  · simp [empty]

theorem run_sound {acts : List Act} (run : Run (Step casing) empty acts db) : Sound casing db :=
  run.preserves (P := Sound casing) (fun _ _ _ step sound => (next_ok sound step).1)
    (empty_sound casing)

end Db

end CircleBackend.Fancy
