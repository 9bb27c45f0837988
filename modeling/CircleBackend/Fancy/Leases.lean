import CircleBackend.Fancy.Registry

/-!
# Leases

A purchase, a switch and a renewal leave the market sound. Each writes one order, and
the answer of the call is what a replay of that order gives.
-/

namespace CircleBackend.Fancy

open Library
open Session (UserId)

namespace Db

variable {casing : Casing} {db db' : Db}

/-! ## What the parts do -/

theorem activeLease_some (casing : Casing) {uid : UserId} {l : FancyNumberLease}
    (h : db.activeLease uid = some l) :
    (db.market casing).lease l.id = some l ∧ l.userID = uid := by
  have chosen := List.find?_some h
  simp only [Bool.and_eq_true, decide_eq_true_eq] at chosen
  have member : l ∈ db.leases.rows := List.mem_of_find?_eq_some h
  exact ⟨market_lease.mpr ⟨Table.mem_find member, chosen.2⟩, chosen.1⟩

theorem activeLease_none (casing : Casing) {uid : UserId} (h : db.activeLease uid = none)
    (lid : LeaseId) (l : FancyNumberLease) (lease : (db.market casing).lease lid = some l) :
    l.userID ≠ uid := by
  rintro rfl
  obtain ⟨found, active⟩ := market_lease.mp lease
  have absent := List.find?_eq_none.mp h l (Table.find_mem found)
  simp [active] at absent

theorem hasAccountIdentifierClaim_false {v : JsString}
    (h : db.hasAccountIdentifierClaim v = false) :
    ∃ ai, db.identifiers.find v = some ai ∧ ai.claimed = false := by
  unfold hasAccountIdentifierClaim at h
  cases row : db.identifiers.find v with
  | none => simp [row] at h
  | some ai => exact ⟨ai, rfl, by simpa [row] using h⟩

/-- The number is there and nobody's, and of the rest only the inventory may have grown. -/
structure Listed (casing : Casing) (db db' : Db) (number : FancyNumber) : Prop where
  sound : Sound casing db'
  stored : db'.numbers.find number.id = some number
  row : ∃ ai, db'.identifiers.find number.value = some ai ∧ ai.claimed = false
  kept : ∀ nid n, db.numbers.find nid = some n → db'.numbers.find nid = some n
  rest : ∃ identifiers numbers, db' = { db with identifiers := identifiers, numbers := numbers }

variable {target : FancyNumberTarget} {u u' : User} {expectedUnitPrice : Option Nat}
variable {minted : Minted} {result : FancyNumberPurchaseResult}

theorem resolvePurchasableTarget_ok {id : NumberId} {number : FancyNumber} (sound : Sound casing db)
    (h : db.resolvePurchasableTarget casing target id = .ok (db', some number)) :
    Listed casing db db' number := by
  have stored : ∀ n : FancyNumber, db.numbers.find n.id = some n →
      db.hasAccountIdentifierClaim n.value = false → Listed casing db db n :=
    fun n found free =>
      ⟨sound, found, hasAccountIdentifierClaim_false free, fun _ _ kept => kept, _, _, rfl⟩
  unfold resolvePurchasableTarget at h
  split at h
  · rename_i id
    simp only [Except.ok.injEq, Prod.mk.injEq, Option.filter_eq_some_iff] at h
    obtain ⟨rfl, found, free⟩ := h
    have own : number.id = id := Table.find_key found
    exact stored number (own ▸ found) (by simpa using free)
  · rename_i value
    split at h
    · rename_i n listed
      obtain ⟨found, -⟩ := numberOf_some listed
      split at h
      · cases h
      · rename_i free
        cases h
        exact stored _ found (by simpa using free)
    · obtain ⟨_, -, h⟩ := bind_ok h
      dsimp only at h
      split at h
      · cases h
      · cases h
      · rename_i created
        cases h
        obtain ⟨mid, registered, numbered⟩ := bind_ok created
        have sound' := sound.createIdentifier registered
        obtain ⟨-, identifiers, rfl, rows⟩ := createIdentifier_ok registered
        have numbered' := numbered
        obtain ⟨-, folds, fresh, numbers, rfl, listed⟩ := createNumber_ok numbered
        have row : identifiers.find value = some ⟨casing.lower value, none, none, none⟩ := by
          rw [rows, show casing.lower value = value from folds, Function.update_self]
        refine ⟨sound'.createNumber rfl row rfl numbered', ?_, ⟨_, row, rfl⟩, ?_, _, _, rfl⟩
        · exact (congrFun listed id).trans (Function.update_self ..)
        · intro nid n found
          have apart : nid ≠ id := by
            rintro rfl
            rw [show db.numbers.find nid = none from fresh] at found
            cases found
          exact (congrFun listed nid).trans ((Function.update_of_ne apart ..).trans found)

theorem releaseFancyNumberInventory_ok {id : NumberId} {value : JsString}
    {expectedStatus : NumberStatus}
    (h : db.releaseFancyNumberInventory id value expectedStatus = .ok db') :
    ∃ n numbers left, db.numbers.find id = some n ∧ n.status = expectedStatus ∧
      (left ≠ .leased ∧ left ≠ .permanent) ∧ db' = { db with numbers := numbers } ∧
      numbers.find = Function.update db.numbers.find id (some { n with status := left }) := by
  obtain ⟨identifier, -, h⟩ := bind_ok h
  obtain ⟨numbers, released, h⟩ := bind_ok h
  cases h
  obtain ⟨n, found, status, rows⟩ := Table.updateOne_update (orThrow_ok released) fun _ => rfl
  refine ⟨n, numbers, _, found, by simpa using status, ?_, rfl, rows⟩
  split <;> simp

theorem recordOrder_ok {order : FancyNumberOrder} (h : db.recordOrder order = .ok db') :
    ∃ orders coinTransactions, db.orders.insert order = some orders ∧
      db' = { db with orders := orders, coinTransactions := coinTransactions } ∧
      (order.totalPrice = 0 ∧ coinTransactions = db.coinTransactions ∨
        order.totalPrice ≠ 0 ∧ db.coinTransactions.insert
          { idempotencyKey := order.idempotencyKey
            userID := order.userID
            amount := -order.totalPrice
            balance := order.walletBalanceAfter.getD 0
            relatedID := order.id } = some coinTransactions) := by
  obtain ⟨orders, inserted, h⟩ := bind_ok h
  split at h
  · rename_i free
    cases h
    exact ⟨orders, db.coinTransactions, orThrow_ok inserted, rfl, Or.inl ⟨free, rfl⟩⟩
  · rename_i paid
    obtain ⟨coinTransactions, entered, h⟩ := bind_ok h
    cases h
    exact ⟨orders, coinTransactions, orThrow_ok inserted, rfl, Or.inr ⟨paid, orThrow_ok entered⟩⟩

theorem Sound.recordOrder {order : FancyNumberOrder} (sound : Sound casing db)
    (h : db.recordOrder order = .ok db') : Sound casing db' := by
  obtain ⟨orders, coinTransactions, -, rfl, -⟩ := recordOrder_ok h
  exact sound.congr rfl sound.upper

/-- A user keeps the code. -/
theorem market_put (found : db.users.find u'.id = some u) (code : u'.inviteCode = u.inviteCode) :
    ({ db with users := db.users.put u' } : Db).market casing =
      { db.market casing with
        account := Function.update (db.market casing).account u'.id (some u'.accountId) } := by
  simp only [market, Table.put_update found, Function.comp_update, Option.map_some,
    Market.mk.injEq, and_true, true_and]
  refine Function.update_eq_self_iff.mpr ?_
  simp [found, code]

theorem Sound.upper_put (sound : Sound casing db) (found : db.users.find u'.id = some u)
    (code : u'.inviteCode = u.inviteCode) (uid : UserId) (w : User)
    (there : (db.users.put u').find uid = some w) : casing.upper w.inviteCode = w.inviteCode := by
  rw [Table.find_put_of_find found] at there
  split at there
  · cases there
    rw [code]
    exact sound.upper _ u found
  · exact sound.upper uid w there

/-! ## What a transaction keeps -/

/-- A number keeps its value, and a lease its user and what it restores: the account that
the user had when it began. A permanent lease does not end. -/
structure Follows (db db' : Db) : Prop where
  values : ∀ nid n, db.numbers.find nid = some n →
    ∃ n', db'.numbers.find nid = some n' ∧ n'.value = n.value
  leases : ∀ lid l', db'.leases.find lid = some l' →
    (∃ l, db.leases.find lid = some l ∧ l'.userID = l.userID ∧
      l'.restoreAccountId = l.restoreAccountId) ∨
    db.leases.find lid = none ∧ ∃ u, db.users.find l'.userID = some u ∧
      l'.restoreAccountId = some u.accountId
  permanent : ∀ lid l, db.leases.find lid = some l → l.active = true → l.permanent →
    ∃ l', db'.leases.find lid = some l' ∧ l'.active = true ∧ l'.permanent ∧
      l'.userID = l.userID

theorem Follows.of_same (values : db'.numbers = db.numbers) (leases : db'.leases = db.leases) :
    Follows db db' := by
  constructor
  · intro nid n found
    exact ⟨n, values ▸ found, rfl⟩
  · intro lid l found
    exact Or.inl ⟨l, leases ▸ found, rfl, rfl⟩
  · intro lid l found active permanent
    exact ⟨l, leases ▸ found, active, permanent, rfl⟩

theorem Stocked.follows (stocked : Stocked db db') : Follows db db' := by
  obtain ⟨⟨_, _, rfl⟩, values⟩ := stocked
  exact ⟨values, fun lid l found => Or.inl ⟨l, found, rfl, rfl⟩,
    fun lid l found active permanent => ⟨l, found, active, permanent, rfl⟩⟩

/-- One row of the leases changes, and not in what has to stay. -/
theorem lease_update {t u : Table FancyNumberLease LeaseId (·.id)} {id : LeaseId}
    {k k' : FancyNumberLease} (rows : u.find = Function.update t.find id (some k'))
    (stored : t.find id = some k) (user : k'.userID = k.userID)
    (restore : k'.restoreAccountId = k.restoreAccountId) (lid : LeaseId) (l' : FancyNumberLease)
    (found : u.find lid = some l') :
    ∃ l, t.find lid = some l ∧ l'.userID = l.userID ∧ l'.restoreAccountId = l.restoreAccountId := by
  by_cases own : lid = id
  · rw [rows, own, Function.update_self] at found
    cases found
    exact ⟨k, own ▸ stored, user, restore⟩
  · rw [rows, Function.update_of_ne own] at found
    exact ⟨l', found, rfl, rfl⟩

theorem permanent_update {t u : Table FancyNumberLease LeaseId (·.id)} {id : LeaseId}
    {k k' : FancyNumberLease} (rows : u.find = Function.update t.find id (some k'))
    (stored : t.find id = some k)
    (kept : k.active = true → k.permanent → k'.active = true ∧ k'.permanent ∧ k'.userID = k.userID)
    (lid : LeaseId) (l : FancyNumberLease) (found : t.find lid = some l) (active : l.active = true)
    (permanent : l.permanent) :
    ∃ l', u.find lid = some l' ∧ l'.active = true ∧ l'.permanent ∧ l'.userID = l.userID := by
  by_cases own : lid = id
  · rw [own, stored] at found
    cases found
    exact ⟨k', by rw [rows, own, Function.update_self], kept active permanent⟩
  · exact ⟨l, by rw [rows, Function.update_of_ne own, found], active, permanent, rfl⟩

/-! ## Paying -/

/-- The call wrote this order, took its price and kept a record of that. -/
structure Charged (db db' : Db) (userId : UserId) (key : OrderKey) (order : FancyNumberOrder) :
    Prop where
  key : order.idempotencyKey = key
  user : order.userID = userId
  paid : ∃ balance, db.debit userId order.totalPrice = .ok (db'.wallets, balance) ∧
    order.walletBalanceAfter = some balance
  recorded : db.orders.insert order = some db'.orders
  entered : order.totalPrice = 0 ∧ db'.coinTransactions = db.coinTransactions ∨
    order.totalPrice ≠ 0 ∧ db.coinTransactions.insert
      { idempotencyKey := order.idempotencyKey
        userID := order.userID
        amount := -order.totalPrice
        balance := order.walletBalanceAfter.getD 0
        relatedID := order.id } = some db'.coinTransactions

theorem purchaseAnew_ok {user : User} {months : Option Nat} {key : OrderKey} {now : Time}
    (sound : Sound casing db) (found : db.users.find user.id = some user)
    (h : db.purchaseAnew casing user target months key now expectedUnitPrice minted =
      .ok (db', result)) :
    Sound casing db' ∧ Follows db db' ∧ ∃ order, Charged db db' user.id key order ∧
      db'.replayPurchase casing user.id target months order = .ok result := by
  unfold purchaseAnew at h
  generalize decide (resolveEffectiveMembershipLevel user now = 4) = permanent at h
  obtain ⟨_, months_ok, h⟩ := bind_ok h
  obtain ⟨_, -, h⟩ := bind_ok h
  obtain ⟨_, idle, h⟩ := bind_ok h
  obtain ⟨⟨listed, purchasable⟩, resolved, h⟩ := bind_ok h
  obtain ⟨number, available, h⟩ := bind_ok h
  obtain ⟨numbers, claimed, h⟩ := bind_ok h
  obtain ⟨reserved, kept, h⟩ := bind_ok h
  obtain ⟨assigned, taken, h⟩ := bind_ok h
  obtain ⟨⟨wallets, balance⟩, paid, h⟩ := bind_ok h
  obtain ⟨leases, begun, h⟩ := bind_ok h
  obtain ⟨renamed, moved, h⟩ := bind_ok h
  obtain ⟨recorded, ordered, h⟩ := bind_ok h
  cases h
  -- one of the two terms, and what the months are in it
  have term : permanent = true ∧ (if permanent then none else months) = none ∨
      permanent = false ∧ ∃ m, months = some m ∧ (if permanent then none else months) = some m := by
    have months_ok := throwIf_ok months_ok
    cases permanent with
    | true => exact Or.inl ⟨rfl, rfl⟩
    | false =>
      cases months with
      | none => cases months_ok
      | some m => exact Or.inr ⟨rfl, m, rfl, rfl⟩
  generalize (if permanent then none else months) = normalizedMonths at term paid begun moved ordered ⊢
  have purchasable := orThrow_ok available
  rw [Option.filter_eq_some_iff] at purchasable
  obtain ⟨rfl, -⟩ := purchasable
  obtain ⟨sound', stored, ⟨new, row, unclaimed⟩, listed_kept, identifiers, inventory, rfl⟩ :=
    resolvePurchasableTarget_ok sound resolved
  obtain ⟨n, there, -, numbers_eq⟩ := Table.updateOne_update (orThrow_ok claimed) fun _ => rfl
  obtain rfl : number = n := Option.some.inj (stored.symm.trans there)
  obtain ⟨old, before, current, reserved_eq⟩ := Table.updateOne_update (orThrow_ok kept) fun _ => rfl
  obtain ⟨new', there', -, assigned_eq⟩ := Table.updateOne_update (orThrow_ok taken) fun _ => rfl
  have begun := orThrow_ok begun
  simp only [Bool.and_eq_true, decide_eq_true_eq, Option.isNone_iff_eq_none] at current
  have noLease := activeLease_none casing (by simpa using throwIf_ok idle)
  have account := market_account casing found
  have folds := (sound'.market.listed _ _ _ (market_number casing stored)).1
  have apart : number.value ≠ user.accountId := by
    intro same
    exact sound'.market.unlisted account noLease number.id number.status (same ▸ market_number casing stored)
  rw [reserved_eq, Function.update_of_ne apart, row] at there'
  cases there'
  let lease : FancyNumberLease :=
    { id := minted.leaseId
      userID := user.id
      fancyNumberID := number.id
      restoreAccountId := some user.accountId
      startedAt := now
      expiresAt := normalizedMonths.map (addUtcCalendarMonths now)
      permanentAt := if permanent then some now else none
      endedAt := none }
  have taken' := sound'.market.take lease (if permanent then .permanent else .leased) account rfl
    before current.1 noLease (market_number casing stored) row unclaimed
    (by simp [market, show db.leases.find lease.id = none from Table.insert_fresh begun])
    (by
      rcases term with ⟨rfl, rfl⟩ | ⟨rfl, m, -, rfl⟩ <;>
        simp [lease, FancyNumberLease.timed, FancyNumberLease.permanent])
  let u' : User :=
    { user with
      accountId := number.value
      fancyNumber := true
      fancyNumberExpiresAt := normalizedMonths.map (addUtcCalendarMonths now)
      fancyNumberPermanent := permanent }
  let held : Db :=
    { db with numbers := numbers, identifiers := assigned, wallets := wallets, leases := leases }
  have folded : fold casing u' = u' := by
    simp only [fold, u', folds, sound.upper user.id user found]
  have assignedAt : ∀ v, assigned.find v =
      if v = number.value then some { new with currentUserID := some user.id }
      else if v = user.accountId then
        some { old with currentUserID := none, reservedForUserID := some user.id }
      else identifiers.find v := by
    intro v
    rw [assigned_eq, reserved_eq, Function.update_apply, Function.update_apply]
  have moved' : held.updateUser casing user u' = .ok { held with users := held.users.put u' } := by
    apply updateUser_current folded (sound.market.folded _ _ account) rfl apart
    · exact (assignedAt number.value).trans (if_pos rfl)
    · rfl
    · left
      intro ai stored'
      have kept := (assignedAt user.accountId).trans (by rw [if_neg (Ne.symm apart), if_pos rfl])
      rw [show held.identifiers.find user.accountId = _ from kept] at stored'
      cases stored'
      simp [AccountIdentifier.claimed]
  rw [show held.updateUser casing user u' = _ from moved'] at moved
  cases moved
  have same : ({ held with users := held.users.put u' } : Db).market casing =
      (({ db with identifiers := identifiers, numbers := inventory } : Db).market casing).take lease
        user.accountId number.value old new (if permanent then .permanent else .leased) := by
    rw [market_put (show held.users.find u'.id = some user from found) rfl]
    simp only [market, Market.take, held, numbers_eq, assigned_eq, reserved_eq,
      Table.insert_update begun, Function.comp_update, Option.map_some]
    rfl
  have held_sound : Sound casing { held with users := held.users.put u' } :=
    ⟨same ▸ taken', sound.upper_put found rfl⟩
  refine ⟨held_sound.recordOrder ordered, ?_⟩
  obtain ⟨orders, coinTransactions, inserted, rfl, entered⟩ := recordOrder_ok ordered
  have follows : Follows db { held with
      users := held.users.put u', orders := orders, coinTransactions := coinTransactions } := by
    constructor
    · intro nid n found'
      exact value_update numbers_eq stored rfl nid n (listed_kept nid n found')
    · intro lid l' found'
      have found' : leases.find lid = some l' := found'
      by_cases own : lid = minted.leaseId
      · rw [Table.insert_update begun, own, Function.update_self] at found'
        cases found'
        exact Or.inr ⟨own ▸ Table.insert_fresh begun, user, found, rfl⟩
      · rw [Table.insert_update begun, Function.update_of_ne own] at found'
        exact Or.inl ⟨l', found', rfl, rfl⟩
    · intro lid l found' active permanent'
      have other : lid ≠ minted.leaseId := by
        rintro rfl
        rw [show db.leases.find minted.leaseId = none from Table.insert_fresh begun] at found'
        cases found'
      have still : leases.find lid = some l := by
        rw [Table.insert_update begun, Function.update_of_ne other, found']
      exact ⟨l, still, active, permanent', rfl⟩
  refine ⟨follows, ?_⟩
  refine ⟨_, ⟨rfl, rfl, ?_, inserted, entered⟩, ?_⟩
  · exact ⟨balance, paid, rfl⟩
  have sold : numbers.find number.id =
      some { number with status := if permanent then .permanent else .leased } := by
    rw [numbers_eq, Function.update_self]
  unfold replayPurchase
  dsimp only
  rcases term with ⟨rfl, rfl⟩ | ⟨rfl, m, rfl, rfl⟩ <;>
    simp [throwIf, orThrow, held, sold, bind, Except.bind, pure, Except.pure]

theorem switchAnew_ok {lease : FancyNumberLease} {key : OrderKey}
    (sound : Sound casing db) (found : (db.market casing).lease lease.id = some lease)
    (h : db.switchAnew casing lease target key expectedUnitPrice minted = .ok (db', result)) :
    Sound casing db' ∧ Follows db db' ∧ ∃ order, Charged db db' lease.userID key order ∧
      db'.replaySwitch casing target (.switch target lease.userID lease.id) order = .ok result := by
  unfold switchAnew at h
  obtain ⟨user, owner, h⟩ := bind_ok h
  obtain ⟨number, held, h⟩ := bind_ok h
  obtain ⟨_, -, h⟩ := bind_ok h
  obtain ⟨_, permanent, h⟩ := bind_ok h
  obtain ⟨_, -, h⟩ := bind_ok h
  obtain ⟨⟨listed, purchasable⟩, resolved, h⟩ := bind_ok h
  obtain ⟨targetNumber, available, h⟩ := bind_ok h
  obtain ⟨⟨wallets, balance⟩, paid, h⟩ := bind_ok h
  obtain ⟨numbers, claimed, h⟩ := bind_ok h
  obtain ⟨released, left, h⟩ := bind_ok h
  obtain ⟨assigned, taken, h⟩ := bind_ok h
  obtain ⟨vacated, returned, h⟩ := bind_ok h
  obtain ⟨leases, moved, h⟩ := bind_ok h
  obtain ⟨renamed, called, h⟩ := bind_ok h
  obtain ⟨recorded, ordered, h⟩ := bind_ok h
  cases h
  have owner := orThrow_ok owner
  have held := orThrow_ok held
  have user_id : user.id = lease.userID := Table.find_key owner
  have term : lease.permanent := by
    have permanent := throwIf_ok permanent
    simp only [Bool.or_eq_false_iff, Option.isNone_eq_false_iff, Option.isSome_eq_false_iff,
      Option.isNone_iff_eq_none] at permanent
    exact permanent.1
  have purchasable := orThrow_ok available
  rw [Option.filter_eq_some_iff] at purchasable
  obtain ⟨rfl, -⟩ := purchasable
  obtain ⟨lease_found, active⟩ := market_lease.mp found
  obtain ⟨sound', stored, ⟨new, row, unclaimed⟩, listed_kept, identifiers, inventory, rfl⟩ :=
    resolvePurchasableTarget_ok sound resolved
  have held := listed_kept _ _ held
  obtain ⟨n, there, -, numbers_eq⟩ := Table.updateOne_update (orThrow_ok claimed) fun _ => rfl
  obtain rfl : targetNumber = n := Option.some.inj (stored.symm.trans there)
  obtain ⟨old, before, own, released_eq⟩ := Table.updateOne_update (orThrow_ok left) fun _ => rfl
  obtain ⟨new', there', -, assigned_eq⟩ := Table.updateOne_update (orThrow_ok taken) fun _ => rfl
  have own : old.currentUserID = some lease.userID := by simpa using own
  have folds := (sound'.market.listed _ _ _ (market_number casing stored)).1
  have number_id : number.id = lease.fancyNumberID := Table.find_key held
  have listed := market_number casing held
  have apart : targetNumber.value ≠ number.value := by
    intro same
    rw [same] at row
    rw [row] at before
    cases before
    rw [(AccountIdentifier.unclaimed unclaimed).1] at own
    cases own
  have other : lease.fancyNumberID ≠ targetNumber.id := by
    intro same
    rw [same, stored] at held
    cases held
    exact apart rfl
  rw [released_eq, Function.update_of_ne apart, row] at there'
  cases there'
  obtain ⟨n, vacatedNumbers, status, found', -, vacant, rfl, vacated_eq⟩ :=
    releaseFancyNumberInventory_ok returned
  obtain ⟨l, here, -, leases_eq⟩ := Table.updateOne_update (orThrow_ok moved) fun _ => rfl
  obtain rfl : lease = l := Option.some.inj (lease_found.symm.trans here)
  obtain rfl : number = n := by
    rw [number_id, numbers_eq, Function.update_of_ne other] at found'
    exact Option.some.inj (held.symm.trans found')
  have account := (sound'.market.tenant found listed).1
  obtain ⟨u, owner', called'⟩ := Option.map_eq_some_iff.mp account
  obtain rfl : user = u := Option.some.inj (owner.symm.trans owner')
  let u' : User :=
    { user with
      accountId := targetNumber.value
      fancyNumber := true
      fancyNumberExpiresAt := none
      fancyNumberPermanent := true }
  let written : Db :=
    { db with
      numbers := vacatedNumbers, identifiers := assigned, wallets := wallets, leases := leases }
  have assignedAt : ∀ v, assigned.find v =
      if v = targetNumber.value then some { new with currentUserID := some lease.userID }
      else if v = number.value then some { old with currentUserID := none }
      else identifiers.find v := by
    intro v
    rw [assigned_eq, released_eq, Function.update_apply, Function.update_apply]
  have renamed' : written.updateUser casing user u' =
      .ok { written with users := written.users.put u' } := by
    apply updateUser_current
    · simp only [fold, u', folds, sound.upper _ user owner]
    · exact sound.market.folded _ _ (market_account casing owner)
    · rfl
    · exact called' ▸ apart
    · exact (assignedAt targetNumber.value).trans (if_pos rfl)
    · rw [← user_id]
    · right
      rw [called', Option.isSome_iff_ne_none]
      intro absent
      have kept : written.numbers.find number.id = some { number with status := status } :=
        (congrFun vacated_eq number.id).trans (Function.update_self ..)
      exact numberOf_none.mp absent _ _ kept rfl
  rw [show updateUser _ casing user u' = _ from renamed'] at called
  cases called
  have id' : u'.id = lease.userID := user_id
  have switched := sound'.market.move found term listed before
    (market_number casing stored) row unclaimed vacant
  have same : ({ written with users := written.users.put u' } : Db).market casing =
      (({ db with identifiers := identifiers, numbers := inventory } : Db).market casing).move
        lease.id lease number.value targetNumber.value old new targetNumber.id status := by
    have stays : Option.filter (·.active) (some { lease with fancyNumberID := targetNumber.id }) =
        some { lease with fancyNumberID := targetNumber.id } :=
      Option.filter_eq_some_iff.mpr ⟨rfl, active⟩
    refine (market_put (show written.users.find u'.id = some user from id'.symm ▸ owner) rfl).trans ?_
    simp only [market, Market.move, written, id', vacated_eq, numbers_eq, assigned_eq, released_eq,
      leases_eq, number_id, Function.comp_update, Option.map_some, stays,
      Function.update_comm other.symm]
    rfl
  have written_sound : Sound casing { written with users := written.users.put u' } :=
    ⟨same ▸ switched, sound.upper_put (show db.users.find u'.id = some user from id' ▸ owner) rfl⟩
  refine ⟨written_sound.recordOrder ordered, ?_⟩
  obtain ⟨orders, coinTransactions, inserted, rfl, entered⟩ := recordOrder_ok ordered
  have follows : Follows db { written with
      users := written.users.put u', orders := orders, coinTransactions := coinTransactions } := by
    constructor
    · intro nid n found
      obtain ⟨n', found', value⟩ :=
        value_update numbers_eq stored rfl nid n (listed_kept nid n found)
      have still : numbers.find number.id = some number := by
        rw [number_id, numbers_eq, Function.update_of_ne other, held]
      obtain ⟨n'', found'', value'⟩ := value_update vacated_eq still rfl nid n' found'
      exact ⟨n'', found'', value'.trans value⟩
    · intro lid l' found'
      exact Or.inl (lease_update leases_eq lease_found rfl rfl lid l' found')
    · exact permanent_update leases_eq lease_found fun active permanent =>
        ⟨active, permanent, rfl⟩
  refine ⟨follows, ?_⟩
  refine ⟨_, ⟨rfl, rfl, ?_, inserted, entered⟩, ?_⟩
  · exact ⟨balance, paid, rfl⟩
  have sold : vacatedNumbers.find targetNumber.id = some { targetNumber with status := .permanent } := by
    rw [vacated_eq, number_id, Function.update_of_ne (Ne.symm other), numbers_eq,
      Function.update_self]
  unfold replaySwitch
  simp [throwIf, orThrow, written, sold, bind, Except.bind, pure, Except.pure]

/-- A write of a user that leaves the account and the code alone. -/
theorem market_put_same (found : db.users.find u'.id = some u)
    (account : u'.accountId = u.accountId) (code : u'.inviteCode = u.inviteCode) :
    ({ db with users := db.users.put u' } : Db).market casing = db.market casing := by
  rw [market_put found code, account, Function.update_eq_self_iff.mpr]
  simp [market, found]

theorem renewAnew_ok {lease : FancyNumberLease} {months : Nat} {key : OrderKey} {now : Time}
    (sound : Sound casing db) (found : (db.market casing).lease lease.id = some lease)
    (h : db.renewAnew lease months key now expectedUnitPrice minted = .ok (db', result)) :
    Sound casing db' ∧ Follows db db' ∧ ∃ order, Charged db db' lease.userID key order ∧
      db'.replayRenewal (.renewal lease.userID lease.id months) order = .ok result := by
  unfold renewAnew at h
  obtain ⟨number, held, h⟩ := bind_ok h
  obtain ⟨_, -, h⟩ := bind_ok h
  obtain ⟨until', timed, h⟩ := bind_ok h
  obtain ⟨_, -, h⟩ := bind_ok h
  obtain ⟨⟨wallets, balance⟩, paid, h⟩ := bind_ok h
  obtain ⟨leases, extended, h⟩ := bind_ok h
  obtain ⟨user, owner, h⟩ := bind_ok h
  obtain ⟨recorded, ordered, h⟩ := bind_ok h
  cases h
  have held := orThrow_ok held
  have owner := orThrow_ok owner
  have timed := orThrow_ok timed
  simp only [Option.filter_eq_some_iff, Option.isNone_iff_eq_none] at timed
  have user_id : user.id = lease.userID := Table.find_key owner
  obtain ⟨lease_found, active⟩ := market_lease.mp found
  obtain ⟨l, here, -, leases_eq⟩ := Table.updateOne_update (orThrow_ok extended) fun _ => rfl
  obtain rfl : lease = l := Option.some.inj (lease_found.symm.trans here)
  let lease' : FancyNumberLease :=
    { lease with expiresAt := some (addUtcCalendarMonths until' months) }
  let user' : User :=
    { user with fancyNumberExpiresAt := some (addUtcCalendarMonths until' months) }
  let written : Db := { db with wallets := wallets, leases := leases }
  have stays : Option.filter (·.active) (some lease') = some lease' :=
    Option.filter_eq_some_iff.mpr ⟨rfl, active⟩
  have term : lease.timed := by
    rw [FancyNumberLease.timed, timed.1]
    exact ⟨rfl, timed.2⟩
  have restore : lease.restoreAccountId.isSome := by
    rcases sound.market.terms _ _ found with term | permanent
    · exact term.2
    · exact absurd permanent (FancyNumberLease.not_both term)
  have listed := market_number casing held
  have leased : number.status = .leased :=
    (sound.market.leased _ _ _ listed).mpr ⟨_, _, found, rfl, term⟩
  have amended := sound.market.amend lease' .leased found rfl rfl rfl listed
    (Or.inl ⟨⟨rfl, timed.2⟩, restore, rfl⟩)
  have owner' : db.users.find user'.id = some user := by
    rw [show user'.id = lease.userID from user_id, owner]
  have same : ({ written with users := written.users.put user' } : Db).market casing =
      (db.market casing).amend lease.id lease' number.value .leased := by
    have unchanged : Function.update (db.market casing).number lease.fancyNumberID
        (some (number.value, .leased)) = (db.market casing).number := by
      rw [Function.update_eq_self_iff, listed, leased]
    refine (market_put_same (show written.users.find user'.id = some user from owner') rfl rfl).trans ?_
    simp only [Market.amend, lease', unchanged]
    simp only [market, written, leases_eq, Function.comp_update]
    exact congrArg (fun x => Market.mk _ _ _ _ (Function.update _ _ x)) stays
  have renewed : Sound casing { written with users := written.users.put user' } :=
    ⟨same ▸ amended, sound.upper_put owner' rfl⟩
  refine ⟨renewed.recordOrder ordered, ?_⟩
  obtain ⟨orders, coinTransactions, inserted, rfl, entered⟩ := recordOrder_ok ordered
  have follows : Follows db { written with
      users := written.users.put user', orders := orders, coinTransactions := coinTransactions } :=
    ⟨fun _ n found => ⟨n, found, rfl⟩,
      fun lid l' found => Or.inl (lease_update leases_eq lease_found rfl rfl lid l' found),
      permanent_update leases_eq lease_found fun _ permanent =>
        absurd permanent (FancyNumberLease.not_both term)⟩
  refine ⟨follows, ?_⟩
  refine ⟨_, ⟨rfl, rfl, ?_, inserted, entered⟩, ?_⟩
  · exact ⟨balance, paid, rfl⟩
  have number_id : number.id = lease.fancyNumberID := Table.find_key held
  unfold replayRenewal
  simp [throwIf, orThrow, number_id, held, renewalResult, bind, Except.bind, pure, Except.pure]

end Db

end CircleBackend.Fancy
