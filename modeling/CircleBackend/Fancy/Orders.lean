import CircleBackend.Fancy.Consistency
import CircleBackend.Library.Ledger

/-!
# One order for a key

Money leaves a wallet only with a new order, and an order stays as it was written. What the
call that wrote it was answered, every later call of the same request is answered; a call of
another request fails. Neither pays.
-/

namespace CircleBackend.Fancy

open Library
open Session (UserId UserStatus)

/-- What a client asks for under its key. -/
inductive Request
  | purchase (target : FancyNumberTarget) (months : Option Nat)
  | switchPermanent (target : FancyNumberTarget)
  | renew (months : Nat)

/-- Whether the order was written for the request. -/
def FancyNumberOrder.isFor (order : FancyNumberOrder) (userId : UserId) : Request → Prop
  | .purchase target months =>
    order.requestFingerprint =
      .purchase target userId (if order.newExpiresAt.isNone then none else months)
  | .switchPermanent target =>
    ∃ lid, order.requestFingerprint = .switch target userId lid
  | .renew months => ∃ lid, order.requestFingerprint = .renewal userId lid months

def FancyNumberOrder.transaction (order : FancyNumberOrder) : Option CoinTransaction :=
  if order.totalPrice = 0 then none
  else some
    { idempotencyKey := order.idempotencyKey
      userID := order.userID
      amount := -order.totalPrice
      balance := order.walletBalanceAfter.getD 0
      relatedID := order.id }

/-- The points an act gives a user. -/
def Act.credits (userId : UserId) : Act → Int
  | .credit u points => if u = userId then points else 0
  | _ => 0

def credited (acts : List Act) (userId : UserId) : Int := (acts.map (Act.credits userId)).sum

namespace Db

variable {casing : Casing} {db db' : Db}

/-- The transaction of a call. -/
def transact (db : Db) (casing : Casing) (userId : UserId) (key : OrderKey) (now : Time)
    (expectedUnitPrice : Option Nat) (minted : Minted) :
    Request → Except Fault (Db × FancyNumberPurchaseResult)
  | .purchase target months =>
    db.purchaseTarget casing userId target months key now expectedUnitPrice minted
  | .switchPermanent target =>
    db.switchPermanentTarget casing userId target key expectedUnitPrice minted
  | .renew months => db.renew userId months key now expectedUnitPrice minted

/-- A call that begins to look its key up in this state: `renew` does before its transaction. -/
def answer (db : Db) (casing : Casing) (userId : UserId) (key : OrderKey) (now : Time)
    (expectedUnitPrice : Option Nat) (minted : Minted) (request : Request) :
    Except Fault (Db × FancyNumberPurchaseResult) :=
  match request with
  | .renew months => do
    match ← db.renewalLookup userId months key with
    | some result => return (db, result)
    | none => db.renew userId months key now expectedUnitPrice minted
  | request => db.transact casing userId key now expectedUnitPrice minted request

def balanceOf (wallets : Table Wallet UserId (·.userID)) (userId : UserId) : Int :=
  (wallets.find userId).elim 0 fun w => w.balance

/-- What the orders of a user came to. -/
def spent (db : Db) (userId : UserId) : Int :=
  db.orders.sum fun order => if order.userID = userId then order.totalPrice else 0

/-! ## The books -/

variable {uid : UserId} {key : OrderKey} {order : FancyNumberOrder} {act : Act}
variable {acts : List Act} {result : FancyNumberPurchaseResult} {target : FancyNumberTarget}
variable {expectedUnitPrice : Option Nat} {minted : Minted}

theorem debit_ok {price balance : Nat} {wallets : Table Wallet UserId (·.userID)}
    (h : db.debit uid price = .ok (wallets, balance)) (v : UserId) :
    balanceOf wallets v + (if uid = v then price else 0) = balanceOf db.wallets v := by
  have created : ∀ v, balanceOf (db.wallets.upsert ⟨uid, 0⟩ id fun _ => rfl) v =
      balanceOf db.wallets v := by
    intro v
    rw [balanceOf, Table.find_upsert]
    split
    · rename_i own
      rw [balanceOf]
      cases db.wallets.find v <;> rfl
    · rfl
  unfold debit at h
  dsimp only at h
  split at h
  · rename_i free
    cases h
    rw [created, free]
    simp
  · obtain ⟨paid, taken, h⟩ := bind_ok h
    cases h
    obtain ⟨w, found, enough, rows⟩ := Table.updateOne_update (orThrow_ok taken) fun _ => rfl
    have enough : price ≤ w.balance := of_decide_eq_true enough
    rw [← created v, balanceOf, balanceOf, rows]
    by_cases own : uid = v
    · rw [if_pos own, ← own, Function.update_self, found]
      simp only [Option.elim_some]
      omega
    · rw [if_neg own, Function.update_of_ne (Ne.symm own)]
      exact Int.add_zero _

theorem Charged.accounts (charged : Charged db db' uid key order) (v : UserId) :
    balanceOf db'.wallets v + db'.spent v = balanceOf db.wallets v + db.spent v := by
  obtain ⟨balance, paid, -⟩ := charged.paid
  have wallet := debit_ok paid v
  rw [spent, spent, Table.sum_insert charged.recorded, charged.user]
  split at wallet
  · rename_i own
    rw [if_pos own]
    omega
  · rename_i other
    rw [if_neg other]
    omega

theorem Unpaid.accounts (unpaid : Unpaid db db') (v : UserId) :
    balanceOf db'.wallets v + db'.spent v = balanceOf db.wallets v + db.spent v := by
  rw [unpaid.wallets, spent, spent]
  cases unpaid.orders with
  | inl same => rw [same]
  | inr recorded =>
    obtain ⟨order, lid, -, free, inserted⟩ := recorded
    rw [Table.sum_insert inserted, free]
    simp

theorem next_accounts (settles : Settles db db' act) (v : UserId) :
    balanceOf db'.wallets v + db'.spent v =
      balanceOf db.wallets v + db.spent v + act.credits v := by
  cases act with
  | purchase | switchPermanent | renew =>
    refine Eq.trans ?_ (Int.add_zero _).symm
    cases settles with
    | inl same => rw [same]
    | inr charged =>
      obtain ⟨-, order, charged⟩ := charged
      exact charged.accounts v
  | credit uid points =>
    obtain ⟨orders, -, wallets⟩ := settles
    have added : balanceOf db'.wallets v =
        balanceOf db.wallets v + Act.credits v (.credit uid points) := by
      rw [balanceOf, wallets, Table.find_upsert, Act.credits]
      split
      · rw [balanceOf]
        cases db.wallets.find v with
        | none => simp
        | some w => simp
      · rw [balanceOf]
        omega
    rw [added, spent, orders, ← spent]
    omega
  | _ => exact (Unpaid.accounts settles v).trans (Int.add_zero _).symm

/-- What a user was credited is in the wallet, or was paid for the orders. -/
theorem run_accounts (run : Run (Step casing) empty acts db) (v : UserId) :
    balanceOf db.wallets v + db.spent v = credited acts v := by
  induction run with
  | nil => rfl
  | snoc run step ih =>
    rw [next_accounts (next_ok (run_sound run) step).2.2 v, ih, credited, credited]
    simp

/-- The transaction of a key is the one of its order. -/
def Entered (db : Db) : Prop :=
  ∀ key, db.coinTransactions.find key = (db.orders.find key).bind FancyNumberOrder.transaction

theorem Entered.insert (entered : Entered db) (recorded : db.orders.insert order = some db'.orders)
    (paid : order.totalPrice = 0 ∧ db'.coinTransactions = db.coinTransactions ∨
      order.totalPrice ≠ 0 ∧ db.coinTransactions.insert
        { idempotencyKey := order.idempotencyKey
          userID := order.userID
          amount := -order.totalPrice
          balance := order.walletBalanceAfter.getD 0
          relatedID := order.id } = some db'.coinTransactions) : Entered db' := by
  intro key
  rw [Table.find_insert recorded]
  cases paid with
  | inl free =>
    rw [free.2, entered key]
    split
    · rename_i own
      rw [← own, Table.insert_fresh recorded]
      simp [FancyNumberOrder.transaction, free.1]
    · rfl
  | inr bought =>
    rw [Table.find_insert bought.2]
    split
    · simp [FancyNumberOrder.transaction, bought.1]
    · exact entered key

theorem Entered.of_same (entered : Entered db) (orders : db'.orders = db.orders)
    (coinTransactions : db'.coinTransactions = db.coinTransactions) : Entered db' := by
  intro key
  rw [orders, coinTransactions, entered key]

theorem next_entered (entered : Entered db) (settles : Settles db db' act) : Entered db' := by
  have unpaid : Unpaid db db' → Entered db' := by
    intro unpaid
    cases unpaid.orders with
    | inl same => exact entered.of_same same unpaid.coinTransactions
    | inr recorded =>
      obtain ⟨order, lid, -, free, inserted⟩ := recorded
      exact entered.insert inserted (.inl ⟨free, unpaid.coinTransactions⟩)
  cases act with
  | purchase | switchPermanent | renew =>
    cases settles with
    | inl same => exact same ▸ entered
    | inr charged =>
      obtain ⟨-, order, charged⟩ := charged
      exact entered.insert charged.recorded charged.entered
  | credit => exact entered.of_same settles.1 settles.2.1
  | _ => exact unpaid settles

theorem run_entered (run : Run (Step casing) empty acts db) : Entered db := by
  induction run with
  | nil => exact fun key => rfl
  | snoc run step ih => exact next_entered ih (next_ok (run_sound run) step).2.2

/-! ## What stays -/

/-- Orders stay, and with them what a replay reads. -/
structure Later (db db' : Db) : Prop where
  orders : ∀ key order, db.orders.find key = some order → db'.orders.find key = some order
  values : ∀ nid n, db.numbers.find nid = some n →
    ∃ n', db'.numbers.find nid = some n' ∧ n'.value = n.value
  permanent : ∀ lid l, db.leases.find lid = some l → l.active = true → l.permanent →
    ∃ l', db'.leases.find lid = some l' ∧ l'.active = true ∧ l'.permanent ∧
      l'.userID = l.userID

theorem Later.refl (db : Db) : Later db db :=
  ⟨fun _ _ found => found, fun _ n found => ⟨n, found, rfl⟩,
    fun _ l found active permanent => ⟨l, found, active, permanent, rfl⟩⟩

theorem Later.trans {db'' : Db} (first : Later db db') (second : Later db' db'') :
    Later db db'' := by
  constructor
  · intro key order found
    exact second.orders key order (first.orders key order found)
  · intro nid n found
    obtain ⟨n', found', value⟩ := first.values nid n found
    obtain ⟨n'', found'', value'⟩ := second.values nid n' found'
    exact ⟨n'', found'', value'.trans value⟩
  · intro lid l found active permanent
    obtain ⟨l', found', active', permanent', user⟩ := first.permanent lid l found active permanent
    obtain ⟨l'', found'', active'', permanent'', user'⟩ :=
      second.permanent lid l' found' active' permanent'
    exact ⟨l'', found'', active'', permanent'', user'.trans user⟩

theorem insert_keeps {row : FancyNumberOrder}
    {orders orders' : Table FancyNumberOrder OrderKey (·.idempotencyKey)}
    (inserted : orders.insert row = some orders') (found : orders.find key = some order) :
    orders'.find key = some order := by
  rw [Table.find_insert inserted]
  split
  · rename_i own
    rw [← own, Table.insert_fresh inserted] at found
    cases found
  · exact found

theorem next_orders (settles : Settles db db' act) (found : db.orders.find key = some order) :
    db'.orders.find key = some order := by
  have unpaid : Unpaid db db' → db'.orders.find key = some order := by
    intro unpaid
    cases unpaid.orders with
    | inl same => rw [same, found]
    | inr recorded =>
      obtain ⟨row, lid, -, -, inserted⟩ := recorded
      exact insert_keeps inserted found
  cases act with
  | purchase | switchPermanent | renew =>
    cases settles with
    | inl same => rw [same, found]
    | inr charged =>
      obtain ⟨-, row, charged⟩ := charged
      exact insert_keeps charged.recorded found
  | credit => rw [settles.1, found]
  | _ => exact unpaid settles

theorem next_later (sound : Sound casing db) (step : db.next casing act = some db') :
    Later db db' := by
  obtain ⟨-, follows, settles⟩ := next_ok sound step
  exact ⟨fun key order found => next_orders settles found, follows.values, follows.permanent⟩

theorem run_later (sound : Sound casing db)
    (run : Run (Step casing) db acts db') : Sound casing db' ∧ Later db db' := by
  induction run with
  | nil => exact ⟨sound, .refl db⟩
  | snoc run step ih =>
    obtain ⟨sound', later⟩ := ih
    exact ⟨(next_ok sound' step).1, later.trans (next_later sound' step)⟩

/-! ## The answer of a replay -/

theorem replayPurchase_later {months : Option Nat} (later : Later db db')
    (replayed : db.replayPurchase casing uid target months order = .ok result) :
    db'.replayPurchase casing uid target months order = .ok result := by
  obtain ⟨_, matching, replayed⟩ := bind_ok replayed
  obtain ⟨number, found, replayed⟩ := bind_ok replayed
  obtain ⟨number', found', value⟩ := later.values _ _ (orThrow_ok found)
  rw [replayPurchase, throwIf_of (throwIf_ok matching)]
  dsimp only [bind, Except.bind]
  rw [orThrow_of found']
  dsimp only
  rw [value]
  exact replayed

theorem replaySwitch_later {fingerprint : Fingerprint} (later : Later db db')
    (replayed : db.replaySwitch casing target fingerprint order = .ok result) :
    db'.replaySwitch casing target fingerprint order = .ok result := by
  obtain ⟨_, matching, replayed⟩ := bind_ok replayed
  obtain ⟨number, found, replayed⟩ := bind_ok replayed
  obtain ⟨number', found', value⟩ := later.values _ _ (orThrow_ok found)
  rw [replaySwitch, throwIf_of (throwIf_ok matching)]
  dsimp only [bind, Except.bind]
  rw [orThrow_of found']
  dsimp only
  rw [value]
  exact replayed

theorem renewalLookup_later {months : Nat} {lid : LeaseId} (later : Later db db')
    (replayed : db.replayRenewal (.renewal uid lid months) order = .ok result)
    (stored : db'.orders.find key = some order) :
    db'.renewalLookup uid months key = .ok (some result) := by
  obtain ⟨_, matching, replayed⟩ := bind_ok replayed
  obtain ⟨number, found, replayed⟩ := bind_ok replayed
  obtain ⟨number', found', value⟩ := later.values _ _ (orThrow_ok found)
  have fingerprint : order.requestFingerprint = .renewal uid lid months := by
    simpa using throwIf_ok matching
  have same : renewalResult order number' = result := by
    rw [renewalResult, value]
    exact Except.ok.inj replayed
  rw [renewalLookup, stored]
  dsimp only
  rw [fingerprint]
  dsimp only
  rw [throwIf_of (by simp)]
  dsimp only [bind, Except.bind]
  rw [orThrow_of found']
  dsimp only
  rw [same]
  rfl

theorem Charged.find
    (charged : Charged db db' uid key order) : db'.orders.find key = some order := by
  rw [Table.find_insert charged.recorded, if_pos charged.key]

theorem purchase_again {months : Option Nat} (stored : db.orders.find key = some order)
    (replayed : db.replayPurchase casing uid target months order = .ok result)
    (active : ∃ u, db.users.find uid = some u ∧ u.status = .active) (now : Time)
    (expectedUnitPrice : Option Nat) (minted : Minted) :
    db.purchaseTarget casing uid target months key now expectedUnitPrice minted =
      .ok (db, result) := by
  obtain ⟨u, found, status⟩ := active
  have owner : (db.users.find uid).filter (·.status = .active) = some u := by
    simp [found, status]
  rw [purchaseTarget, orThrow_of owner]
  dsimp only [bind, Except.bind]
  rw [stored]
  dsimp only
  rw [replayed]
  rfl

/-- Only a permanent lease is switched. -/
theorem switchAnew_term {lease : FancyNumberLease}
    (h : db.switchAnew casing lease target key expectedUnitPrice minted = .ok (db', result)) :
    lease.permanent := by
  obtain ⟨user, -, h⟩ := bind_ok h
  obtain ⟨number, -, h⟩ := bind_ok h
  obtain ⟨_, -, h⟩ := bind_ok h
  obtain ⟨_, permanent, h⟩ := bind_ok h
  have permanent := throwIf_ok permanent
  simp only [Bool.or_eq_false_iff, Option.isNone_eq_false_iff, Option.isSome_eq_false_iff,
    Option.isNone_iff_eq_none] at permanent
  exact permanent.1

theorem activeLease_of (sound : Sound casing db) {lid : LeaseId}
    {l : FancyNumberLease} (found : db.leases.find lid = some l) (active : l.active = true)
    (user : l.userID = uid) : ∃ k, db.activeLease uid = some k ∧ k.id = lid := by
  have lease : (db.market casing).lease lid = some l := market_lease.mpr ⟨found, active⟩
  cases chosen : db.activeLease uid with
  | none => exact absurd user (activeLease_none casing chosen lid l lease)
  | some k =>
    obtain ⟨lease', user'⟩ := activeLease_some casing chosen
    exact ⟨k, rfl, sound.market.oneLease _ _ _ _ lease' lease (user'.trans user.symm)⟩

theorem switch_again {later : Db} (sound : Sound casing db) (absent : db.orders.find key = none)
    (h : db.switchPermanentTarget casing uid target key expectedUnitPrice minted =
      .ok (db', result)) (sound' : Sound casing later) (kept : Later db' later)
    (expectedUnitPrice' : Option Nat) (minted' : Minted) :
    later.switchPermanentTarget casing uid target key expectedUnitPrice' minted' =
      .ok (later, result) := by
  obtain ⟨lease, active, recorded | anew⟩ := switchPermanentTarget_ok sound h
  · obtain ⟨order, stored, -, -⟩ := recorded
    rw [absent] at stored
    cases stored
  · obtain ⟨-, -, follows, order, charged, replayed⟩ := anew
    obtain ⟨found, user⟩ := activeLease_some casing active
    obtain ⟨stored, running⟩ := market_lease.mp found
    have term : lease.permanent := by
      obtain ⟨lease', active', switched⟩ := bind_ok h
      have same := orThrow_ok active'
      rw [active] at same
      cases same
      rw [absent] at switched
      exact switchAnew_term switched
    obtain ⟨l', found', active', permanent', user'⟩ := follows.permanent _ _ stored running term
    obtain ⟨l'', found'', active'', -, user''⟩ := kept.permanent _ l' found' active' permanent'
    obtain ⟨k, chosen, id⟩ :=
      activeLease_of sound' found'' active'' (user''.trans (user'.trans user))
    have again := replaySwitch_later kept replayed
    rw [switchPermanentTarget, orThrow_of chosen]
    dsimp only [bind, Except.bind]
    rw [kept.orders key order charged.find, id]
    dsimp only
    rw [again]
    rfl

/-- A later call of the same request gets the same answer and commits nothing. -/
theorem answer_again {request : Request} {now : Time}
    {later : Db} (sound : Sound casing db) (absent : db.orders.find key = none)
    (h : db.transact casing uid key now expectedUnitPrice minted request = .ok (db', result))
    (sound' : Sound casing later) (kept : Later db' later)
    (active : ∃ u, later.users.find uid = some u ∧ u.status = .active) (now' : Time)
    (expectedUnitPrice' : Option Nat) (minted' : Minted) :
    later.answer casing uid key now' expectedUnitPrice' minted' request = .ok (later, result) := by
  have fresh {order : FancyNumberOrder} (stored : db.orders.find key = some order) : False := by
    rw [absent] at stored
    cases stored
  cases request with
  | purchase target months =>
    cases purchaseTarget_ok sound h with
    | inl recorded =>
      obtain ⟨order, stored, -⟩ := recorded
      exact (fresh stored).elim
    | inr anew =>
      obtain ⟨-, -, -, order, charged, replayed⟩ := anew
      exact purchase_again (kept.orders key order charged.find)
        (replayPurchase_later kept replayed) active now' expectedUnitPrice' minted'
  | switchPermanent target =>
    exact switch_again sound absent h sound' kept expectedUnitPrice' minted'
  | renew months =>
    obtain ⟨lease, -, recorded | anew⟩ := renew_ok sound h
    · obtain ⟨order, stored, -⟩ := recorded
      exact (fresh stored).elim
    · obtain ⟨-, -, -, order, charged, replayed⟩ := anew
      have found := renewalLookup_later kept replayed (kept.orders key order charged.find)
      rw [answer]
      dsimp only [bind, Except.bind]
      rw [found]
      rfl

/-! ## Another call under the key of an order -/

/-- The number of an order that a client asked for is there. -/
def Known (db : Db) : Prop :=
  ∀ u k order, db.orders.find (.client u k) = some order →
    ∃ n, db.numbers.find order.fancyNumberID = some n

theorem Known.insert (known : Known db) (values : ∀ nid n, db.numbers.find nid = some n →
      ∃ n', db'.numbers.find nid = some n' ∧ n'.value = n.value)
    (recorded : db.orders.insert order = some db'.orders) (own : order.idempotencyKey = key)
    (new : (∃ lid, key = .superConversion lid) ∨
      ∃ n, db'.numbers.find order.fancyNumberID = some n) : Known db' := by
  intro u k row found
  rw [Table.find_insert recorded] at found
  split at found
  · rename_i here
    cases found
    cases new with
    | inl conversion =>
      obtain ⟨lid, conversion⟩ := conversion
      rw [own, conversion] at here
      cases here
    | inr there => exact there
  · obtain ⟨n, stored⟩ := known u k row found
    obtain ⟨n', stored', -⟩ := values _ n stored
    exact ⟨n', stored'⟩

theorem Known.of_same (known : Known db) (values : ∀ nid n, db.numbers.find nid = some n →
      ∃ n', db'.numbers.find nid = some n' ∧ n'.value = n.value) (orders : db'.orders = db.orders) :
    Known db' := by
  intro u k row found
  rw [orders] at found
  obtain ⟨n, stored⟩ := known u k row found
  obtain ⟨n', stored', -⟩ := values _ n stored
  exact ⟨n', stored'⟩

theorem Known.unpaid (known : Known db) (follows : Follows db db') (unpaid : Unpaid db db') :
    Known db' := by
  cases unpaid.orders with
  | inl same => exact known.of_same follows.values same
  | inr recorded =>
    obtain ⟨order, lid, own, -, inserted⟩ := recorded
    exact known.insert follows.values inserted own (.inl ⟨lid, rfl⟩)

theorem next_known (sound : Sound casing db) (known : Known db)
    (step : db.next casing act = some db') : Known db' := by
  obtain ⟨-, follows, settles⟩ := next_ok sound step
  have h : db.commit casing act = .ok db' := toOption_some step
  cases act with
  | purchase userId target months key now expectedUnitPrice minted =>
    obtain ⟨⟨_, result⟩, committed, rfl⟩ := map_ok h
    cases purchaseTarget_ok sound committed with
    | inl recorded =>
      obtain ⟨-, -, same, -⟩ := recorded
      exact same ▸ known
    | inr anew =>
      obtain ⟨-, -, -, order, charged, replayed⟩ := anew
      obtain ⟨_, -, replayed⟩ := bind_ok replayed
      obtain ⟨number, found, -⟩ := bind_ok replayed
      exact known.insert follows.values charged.recorded charged.key
        (.inr ⟨number, orThrow_ok found⟩)
  | switchPermanent userId target key expectedUnitPrice minted =>
    obtain ⟨⟨_, result⟩, committed, rfl⟩ := map_ok h
    obtain ⟨lease, -, recorded | anew⟩ := switchPermanentTarget_ok sound committed
    · obtain ⟨-, -, same, -⟩ := recorded
      exact same ▸ known
    · obtain ⟨-, -, -, order, charged, replayed⟩ := anew
      obtain ⟨_, -, replayed⟩ := bind_ok replayed
      obtain ⟨number, found, -⟩ := bind_ok replayed
      exact known.insert follows.values charged.recorded charged.key
        (.inr ⟨number, orThrow_ok found⟩)
  | renew userId months key now expectedUnitPrice minted =>
    obtain ⟨⟨_, result⟩, committed, rfl⟩ := map_ok h
    obtain ⟨lease, -, recorded | anew⟩ := renew_ok sound committed
    · obtain ⟨-, -, same, -⟩ := recorded
      exact same ▸ known
    · obtain ⟨-, -, -, order, charged, replayed⟩ := anew
      obtain ⟨_, -, replayed⟩ := bind_ok replayed
      obtain ⟨number, found, -⟩ := bind_ok replayed
      exact known.insert follows.values charged.recorded charged.key
        (.inr ⟨number, orThrow_ok found⟩)
  | credit => exact known.of_same follows.values settles.1
  | _ => exact known.unpaid follows settles

theorem run_known (run : Run (Step casing) empty acts db) : Known db := by
  induction run with
  | nil =>
    intro u k order found
    cases found
  | snoc run step ih => exact next_known (run_sound run) ih step

/-- What was recorded in the order. -/
def Recorded (order : FancyNumberOrder) (result : FancyNumberPurchaseResult) : Prop :=
  result.orderId = order.id ∧ result.unitPrice = order.unitPrice ∧
    result.totalPrice = order.totalPrice ∧
    result.walletBalanceAfter = order.walletBalanceAfter.getD 0

/-- The answers under the key of an order: what it recorded, to a request it is for; else a
refusal, of the key or of the caller before the key is looked up. -/
inductive Answers (db : Db) (order : FancyNumberOrder) (uid : UserId) (request : Request) :
    Except Fault (Db × FancyNumberPurchaseResult) → Prop
  | recorded {result : FancyNumberPurchaseResult} : order.isFor uid request →
      Recorded order result → Answers db order uid request (.ok (db, result))
  | conflict : Answers db order uid request (.error idempotencyConflict)
  | inactive : (∃ target months, request = .purchase target months) →
      Answers db order uid request (.error (.raised "User not found"))
  | unleased : db.activeLease uid = none → Answers db order uid request
      (.error (.refused "当前没有可更换的永久靓号" .leaseNotFound))
  | unrenewed : db.activeLease uid = none → Answers db order uid request
      (.error (.refused "当前没有可续费的靓号" .leaseNotFound))

section

variable {uid : UserId} {key : OrderKey} {order : FancyNumberOrder} {number : FancyNumber}

theorem purchase_answers (stored : db.orders.find key = some order)
    (there : db.numbers.find order.fancyNumberID = some number) (target : FancyNumberTarget)
    (months : Option Nat) (now : Time) (expectedUnitPrice : Option Nat) (minted : Minted) :
    Answers db order uid (.purchase target months)
      (db.purchaseTarget casing uid target months key now expectedUnitPrice minted) := by
  unfold purchaseTarget
  cases owner : (db.users.find uid).filter (·.status = .active) with
  | none => exact .inactive ⟨target, months, rfl⟩
  | some user =>
    rw [orThrow_of rfl]
    dsimp only [bind, Except.bind]
    rw [stored]
    dsimp only
    unfold replayPurchase
    dsimp only
    by_cases fits : order.requestFingerprint =
        .purchase target uid (if order.newExpiresAt.isNone then none else months)
    · rw [throwIf_of (by simp [fits])]
      dsimp only [bind, Except.bind]
      rw [orThrow_of there]
      exact .recorded fits ⟨rfl, rfl, rfl, rfl⟩
    · have mismatch : decide (order.requestFingerprint ≠
          .purchase target uid (if order.newExpiresAt.isNone then none else months)) = true :=
        decide_eq_true fits
      rw [mismatch]
      exact .conflict

theorem switch_answers (stored : db.orders.find key = some order)
    (there : db.numbers.find order.fancyNumberID = some number) (target : FancyNumberTarget)
    (expectedUnitPrice : Option Nat) (minted : Minted) :
    Answers db order uid (.switchPermanent target)
      (db.switchPermanentTarget casing uid target key expectedUnitPrice minted) := by
  unfold switchPermanentTarget
  cases active : db.activeLease uid with
  | none => exact .unleased active
  | some lease =>
    rw [orThrow_of rfl]
    dsimp only [bind, Except.bind]
    rw [stored]
    dsimp only
    unfold replaySwitch
    by_cases fits : order.requestFingerprint = .switch target uid lease.id
    · rw [throwIf_of (by simp [fits])]
      dsimp only [bind, Except.bind]
      rw [orThrow_of there]
      exact .recorded ⟨lease.id, fits⟩ ⟨rfl, rfl, rfl, rfl⟩
    · have mismatch : decide (order.requestFingerprint ≠ .switch target uid lease.id) = true :=
        decide_eq_true fits
      rw [mismatch]
      exact .conflict

theorem renew_answers (stored : db.orders.find key = some order)
    (there : db.numbers.find order.fancyNumberID = some number) (months : Nat) (now : Time)
    (expectedUnitPrice : Option Nat) (minted : Minted) :
    Answers db order uid (.renew months)
      (db.renew uid months key now expectedUnitPrice minted) := by
  unfold renew
  cases active : db.activeLease uid with
  | none => exact .unrenewed active
  | some lease =>
    rw [orThrow_of rfl]
    dsimp only [bind, Except.bind]
    rw [stored]
    dsimp only
    unfold replayRenewal
    by_cases fits : order.requestFingerprint = .renewal uid lease.id months
    · rw [throwIf_of (by simp [fits])]
      dsimp only [bind, Except.bind]
      rw [orThrow_of there]
      exact .recorded ⟨lease.id, fits⟩ ⟨rfl, rfl, rfl, rfl⟩
    · have mismatch : decide (order.requestFingerprint ≠ .renewal uid lease.id months) = true :=
        decide_eq_true fits
      rw [mismatch]
      exact .conflict

theorem lookup_answers (stored : db.orders.find key = some order)
    (there : db.numbers.find order.fancyNumberID = some number) (months : Nat) (now : Time)
    (expectedUnitPrice : Option Nat) (minted : Minted) :
    Answers db order uid (.renew months)
      (db.answer casing uid key now expectedUnitPrice minted (.renew months)) := by
  unfold answer
  dsimp only
  unfold renewalLookup
  rw [stored]
  dsimp only
  cases fingerprint : order.requestFingerprint with
  | renewal user lid recorded =>
    by_cases fits : user = uid ∧ recorded = months
    · obtain ⟨rfl, rfl⟩ := fits
      rw [throwIf_of (by simp)]
      dsimp only [bind, Except.bind]
      rw [orThrow_of there]
      exact .recorded ⟨lid, fingerprint⟩ ⟨rfl, rfl, rfl, rfl⟩
    · have mismatch : (!decide (user = uid ∧ recorded = months)) = true := by simp [fits]
      dsimp only
      rw [mismatch]
      exact .conflict
  | _ => exact .conflict

theorem answer_answers (stored : db.orders.find key = some order)
    (there : db.numbers.find order.fancyNumberID = some number) (request : Request) (now : Time)
    (expectedUnitPrice : Option Nat) (minted : Minted) :
    Answers db order uid request
        (db.answer casing uid key now expectedUnitPrice minted request) ∧
      Answers db order uid request
        (db.transact casing uid key now expectedUnitPrice minted request) := by
  cases request with
  | purchase target months =>
    constructor
    · exact purchase_answers stored there target months now expectedUnitPrice minted
    · exact purchase_answers stored there target months now expectedUnitPrice minted
  | switchPermanent target =>
    constructor
    · exact switch_answers stored there target expectedUnitPrice minted
    · exact switch_answers stored there target expectedUnitPrice minted
  | renew months =>
    exact ⟨lookup_answers stored there months now expectedUnitPrice minted,
      renew_answers stored there months now expectedUnitPrice minted⟩

end

/-! ## What a purchase ends first -/

theorem dueLease_some {now : Time} {lease : FancyNumberLease}
    (due : db.dueLease uid now = some lease) :
    db.leases.find lease.id = some lease ∧ lease.userID = uid := by
  have chosen := List.find?_some due
  simp only [Bool.and_eq_true, decide_eq_true_eq] at chosen
  exact ⟨Table.mem_find (List.mem_of_find?_eq_some due), chosen.1⟩

/-- The first transaction of a purchase pays nothing and ends at most a lease of the caller
that is overdue. -/
structure EndsOwn (casing : Casing) (db : Db) (uid : UserId) (now : Time) (db' : Db) : Prop where
  unpaid : Unpaid db db'
  orders : db'.orders = db.orders
  leases : db' = db ∨ ∃ lease, db.leases.find lease.id = some lease ∧ lease.userID = uid ∧
    lease.overdue now = true ∧ Ended db lease now db'

theorem expireOverdueLeaseForUser_ok (sound : Sound casing db) (uid : UserId) (now : Time) :
    ∃ db' ended, db.expireOverdueLeaseForUser casing uid now = .ok (db', ended) ∧
      EndsOwn casing db uid now db' := by
  unfold expireOverdueLeaseForUser
  cases due : db.dueLease uid now with
  | none => exact ⟨db, false, rfl, .of_same rfl rfl rfl, rfl, .inl rfl⟩
  | some lease =>
    obtain ⟨found, user⟩ := dueLease_some due
    have overdue : lease.overdue now = true := by
      have chosen := List.find?_some due
      simp only [Bool.and_eq_true] at chosen
      exact chosen.2
    obtain ⟨db', expired, -, -, -, ended⟩ := expireLease_due sound found overdue
    have orders : db'.orders = db.orders := by
      obtain ⟨user, r, -, -, shape, -⟩ := ended
      rw [shape]
    exact ⟨db', true, expired, ended.unpaid, orders, .inr ⟨lease, found, user, overdue, ended⟩⟩

/-! ## The law of the keys -/

theorem transact_step {request : Request} {now : Time}
    (h : db.transact casing uid key now expectedUnitPrice minted request = .ok (db', result)) :
    ∃ act, Step casing db act db' := by
  cases request with
  | purchase target months =>
    refine ⟨.purchase uid target months key now expectedUnitPrice minted, ?_⟩
    have h : db.purchaseTarget casing uid target months key now expectedUnitPrice minted =
      .ok (db', result) := h
    rw [Step, next, commit, h]
    rfl
  | switchPermanent target =>
    refine ⟨.switchPermanent uid target key expectedUnitPrice minted, ?_⟩
    have h : db.switchPermanentTarget casing uid target key expectedUnitPrice minted =
      .ok (db', result) := h
    rw [Step, next, commit, h]
    rfl
  | renew months =>
    refine ⟨.renew uid months key now expectedUnitPrice minted, ?_⟩
    have h : db.renew uid months key now expectedUnitPrice minted = .ok (db', result) := h
    rw [Step, next, commit, h]
    rfl

/-- A key is charged once: money leaves a wallet for an order and enters the books with it,
a call of the same request gets the first answer ever after, and any other call under the key
is refused. What a purchase may do before it looks its key up is to end an overdue lease. -/
theorem keys_charge_once {acts : List Act} (run : Run (Step casing) empty acts db) :
    (∀ uid, balanceOf db.wallets uid + db.spent uid = credited acts uid) ∧
    (∀ key, db.coinTransactions.find key =
      (db.orders.find key).bind FancyNumberOrder.transaction) ∧
    (∀ uid request key now expectedUnitPrice minted db' result,
      db.orders.find key = none →
      db.transact casing uid key now expectedUnitPrice minted request = .ok (db', result) →
      ∀ acts' later, Run (Step casing) db' acts' later →
        (∃ u, later.users.find uid = some u ∧ u.status = .active) →
        ∀ now' expectedUnitPrice' minted',
          later.answer casing uid key now' expectedUnitPrice' minted' request =
            .ok (later, result)) ∧
    (∀ uid request u k order now expectedUnitPrice minted,
      db.orders.find (.client u k) = some order →
        Answers db order uid request
            (db.answer casing uid (.client u k) now expectedUnitPrice minted request) ∧
          Answers db order uid request
            (db.transact casing uid (.client u k) now expectedUnitPrice minted request)) ∧
    ∀ uid now, ∃ db' ended, db.expireOverdueLeaseForUser casing uid now = .ok (db', ended) ∧
      EndsOwn casing db uid now db' := by
  have sound := run_sound run
  refine ⟨run_accounts run, run_entered run, ?_, ?_, expireOverdueLeaseForUser_ok sound⟩
  · intro uid request key now expectedUnitPrice minted db' result absent charged acts' later
      run' active now' expectedUnitPrice' minted'
    obtain ⟨act, step⟩ := transact_step charged
    obtain ⟨sound', kept⟩ := run_later (next_ok sound step).1 run'
    exact answer_again sound absent charged sound' kept active now' expectedUnitPrice' minted'
  · intro uid request u k order now expectedUnitPrice minted stored
    obtain ⟨number, there⟩ := run_known run u k order stored
    exact answer_answers stored there request now expectedUnitPrice minted

/-- The two transactions of a purchase call, with nothing in between. -/
def purchaseCall (db : Db) (casing : Casing) (userId : UserId) (target : FancyNumberTarget)
    (months : Option Nat) (key : OrderKey) (now : Time) (expectedUnitPrice : Option Nat)
    (minted : Minted) : Except Fault (Db × FancyNumberPurchaseResult) := do
  let (db, _) ← db.expireOverdueLeaseForUser casing userId now
  db.purchaseTarget casing userId target months key now expectedUnitPrice minted

def sold : Db := (soldActs.foldlM (next .ascii) empty).getD empty

theorem sold_run : Run (Step .ascii) empty soldActs sold := Run.of_foldlM rfl

/-- A purchase that is retried after its term ends the lease. -/
theorem retry_ends_lease :
    ¬ ∀ acts db, Run (Step .ascii) empty acts db →
      ∀ uid target months u k order, db.orders.find (.client u k) = some order →
        order.isFor uid (.purchase target months) →
        (∃ user, db.users.find uid = some user ∧ user.status = .active) →
        ∀ now minted, ∃ result,
          db.purchaseCall .ascii uid target months (.client u k) now none minted =
            .ok (db, result) := by
  intro claim
  obtain ⟨result, same⟩ := claim soldActs sold sold_run 1 (.inventory 7) (some 2) 1 [107] _ rfl rfl
    ⟨_, rfl, rfl⟩ 6000000000 ⟨0, 0, 0⟩
  have ended : ((sold.purchaseCall .ascii 1 (.inventory 7) (some 2) (.client 1 [107]) 6000000000
      none ⟨0, 0, 0⟩).toOption.bind fun answer => answer.1.leases.find 9).map (·.endedAt) =
        (sold.leases.find 9).map (·.endedAt) :=
    congrArg (fun answer : Except Fault (Db × FancyNumberPurchaseResult) =>
      (answer.toOption.bind fun answer => answer.1.leases.find 9).map (·.endedAt)) same
  revert ended
  decide +kernel

def stocked : Db := ((soldActs.take 3).foldlM (next .ascii) empty).getD empty

theorem keys_charge_once_sold :
    ∃ result, stocked.transact .ascii 1 (.client 1 [107]) 0 none ⟨8, 9, 10⟩
        (.purchase (.inventory 7) (some 2)) = .ok (sold, result) ∧
      (∀ now minted, sold.answer .ascii 1 (.client 1 [107]) now none minted
        (.purchase (.inventory 7) (some 2)) = .ok (sold, result)) ∧
      balanceOf sold.wallets 1 + sold.spent 1 = 500 := by
  have run : Run (Step .ascii) empty (soldActs.take 3) stocked := Run.of_foldlM rfl
  refine ⟨_, rfl, ?_, ?_⟩
  · intro now minted
    exact (keys_charge_once run).2.2.1 1 (.purchase (.inventory 7) (some 2)) (.client 1 [107]) 0
      none ⟨8, 9, 10⟩ sold _ rfl rfl [] sold (.nil sold) ⟨_, rfl, rfl⟩ now none minted
  · exact (keys_charge_once sold_run).1 1

/-- Who has a number for ever is known by one for ever, whatever is bought, ended or handed
out after that. -/
theorem permanent_stands {acts later : List Act} {lid : LeaseId} {l : FancyNumberLease}
    (run : Run (Step casing) empty acts db) (found : db.leases.find lid = some l)
    (active : l.active = true) (permanent : l.permanent) (on : Run (Step casing) db later db') :
    ∃ l' u n, db'.leases.find lid = some l' ∧ l'.active = true ∧ l'.permanent ∧
      l'.userID = l.userID ∧ db'.users.find l.userID = some u ∧
        db'.numbers.find l'.fancyNumberID = some n ∧ u.accountId = n.value := by
  obtain ⟨sound, stays⟩ := run_later (run_sound run) on
  obtain ⟨l', found', active', permanent', user⟩ := stays.permanent lid l found active permanent
  obtain ⟨u, n, owner, number, account⟩ := sound.consistent.held lid l' found' active'
  exact ⟨l', u, n, found', active', permanent', user, user ▸ owner, number, account⟩

/-- The lease of the term is converted. -/
def convertedActs : List Act :=
  soldActs ++ [.setMembership 1 4 none, .convertActiveLeaseToPermanent 1 1 11]

def converted : Db := (convertedActs.foldlM (next .ascii) empty).getD empty

theorem permanent_stands_converted : ∃ db' l', db'.leases.find 9 = some l' ∧ l'.permanent ∧
    Run (Step .ascii) converted [.expireLease 9 6000000000] db' := by
  have run : Run (Step .ascii) empty convertedActs converted := Run.of_foldlM rfl
  have on : Run (Step .ascii) converted [.expireLease 9 6000000000] _ := Run.of_foldlM rfl
  have there : converted.leases.find 9 = some _ := rfl
  obtain ⟨l', -, -, found, -, permanent, -⟩ := permanent_stands run there rfl ⟨rfl, rfl⟩ on
  exact ⟨_, l', found, permanent, on⟩

end Db

end CircleBackend.Fancy
