import CircleBackend.Expansion.Model

/-!
# What a card gives

The capacity that the admission policy enforces, before and after a card; the order of a
key, its debit and its transaction over a whole run.
-/

namespace CircleBackend.Expansion

open Library
open Memberships (MembershipLevel membershipCatalog resolveEntitlementWith)
open Joining (CircleId groupCapacityHardLimit)
open Coin (Wallet)
open Session (UserId)

/-! ## Capacity -/

/-- How many members `activateMembers` lets a circle have whose owner has a quota. -/
def enforcedCapacity (circle : Joining.Circle) (quota : Nat) : Nat :=
  let ownerCapacity := min 3000 (quota + circle.expansionSeats)
  min (circle.maxMembers.getD ownerCapacity) ownerCapacity

def quotaOf (level : MembershipLevel) : Nat := (membershipCatalog level).groupMembers

section Capacity

variable {circle : Joining.Circle} {product : GroupExpansionProduct} {quota : Nat}

/-- The circle with a card that was bought at a quota. -/
def expanded (circle : Joining.Circle) (quota : Nat) (product : GroupExpansionProduct) : Joining.Circle :=
  { circle with
    expansionSeats := circle.expansionSeats + product.seats
    maxMembers := some (raise circle quota product).nextConfiguredCapacity }

theorem purchasable_iff : (raise circle quota product).purchasable product = true ↔
    min (min (min (circle.maxMembers.getD quota) 3000 + product.seats) 3000)
        (min (quota + (circle.expansionSeats + product.seats)) 3000) =
      min (min (circle.maxMembers.getD quota) 3000)
        (min (quota + circle.expansionSeats) 3000) + product.seats := by
  rw [Raise.purchasable, decide_eq_true_eq]
  simp only [raise, configuredCapacity, effectiveCapacity, groupCapacityHardLimit]
  omega

/-- A card adds its seats at the quota it was bought at. -/
theorem capacity_raised (limited : circle.maxMembers.isSome = true ∨ circle.expansionSeats = 0)
    (bound : quota ≤ 3000) (h : (raise circle quota product).purchasable product = true) :
    enforcedCapacity (expanded circle quota product) quota =
      enforcedCapacity circle quota + product.seats := by
  rw [purchasable_iff] at h
  simp only [enforcedCapacity, expanded, raise, configuredCapacity, groupCapacityHardLimit,
    Option.getD_some]
  cases max : circle.maxMembers with
  | none =>
    rw [max] at limited h
    have fresh : circle.expansionSeats = 0 := limited.resolve_left Bool.false_ne_true
    rw [fresh] at h ⊢
    simp only [Option.getD_none] at h ⊢
    omega
  | some m =>
    rw [max] at h
    simp only [Option.getD_some] at h ⊢
    omega

/-- Where the circle has a bound of its own, no level loses by a card. -/
theorem capacity_kept {m : Nat} (limited : circle.maxMembers = some m) (other : Nat) :
    enforcedCapacity circle other ≤ enforcedCapacity (expanded circle quota product) other := by
  simp only [enforcedCapacity, expanded, raise, configuredCapacity, groupCapacityHardLimit,
    Option.getD_some, limited]
  omega

theorem quotaOf_le (level : MembershipLevel) : quotaOf level ≤ 3000 :=
  match level with
  | 0 | 1 | 2 | 3 | 4 => by decide

/-- The card adds its seats, and no level loses by it. -/
def Gains (circle circle' : Joining.Circle) (level : MembershipLevel) (seats : Nat) : Prop :=
  enforcedCapacity circle' (quotaOf level) = enforcedCapacity circle (quotaOf level) + seats ∧
    ∀ other, enforcedCapacity circle (quotaOf other) ≤ enforcedCapacity circle' (quotaOf other)

theorem gains_iff {level : MembershipLevel} (some' : 0 < product.seats)
    (h : (raise circle (quotaOf level) product).purchasable product = true) :
    Gains circle (expanded circle (quotaOf level) product) level product.seats ↔
      circle.maxMembers.isSome = true ∨
        circle.expansionSeats = 0 ∧ quotaOf level + product.seats = 3000 := by
  have bound := quotaOf_le level
  constructor
  · rintro ⟨raised, kept⟩
    cases max : circle.maxMembers with
    | some m => exact Or.inl rfl
    | none =>
      -- the lifetime level has the whole of the hard limit without a card
      have top := kept 4
      rw [purchasable_iff] at h
      have lifetime : quotaOf 4 = 3000 := rfl
      rw [lifetime] at top
      simp only [enforcedCapacity, expanded, raise, configuredCapacity, groupCapacityHardLimit,
        Option.getD_some, max, Option.getD_none] at h top raised
      exact Or.inr (by omega)
  · intro limited
    refine ⟨capacity_raised (limited.imp_right And.left) bound h, fun other => ?_⟩
    cases max : circle.maxMembers with
    | some m => exact capacity_kept max _
    | none =>
      rw [max] at limited
      obtain ⟨fresh, full⟩ := limited.resolve_left Bool.false_ne_true
      have low := quotaOf_le other
      simp only [enforcedCapacity, expanded, raise, configuredCapacity, groupCapacityHardLimit,
        Option.getD_some, max, Option.getD_none, fresh]
      omega

end Capacity

/-! ## One purchase -/

section Purchase

variable {db db' : Db} {call : PurchaseCall} {orderId : OrderId}
  {answer : GroupExpansionPurchaseResult} {circle : Joining.Circle} {user : Joining.User}
  {product : GroupExpansionProduct}

def GroupExpansionOrder.result (order : GroupExpansionOrder) : GroupExpansionPurchaseResult :=
  ⟨order.id, order.circleID, order.productID, order.productName, order.seats, order.price,
    order.previousMaxMembers, order.newMaxMembers, order.walletBalanceAfter⟩

/-- The transaction that an order is paid with. -/
def GroupExpansionOrder.transaction (order : GroupExpansionOrder) : CoinTransaction :=
  { idempotencyKey := order.idempotencyKey
    userID := order.userID
    amount := -order.price
    balance := order.walletBalanceAfter
    note := s!"{order.productName}：群永久扩容 {order.seats} 人"
    relatedID := order.id }

variable {order : GroupExpansionOrder} {userId : UserId}

theorem restorePrior_ok {fingerprint : RequestFingerprint}
    (h : restorePrior order fingerprint = .ok answer) :
    order.requestFingerprint = fingerprint ∧ answer = order.result := by
  obtain ⟨_, same, h⟩ := bind_ok h
  cases h
  exact ⟨of_not_not (of_decide_eq_false (throwIf_ok same)), rfl⟩

theorem restorePrior_of {fingerprint : RequestFingerprint}
    (same : order.requestFingerprint = fingerprint) :
    restorePrior order fingerprint = .ok order.result := by
  unfold restorePrior
  rw [throwIf_of (decide_eq_false (not_not.mpr same))]
  rfl

/-- The entitlement of the owner who calls. -/
def Db.levelOf (db : Db) (user : Joining.User) (now : Time) : MembershipLevel :=
  resolveEntitlementWith db.joining.programEnabled user.membership now

/-- What a purchase that is new writes. -/
structure Bought (db : Db) (call : PurchaseCall) (orderId : OrderId) (circle : Joining.Circle)
    (user : Joining.User) (product : GroupExpansionProduct) (order : GroupExpansionOrder)
    (db' : Db) : Prop where
  listed : getGroupExpansionProduct call.productId = some product
  quoted : ∀ e ∈ call.expectedQuote, e.price = product.price ∧ e.seats = product.seats
  there : db.joining.circles.find call.circleId = some circle
  owned : circle.ownerID = call.userId ∧ circle.deleted = false
  caller : db.joining.users.find call.userId = some user
  purchasable : (raise circle (quotaOf (db.levelOf user call.now)) product).purchasable product =
    true
  debited : db.debit call.userId product.price = .ok db'.wallets
  written : order.idempotencyKey = call.scopedIdempotencyKey ∧ order.userID = call.userId ∧
    order.price = product.price ∧ order.requestFingerprint = call.requestFingerprint product
  recorded : db.orders.insert order = some db'.orders
  coined : db'.coinTransactions = db.coinTransactions ++ [order.transaction]
  joining : db'.joining = { db.joining with
    circles := db.joining.circles.put
      (expanded circle (quotaOf (db.levelOf user call.now)) product) }

/-- A purchase returns the order of its key as it was paid for, or pays for a new one. -/
inductive Answered (db : Db) (call : PurchaseCall) (orderId : OrderId) :
    Db → GroupExpansionPurchaseResult → Prop
  | replayed {order : GroupExpansionOrder} {product : GroupExpansionProduct}
      (listed : getGroupExpansionProduct call.productId = some product)
      (found : db.orders.find call.scopedIdempotencyKey = some order)
      (same : order.requestFingerprint = call.requestFingerprint product) :
      Answered db call orderId db order.result
  | bought {circle : Joining.Circle} {user : Joining.User} {product : GroupExpansionProduct}
      {order : GroupExpansionOrder} {db' : Db}
      (bought : Bought db call orderId circle user product order db') :
      Answered db call orderId db' order.result

theorem ownedCircle_ok {circleId : CircleId} (h : db.ownedCircle userId circleId = .ok circle) :
    db.joining.circles.find circleId = some circle ∧ circle.ownerID = userId ∧
      circle.deleted = false := by
  obtain ⟨found, owned⟩ := Option.filter_eq_some_iff.mp (orThrow_ok h)
  simp only [Bool.and_eq_true, decide_eq_true_eq, Bool.not_eq_true'] at owned
  exact ⟨found, owned⟩

theorem purchase_ok (h : db.purchase call orderId = .ok (db', answer)) :
    Answered db call orderId db' answer := by
  unfold Db.purchase at h
  obtain ⟨product, listed, h⟩ := bind_ok h
  have listed := orThrow_ok listed
  cases prior : db.orders.find call.scopedIdempotencyKey with
  | some order =>
    rw [prior] at h
    obtain ⟨restored, same, h⟩ := bind_ok h
    cases h
    obtain ⟨alike, rfl⟩ := restorePrior_ok same
    exact .replayed listed prior alike
  | none =>
    rw [prior] at h
    unfold Db.purchaseAnew at h
    obtain ⟨_, quoted, h⟩ := bind_ok h
    obtain ⟨circle, owned, h⟩ := bind_ok h
    obtain ⟨user, there, h⟩ := bind_ok h
    obtain ⟨_, purchasable, h⟩ := bind_ok h
    obtain ⟨wallets, debited, h⟩ := bind_ok h
    obtain ⟨orders, recorded, h⟩ := bind_ok h
    obtain ⟨_, -, h⟩ := bind_ok h
    obtain ⟨restored, same, h⟩ := bind_ok h
    cases h
    obtain ⟨-, rfl⟩ := restorePrior_ok same
    obtain ⟨found, owner, stands⟩ := ownedCircle_ok owned
    apply Answered.bought
    exact
      { listed := listed
        quoted := by
          have quoted := throwIf_ok quoted
          intro e asked
          rw [asked] at quoted
          simpa using quoted
        there := found
        owned := ⟨owner, stands⟩
        caller := orThrow_ok there
        purchasable := by
          have able := throwIf_ok purchasable
          rw [Bool.not_eq_false'] at able
          exact able
        debited := debited
        written := ⟨rfl, rfl, rfl, rfl⟩
        recorded := orThrow_ok recorded
        coined := rfl
        joining := rfl }

/-- Whatever else has changed, the order of a key answers the calls that ask for the same. -/
theorem purchase_replays (listed : getGroupExpansionProduct call.productId = some product)
    (found : db.orders.find call.scopedIdempotencyKey = some order) :
    (order.requestFingerprint = call.requestFingerprint product →
      db.purchase call orderId = .ok (db, order.result)) ∧
    (order.requestFingerprint ≠ call.requestFingerprint product →
      db.purchase call orderId = .error idempotencyConflict) := by
  unfold Db.purchase
  rw [orThrow_of listed]
  dsimp only [bind, Except.bind]
  rw [found]
  dsimp only
  constructor
  · intro same
    rw [restorePrior_of same]
  · intro other
    unfold restorePrior throwIf
    rw [if_pos (decide_eq_true other)]
    rfl

theorem debit_fault {price : Nat} {fault : Fault}
    (h : db.debit userId price = .error fault) : fault = insufficientPoints :=
  orThrow_error h

/-- On capacity grounds a call fails where the list has the product as not purchasable. -/
theorem purchase_capacity {products : GroupExpansionProductsResult}
    (listed : getGroupExpansionProduct call.productId = some product)
    (fresh : db.orders.find call.scopedIdempotencyKey = none)
    (quoted : ∀ e ∈ call.expectedQuote, e.price = product.price ∧ e.seats = product.seats)
    (own : userId = call.userId)
    (lists : db.getProducts userId call.circleId call.now = .ok products) :
    ∃ item ∈ products.products, item.product = product ∧
      (db.purchase call orderId = .error capacityExceeded ↔ item.purchasable = false) := by
  subst own
  unfold Db.getProducts at lists
  obtain ⟨circle, owned, lists⟩ := bind_ok lists
  obtain ⟨user, there, lists⟩ := bind_ok lists
  cases lists
  have caller := orThrow_ok there
  refine ⟨⟨product, _, _⟩, List.mem_map.mpr ⟨product, List.mem_of_find?_eq_some listed, rfl⟩, rfl, ?_⟩
  have unchanged : call.expectedQuote.any
      (fun e => e.price ≠ (product.price : Int) || e.seats ≠ (product.seats : Int)) = false := by
    rw [Option.any_eq_false]
    intro e asked
    simp [quoted e asked]
  unfold Db.purchase
  rw [orThrow_of listed]
  dsimp only [bind, Except.bind]
  rw [fresh]
  dsimp only
  unfold Db.purchaseAnew
  rw [throwIf_of unchanged, owned, orThrow_of caller]
  dsimp only [bind, Except.bind]
  cases able : (raise circle (db.baseCapacity user.membership call.now) product).purchasable product with
  | false =>
    simp [throwIf]
  | true =>
    rw [Bool.not_true, throwIf_of rfl]
    dsimp only
    apply iff_of_false ?_ Bool.noConfusion
    cases paid : db.debit call.userId product.price with
    | error fault =>
      rw [debit_fault paid]
      simp [insufficientPoints, capacityExceeded]
    | ok wallets =>
      dsimp only
      generalize db.orders.insert _ = orders
      cases orders with
      | none => nofun
      | some orders =>
        dsimp only [orThrow, Option.elim]
        rw [restorePrior_of rfl]
        cases db.coinTransactions.any _ <;> nofun

end Purchase

/-! ## The books -/

section Books

variable {db db' : Db} {a : Action} {acts : List Action}

/-- What the orders of a user came to. -/
def Db.spent (db : Db) (userId : UserId) : Int :=
  db.orders.sum fun order => if order.userID = userId then order.price else 0

/-- The points that others give a user. -/
def Action.credits (userId : UserId) : Action → Int
  | .credit u points => if u = userId then points else 0
  | _ => 0

def credited (acts : List Action) (userId : UserId) : Int :=
  (acts.map (Action.credits userId)).sum

theorem balanceOf_ensure (wallets : Table Wallet UserId (·.userID)) (uid v : UserId) :
    Db.balanceOf (wallets.ensure ⟨uid, 0⟩) v = Db.balanceOf wallets v := by
  unfold Db.balanceOf
  rw [Table.find_ensure]
  split
  · cases wallets.find v <;> rfl
  · rfl

theorem debit_ok {uid : UserId} {price : Nat} {wallets : Table Wallet UserId (·.userID)}
    (h : db.debit uid price = .ok wallets) (v : UserId) :
    Db.balanceOf wallets v + (if uid = v then price else 0) = Db.balanceOf db.wallets v := by
  obtain ⟨w, found, -, rows⟩ := Table.updateOne_some (orThrow_ok h) fun _ => rfl
  rw [← balanceOf_ensure db.wallets uid v]
  unfold Db.balanceOf
  rw [rows]
  by_cases own : v = uid
  · rw [if_pos own, if_pos own.symm, own, found]
    simp only [Option.elim_some]
    omega
  · rw [if_neg own, if_neg (Ne.symm own)]
    simp

variable {order : GroupExpansionOrder}

/-- The orders of a database and what they paid. -/
theorem Bought.accounts {call : PurchaseCall} {orderId : OrderId} {circle : Joining.Circle}
    {user : Joining.User} {product : GroupExpansionProduct}
    (bought : Bought db call orderId circle user product order db') (v : UserId) :
    Db.balanceOf db'.wallets v + db'.spent v = Db.balanceOf db.wallets v + db.spent v := by
  have wallet := debit_ok bought.debited v
  rw [Db.spent, Db.spent, Table.sum_insert bought.recorded, bought.written.2.1,
    bought.written.2.2.1]
  split at wallet
  · rename_i own
    rw [if_pos own]
    omega
  · rename_i other
    rw [if_neg other]
    omega

theorem next_purchase (db : Db) (call : PurchaseCall) (orderId : OrderId) :
    db.next (.purchase call orderId) = db ∨ ∃ circle user product order,
      Bought db call orderId circle user product order (db.next (.purchase call orderId)) := by
  have whole : db.next (.purchase call orderId) =
      ((db.purchase call orderId).toOption.map (·.1)).getD db := rfl
  rw [whole]
  cases answer : db.purchase call orderId with
  | error fault => exact Or.inl rfl
  | ok pair =>
    obtain ⟨db', result⟩ := pair
    cases purchase_ok answer with
    | replayed => exact Or.inl rfl
    | bought bought => exact Or.inr ⟨_, _, _, _, bought⟩

theorem next_accounts (v : UserId) :
    Db.balanceOf (db.next a).wallets v + (db.next a).spent v =
      Db.balanceOf db.wallets v + db.spent v + a.credits v := by
  cases a with
  | purchase call orderId =>
    simp only [Action.credits, Int.add_zero]
    rcases next_purchase db call orderId with same | bought
    · rw [same]
    · obtain ⟨circle, user, product, order, bought⟩ := bought
      exact bought.accounts v
  | collided | setCircle | setUser | setProgram =>
    simp only [Action.credits, Int.add_zero]
    rfl
  | credit uid points =>
    rw [← balanceOf_ensure db.wallets uid v]
    simp only [Db.next, Db.spent, Action.credits, Db.balanceOf, Table.find_updateMany]
    have there : uid = v → (db.wallets.ensure ⟨uid, 0⟩).find v ≠ none := by
      rintro rfl
      rw [Table.find_ensure, if_pos rfl]
      exact Option.some_ne_none _
    cases found : (db.wallets.ensure ⟨uid, 0⟩).find v with
    | none =>
      have other : uid ≠ v := fun own => there own found
      simp [other]
    | some w =>
      have own : w.userID = v := Table.find_key found
      by_cases same : uid = v
      · simp [own, same]
        omega
      · simp [own, same, Ne.symm same]

theorem run_accounts (run : Run Step db acts db') (v : UserId) :
    Db.balanceOf db'.wallets v + db'.spent v =
      Db.balanceOf db.wallets v + db.spent v + credited acts v := by
  induction run with
  | nil => simp [credited]
  | snoc _ last ih =>
    cases last
    rw [next_accounts, ih, credited, credited, List.map_append, List.sum_append]
    simp
    omega

theorem next_orders {k : ScopedIdempotencyKey}
    (found : db.orders.find k = some order) : (db.next a).orders.find k = some order := by
  cases a with
  | purchase call orderId =>
    rcases next_purchase db call orderId with same | bought
    · rw [same]
      exact found
    · obtain ⟨circle, user, product, written, bought⟩ := bought
      rw [Table.find_insert bought.recorded, if_neg]
      · exact found
      · intro own
        have fresh := Table.insert_fresh bought.recorded
        rw [own, found] at fresh
        cases fresh
  | collided | setCircle | setUser | setProgram | credit => exact found

theorem run_orders {k : ScopedIdempotencyKey} (run : Run Step db acts db')
    (found : db.orders.find k = some order) : db'.orders.find k = some order :=
  run.preserves (P := fun db => db.orders.find k = some order)
    (by rintro _ _ _ rfl there; exact next_orders there) found

/-- Every order was paid for by one transaction. -/
def Paid (db : Db) : Prop :=
  db.coinTransactions = db.orders.rows.map GroupExpansionOrder.transaction

theorem next_paid (paid : Paid db) : Paid (db.next a) := by
  cases a with
  | purchase call orderId =>
    rcases next_purchase db call orderId with same | bought
    · rw [same]
      exact paid
    · obtain ⟨circle, user, product, written, bought⟩ := bought
      rw [Paid, bought.coined, Table.insert_rows bought.recorded, List.map_append, paid]
      rfl
  | collided | setCircle | setUser | setProgram | credit => exact paid

theorem run_paid (start : Start db) (run : Run Step db acts db') : Paid db' := by
  apply run.preserves (P := Paid)
  · rintro _ _ _ rfl paid
    exact next_paid paid
  rw [Paid, start.orders, start.coinTransactions]
  rfl

/-- The transactions with the key of an order are the one that paid for it. -/
theorem Paid.transactions (paid : Paid db) (k : ScopedIdempotencyKey) :
    db.coinTransactions.filter (·.idempotencyKey = k) =
      ((db.orders.find k).map GroupExpansionOrder.transaction).toList := by
  have own := db.orders.select_key k
  unfold Table.select at own
  rw [paid, List.filter_map]
  have same : (fun tx : CoinTransaction => decide (tx.idempotencyKey = k)) ∘
      GroupExpansionOrder.transaction = fun order => decide (order.idempotencyKey = k) := rfl
  rw [same, own]
  cases db.orders.find k <;> rfl

end Books

/-! ## What was paid for -/

/-- A call that pays: no order had its key. -/
structure Db.Commits (db : Db) (call : PurchaseCall) (orderId : OrderId)
    (answer : GroupExpansionPurchaseResult) (db' : Db) : Prop where
  fresh : db.orders.find call.scopedIdempotencyKey = none
  returns : db.purchase call orderId = .ok (db', answer)

/-- The calls of one user with one key, circle, product and quote. -/
def PurchaseCall.Repeats (again call : PurchaseCall) : Prop :=
  again = { call with now := again.now }

section Paid

variable {db db' u : Db} {call again : PurchaseCall} {orderId : OrderId}
  {answer : GroupExpansionPurchaseResult} {more : List Action}

theorem Db.Commits.bought (h : db.Commits call orderId answer db') : ∃ circle user product order,
    Bought db call orderId circle user product order db' ∧ answer = order.result := by
  cases purchase_ok h.returns with
  | replayed _ found => cases h.fresh.symm.trans found
  | bought bought => exact ⟨_, _, _, _, bought, rfl⟩

theorem Bought.order_found {circle : Joining.Circle} {user : Joining.User} {product : GroupExpansionProduct}
    {order : GroupExpansionOrder} (bought : Bought db call orderId circle user product order db') :
    db'.orders.find call.scopedIdempotencyKey = some order := by
  rw [Table.find_insert bought.recorded, if_pos bought.written.1]

theorem Bought.circles {circle : Joining.Circle} {user : Joining.User} {product : GroupExpansionProduct}
    {order : GroupExpansionOrder} (bought : Bought db call orderId circle user product order db')
    (id : CircleId) : db'.joining.circles.find id = if id = call.circleId then
      some (expanded circle (quotaOf (db.levelOf user call.now)) product)
    else db.joining.circles.find id := by
  rw [bought.joining]
  exact Table.find_put_own bought.there (by rfl) id

theorem replay_kept (commits : db.Commits call orderId answer db') (later : Run Step db' more u)
    (repeats : again.Repeats call) (orderId' : OrderId) :
    u.purchase again orderId' = .ok (u, answer) := by
  obtain ⟨circle, user, product, order, bought, rfl⟩ := commits.bought
  have found := run_orders later bought.order_found
  rw [repeats]
  let call' : PurchaseCall := { call with now := again.now }
  have listed : getGroupExpansionProduct call'.productId = some product := bought.listed
  have there : u.orders.find call'.scopedIdempotencyKey = some order := found
  apply (purchase_replays listed there).1
  exact bought.written.2.2.2

theorem key_spent (commits : db.Commits call orderId answer db') (later : Run Step db' more u)
    (key : again.scopedIdempotencyKey = call.scopedIdempotencyKey) {orderId' : OrderId} {u' : Db}
    {answer' : GroupExpansionPurchaseResult} (h : u.purchase again orderId' = .ok (u', answer')) :
    u' = u ∧ answer' = answer := by
  obtain ⟨circle, user, product, order, bought, rfl⟩ := commits.bought
  have found := run_orders later bought.order_found
  rw [← key] at found
  cases purchase_ok h with
  | replayed _ found' =>
    cases found.symm.trans found'
    exact ⟨rfl, rfl⟩
  | bought bought' =>
    have fresh := Table.insert_fresh bought'.recorded
    rw [bought'.written.1, found] at fresh
    cases fresh

end Paid

theorem product_seats {productId : String} {product : GroupExpansionProduct}
    (listed : getGroupExpansionProduct productId = some product) : 0 < product.seats := by
  have all : ∀ p ∈ groupExpansionProducts, 0 < p.seats := by decide
  exact all product (List.mem_of_find?_eq_some listed)

/-- What a purchase that is paid for leaves, to the end of any run after it. The capacity is
what was paid for exactly where the circle had a bound of its own, or no card yet and one
that fills it to the hard limit. -/
theorem expansion_gives {db₀ db db' u : Db} {acts more : List Action} {call : PurchaseCall}
    {orderId : OrderId} {answer : GroupExpansionPurchaseResult} (start : Start db₀)
    (run : Run Step db₀ acts db) (commits : db.Commits call orderId answer db')
    (later : Run Step db' more u) :
    (∃ order, order.result = answer ∧ u.orders.find call.scopedIdempotencyKey = some order ∧
      u.coinTransactions.filter (·.idempotencyKey = call.scopedIdempotencyKey) =
        [order.transaction]) ∧
    (∀ v, Db.balanceOf u.wallets v + u.spent v =
      Db.balanceOf db₀.wallets v + credited acts v + credited more v) ∧
    (∀ again : PurchaseCall, again.Repeats call → ∀ orderId',
      u.purchase again orderId' = .ok (u, answer)) ∧
    (∀ again : PurchaseCall, again.scopedIdempotencyKey = call.scopedIdempotencyKey →
      ∀ orderId' u' answer', u.purchase again orderId' = .ok (u', answer') →
        u' = u ∧ answer' = answer) ∧
    (∀ (other : PurchaseCall) orderId' fault, u.purchase other orderId' = .error fault →
      u.next (.purchase other orderId') = u) ∧
    (∀ (other : PurchaseCall) orderId' product products,
      getGroupExpansionProduct other.productId = some product →
      u.orders.find other.scopedIdempotencyKey = none →
      (∀ e ∈ other.expectedQuote, e.price = product.price ∧ e.seats = product.seats) →
      u.getProducts other.userId other.circleId other.now = .ok products →
      ∃ item ∈ products.products, item.product = product ∧
        (u.purchase other orderId' = .error capacityExceeded ↔ item.purchasable = false)) ∧
    ∃ circle circle' user product, getGroupExpansionProduct call.productId = some product ∧
      db.joining.users.find call.userId = some user ∧
      db.joining.circles.find call.circleId = some circle ∧
      db'.joining.circles.find call.circleId = some circle' ∧
      (∀ id, id ≠ call.circleId → db'.joining.circles.find id = db.joining.circles.find id) ∧
      (Gains circle circle' (db.levelOf user call.now) product.seats ↔
        circle.maxMembers.isSome = true ∨ circle.expansionSeats = 0 ∧
          quotaOf (db.levelOf user call.now) + product.seats = 3000) := by
  obtain ⟨circle, user, product, order, bought, rfl⟩ := commits.bought
  have stepped : Step db (.purchase call orderId) db' := by
    unfold Step Db.next
    dsimp only
    rw [commits.returns]
    rfl
  have whole := (run.snoc stepped).append later
  have found := run_orders later bought.order_found
  refine ⟨⟨order, rfl, found, ?_⟩, fun v => ?_, fun again repeats => replay_kept commits later repeats,
    fun again key _ _ _ => key_spent commits later key, ?_, ?_, circle, _, user, product,
    bought.listed, bought.caller, bought.there, ?_, fun id other => ?_,
    gains_iff (product_seats bought.listed) bought.purchasable⟩
  · rw [(run_paid start whole).transactions, found]
    rfl
  · have books := run_accounts whole v
    have none' : db₀.spent v = 0 := by
      rw [Db.spent, Table.sum, start.orders]
      rfl
    rw [books, none']
    simp only [credited, List.map_append, List.sum_append, List.map_cons, List.map_nil,
      List.sum_cons, List.sum_nil, Action.credits]
    omega
  · intro other orderId' fault fails
    unfold Db.next
    dsimp only
    rw [fails]
    rfl
  · intro other orderId' product' products listed fresh quoted lists
    exact purchase_capacity listed fresh quoted rfl lists
  · rw [bought.circles, if_pos rfl]
  · rw [bought.circles, if_neg other]

/-- A circle of a user without a membership, who has 500 points. -/
def shop (maxMembers : Option Nat) : Db where
  joining :=
    { users := ⟨[⟨1, 0, none, 100, false, none, false⟩], by decide⟩
      circles := ⟨[{ id := 10
                     ownerID := 1
                     deleted := false
                     memberCount := 3
                     maxMembers := maxMembers
                     expansionSeats := 0
                     joinVipRestriction := none
                     joinCreditRestriction := none
                     joinFancyRestriction := false
                     requiredVerifierCount := ⟨1, Joining.one_verifier⟩
                     memberCanInvite := true }], List.nodup_singleton _⟩
      members := ⟨[], by decide⟩
      invitations := ⟨[], by decide⟩
      verifiers := ⟨[], by decide⟩
      conversations := ⟨[], by decide⟩
      joinBans := ⟨[], by decide⟩
      programEnabled := true
      loaded := [] }
  wallets := ⟨[⟨1, 500⟩], by decide⟩
  orders := ⟨[], by decide⟩
  coinTransactions := []

def lightCard : PurchaseCall := ⟨1, 10, "light", [], some ⟨100, 100⟩, 0⟩

def lightAnswer : GroupExpansionPurchaseResult :=
  ⟨5, 10, "light", "轻量扩群卡", 100, 100, 100, 200, 400⟩

theorem lightCard_commits (db : Db) (fresh : db.orders.find lightCard.scopedIdempotencyKey = none)
    (h : ((db.purchase lightCard 5).toOption.any fun r => r.2 = lightAnswer) = true) :
    db.Commits lightCard 5 lightAnswer (db.next (.purchase lightCard 5)) := by
  obtain ⟨⟨db', answer⟩, returns, own⟩ := (Option.any_eq_true _ _).mp h
  have returns := toOption_some returns
  have own : answer = lightAnswer := of_decide_eq_true own
  subst own
  refine ⟨fresh, ?_⟩
  have next : db.next (.purchase lightCard 5) =
      ((db.purchase lightCard 5).toOption.map (·.1)).getD db := rfl
  rw [next, returns]
  rfl

theorem expansion_gives_light : ∃ circle circle',
    (shop (some 100)).joining.circles.find 10 = some circle ∧
    ((shop (some 100)).next (.purchase lightCard 5)).joining.circles.find 10 = some circle' ∧
    Gains circle circle' 0 100 := by
  have commits := lightCard_commits (shop (some 100)) (by decide +kernel) (by decide +kernel)
  obtain ⟨-, -, -, -, -, -, circle, circle', user, product, listed, caller, before, after, -, gains⟩ :=
    expansion_gives ⟨rfl, rfl⟩ (.nil _) commits (.nil _)
  have seats : product.seats = 100 := by
    cases listed.symm.trans
      (show getGroupExpansionProduct "light" = some ⟨"light", "轻量扩群卡", 100, 100⟩ by decide +kernel)
    rfl
  have level : (shop (some 100)).levelOf user lightCard.now = 0 := by
    cases caller.symm.trans (show (shop (some 100)).joining.users.find 1 =
      some ⟨1, 0, none, 100, false, none, false⟩ by decide +kernel)
    decide +kernel
  have limited : circle.maxMembers.isSome = true := by
    have row : (((shop (some 100)).joining.circles.find 10).any (·.maxMembers.isSome)) = true := by
      decide +kernel
    rw [show (10 : CircleId) = lightCard.circleId from rfl, before] at row
    exact row
  rw [seats, level] at gains
  exact ⟨circle, circle', before, after, gains.mpr (Or.inl limited)⟩

/-- A card for a circle without a bound: what a lifetime owner could seat falls to 200. -/
theorem expansion_takes_away :
    (shop none).Commits lightCard 5 lightAnswer ((shop none).next (.purchase lightCard 5)) ∧
    ∃ circle circle', (shop none).joining.circles.find 10 = some circle ∧
      ((shop none).next (.purchase lightCard 5)).joining.circles.find 10 = some circle' ∧
      enforcedCapacity circle (quotaOf 4) = 3000 ∧ enforcedCapacity circle' (quotaOf 4) = 200 := by
  refine ⟨lightCard_commits _ (by decide +kernel) (by decide +kernel), ?_⟩
  have rows : ((shop none).joining.circles.find 10).any
        (fun c => enforcedCapacity c (quotaOf 4) = 3000) = true ∧
      (((shop none).next (.purchase lightCard 5)).joining.circles.find 10).any
        (fun c => enforcedCapacity c (quotaOf 4) = 200) = true := by decide +kernel
  obtain ⟨circle, before, large⟩ := (Option.any_eq_true _ _).mp rows.1
  obtain ⟨circle', after, small⟩ := (Option.any_eq_true _ _).mp rows.2
  exact ⟨circle, circle', before, after, of_decide_eq_true large, of_decide_eq_true small⟩

end CircleBackend.Expansion
