import CircleBackend.Recharge.Payout
import Mathlib.Data.Fintype.EquivFin

/-!
# Orders in hand

A claimed order is never let go, so it has to be one that can be paid: what makes that
impossible is the lifetime membership of its user or a grant under its id that is not its
own, and neither goes away (`payouts`).
-/

namespace CircleBackend.Recharge

open Library
open Session (UserId UserStatus)
open Chat (jsString)
open Memberships (Uuid Member Registry MembershipGrant CreateMembershipGrantDto
  CanonicalGrantInput Granted canonicalizeInput resolveEffectiveMembershipLevel)

/-! ## The grants of a step -/

section Registers

variable {s t : State} {act : Act}

/-- What a step does to the grants and to the levels. -/
inductive Registers (s : State) : Act → Registry → Prop
  | kept {act : Act} {registry : Registry} (grants : registry.grants = s.db.registry.grants)
      (levels : ∀ id m, s.db.registry.members.find id = some m →
        ∃ m', registry.members.find id = some m' ∧ m'.vipLevel = m.vipLevel) :
      Registers s act registry
  | granted {operator target : UserId} {dto : CreateMembershipGrantDto}
      {input : CanonicalGrantInput} {registry : Registry}
      (canonical : canonicalizeInput dto = .ok input)
      (granted : Granted s.db.registry s.clock operator target input registry) :
      Registers s (.grant operator target dto) registry
  | enrolled {c : CallId} {call : Approval} {order : SupportRechargeOrder}
      {input : CanonicalGrantInput} {registry : Registry} (found : s.calls.find c = some call)
      (stage : call.stage = .fulfilling order)
      (membership : call.dto.fulfillmentType = .membership)
      (canonical : canonicalizeInput (grantDto order call.input) = .ok input)
      (granted : Granted s.db.registry s.clock (order.reviewedBy.getD 0) order.userID input
        registry) :
      Registers s (.step c) registry

theorem Registers.same (act : Act) : Registers s act s.db.registry :=
  .kept rfl fun _ m found => ⟨m, found, rfl⟩

theorem CallStep.registers {c : CallId} {call : Approval} {db' : Db} {stage : Stage}
    (found : s.calls.find c = some call) (step : CallStep s.db s.clock call db' stage) :
    Registers s (.step c) db'.registry := by
  cases step with
  | enrolled stage membership canonical granted =>
    exact .enrolled found stage membership canonical granted
  | _ => exact .same _

theorem registers (step : Step s act t) : Registers s act t.db.registry := by
  unfold Step State.next at step
  cases act with
  | register id =>
    obtain ⟨members, inserted, rfl⟩ := Option.map_eq_some_iff.mp step
    refine .kept rfl fun k m found => ⟨m, ?_, rfl⟩
    dsimp only
    rw [Table.find_insert inserted, if_neg]
    · exact found
    · rintro rfl
      rw [Table.insert_fresh inserted] at found
      cases found
  | setStatus id status =>
    cases step
    refine .kept rfl fun k m found => ?_
    refine ⟨if m.id = id then { m with status := status } else m, ?_, ?_⟩
    · dsimp only
      rw [Table.find_updateMany, found]
      simp only [Option.map_some, decide_eq_true_eq]
    · split <;> rfl
  | create o =>
    obtain ⟨db', created, rfl⟩ := Option.map_eq_some_iff.mp step
    obtain ⟨orders, -, rfl⟩ := createOrder_ok created
    exact .same _
  | evidence orderId seen message key =>
    dsimp only at step
    split at step
    · obtain ⟨db', accepted, rfl⟩ := Option.map_eq_some_iff.mp step
      obtain ⟨-, rfl⟩ | ⟨order, -, -, -, rfl⟩ := acceptEvidence_ok accepted
      · exact .same _
      · exact .same _
    · cases step
  | approve c operator orderId dto =>
    dsimp only at step
    split at step
    · obtain ⟨calls, -, rfl⟩ := Option.map_eq_some_iff.mp step
      exact .same _
    · cases step
  | step c =>
    obtain ⟨call, found, step⟩ := Option.bind_eq_some_iff.mp step
    obtain ⟨⟨db', call'⟩, next, rfl⟩ := Option.map_eq_some_iff.mp step
    exact (call_next next).2.registers found
  | crash c =>
    obtain ⟨call, -, rfl⟩ := Option.map_eq_some_iff.mp step
    exact .same _
  | reject operator orderId reason =>
    obtain ⟨db', rejected, rfl⟩ := Option.map_eq_some_iff.mp step
    obtain ⟨order, -, -, ⟨-, rfl⟩ | ⟨-, rfl⟩⟩ := rejectOrder_ok (toOption_some rejected)
    · exact .same _
    · exact .same _
  | grant operator target dto =>
    obtain ⟨registry, granted, rfl⟩ := Option.map_eq_some_iff.mp step
    obtain ⟨input, canonical, granted⟩ := Memberships.grant_ok (toOption_some granted)
    exact .granted canonical granted
  | ledger id balance =>
    dsimp only at step
    split at step
    · cases step
      exact .same _
    · cases step
  | tick now =>
    dsimp only at step
    split at step
    · cases step
      exact .same _
    · cases step

end Registers

/-! ## What is stuck -/

section Stuck

variable {s t : State} {act : Act} {k : OrderId} {order : SupportRechargeOrder}
  {input : CanonicalFulfillment}

/-- Whether a claimed order can be paid: its grant is there, or can be made some day. -/
def payable (db : Db) (order : SupportRechargeOrder) (input : CanonicalFulfillment) : Prop :=
  input.fulfillmentType = .membership →
    Enrolled db order input ∨
      db.registry.grants.find order.id = none ∧
        ∃ m, db.registry.members.find order.userID = some m ∧ m.vipLevel ≠ 4

theorem replays_target {g : MembershipGrant} {operator target : UserId}
    {grantInput : CanonicalGrantInput} (replays : g.replays operator target grantInput = true) :
    g.targetUserID = target := by
  simp only [MembershipGrant.replays, Bool.and_eq_true, decide_eq_true_eq] at replays
  exact replays.1.1.1.1.2

/-- A grant that a step makes is of a user without the lifetime membership. -/
theorem Registers.no_lifetime {registry : Registry} (registers : Registers s act registry)
    {m : Member} {g : MembershipGrant} (fresh : s.db.registry.grants.find k = none)
    (made : registry.grants.find k = some g)
    (found : s.db.registry.members.find g.targetUserID = some m) : m.vipLevel ≠ 4 := by
  intro level
  have apart {operator target : UserId} {dto : CreateMembershipGrantDto}
      {grantInput : CanonicalGrantInput} (canonical : canonicalizeInput dto = .ok grantInput)
      (granted : Granted s.db.registry s.clock operator target grantInput registry) : False := by
    have own := replays_target (granted.fresh fresh made).2
    rw [granted.no_lifetime canonical (own ▸ found) level, fresh] at made
    cases made
  cases registers with
  | kept grants =>
    rw [grants, fresh] at made
    cases made
  | granted canonical granted => exact apart canonical granted
  | enrolled _ _ _ canonical granted => exact apart canonical granted

theorem Registers.lifetime {registry : Registry} (registers : Registers s act registry)
    {id : UserId} {m : Member} (found : s.db.registry.members.find id = some m)
    (level : m.vipLevel = 4) : ∃ m', registry.members.find id = some m' ∧ m'.vipLevel = 4 := by
  cases registers with
  | kept _ levels =>
    obtain ⟨m', after, same⟩ := levels id m found
    exact ⟨m', after, same.trans level⟩
  | granted canonical granted => exact ⟨m, granted.lifetime canonical found level, level⟩
  | enrolled _ _ _ canonical granted => exact ⟨m, granted.lifetime canonical found level, level⟩

/-- An order in hand that cannot be paid. -/
structure Stuck (db : Db) (k : OrderId) (input : CanonicalFulfillment)
    (order : SupportRechargeOrder) : Prop where
  found : db.orders.find k = some order
  processing : order.status = .processing
  payload : order.fulfillmentPayload = some input
  unpayable : ¬ payable db order input

theorem claimed_of_processing (processing : order.status = .processing) : order.claimed = true := by
  simp [SupportRechargeOrder.claimed, processing]

theorem claimed_cases (claimed : order.claimed = true) :
    order.status = .processing ∨ order.status = .approved := by
  simpa only [SupportRechargeOrder.claimed, Bool.or_eq_true, decide_eq_true_eq] using claimed

theorem stuck_step (sound : s.Sound) (stuck : Stuck s.db k input order) (step : Step s act t) :
    ∃ order', Stuck t.db k input order' := by
  obtain ⟨onward, sound'⟩ := step_sound sound step
  have changes := registers step
  obtain ⟨order', found', evolves⟩ := onward.orders k order stuck.found
  have claimed := claimed_of_processing stuck.processing
  obtain ⟨claimed', payload', -, reviewed⟩ := evolves.claimed claimed
  have payload' := payload'.trans stuck.payload
  have key : order.id = k := Table.find_key stuck.found
  have id : order'.id = order.id := (Table.find_key found').trans key.symm
  have unpayable := stuck.unpayable
  simp only [payable, Classical.not_imp, not_or, not_and, not_exists, not_not] at unpayable
  obtain ⟨membership, missing, lifetime⟩ := unpayable
  obtain ⟨m, member⟩ := Option.isSome_iff_exists.mp ((sound.db.orders _ _ stuck.found).member claimed)
  have missing' : ¬ Enrolled t.db order' input := by
    rintro ⟨g, grantInput, granted, canonical, replays⟩
    unfold grantDto SupportRechargeOrder.title at canonical
    rw [id, evolves.orderNo] at canonical
    rw [id] at granted
    rw [reviewed, evolves.userID] at replays
    cases before : s.db.registry.grants.find order.id with
    | some g' =>
      cases (onward.grants _ g' before).symm.trans granted
      exact missing ⟨g, grantInput, before, canonical, replays⟩
    | none =>
      have own := replays_target replays
      exact changes.no_lifetime before granted (own ▸ member) (lifetime before m member)
  have unpayable' : ¬ payable t.db order' input := by
    intro payable
    rcases payable membership with enrolled | ⟨fresh, m', member', level⟩
    · exact missing' enrolled
    · have before : s.db.registry.grants.find order.id = none := by
        cases before : s.db.registry.grants.find order.id with
        | none => rfl
        | some g =>
          rw [id, onward.grants _ g before] at fresh
          cases fresh
      obtain ⟨m'', after, four⟩ := changes.lifetime member (lifetime before m member)
      rw [evolves.userID, after] at member'
      cases member'
      exact level four
  refine ⟨order', found', ?_, payload', unpayable'⟩
  rcases claimed_cases claimed' with processing | approved
  · exact processing
  · obtain ⟨input', payload'', credited⟩ := (sound'.db.orders _ _ found').credited approved
    cases payload''.symm.trans payload'
    rw [Credited, membership] at credited
    exact absurd credited missing'

theorem stuck_run {acts : List Act} (sound : s.Sound) (stuck : Stuck s.db k input order)
    (run : Run Step s acts t) : ∃ order', Stuck t.db k input order' := by
  induction run with
  | nil => exact ⟨order, stuck⟩
  | snoc before last ih =>
    obtain ⟨order', stuck'⟩ := ih
    exact stuck_step (run_onward sound before).2 stuck' last

end Stuck

/-! ## A call again -/

section Again

variable {s t : State} {k : OrderId} {c : CallId} {call call' : Approval} {db' : Db}
  {order : SupportRechargeOrder} {dto : ApproveSupportRechargeOrderDto}

theorem same_of_agreed (agreed : Agreed order (canonicalizeFulfillment dto)) :
    order.sameApproval (canonicalizeFulfillment dto) = true := by
  simp [SupportRechargeOrder.sameApproval, agreed.payload, agreed.type, agreed.payment]

/-- The parameters that were claimed are the same again. -/
theorem same_again (ok : OrderOk s.db order) (claimed : order.claimed = true)
    (payload : order.fulfillmentPayload = some (canonicalizeFulfillment dto)) :
    order.sameApproval (canonicalizeFulfillment dto) = true := by
  obtain ⟨dto', -, agreed⟩ := ok.claimed claimed
  have same := Option.some.inj (agreed.payload.symm.trans payload)
  exact same_of_agreed (same ▸ agreed)

theorem step_call (found : s.calls.find c = some call)
    (next : call.next s.db s.clock = some (db', call')) :
    ∃ t, Step s (.step c) t ∧ t.db = db' ∧ t.clock = s.clock ∧ t.calls.find c = some call' := by
  have own : call'.id = call.id := by rw [(call_next next).1]
  refine ⟨{ s with db := db', calls := s.calls.put call' }, ?_, rfl, rfl, ?_⟩
  · simp [Step, State.next, found, next]
  · exact (Table.find_put_own found own c).trans (if_pos rfl)

/-- A call that finds its order claimed with its own parameters, up to the fulfilment. -/
theorem resumed (found : s.calls.find c = some call) (stage : call.stage = .validating)
    (there : s.db.orders.find call.orderId = some order) (processing : order.status = .processing)
    (same : order.sameApproval call.input = true) :
    ∃ t, Run Step s [.step c, .step c] t ∧ t.db = s.db ∧ t.clock = s.clock ∧
      t.calls.find c = some { call with stage := .fulfilling order } := by
  have claimed := claimed_of_processing processing
  have required : requireOrder s.db call.orderId = .ok order := orThrow_of there
  have agreed : assertSameApproval order call.input = .ok () := throwIf_of (by rw [same]; rfl)
  have first : call.next s.db s.clock = some (s.db, { call with stage := .claiming }) := by
    simp only [Approval.next, stage, Approval.validate, required, claimed, agreed, bind,
      Except.bind, if_true, Approval.settle]
  obtain ⟨u, step, db, clock, found⟩ := step_call found first
  have second : ({ call with stage := .claiming } : Approval).next u.db u.clock =
      some (u.db, { call with stage := .fulfilling order }) := by
    rw [db]
    simp only [Approval.next, Approval.claim, claimApproval, required, Approval.input] at agreed ⊢
    simp [processing, claimed, agreed, throwIf, bind, Except.bind, Approval.settle]
  obtain ⟨t, step', db', clock', found'⟩ := step_call found second
  exact ⟨t, .cons step (.single step'), db'.trans db, clock'.trans clock, found'⟩

/-- What others do meanwhile: a wallet changes, or time passes. -/
def Meanwhile : Act → Prop
  | .ledger _ _ | .tick _ => True
  | _ => False

theorem fulfillCoins_paid {n : Nat} {input : CanonicalFulfillment} (now : Time) (db : Db)
    (there : db.orders.find order.id = some order) (processing : order.status = .processing)
    (same : order.sameApproval input = true) (unpaid : db.coinTransactions.find order.id = none)
    (empty : db.wallets.find order.userID = some ⟨order.userID, 0⟩)
    (amount : input.coinAmount = some n) (bound : n ≤ 1000000) :
    ∃ db', fulfillCoins db now order input = .ok db' := by
  have required : requireOrder db order.id = .ok order := orThrow_of there
  have agreed : assertSameApproval order input = .ok () := throwIf_of (by rw [same]; rfl)
  have inRange : ¬ maxInt < 0 + n := by
    unfold maxInt
    omega
  obtain ⟨coinTransactions, inserted⟩ := Table.insert_of_fresh (t := db.coinTransactions) (a :=
    { idempotencyKey := order.id
      userID := order.userID
      type := .recharge
      amount := n
      balance := 0 + n
      note := order.title
      relatedID := order.id }) unpaid
  have credited : creditInTransaction db order.userID (input.coinAmount.getD 0) order.title
      order.id = .ok { db with
        wallets := db.wallets.set { userID := order.userID, balance := 0 + n }
        coinTransactions := coinTransactions } := by
    simp only [creditInTransaction, amount, Option.getD_some, empty, Option.elim, inRange,
      decide_false, throwIf, inserted, orThrow, bind, Except.bind, Bool.false_eq_true, if_false]
  unfold fulfillCoins
  rw [required]
  simp only [bind, Except.bind, processing, agreed, unpaid, credited, reduceCtorEq, if_false]
  exact ⟨_, rfl⟩

theorem coin_unpaid (sound : s.Sound) (there : s.db.orders.find order.id = some order)
    (processing : order.status = .processing) : s.db.coinTransactions.find order.id = none := by
  cases coined : s.db.coinTransactions.find order.id with
  | none => rfl
  | some tx =>
    obtain ⟨order', input, there', approved, -⟩ := sound.db.paid _ tx coined
    cases there.symm.trans there'
    rw [processing] at approved
    cases approved

theorem grantDto_canonical (order : SupportRechargeOrder)
    (level : ∃ n, dto.membershipLevel = some n ∧ 1 ≤ n ∧ n ≤ 4)
    (membership : dto.fulfillmentType = .membership) :
    ∃ input, canonicalizeInput (grantDto order (canonicalizeFulfillment dto)) = .ok input := by
  obtain ⟨n, given, positive, top⟩ := level
  have chosen : (grantDto order (canonicalizeFulfillment dto)).targetLevel = n := by
    simp [grantDto, canonicalizeFulfillment, membership, given]
  have daily : (grantDto order (canonicalizeFulfillment dto)).daily = false := rfl
  have quantity : (grantDto order (canonicalizeFulfillment dto)).quantity = none := rfl
  unfold canonicalizeInput
  rw [chosen, daily, quantity]
  simp only [throwIf, Option.getD_none, Bool.false_and, bind, Except.bind,
    Nat.not_lt.mpr positive, Nat.not_lt.mpr top, decide_false, Bool.or_self, Bool.false_eq_true,
    if_false, ne_eq, not_true_eq_false, Bool.and_false, Nat.lt_irrefl]
  exact ⟨_, rfl⟩

/-- Where an order that can be paid is fulfilled, perhaps after its user's membership has
lapsed or the wallet has room. -/
theorem payable_fulfilled (sound : s.Sound) (call : Approval)
    (there : s.db.orders.find k = some order) (processing : order.status = .processing)
    (same : order.sameApproval call.input = true) (valid : call.dto.valid = true)
    (can : payable s.db order call.input) :
    ∃ front u db' stage, (∀ act ∈ front, Meanwhile act) ∧ Run Step s front u ∧
      u.db.orders = s.db.orders ∧ u.calls = s.calls ∧
      call.fulfill u.db u.clock order = .ok (db', stage) ∧
      (stage = .done ∨ stage = .finalizing order ∧ db'.orders = s.db.orders) := by
  have key : order.id = k := Table.find_key there
  have here : s.db.orders.find order.id = some order := Table.mem_find (Table.find_mem there)
  simp only [ApproveSupportRechargeOrderDto.valid, Bool.and_eq_true, Bool.or_eq_true,
    decide_eq_true_eq] at valid
  cases type : call.dto.fulfillmentType with
  | coin =>
    obtain ⟨n, given, bound⟩ :=
      (Option.any_eq_true _ _).mp (valid.1.1.1.resolve_left fun other => other type)
    simp only [Bool.and_eq_true, decide_eq_true_eq] at bound
    have amount : call.input.coinAmount = some n := by
      simp [Approval.input, canonicalizeFulfillment, type, given]
    let u : State := { s with db := { s.db with
      wallets := s.db.wallets.set { userID := order.userID, balance := 0 } } }
    have run : Run Step s [.ledger order.userID 0] u := by
      refine .single ?_
      simp only [Step, State.next]
      rfl
    have empty : u.db.wallets.find order.userID = some ⟨order.userID, 0⟩ := by
      dsimp only [u]
      rw [Table.find_set, if_pos rfl]
    have unpaid := coin_unpaid sound here processing
    obtain ⟨db', paid⟩ :=
      fulfillCoins_paid u.clock u.db here processing same unpaid empty amount bound.2
    refine ⟨_, u, db', .done, ?_, run, rfl, rfl, ?_, .inl rfl⟩
    · intro act member
      cases List.mem_singleton.mp member
      trivial
    · unfold Approval.fulfill
      rw [type]
      dsimp only
      rw [paid]
      rfl
  | membership =>
    obtain ⟨n, given, bound⟩ :=
      (Option.any_eq_true _ _).mp (valid.1.1.2.resolve_left fun other => other type)
    simp only [Bool.and_eq_true, decide_eq_true_eq] at bound
    obtain ⟨grantInput, canonical⟩ :=
      grantDto_canonical order ⟨n, given, bound.1, bound.2⟩ type
    have keyed : grantInput.idempotencyKey = order.id := (Memberships.canonicalizeInput_ok canonical).1
    -- it is enough that the grant returns at some time
    have enough (now : Time) (front : List Act)
        (between : ∀ act ∈ front, Meanwhile act) (run : Run Step s front { s with clock := now })
        (registry : Registry) (granted : Memberships.grant s.db.registry now
          (order.reviewedBy.getD 0) order.userID (grantDto order call.input) = .ok registry) :
        ∃ front u db' stage, (∀ act ∈ front, Meanwhile act) ∧ Run Step s front u ∧
          u.db.orders = s.db.orders ∧ u.calls = s.calls ∧
          call.fulfill u.db u.clock order = .ok (db', stage) ∧
          (stage = .done ∨ stage = .finalizing order ∧ db'.orders = s.db.orders) := by
      refine ⟨front, _, { s.db with registry := registry }, .finalizing order, between, run, rfl,
        rfl, ?_, .inr ⟨rfl, rfl⟩⟩
      unfold Approval.fulfill fulfillMembership
      rw [type]
      dsimp only
      rw [granted]
      rfl
    rcases can type with ⟨g, grantInput', found, canonical', replays⟩ | ⟨fresh, m, member, level⟩
    · cases canonical.symm.trans canonical'
      refine enough s.clock [] (by intros; contradiction) (.nil s) s.db.registry ?_
      unfold Memberships.grant
      change canonicalizeInput (grantDto order call.input) = .ok grantInput at canonical
      rw [canonical]
      dsimp only [bind, Except.bind]
      rw [keyed, found]
      dsimp only
      rw [replays]
      rfl
    · have sound := sound.db.members _ m member
      let now := max s.clock (m.vipExpiresAt.getD 0)
      have lapsed : ∀ expires, m.vipExpiresAt = some expires → expires ≤ now := by
        intro expires ends
        simp [now, ends]
      have grants : ∃ registry, Memberships.grant s.db.registry now (order.reviewedBy.getD 0)
          order.userID (grantDto order call.input) = .ok registry :=
        Memberships.grant_lapsed canonical member sound level lapsed (keyed ▸ fresh)
      obtain ⟨registry, granted⟩ := grants
      refine enough now [.tick now] ?_ (.single ?_) registry granted
      · intro act member
        cases List.mem_singleton.mp member
        trivial
      · simp [Step, State.next, now]

theorem exists_fresh (s : State) : ∃ c, s.calls.find c = none := by
  obtain ⟨c, fresh⟩ := Infinite.exists_notMem_finset (s.calls.rows.map (·.id)).toFinset
  rw [List.mem_toFinset] at fresh
  refine ⟨c, Table.find_eq_none.mpr fun call member same => fresh ?_⟩
  exact same ▸ List.mem_map_of_mem member

/-- An order that can be paid is paid by a call with the same parameters, of whichever
operator. -/
theorem paid_again (sound : s.Sound) (operator : UserId)
    (there : s.db.orders.find k = some order) (processing : order.status = .processing)
    (payload : order.fulfillmentPayload = some (canonicalizeFulfillment dto))
    (valid : dto.valid = true) (can : payable s.db order (canonicalizeFulfillment dto)) :
    ∃ front rest c t call, (∀ act ∈ front, Meanwhile act) ∧ s.calls.find c = none ∧
      Run Step s (front ++ .approve c operator k dto :: rest) t ∧ (∀ act ∈ rest, act = .step c) ∧
      t.calls.find c = some call ∧ call.orderId = k ∧ call.dto = dto ∧ call.stage = .done := by
  obtain ⟨c, fresh⟩ := exists_fresh s
  let call := Approval.start c operator k dto
  have ok := sound.db.orders _ _ there
  have same : order.sameApproval call.input = true :=
    same_again ok (claimed_of_processing processing) payload
  have key : order.id = k := Table.find_key there
  obtain ⟨front, u, db', stage, between, run, orders, calls, fulfils, ends⟩ :=
    payable_fulfilled sound call there processing same valid can
  obtain ⟨withCall, inserted⟩ := Table.insert_of_fresh (t := u.calls) (a := call)
    (calls ▸ fresh)
  let v : State := { u with calls := withCall }
  have approve : Step u (.approve c operator k dto) v := by
    simp only [Step, State.next, valid, if_true]
    rw [show Approval.start c operator k dto = call from rfl, inserted]
    rfl
  have called : v.calls.find c = some call := by
    dsimp only [v]
    rw [Table.find_insert inserted]
    exact if_pos rfl
  have there' : v.db.orders.find call.orderId = some order := by
    dsimp only [v]
    rw [orders]
    exact there
  obtain ⟨w, steps, wdb, wclock, found⟩ := resumed called rfl there' processing same
  have third : ({ call with stage := .fulfilling order } : Approval).next w.db w.clock =
      some (db', { call with stage := stage }) := by
    rw [wdb, wclock]
    change some (call.settle u.db (call.fulfill u.db u.clock order)) = _
    rw [fulfils]
    rfl
  obtain ⟨x, step, xdb, xclock, found'⟩ := step_call found third
  have upto : Run Step s (front ++ .approve c operator k dto :: [.step c, .step c, .step c]) x :=
    run.append (.cons approve (steps.snoc step))
  rcases ends with rfl | ⟨rfl, kept⟩
  · refine ⟨front, _, c, x, _, between, fresh, upto, ?_, found', rfl, rfl, rfl⟩
    simp
  · have required : requireOrder x.db order.id = .ok order := by
      rw [xdb]
      apply orThrow_of
      rw [kept, key]
      exact there
    have fourth : ({ call with stage := .finalizing order } : Approval).next x.db x.clock =
        some ({ x.db with orders := x.db.orders.put (order.approve x.clock) },
          { call with stage := .done }) := by
      simp only [Approval.next, finalizeApproval, required, processing, bind, Except.bind, throwIf,
        reduceCtorEq, if_false, decide_false, ne_eq, not_true_eq_false, Bool.false_eq_true]
      rfl
    obtain ⟨t, step', -, -, found''⟩ := step_call found' fourth
    refine ⟨front, [.step c, .step c, .step c] ++ [.step c], c, t, _, between, fresh, ?_, ?_,
      found'', rfl, rfl, rfl⟩
    · have whole := upto.snoc step'
      simpa only [List.append_assoc, List.cons_append] using whole
    · simp

end Again

/-! ## What comes of an order in hand -/

section Finish

variable {s t : State} {k : OrderId} {order : SupportRechargeOrder}
  {dto : ApproveSupportRechargeOrderDto}

/-- A later call with these parameters returns, or a later rejection is let through. -/
def CanFinish (s : State) (k : OrderId) (dto : ApproveSupportRechargeOrderDto) : Prop :=
  ∃ acts t, Run Step s acts t ∧
    ((∃ c call, s.calls.find c = none ∧ t.calls.find c = some call ∧ call.orderId = k ∧
        call.dto = dto ∧ call.stage = .done) ∨
      ∃ operator reason db', rejectOrder t.db t.clock operator k reason = .ok db')

theorem reject_refused {db db' : Db} {now : Time} {operator : UserId} {reason : JsString}
    (found : db.orders.find k = some order) (claimed : order.claimed = true) :
    rejectOrder db now operator k reason ≠ .ok db' := by
  intro rejected
  obtain ⟨before, found', unclaimed, -⟩ := rejectOrder_ok rejected
  cases found.symm.trans found'
  rw [claimed] at unclaimed
  cases unclaimed

theorem canFinish_iff (sound : s.Sound) (there : s.db.orders.find k = some order)
    (processing : order.status = .processing)
    (payload : order.fulfillmentPayload = some (canonicalizeFulfillment dto))
    (valid : dto.valid = true) :
    CanFinish s k dto ↔ payable s.db order (canonicalizeFulfillment dto) := by
  constructor
  · rintro ⟨acts, t, run, finished⟩
    by_contra unpayable
    obtain ⟨order', stuck⟩ := stuck_run sound ⟨there, processing, payload, unpayable⟩ run
    rcases finished with ⟨c, call, -, found, own, -, done⟩ | ⟨operator, reason, db', rejected⟩
    · have ok := ((run_onward sound run).2.calls c call found).1
      rw [CallOk, done] at ok
      obtain ⟨current, found', approved, -⟩ := ok
      rw [own] at found'
      cases stuck.found.symm.trans found'
      rw [stuck.processing] at approved
      cases approved
    · exact reject_refused stuck.found (claimed_of_processing stuck.processing) rejected
  · intro can
    obtain ⟨front, rest, c, t, call, -, fresh, run, -, found, own, same, done⟩ :=
      paid_again sound 0 there processing payload valid can
    exact ⟨_, t, run, .inl ⟨c, call, fresh, found, own, same, done⟩⟩

end Finish

/-! ## What keeps the orders payable -/

section Undisturbed

variable {s t : State} {act : Act} {k : OrderId} {order : SupportRechargeOrder}
  {input : CanonicalFulfillment}

/-- A claimed order whose membership has not been granted. -/
def Waits (db : Db) (order : SupportRechargeOrder) : Prop :=
  order ∈ db.orders.rows ∧ order.status = .processing ∧
    order.fulfillmentType = some .membership ∧ db.registry.grants.find order.id = none

/-- No grant takes the id of an order that waits, nor gives its user the lifetime
membership; and no order is claimed for a user who has it, or under the key of a grant. -/
def Undisturbed (s : State) : Act → Prop
  | .grant _ target dto => ∀ order, Waits s.db order →
    order.id ≠ dto.idempotencyKey ∧ (dto.targetLevel = 4 → order.userID ≠ target)
  | .step c => ∀ call, s.calls.find c = some call → call.dto.fulfillmentType = .membership →
    (call.stage = .claiming → ∀ order, s.db.orders.find call.orderId = some order →
      order.claimed = false → s.db.registry.grants.find order.id = none ∧
        ∀ m, s.db.registry.members.find order.userID = some m → m.vipLevel ≠ 4) ∧
    ∀ order, call.stage = .fulfilling order → call.dto.membershipLevel = some 4 →
      ∀ other, Waits s.db other → other.userID = order.userID → other.id = order.id
  | _ => True

theorem put_apart {orders : Orders} {order' : SupportRechargeOrder}
    (after : (orders.put order').find k = some order) (apart : order ≠ order') :
    orders.find k = some order := by
  rw [Table.find_put] at after
  obtain ⟨before, found, written⟩ := Option.map_eq_some_iff.mp after
  split at written
  · exact absurd written.symm apart
  · rw [found, written]

/-- An order in hand was in hand before, or has been claimed. -/
theorem step_processing (step : Step s act t) (after : t.db.orders.find k = some order)
    (processing : order.status = .processing) : s.db.orders.find k = some order ∨
      ∃ c call current, act = .step c ∧ s.calls.find c = some call ∧ call.stage = .claiming ∧
        s.db.orders.find call.orderId = some current ∧ current.claimed = false ∧
        order = current.claim call.operator call.input ∧ t.db.registry = s.db.registry := by
  have other {orders : Orders} {order' : SupportRechargeOrder} (status : order'.status ≠ .processing)
      (after : (orders.put order').find k = some order) : orders.find k = some order := by
    apply put_apart after
    rintro rfl
    exact status processing
  unfold Step State.next at step
  cases act with
  | register id =>
    obtain ⟨members, inserted, rfl⟩ := Option.map_eq_some_iff.mp step
    exact .inl after
  | setStatus id status =>
    cases step
    exact .inl after
  | create o =>
    obtain ⟨db', created, rfl⟩ := Option.map_eq_some_iff.mp step
    obtain ⟨orders, inserted, rfl⟩ := createOrder_ok created
    dsimp only at after
    rw [Table.find_insert inserted] at after
    split at after
    · cases after
      cases processing
    · exact .inl after
  | evidence orderId seen message key =>
    dsimp only at step
    split at step
    · obtain ⟨db', accepted, rfl⟩ := Option.map_eq_some_iff.mp step
      obtain ⟨-, rfl⟩ | ⟨before, -, -, -, rfl⟩ := acceptEvidence_ok accepted
      · exact .inl after
      · exact .inl (other (fun status => by cases status) after)
    · cases step
  | approve c operator orderId dto =>
    dsimp only at step
    split at step
    · obtain ⟨calls, -, rfl⟩ := Option.map_eq_some_iff.mp step
      exact .inl after
    · cases step
  | step c =>
    obtain ⟨call, found, step⟩ := Option.bind_eq_some_iff.mp step
    obtain ⟨⟨db', call'⟩, next, rfl⟩ := Option.map_eq_some_iff.mp step
    obtain ⟨-, turn⟩ := call_next next
    dsimp only at turn after
    generalize call'.stage = stage' at turn
    cases turn with
    | @claimed current stage there waiting =>
      by_cases claimed : order = current.claim call.operator call.input
      · refine .inr ⟨c, call, current, rfl, found, stage, there, ?_, claimed, rfl⟩
        simp [SupportRechargeOrder.claimed, waiting]
      · exact .inl (put_apart after claimed)
    | recredited | credited | finalized => exact .inl (other (fun status => by cases status) after)
    | _ => exact .inl after
  | crash c =>
    obtain ⟨call, -, rfl⟩ := Option.map_eq_some_iff.mp step
    exact .inl after
  | reject operator orderId reason =>
    obtain ⟨db', rejected, rfl⟩ := Option.map_eq_some_iff.mp step
    obtain ⟨before, -, -, ⟨-, rfl⟩ | ⟨-, rfl⟩⟩ := rejectOrder_ok (toOption_some rejected)
    · exact .inl after
    · exact .inl (other (fun status => by cases status) after)
  | grant operator target dto =>
    obtain ⟨registry, granted, rfl⟩ := Option.map_eq_some_iff.mp step
    exact .inl after
  | ledger id balance =>
    dsimp only at step
    split at step
    · cases step
      exact .inl after
    · cases step
  | tick now =>
    dsimp only at step
    split at step
    · cases step
      exact .inl after
    · cases step

/-- Every order in hand can be paid. -/
def Payable (db : Db) : Prop :=
  ∀ k order input, db.orders.find k = some order → order.status = .processing →
    order.fulfillmentPayload = some input → payable db order input

theorem Enrolled.onward {db db' : Db} (enrolled : Enrolled db order input)
    (onward : Onward db db') : Enrolled db' order input := by
  obtain ⟨g, grantInput, found, rest⟩ := enrolled
  exact ⟨g, grantInput, onward.grants _ g found, rest⟩

theorem Agreed.type_of {input' : CanonicalFulfillment} (agreed : Agreed order input')
    (payload : order.fulfillmentPayload = some input) :
    order.fulfillmentType = some input.fulfillmentType := by
  cases agreed.payload.symm.trans payload
  exact agreed.type

theorem payable_step (sound : s.Sound) (before : Payable s.db) (step : Step s act t)
    (undisturbed : Undisturbed s act) : Payable t.db := by
  intro k order input after processing payload membership
  obtain ⟨onward, sound'⟩ := step_sound sound step
  rcases step_processing step after processing with
    found | ⟨c, call, current, rfl, found, stage, there, unclaimed, rfl, same⟩
  case inr =>
    obtain ⟨ok, -⟩ := sound.calls c call found
    rw [CallOk, stage] at ok
    obtain ⟨current', there', member⟩ := ok
    cases there.symm.trans there'
    obtain ⟨m, member⟩ := Option.isSome_iff_exists.mp member
    cases payload
    obtain ⟨fresh, level⟩ := (undisturbed call found membership).1 stage current there unclaimed
    rw [same]
    exact .inr ⟨fresh, m, member, level m member⟩
  have claimed := claimed_of_processing processing
  rcases before k order input found processing payload membership with
    enrolled | ⟨fresh, m, member, level⟩
  · exact .inl (enrolled.onward onward)
  have waits : Waits s.db order := by
    refine ⟨Table.find_mem found, processing, ?_, fresh⟩
    obtain ⟨dto, -, agreed⟩ := (sound.db.orders k order found).claimed claimed
    rw [agreed.type_of payload, membership]
  -- a grant under another key, that does not give this user the lifetime membership
  have apart {operator target : UserId} {grantInput : CanonicalGrantInput}
      (granted : Granted s.db.registry s.clock operator target grantInput t.db.registry)
      (key : order.id ≠ grantInput.idempotencyKey)
      (top : order.userID = target → (grantInput.targetLevel : Nat) ≠ 4) :
      t.db.registry.grants.find order.id = none ∧
        ∃ m, t.db.registry.members.find order.userID = some m ∧ m.vipLevel ≠ 4 := by
    constructor
    · cases made : t.db.registry.grants.find order.id with
      | none => rfl
      | some g => exact absurd (granted.fresh fresh made).1 key
    · obtain ⟨m', member', same | ⟨own, reached⟩⟩ := granted.levels member
      · exact ⟨m', member', by rw [same]; exact level⟩
      · exact ⟨m', member', by rw [reached]; exact top own⟩
  cases registers step with
  | kept grants levels =>
    obtain ⟨m', member', same⟩ := levels _ m member
    exact .inr ⟨grants ▸ fresh, m', member', same ▸ level⟩
  | granted canonical granted =>
    obtain ⟨key, -, exact', -⟩ := Memberships.canonicalizeInput_ok canonical
    obtain ⟨other, top⟩ := undisturbed order waits
    refine .inr (apart granted (key ▸ other) fun own four => ?_)
    exact top (exact' ▸ four) own
  | @enrolled c call order' grantInput _ calls stage type canonical granted =>
    obtain ⟨key, -, exact', -⟩ := Memberships.canonicalizeInput_ok canonical
    by_cases own : order.id = order'.id
    · -- the grant of the order itself
      obtain ⟨ok, -⟩ := sound.calls c call calls
      rw [CallOk, stage] at ok
      obtain ⟨there, current, found', -, payload', user, number, reviewed⟩ := ok
      have same : order.id = k := Table.find_key found
      rw [← there, ← own, same] at found'
      cases found.symm.trans found'
      cases payload.symm.trans payload'
      obtain ⟨g, made, replays⟩ := granted.replay
      have title : grantDto order call.input = grantDto order' call.input := by
        unfold grantDto SupportRechargeOrder.title
        rw [own, number]
      refine .inl ⟨g, grantInput, ?_, title ▸ canonical, ?_⟩
      · rw [own, ← show grantInput.idempotencyKey = order'.id from key]
        exact made
      · rw [reviewed, user]
        exact replays
    · refine .inr (apart granted (fun same => own (same.trans key)) fun user four => ?_)
      have lifetime : call.dto.membershipLevel = some 4 := by
        have chosen : (grantDto order' call.input).targetLevel = 4 := exact'.symm.trans four
        simp only [grantDto, Approval.input, canonicalizeFulfillment, type] at chosen
        cases given : call.dto.membershipLevel with
        | none => simp [given] at chosen
        | some n => simpa [given] using chosen
      exact own ((undisturbed call calls type).2 order' stage lifetime order waits user)

theorem payable_run {acts : List Act} (run : Run (Run.Where Step Undisturbed) .empty acts s) :
    Payable s.db := by
  refine run.preserves_where (I := State.Sound) (P := fun s => Payable s.db) ?_ ?_ empty_sound ?_
  · exact fun s act t step sound => (step_sound sound step).2
  · exact fun s act t step undisturbed sound before => payable_step sound before step undisturbed
  · intro k order input found
    cases found

end Undisturbed

/-! ## The orders of a run -/

section Payouts

variable {s : State} {acts : List Act}

structure PaidOut (s : State) : Prop where
  payments : ∀ k k' order order' payment, s.db.orders.find k = some order →
    s.db.orders.find k' = some order' → order.paymentTransactionID = some payment →
    order'.paymentTransactionID = some payment → k = k'
  coins : ∀ k tx, s.db.coinTransactions.find k = some tx → ∃ order input,
    s.db.orders.find k = some order ∧ order.status = .approved ∧
      order.fulfillmentPayload = some input ∧ input.fulfillmentType = .coin ∧
      tx.userID = order.userID ∧ tx.type = .recharge ∧ input.coinAmount = some tx.amount
  /-- A new grant is somebody else's, or it is of an order in hand and as it was claimed. -/
  grants : ∀ act t k g, Step s act t → s.db.registry.grants.find k = none →
    t.db.registry.grants.find k = some g →
    (∃ operator target dto, act = .grant operator target dto ∧ dto.idempotencyKey = k) ∨
      ∃ order input, s.db.orders.find k = some order ∧ order.status = .processing ∧
        order.fulfillmentPayload = some input ∧ input.fulfillmentType = .membership ∧
        Enrolled t.db order input
  onward : ∀ acts t, Run Step s acts t → Onward s.db t.db
  approved : ∀ k order, s.db.orders.find k = some order → order.status = .approved →
    ∃ input, order.fulfillmentPayload = some input ∧ Credited s.db order input

theorem paidOut (sound : s.Sound) : PaidOut s where
  payments := sound.db.distinct
  coins k tx coined := by
    obtain ⟨order, input, found, approved, payload, coin⟩ := sound.db.paid k tx coined
    obtain ⟨input', payload', credited⟩ := (sound.db.orders k order found).credited approved
    cases payload.symm.trans payload'
    rw [Credited, coin] at credited
    obtain ⟨tx', coined', user, type, amount⟩ := credited
    rw [show order.id = k from Table.find_key found, coined] at coined'
    cases coined'
    exact ⟨order, input, found, approved, payload, coin, user, type, amount⟩
  grants act t k g step fresh made := by
    have changes := registers step
    generalize registered : t.db.registry = registry at made changes
    cases changes with
    | kept grants =>
      rw [grants, fresh] at made
      cases made
    | @granted operator target dto input _ canonical granted =>
      have key := (Memberships.canonicalizeInput_ok canonical).1
      exact .inl ⟨operator, target, dto, rfl, key.symm.trans (granted.fresh fresh made).1.symm⟩
    | @enrolled c call order grantInput _ calls stage membership canonical granted =>
      obtain ⟨ok, -⟩ := sound.calls c call calls
      rw [CallOk, stage] at ok
      obtain ⟨own, current, found, claimed, payload, user, number, reviewed⟩ := ok
      have key := (Memberships.canonicalizeInput_ok canonical).1
      obtain ⟨here, replays⟩ := granted.fresh fresh made
      have here : k = order.id := here.trans key
      subst here
      rw [← own] at found
      have id : current.id = order.id := Table.find_key found
      have type : call.input.fulfillmentType = .membership := membership
      refine .inr ⟨current, call.input, found, ?_, payload, type, g, grantInput, ?_, ?_, ?_⟩
      · rcases claimed_cases claimed with processing | approved
        · exact processing
        · obtain ⟨input', payload', credited⟩ := (sound.db.orders _ _ found).credited approved
          cases payload.symm.trans payload'
          rw [Credited, type] at credited
          obtain ⟨g', -, before, -⟩ := credited
          rw [id, fresh] at before
          cases before
      · rw [registered, id]
        exact made
      · unfold grantDto SupportRechargeOrder.title at canonical ⊢
        rw [id, number]
        exact canonical
      · rw [reviewed, user]
        exact replays
  onward acts t run := (run_onward sound run).1
  approved k order found approved := (sound.db.orders k order found).credited approved

/-- And an order in hand can be finished if and only if it can be paid, as it can in a run
that does not disturb it. -/
theorem payouts (run : Run Step .empty acts s) :
    PaidOut s ∧
      (∀ k order dto, s.db.orders.find k = some order → order.status = .processing →
        order.fulfillmentPayload = some (canonicalizeFulfillment dto) → dto.valid = true →
          (CanFinish s k dto ↔ payable s.db order (canonicalizeFulfillment dto))) ∧
      (Run (Run.Where Step Undisturbed) .empty acts s →
        ∀ k order, s.db.orders.find k = some order → order.status = .processing →
          ∃ dto, dto.valid = true ∧
            order.fulfillmentPayload = some (canonicalizeFulfillment dto) ∧ CanFinish s k dto) := by
  have sound := run_sound run
  refine ⟨paidOut sound, fun k order dto found processing payload valid => ?_,
    fun undisturbed k order found processing => ?_⟩
  · exact canFinish_iff sound found processing payload valid
  · obtain ⟨dto, valid, agreed⟩ :=
      (sound.db.orders k order found).claimed (claimed_of_processing processing)
    have can := payable_run undisturbed k order _ found processing agreed.payload
    exact ⟨dto, valid, agreed.payload,
      (canFinish_iff sound found processing agreed.payload valid).mpr can⟩

def opening : Opening where
  id := 7
  orderNo := jsString "SR0"
  conversationID := 3
  userID := 1
  agentUserID := 2
  sourceMessageID := 4
  requestKind := .membership

def silver : ApproveSupportRechargeOrderDto where
  fulfillmentType := .membership
  paymentTransactionId := jsString "p"
  coinAmount := none
  membershipLevel := some 2
  note := none

/-- An order is claimed, and the call goes no further. -/
def claims : List Act :=
  [.register 1, .create opening, .evidence 7 .awaitingProof 5 (jsString "k"),
    .approve 1 9 7 silver, .step 1, .step 1, .step 1, .crash 1]

def lifetime : CreateMembershipGrantDto where
  quantity := none
  daily := false
  targetLevel := 4
  idempotencyKey := 8
  note := none

theorem claims_play : ((claims.foldlM State.next .empty).any fun s =>
    (s.db.orders.find 7).any (fun order => order.status = .processing) &&
      (s.next (.approve 2 9 7 silver)).isSome) = true := by
  decide +kernel

theorem payouts_claimed : ∃ s, Run Step .empty claims s ∧ PaidOut s ∧ ∃ order,
    s.db.orders.find 7 = some order ∧ order.status = .processing := by
  obtain ⟨s, played, ends⟩ := (Option.any_eq_true _ _).mp claims_play
  obtain ⟨row, -⟩ := Bool.and_eq_true _ _ ▸ ends
  obtain ⟨order, found, processing⟩ := (Option.any_eq_true _ _).mp row
  have run : Run Step .empty claims s := .of_foldlM played
  exact ⟨s, run, (payouts run).1, order, found, of_decide_eq_true processing⟩

theorem stuck_play : (((claims ++ [Act.grant 9 1 lifetime]).foldlM State.next .empty).any fun s =>
    (s.db.orders.find 7).any fun order => order.status = .processing &&
      order.fulfillmentPayload = some (canonicalizeFulfillment silver) &&
      (s.db.registry.grants.find order.id).isNone &&
      (s.db.registry.members.find order.userID).all fun m => m.vipLevel = 4) = true := by
  decide +kernel

/-- The lifetime membership is granted between the claim of an order and its payment. -/
theorem order_stuck : ¬ ∀ (acts : List Act) (s : State) (k : OrderId)
    (order : SupportRechargeOrder) (dto : ApproveSupportRechargeOrderDto),
    Run Step .empty acts s → s.db.orders.find k = some order → order.status = .processing →
      order.fulfillmentPayload = some (canonicalizeFulfillment dto) → dto.valid = true →
        CanFinish s k dto := by
  intro finishes
  obtain ⟨s, played, row⟩ := (Option.any_eq_true _ _).mp stuck_play
  obtain ⟨order, found, row⟩ := (Option.any_eq_true _ _).mp row
  simp only [Bool.and_eq_true, decide_eq_true_eq, Option.isNone_iff_eq_none] at row
  obtain ⟨⟨⟨processing, payload⟩, fresh⟩, level⟩ := row
  have run : Run Step .empty (claims ++ [Act.grant 9 1 lifetime]) s := .of_foldlM played
  have can := finishes _ s 7 order silver run found processing payload (by decide)
  have sound := run_sound run
  have payable := (canFinish_iff sound found processing payload (by decide)).mp can
  rcases payable rfl with ⟨g, -, made, -⟩ | ⟨-, m, member, below⟩
  · rw [fresh] at made
    cases made
  · rw [member] at level
    exact below (of_decide_eq_true level)

end Payouts

end CircleBackend.Recharge
