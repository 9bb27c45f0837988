import CircleBackend.Coin.Model

/-!
# Gifts move coins once

Every transaction keeps the wallets equal to the ledger and what a sender gives
on one day within the limit, and a gift only moves coins between two wallets. A
call that finds its gift recorded never gets to the transaction; it still has to
pass the queries that come before the key.
-/

namespace CircleBackend.Coin

open Library
open Session (UserId)

namespace Db

/-! ## What a transaction writes -/

section Writes

variable {db db' : Db} {u v : UserId} {n : Nat}

@[simp] theorem balanceOf_ensureWallet : (db.ensureWallet u).balanceOf v = db.balanceOf v := by
  unfold balanceOf ensureWallet
  rw [Table.find_ensure]
  by_cases own : v = u
  · cases found : db.wallets.find u with
    | none => simp [own, found]
    | some w => simp [own, found]
  · simp [own]

@[simp] theorem totalBalance_ensureWallet : (db.ensureWallet u).totalBalance = db.totalBalance :=
  Table.sum_ensure db.wallets rfl

theorem balance_put {w : Wallet} (found : db.wallets.find u = some w) (b : Int) :
    (∀ v, { db with wallets := db.wallets.put { w with balance := b } }.balanceOf v =
      if v = u then b else db.balanceOf v) ∧
    { db with wallets := db.wallets.put { w with balance := b } }.totalBalance =
      db.totalBalance + (b - w.balance) := by
  have key : w.userID = u := Table.find_key found
  have there : db.wallets.find (Wallet.userID { w with balance := b }) = some w := key.symm ▸ found
  constructor
  · intro v
    simp only [balanceOf]
    rw [Table.find_put_of_find there]
    by_cases own : v = u
    · simp [own, key]
    · simp [own, key]
  · simp only [totalBalance]
    rw [Table.sum_put there]

theorem debit_spec (h : db.debit u n = some db') :
    (n : Int) ≤ db.balanceOf u ∧
      (∀ v, db'.balanceOf v = db.balanceOf v - if v = u then (n : Int) else 0) ∧
      db'.totalBalance = db.totalBalance - n ∧ db' = { db with wallets := db'.wallets } := by
  obtain ⟨wallets, updated, rfl⟩ := Option.map_eq_some_iff.mp h
  obtain ⟨w, found, chosen⟩ := Option.bind_eq_some_iff.mp updated
  split at chosen
  · rename_i enough
    cases chosen
    have balance : db.balanceOf u = w.balance := by simp [balanceOf, found]
    obtain ⟨balances, total⟩ := balance_put found (w.balance - n)
    refine ⟨by simpa [balance] using enough, fun v => ?_, ?_, rfl⟩
    · rw [balances v]
      by_cases own : v = u
      · simp [own, balance]
      · simp [own]
    · rw [total]
      omega
  · cases chosen

theorem increment_spec (h : db.increment u n = .ok db') :
    (∀ v, db'.balanceOf v = db.balanceOf v + if v = u then (n : Int) else 0) ∧
      db'.totalBalance = db.totalBalance + n ∧ db' = { db with wallets := db'.wallets } := by
  unfold increment at h
  split at h
  · cases h
  · rename_i w found
    split at h
    · cases h
    · cases h
      have balance : db.balanceOf u = w.balance := by simp [balanceOf, found]
      obtain ⟨balances, total⟩ := balance_put found (w.balance + n)
      refine ⟨fun v => ?_, ?_, rfl⟩
      · rw [balances v]
        by_cases own : v = u
        · simp [own, balance]
        · simp [own]
      · rw [total]
        omega

/-- A transaction of `creditInTransaction` that commits. -/
theorem credit_spec {amount : Nat} {type : CoinTxType} {note key : JsString} {now : Time}
    (h : db.creditInTransaction u amount type note key now = .ok db') :
    (∀ v, db'.balanceOf v = db.balanceOf v + if v = u then (amount : Int) else 0) ∧
      (∃ b, db'.coinTransactions =
        db.coinTransactions ++ [⟨u, type, amount, b, some note, none, some key, now⟩]) ∧
      db'.gifts = db.gifts := by
  unfold creditInTransaction at h
  cases run : (db.ensureWallet u).increment u amount with
  | error fault => simp [run, Bind.bind, Except.bind] at h
  | ok mid =>
    simp only [run, Bind.bind, Except.bind] at h
    split at h
    · cases h
    · cases h
      obtain ⟨balances, -, frame⟩ := increment_spec run
      have txs : mid.coinTransactions = db.coinTransactions := by rw [frame]; rfl
      have gifts : mid.gifts = db.gifts := by rw [frame]; rfl
      refine ⟨fun v => ?_, ⟨_, by rw [txs]⟩, gifts⟩
      have moved := balances v
      rw [balanceOf_ensureWallet] at moved
      exact moved

/-- A transaction of `sendGift` that commits. -/
structure Sent (db : Db) (gift : Gift) (todayStart createdAt : Time) (giftId : GiftId)
    (db' : Db) : Prop where
  limit : (db.sentSince gift.senderId todayStart).natAbs + gift.amount ≤ giftDailyLimit
  covered : (gift.amount : Int) ≤ db.balanceOf gift.senderId
  balances : ∀ v, db'.balanceOf v =
    db.balanceOf v - (if v = gift.senderId then (gift.amount : Int) else 0) +
      if v = gift.recipientId then (gift.amount : Int) else 0
  total : db'.totalBalance = db.totalBalance
  gifts : db.gifts.insert
    ⟨gift.idempotencyKey, giftId, gift.senderId, gift.recipientId, gift.amount, gift.message⟩ =
      some db'.gifts
  coinTransactions : ∃ b b', db'.coinTransactions = db.coinTransactions ++
    [⟨gift.senderId, .giftSent, -gift.amount, b, gift.message, some giftId, none, createdAt⟩,
      ⟨gift.recipientId, .giftReceived, gift.amount, b', gift.message, some giftId, none,
        createdAt⟩]

theorem sendGift_spec {gift : Gift} {todayStart createdAt : Time} {giftId : GiftId}
    (h : db.sendGift gift todayStart createdAt giftId = .ok db') :
    Sent db gift todayStart createdAt giftId db' := by
  unfold sendGift at h
  dsimp only at h
  split at h
  · cases h
  · rename_i within
    split at h
    · cases h
    · rename_i debited taken
      cases run : debited.increment gift.recipientId gift.amount with
      | error fault => simp [run, Bind.bind, Except.bind] at h
      | ok credited =>
        simp only [run, Bind.bind, Except.bind] at h
        split at h
        · cases h
        · rename_i gifts inserted
          cases h
          obtain ⟨covered, less, lost, frame⟩ := debit_spec taken
          obtain ⟨more, gained, frame'⟩ := increment_spec run
          have txs : credited.coinTransactions = db.coinTransactions := by rw [frame', frame]; rfl
          have before : credited.gifts = db.gifts := by rw [frame', frame]; rfl
          simp only [balanceOf_ensureWallet] at covered less
          simp only [totalBalance_ensureWallet] at lost
          refine ⟨Nat.le_of_not_lt within, covered, fun v => ?_, ?_, before ▸ inserted,
            ⟨_, _, by rw [txs]⟩⟩
          · have moved := more v
            rw [less v] at moved
            exact moved
          · have moved : credited.totalBalance = db.totalBalance := by
              rw [gained, lost]
              omega
            exact moved

end Writes

/-! ## The ledger -/

/-- What the reconciliation looks for. -/
def Reconciled (db : Db) : Prop := ∀ u, db.balanceOf u = db.ledgerOf u ∧ 0 ≤ db.balanceOf u

theorem reconcile_clean {db : Db} (h : db.Reconciled) :
    db.reconcile.ledgerMismatches = 0 ∧ db.reconcile.negativeBalances = 0 := by
  have rows : ∀ row ∈ db.reconciliationRows, (row.1.map (·.balance)).getD 0 = row.2 ∧
      row.1.any (·.balance < 0) = false := by
    intro row member
    rcases List.mem_append.mp member with wallet | ledger
    · obtain ⟨w, stored, rfl⟩ := List.mem_map.mp wallet
      have balance : db.balanceOf w.userID = w.balance := by
        simp [balanceOf, Table.mem_find stored]
      obtain ⟨even, positive⟩ := h w.userID
      rw [balance] at even positive
      simpa [even] using even ▸ positive
    · obtain ⟨u, listed, rfl⟩ := List.mem_map.mp ledger
      have absent : db.wallets.find u = none := by simpa using (List.mem_filter.mp listed).2
      have even := (h u).1
      simp only [balanceOf, absent, Option.map_none, Option.getD_none] at even
      simpa using even
  constructor
  · exact List.countP_eq_zero.mpr fun row member => by simp [(rows row member).1]
  · exact List.countP_eq_zero.mpr fun row member => by simp [(rows row member).2]

def giftSent (tx : CoinTransaction) : Bool := tx.type = .giftSent

def Debits (db : Db) : Prop := ∀ tx ∈ db.coinTransactions, giftSent tx = true → tx.amount ≤ 0

/-- What a sender gave on the day that starts at `day`. -/
def sentOn (calendar : Calendar) (db : Db) (sender : UserId) (day : Time) : Int :=
  posted (·.amount)
    (fun tx => tx.userID = sender && giftSent tx && calendar.startOfDay tx.createdAt = day)
    db.coinTransactions

def Limited (calendar : Calendar) (db : Db) : Prop :=
  ∀ sender day, (db.sentOn calendar sender day).natAbs ≤ giftDailyLimit

section Ledger

variable {calendar : Calendar} {db db' : Db} {gift : Gift} {at' createdAt : Time} {giftId : GiftId}

/-- The transaction looks back to the start of a day that is not after the one the
gift falls on. -/
theorem sentOn_le_sentSince (debits : db.Debits) (sender : UserId) {todayStart day : Time}
    (h : todayStart ≤ day) :
    (db.sentOn calendar sender day).natAbs ≤ (db.sentSince sender todayStart).natAbs := by
  have since : ∀ tx ∈ db.coinTransactions,
      (tx.userID = sender && giftSent tx && todayStart ≤ tx.createdAt) = true → tx.amount ≤ 0 := by
    intro tx member picked
    simp only [Bool.and_eq_true] at picked
    exact debits tx member picked.1.2
  have sub : ∀ tx ∈ db.coinTransactions,
      (tx.userID = sender && giftSent tx && calendar.startOfDay tx.createdAt = day) = true →
        (tx.userID = sender && giftSent tx && todayStart ≤ tx.createdAt) = true := by
    intro tx _ picked
    simp only [Bool.and_eq_true, decide_eq_true_eq] at picked ⊢
    refine ⟨picked.1, ?_⟩
    have inside := calendar.before tx.createdAt
    rw [picked.2] at inside
    exact Nat.le_trans h inside
  have le : db.sentSince sender todayStart ≤ db.sentOn calendar sender day := posted_le since sub
  have on : db.sentOn calendar sender day ≤ 0 :=
    posted_debits fun tx member picked => since tx member (sub tx member picked)
  omega

theorem Sent.reconciled (sent : Sent db gift at' createdAt giftId db') (h : db.Reconciled) :
    db'.Reconciled := by
  intro v
  obtain ⟨b, b', txs⟩ := sent.coinTransactions
  have moved := sent.balances v
  have ledger : db'.ledgerOf v = db.ledgerOf v - (if v = gift.senderId then (gift.amount : Int)
      else 0) + if v = gift.recipientId then (gift.amount : Int) else 0 := by
    unfold ledgerOf
    rw [txs, posted_append, posted_cons, posted_cons, posted_nil]
    simp only [decide_eq_true_eq, eq_comm (a := v)]
    split <;> split <;> omega
  obtain ⟨even, positive⟩ := h v
  have covered := sent.covered
  constructor
  · rw [moved, ledger, even]
  · rw [moved]
    by_cases sender : v = gift.senderId
    · subst sender
      rw [if_pos rfl]
      split <;> omega
    · simp only [sender, ↓reduceIte]
      split <;> omega

theorem Sent.debits (sent : Sent db gift at' createdAt giftId db') (h : db.Debits) :
    db'.Debits := by
  intro tx member kind
  obtain ⟨b, b', txs⟩ := sent.coinTransactions
  rw [txs] at member
  rcases List.mem_append.mp member with old | new
  · exact h tx old kind
  · simp only [List.mem_cons, List.not_mem_nil, or_false] at new
    rcases new with rfl | rfl
    · dsimp only
      omega
    · cases kind

theorem Sent.limited (sent : Sent db gift (calendar.startOfDay at') createdAt giftId db')
    (later : at' ≤ createdAt) (debits : db.Debits) (h : db.Limited calendar) :
    db'.Limited calendar := by
  intro sender day
  obtain ⟨b, b', txs⟩ := sent.coinTransactions
  have limit := sent.limit
  have before := h sender day
  have entry : db'.sentOn calendar sender day = db.sentOn calendar sender day -
      if gift.senderId = sender ∧ calendar.startOfDay createdAt = day then (gift.amount : Int)
      else 0 := by
    unfold sentOn
    rw [txs, posted_append, posted_cons, posted_cons, posted_nil]
    simp only [giftSent, decide_true, Bool.and_true, Bool.and_eq_true, decide_eq_true_eq,
      reduceCtorEq, decide_false, Bool.and_false, Bool.false_and, Bool.false_eq_true, ↓reduceIte]
    split <;> omega
  by_cases own : gift.senderId = sender ∧ calendar.startOfDay createdAt = day
  · obtain ⟨rfl, rfl⟩ := own
    have today : (db.sentOn calendar gift.senderId (calendar.startOfDay createdAt)).natAbs ≤ _ :=
      sentOn_le_sentSince debits gift.senderId (calendar.ordered _ _ later)
    rw [entry, if_pos ⟨rfl, rfl⟩]
    omega
  · rw [entry, if_neg own, Int.sub_zero]
    exact before

variable {u : UserId} {amount : Nat} {type : CoinTxType} {note key : JsString} {now : Time}

theorem credit_reconciled (h : db.creditInTransaction u amount type note key now = .ok db')
    (even : db.Reconciled) : db'.Reconciled := by
  intro v
  obtain ⟨balances, ⟨b, txs⟩, -⟩ := credit_spec h
  have moved := balances v
  have ledger : db'.ledgerOf v = db.ledgerOf v + if v = u then (amount : Int) else 0 := by
    unfold ledgerOf
    rw [txs, posted_append, posted_cons, posted_nil]
    simp only [decide_eq_true_eq, eq_comm (a := v)]
    split <;> omega
  obtain ⟨same, positive⟩ := even v
  constructor
  · rw [moved, ledger, same]
  · rw [moved]
    split <;> omega

theorem credit_debits (h : db.creditInTransaction u amount type note key now = .ok db')
    (other : type ≠ .giftSent) (debits : db.Debits) : db'.Debits := by
  intro tx member kind
  obtain ⟨-, ⟨b, txs⟩, -⟩ := credit_spec h
  rw [txs] at member
  rcases List.mem_append.mp member with old | new
  · exact debits tx old kind
  · rw [List.mem_singleton] at new
    subst new
    simp [giftSent, other] at kind

theorem credit_limited (h : db.creditInTransaction u amount type note key now = .ok db')
    (other : type ≠ .giftSent) (limited : db.Limited calendar) : db'.Limited calendar := by
  intro sender day
  obtain ⟨-, ⟨b, txs⟩, -⟩ := credit_spec h
  have same : db'.sentOn calendar sender day = db.sentOn calendar sender day := by
    unfold sentOn
    rw [txs, posted_append, posted_cons, posted_nil]
    simp [giftSent, other]
  rw [same]
  exact limited sender day

end Ledger

end Db

/-! ## Runs -/

section Steps

variable {calendar : Calendar} {s t : State} {a : Action} {c : CallId} {call : Call}

/-- What a step may do. -/
inductive Turned (calendar : Calendar) (s : State) : Action → State → Prop
  | begun {c : CallId} {gift : Gift} (unused : s.calls c = none) :
      Turned calendar s (.begin c gift)
        (s.move c ⟨gift, .checked, s.db.committed gift⟩ (State.opening gift))
  | looked {c : CallId} {call : Call} {phase : Phase} (found : s.calls c = some call)
      (answer : s.looked call.gift call.phase = some phase) :
      Turned calendar s (.look c) (s.move c call phase)
  | sent {c : CallId} {createdAt at' : Time} {giftId : GiftId} {call : Call} {db : Db}
      (found : s.calls c = some call) (fresh : call.phase = .fresh at') (later : at' ≤ createdAt)
      (sent : s.db.Sent call.gift (calendar.startOfDay at') createdAt giftId db) :
      Turned calendar s (.settle c createdAt giftId) ({ s with db := db }.move c call .returned)
  | failed {a : Action} {c : CallId} {call : Call} {at' : Time} {fault : Fault}
      (found : s.calls c = some call) (fresh : call.phase = .fresh at')
      (caller : a.caller = some c) : Turned calendar s a (s.move c call (State.failed fault))
  | outside {a : Action} {t : State} (nobody : a.caller = none) (calls : t.calls = s.calls)
      (frame : t.db = { s.db with users := t.db.users, friends := t.db.friends }) :
      Turned calendar s a t
  | credited {u : UserId} {amount : Nat} {type : CoinTxType} {note key : JsString} {db : Db}
      (other : type ≠ .giftSent)
      (run : s.db.creditInTransaction u amount type note key s.now = .ok db) :
      Turned calendar s (.credit u amount type note key) { s with db := db }

theorem Step.turned (h : Step calendar s a t) : Turned calendar s a t := by
  unfold Step at h
  cases a with
  | begin c gift =>
    simp only [State.next] at h
    split at h
    · cases h
    · rename_i unused
      cases h
      exact .begun (by simpa using unused)
  | look c =>
    obtain ⟨call, found, h⟩ := Option.bind_eq_some_iff.mp h
    obtain ⟨phase, answer, rfl⟩ := Option.map_eq_some_iff.mp h
    exact .looked found answer
  | settle c createdAt giftId =>
    obtain ⟨call, found, h⟩ := Option.bind_eq_some_iff.mp h
    split at h
    · rename_i at' fresh
      split at h
      · rename_i timely
        split at h
        · rename_i db run
          cases h
          exact .sent found fresh timely.1 (Db.sendGift_spec run)
        · cases h
          exact .failed found fresh rfl
      · cases h
    · cases h
  | abort c fault =>
    obtain ⟨call, found, h⟩ := Option.bind_eq_some_iff.mp h
    split at h
    · rename_i at' fresh
      cases h
      exact .failed found fresh rfl
    · cases h
  | setStatus u status =>
    cases h
    exact .outside rfl rfl rfl
  | setFriend userID friendID state =>
    cases state with
    | none =>
      cases h
      exact .outside rfl rfl rfl
    | some state =>
      cases h
      exact .outside rfl rfl rfl
  | credit u amount type note key =>
    simp only [State.next] at h
    split at h
    · cases h
    · rename_i other
      split at h
      · rename_i db run
        cases h
        exact .credited other run
      · cases h
  | pass ms =>
    cases h
    exact .outside rfl rfl rfl

/-- What a row of the gifts was made from. -/
def Fair (senderId recipientId : UserId) (amount : Nat) : Prop :=
  senderId ≠ recipientId ∧ amount ≤ giftMaxSingle

/-- The ledger, and that calls and gifts have passed the checks without a query. -/
structure Sound (calendar : Calendar) (s : State) : Prop where
  reconciled : s.db.Reconciled
  debits : s.db.Debits
  limited : s.db.Limited calendar
  checked : ∀ c call, s.calls c = some call → (∀ fault, call.phase ≠ .threw fault) →
    Fair call.gift.senderId call.gift.recipientId call.gift.amount
  recorded : ∀ g ∈ s.db.gifts.rows, Fair g.senderID g.recipientID g.amount

variable {d : CallId} {old : Call} {phase : Phase}

theorem move_calls (h : (s.move d old phase).calls c = some call) :
    s.calls c = some call ∨ c = d ∧ call = { old with phase := phase } := by
  by_cases own : c = d
  · subst own
    simp only [State.move, Function.update_self, Option.some.injEq] at h
    exact Or.inr ⟨rfl, h.symm⟩
  · simp only [State.move, Function.update_of_ne own] at h
    exact Or.inl h

theorem checked_move (h : ∀ c call, s.calls c = some call → (∀ fault, call.phase ≠ .threw fault) →
      Fair call.gift.senderId call.gift.recipientId call.gift.amount)
    (own : (∀ fault, phase ≠ .threw fault) →
      Fair old.gift.senderId old.gift.recipientId old.gift.amount)
    (found : (s.move d old phase).calls c = some call) (live : ∀ fault, call.phase ≠ .threw fault) :
    Fair call.gift.senderId call.gift.recipientId call.gift.amount := by
  rcases move_calls found with same | ⟨rfl, rfl⟩
  · exact h c call same live
  · exact own live

theorem opening_fair {gift : Gift} (h : ∀ fault, State.opening gift ≠ .threw fault) :
    Fair gift.senderId gift.recipientId gift.amount := by
  unfold State.opening at h
  split at h
  · exact absurd rfl (h _)
  · rename_i apart
    split at h
    · exact absurd rfl (h _)
    · rename_i small
      exact ⟨apart, Nat.le_of_not_lt small⟩

theorem looked_live {gift : Gift} {phase' : Phase} (h : s.looked gift phase = some phase') :
    ∀ fault, phase ≠ .threw fault := by
  rintro fault rfl
  cases h

theorem Sound.step (h : Sound calendar s) (step : Step calendar s a t) : Sound calendar t := by
  cases step.turned with
  | begun unused =>
    exact ⟨h.reconciled, h.debits, h.limited, fun c call => checked_move h.checked opening_fair,
      h.recorded⟩
  | looked found answer =>
    have own := h.checked _ _ found (looked_live answer)
    exact ⟨h.reconciled, h.debits, h.limited, fun c call => checked_move h.checked fun _ => own,
      h.recorded⟩
  | sent found fresh later sent =>
    have own := h.checked _ _ found (by simp [fresh])
    refine ⟨sent.reconciled h.reconciled, sent.debits h.debits,
      sent.limited later h.debits h.limited, ?_, ?_⟩
    · intro c call
      exact checked_move h.checked fun _ => own
    · intro g member
      rcases (Table.mem_insert sent.gifts).mp member with old | rfl
      · exact h.recorded g old
      · exact own
  | failed found fresh caller =>
    have own := h.checked _ _ found (by simp [fresh])
    exact ⟨h.reconciled, h.debits, h.limited, fun c call => checked_move h.checked fun _ => own,
      h.recorded⟩
  | outside nobody calls frame =>
    refine ⟨?_, ?_, ?_, calls ▸ h.checked, ?_⟩
    · rw [frame]
      exact h.reconciled
    · rw [frame]
      exact h.debits
    · rw [frame]
      exact h.limited
    · rw [frame]
      exact h.recorded
  | credited other run =>
    have gifts := (Db.credit_spec run).2.2
    exact ⟨Db.credit_reconciled run h.reconciled, Db.credit_debits run other h.debits,
      Db.credit_limited run other h.limited, h.checked, gifts ▸ h.recorded⟩

theorem Start.sound (h : Start s) : Sound calendar s := by
  have absent : ∀ u, s.db.wallets.find u = none := fun u => by simp [Table.find, h.wallets]
  refine ⟨fun u => ?_, ?_, ?_, ?_, ?_⟩
  · simp [Db.balanceOf, Db.ledgerOf, absent, h.coinTransactions]
  · intro tx member
    simp [h.coinTransactions] at member
  · intro sender day
    simp [Db.sentOn, h.coinTransactions]
  · intro c call found
    simp [h.calls] at found
  · intro g member
    simp [h.gifts] at member

theorem Sound.run {as : List Action} (h : Sound calendar s)
    (run : Run (Step calendar) s as t) : Sound calendar t :=
  run.preserves (fun _ _ _ step sound => sound.step step) h

/-! ## A gift that is recorded -/

theorem committed_iff {db : Db} {gift : Gift} :
    db.committed gift = true ↔ ∃ prior, db.gifts.find gift.idempotencyKey = some prior ∧
      assertIdempotentReplayMatches prior gift = none := by
  unfold Db.committed
  cases db.gifts.find gift.idempotencyKey with
  | none => simp
  | some prior => simp

theorem committed_grow {db db' : Db} {gift : Gift}
    (grown : ∀ k g, db.gifts.find k = some g → db'.gifts.find k = some g)
    (h : db.committed gift = true) : db'.committed gift = true := by
  obtain ⟨prior, found, same⟩ := committed_iff.mp h
  exact committed_iff.mpr ⟨prior, grown _ _ found, same⟩

theorem Step.committed {gift : Gift} (h : Step calendar s a t)
    (committed : s.db.committed gift = true) : t.db.committed gift = true := by
  cases h.turned with
  | begun _ => exact committed
  | looked _ _ => exact committed
  | failed _ _ _ => exact committed
  | sent found fresh later sent =>
    apply committed_grow (fun k g there => ?_) committed
    have apart := Table.insert_fresh sent.gifts
    have after := Table.find_insert sent.gifts k
    split at after
    · rename_i own
      rw [own, there] at apart
      cases apart
    · exact after.trans there
  | outside nobody calls frame =>
    rw [frame]
    exact committed
  | credited other run =>
    apply committed_grow (fun k g there => ?_) committed
    rw [(Db.credit_spec run).2.2]
    exact there

/-- Where a call is that will not reach the transaction. -/
def Phase.replaying : Phase → Bool
  | .checked | .recipientFound | .befriended | .returned => true
  | .fresh _ | .collided | .threw _ => false

/-- A call made after its gift was recorded finds the recipient active and the
friendship accepted. -/
def State.answered (s : State) : Action → Bool
  | .look c =>
    (s.calls c).all fun call =>
      !call.late ||
        match call.phase with
        | .checked => s.db.recipientActive call.gift.recipientId
        | .recipientFound => s.db.areFriends call.gift.senderId call.gift.recipientId
        | _ => true
  | _ => true

def Answered (s : State) (a : Action) : Prop := s.answered a = true

/-- The calls whose gift was there when they began. -/
def Replays (s : State) : Prop :=
  ∀ c call, s.calls c = some call → call.late = true →
    s.db.committed call.gift = true ∧ call.phase.replaying = true

theorem replays_move (h : Replays s)
    (own : old.late = true → s.db.committed old.gift = true ∧ phase.replaying = true) :
    Replays (s.move d old phase) := by
  intro c call found late
  rcases move_calls found with same | ⟨rfl, rfl⟩
  · exact h c call same late
  · exact own late

theorem looked_replaying {gift : Gift} {phase' : Phase} (committed : s.db.committed gift = true)
    (replaying : phase.replaying = true)
    (recipient : phase = .checked → s.db.recipientActive gift.recipientId = true)
    (friends : phase = .recipientFound → s.db.areFriends gift.senderId gift.recipientId = true)
    (answer : s.looked gift phase = some phase') : phase'.replaying = true := by
  obtain ⟨prior, there, same⟩ := committed_iff.mp committed
  cases phase with
  | checked =>
    simp only [State.looked, recipient rfl, ↓reduceIte, Option.some.injEq] at answer
    subst answer
    rfl
  | recipientFound =>
    simp only [State.looked, friends rfl, ↓reduceIte, Option.some.injEq] at answer
    subst answer
    rfl
  | befriended =>
    simp only [State.looked, there, same, Option.elim_none, Option.some.injEq] at answer
    subst answer
    rfl
  | fresh at' => cases replaying
  | collided => cases replaying
  | returned => cases answer
  | threw fault => cases replaying

/-- The gift that was recorded passed the checks, and so does the one that repeats it. -/
theorem opening_committed {gift : Gift} (sound : Sound calendar s)
    (committed : s.db.committed gift = true) : State.opening gift = .checked := by
  obtain ⟨prior, there, same⟩ := committed_iff.mp committed
  have fair := sound.recorded prior (Table.find_mem there)
  simp only [assertIdempotentReplayMatches, ite_eq_right_iff,
    reduceCtorEq, imp_false, not_or, not_not] at same
  obtain ⟨sender, recipient, amount⟩ := same
  rw [sender, recipient, amount] at fair
  simp [State.opening, fair.1, Nat.not_lt.mpr fair.2]

theorem Replays.step (h : Replays s) (sound : Sound calendar s) (step : Step calendar s a t)
    (answered : Answered s a) : Replays t := by
  cases step.turned with
  | begun unused =>
    apply replays_move h
    intro late
    exact ⟨late, by rw [opening_committed sound late]; rfl⟩
  | looked found answer =>
    apply replays_move h
    intro late
    obtain ⟨committed, replaying⟩ := h _ _ found late
    have met := answered
    simp only [Answered, State.answered, found, Option.all_some, late, Bool.not_true,
      Bool.false_or] at met
    refine ⟨committed, looked_replaying committed replaying ?_ ?_ answer⟩
    · intro phase
      simpa [phase] using met
    · intro phase
      simpa [phase] using met
  | sent found fresh later sent =>
    intro c call there late
    rcases move_calls there with same | ⟨rfl, rfl⟩
    · exact ⟨step.committed (h c call same late).1, (h c call same late).2⟩
    · have replaying := (h _ _ found late).2
      rw [fresh] at replaying
      cases replaying
  | failed found fresh caller =>
    apply replays_move h
    intro late
    have replaying := (h _ _ found late).2
    rw [fresh] at replaying
    cases replaying
  | outside nobody calls frame =>
    intro c call there late
    rw [calls] at there
    exact ⟨step.committed (h c call there late).1, (h c call there late).2⟩
  | credited other run =>
    intro c call there late
    exact ⟨step.committed (h c call there late).1, (h c call there late).2⟩

/-- Such a call writes nothing. -/
theorem Replays.kept (h : Replays s) (step : Step calendar s a t) (caller : a.caller = some c)
    (found : s.calls c = some call) (late : call.late = true) : t.db = s.db := by
  cases step.turned with
  | begun _ => rfl
  | looked _ _ => rfl
  | failed _ _ _ => rfl
  | sent there fresh later sent =>
    cases caller
    have one := Option.some.inj (there.symm.trans found)
    have replaying := (h _ _ found late).2
    rw [← one, fresh] at replaying
    cases replaying
  | outside nobody _ _ => simp [nobody] at caller
  | credited _ _ => cases caller

/-! ## Calls over a run -/

theorem Step.begun {gift : Gift} (h : Step calendar s (.begin c gift) t) :
    t.calls c = some ⟨gift, State.opening gift, s.db.committed gift⟩ := by
  simp only [Step, State.next] at h
  split at h
  · cases h
  · cases h
    exact Function.update_self ..

/-- A call is not forgotten, and keeps what it was made with. -/
theorem Step.kept_call (h : Step calendar s a t) (found : s.calls c = some call) :
    ∃ call', t.calls c = some call' ∧ call'.gift = call.gift ∧ call'.late = call.late ∧
      (call.phase = .returned → call'.phase = .returned) := by
  have moves : ∀ (d : CallId) (old : Call) (phase : Phase) (db : Db), s.calls d = some old →
      old.phase ≠ .returned →
      ∃ call', (State.move { s with db := db } d old phase).calls c = some call' ∧
        call'.gift = call.gift ∧ call'.late = call.late ∧
          (call.phase = .returned → call'.phase = .returned) := by
    intro d old phase db there open'
    by_cases own : c = d
    · subst own
      have one : old = call := Option.some.inj (there.symm.trans found)
      exact ⟨_, Function.update_self .., by rw [one], by rw [one], fun h => absurd (one ▸ h) open'⟩
    · exact ⟨call, (Function.update_of_ne own ..).trans found, rfl, rfl, id⟩
  cases h.turned with
  | begun unused =>
    rename_i d gift
    have own : c ≠ d := by
      rintro rfl
      simp [found] at unused
    exact ⟨call, (Function.update_of_ne own ..).trans found, rfl, rfl, id⟩
  | looked there answer =>
    apply moves _ _ _ s.db there
    intro done
    rw [done] at answer
    cases answer
  | sent there fresh _ _ => exact moves _ _ _ _ there (by simp [fresh])
  | failed there fresh _ => exact moves _ _ _ s.db there (by simp [fresh])
  | outside _ calls _ => exact ⟨call, calls ▸ found, rfl, rfl, id⟩
  | credited _ _ => exact ⟨call, found, rfl, rfl, id⟩

theorem kept_calls {as : List Action} (run : Run (Step calendar) s as t)
    (found : s.calls c = some call) :
    ∃ call', t.calls c = some call' ∧ call'.gift = call.gift ∧ call'.late = call.late ∧
      (call.phase = .returned → call'.phase = .returned) := by
  induction run with
  | nil => exact ⟨call, found, rfl, rfl, id⟩
  | snoc _ last ih =>
    obtain ⟨mid, there, gift, late, done⟩ := ih
    obtain ⟨call', there', gift', late', done'⟩ := last.kept_call there
    exact ⟨call', there', gift'.trans gift, late'.trans late, fun h => done' (done h)⟩

/-- A call that writes has returned. -/
theorem Step.wrote (h : Step calendar s a t) (caller : a.caller = some c) (wrote : t.db ≠ s.db) :
    ∃ call, t.calls c = some call ∧ call.phase = .returned := by
  cases h.turned with
  | begun _ => exact absurd rfl wrote
  | looked _ _ => exact absurd rfl wrote
  | failed _ _ _ => exact absurd rfl wrote
  | sent there fresh later sent =>
    cases caller
    exact ⟨_, Function.update_self .., rfl⟩
  | outside nobody _ _ => simp [nobody] at caller
  | credited _ _ => cases caller

theorem Step.total (h : Step calendar s a t) (caller : a.caller = some c) :
    t.db.totalBalance = s.db.totalBalance := by
  cases h.turned with
  | begun _ => rfl
  | looked _ _ => rfl
  | failed _ _ _ => rfl
  | sent _ _ _ sent => exact sent.total
  | outside nobody _ _ => simp [nobody] at caller
  | credited _ _ => cases caller

end Steps

/-! ## The service -/

section Service

/-- `State.next` on the steps in which no replay is turned away. -/
def State.nextAnswered (calendar : Calendar) (s : State) (a : Action) : Option State :=
  if s.answered a then s.next calendar a else none

abbrev AnsweredStep (calendar : Calendar) : State → Action → State → Prop :=
  Run.Where (Step calendar) Answered

theorem answeredStep_of_next {calendar : Calendar} {s t : State} {a : Action}
    (h : s.nextAnswered calendar a = some t) : AnsweredStep calendar s a t := by
  unfold State.nextAnswered at h
  split at h
  · rename_i answered
    exact ⟨h, answered⟩
  · cases h

variable {calendar : Calendar} {s t u v : State} {a : Action} {before after : List Action}

theorem replays_run (h : Replays s) (sound : Sound calendar s)
    (run : Run (AnsweredStep calendar) s before t) : Replays t :=
  run.preserves_where (I := Sound calendar) (fun _ _ _ step sound => sound.step step)
    (fun _ _ _ step answered sound replays => replays.step sound step answered) sound h

/-- From wallets without coins, at every point of a run: the wallets agree with the
ledger, no sender is over the limit of a day, a key has one gift, a call moves coins
and makes none, one that throws has written nothing, and one that is made after its
gift was recorded returns and writes nothing. -/
theorem gifts_settle (start : Start s) (run : Run (AnsweredStep calendar) s before u)
    (step : AnsweredStep calendar u a v) (rest : Run (AnsweredStep calendar) v after t) :
    (t.db.Reconciled ∧ t.db.reconcile.ledgerMismatches = 0 ∧
      t.db.reconcile.negativeBalances = 0) ∧
    t.db.Limited calendar ∧
    (∀ g ∈ t.db.gifts.rows, ∀ g' ∈ t.db.gifts.rows,
      g.idempotencyKey = g'.idempotencyKey → g = g') ∧
    (∀ c, a.caller = some c → v.db.totalBalance = u.db.totalBalance) ∧
    (∀ c call fault, a.caller = some c → t.calls c = some call → call.phase = .threw fault →
      v.db = u.db) ∧
    ∀ c gift, a = .begin c gift → u.db.committed gift = true →
      ∃ call, t.calls c = some call ∧ call.gift = gift ∧
        call.phase ∈ [.checked, .recipientFound, .befriended, .returned] ∧
        ∀ b w, Step calendar t b w → b.caller = some c → w.db = t.db := by
  have plain : ∀ {x y as}, Run (AnsweredStep calendar) x as y → Run (Step calendar) x as y :=
    fun run => run.mono fun _ _ _ h => h.1
  have sound : Sound calendar u := start.sound.run (plain run)
  have sound' : Sound calendar t := (sound.step step.1).run (plain rest)
  have clean := Db.reconcile_clean sound'.reconciled
  refine ⟨⟨sound'.reconciled, clean⟩, sound'.limited, ?_, ?_, ?_, ?_⟩
  · intro g member g' member' same
    exact t.db.gifts.row_unique member member' same
  · intro c caller
    exact step.1.total caller
  · intro c call fault caller found threw
    by_contra wrote
    obtain ⟨mid, there, returned⟩ := step.1.wrote caller wrote
    obtain ⟨call', found', -, -, done⟩ := kept_calls (plain rest) there
    have one : call' = call := Option.some.inj (found'.symm.trans found)
    rw [← one, done returned] at threw
    cases threw
  · rintro c gift rfl committed
    have replays : Replays u := by
      apply replays_run _ start.sound run
      intro c call found
      simp [start.calls] at found
    have replays' : Replays t :=
      replays_run (replays.step sound step.1 step.2) (sound.step step.1) rest
    obtain ⟨call, found, same, late, -⟩ := kept_calls (plain rest) step.1.begun
    obtain ⟨-, replaying⟩ := replays' c call found (late.trans committed)
    refine ⟨call, found, same, ?_, ?_⟩
    · cases phase : call.phase <;> simp [phase, Phase.replaying] at replaying ⊢
    · intro b w step' caller
      exact replays'.kept step' caller found (late.trans committed)

/-! ### A replay between people who are no longer friends -/

def tuesday : Calendar := ⟨fun _ => 0, fun _ => Nat.zero_le _, fun _ _ _ => Nat.le_refl _⟩

def gift : Gift := ⟨1, 2, 30, by decide, [107], none⟩

def opened : State where
  db := ⟨⟨[⟨1, .active⟩, ⟨2, .active⟩], by decide⟩, ⟨[⟨1, 2, .accepted⟩], by decide⟩, .empty, [],
    .empty⟩
  now := 0
  calls := fun _ => none

def given : List Action :=
  [.credit 1 100 .recharge [] [99], .begin 0 gift, .look 0, .look 0, .look 0, .settle 0 0 7]

theorem opened_start : Start opened := ⟨rfl, rfl, rfl, fun _ => rfl⟩

def play (next : State → Action → Option State) (s : State) (as : List Action) : State :=
  (as.foldlM next s).getD s

def gave : State := play (State.nextAnswered tuesday) opened given

def asked : State := play (State.nextAnswered tuesday) gave [.begin 1 gift]

def replayed : State := play (State.nextAnswered tuesday) asked [.look 1, .look 1, .look 1]

theorem answered_run {s t : State} {as : List Action}
    (h : as.foldlM (State.nextAnswered tuesday) s = some t) : Run (AnsweredStep tuesday) s as t :=
  (Run.of_foldlM h).mono fun _ _ _ => answeredStep_of_next

theorem gifts_settle_replay :
    gave.db.committed gift = true ∧ replayed.db.Reconciled ∧
      (asked.calls 1).map (·.phase) = some .checked ∧
      (replayed.calls 1).map (·.phase) = some .returned := by
  have run : Run (AnsweredStep tuesday) opened given gave := answered_run rfl
  have step : AnsweredStep tuesday gave (.begin 1 gift) asked := ⟨rfl, rfl⟩
  have rest : Run (AnsweredStep tuesday) asked [.look 1, .look 1, .look 1] replayed :=
    answered_run rfl
  obtain ⟨⟨even, -⟩, -⟩ := gifts_settle opened_start run step rest
  exact ⟨rfl, even, rfl, rfl⟩

def parted : State := play (State.next tuesday) opened (given ++ [.setFriend 1 2 none])

def refused : State := play (State.next tuesday) parted [.begin 1 gift, .look 1, .look 1]

/-- The friendship ends after the gift, and the retry is refused. -/
theorem replay_refused :
    Start opened ∧ Run (Step tuesday) opened (given ++ [.setFriend 1 2 none]) parted ∧
      parted.db.committed gift = true ∧
      Run (Step tuesday) parted [.begin 1 gift, .look 1, .look 1] refused ∧
      (refused.calls 1).map (·.phase) =
        some (.threw (.refused "You can only send coins to friends" .notFriend)) :=
  ⟨opened_start, Run.of_foldlM rfl, rfl, Run.of_foldlM rfl, rfl⟩

end Service

end CircleBackend.Coin
