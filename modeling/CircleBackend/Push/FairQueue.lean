import CircleBackend.Library.Like
import CircleBackend.Library.Rank
import CircleBackend.Push.Outbox

/-!
# The fair queue of the push outbox

`pushOutboxFairBatchQuery` walks the partition keys one by one, takes the first rows of each
and joins the rows without a key, before it ranks.

* `mem_partitions`: the walk visits every key with a row to send, once;
* `fair_batch_eq`: its batch is the one ranked over all rows.
-/

namespace CircleBackend.Push.FairQueue

open Library
open Outbox (OutboxStatus)

def pushOutboxBatchSize : Nat := 100
def maxPerSenderPerTick : Nat := 10
def systemAnnouncementRowsPerTick : Nat := pushOutboxBatchSize / 2

/-- A partition key, compared as the column's collation does. -/
structure Key where
  text : JsString

structure Notification where
  systemAnnouncementID : Option JsString
  fromUserID : JsString

/-- An outbox row and the notification it belongs to. -/
structure OutboxRow where
  id : Nat
  createdAt : Time
  status : OutboxStatus
  nextAttemptAt : Time
  lockedAt : Option Time
  fairnessKey : Option Key
  notification : Notification

/-- `announcement:` and `sender:` -/
def announcementPrefix : JsString := [97, 110, 110, 111, 117, 110, 99, 101, 109, 101, 110, 116, 58]
def senderPrefix : JsString := [115, 101, 110, 100, 101, 114, 58]

/-- The `CASE` of the trigger and of the rows without a key. -/
def Notification.key (n : Notification) : Key :=
  match n.systemAnnouncementID with
  | some id => ⟨announcementPrefix ++ id⟩
  | none => ⟨senderPrefix ++ n.fromUserID⟩

/-- The outbox. The trigger sets the key; rows older than the column have none. -/
structure Queue where
  rows : List OutboxRow
  ids : (rows.map (·.id)).Nodup
  keyed : ∀ o ∈ rows, o.fairnessKey = none ∨ o.fairnessKey = some o.notification.key

structure PushOutboxFairBatchInput where
  now : Time
  staleBefore : Time

def eligible (input : PushOutboxFairBatchInput) (o : OutboxRow) : Bool :=
  (o.status = .pending && o.nextAttemptAt ≤ input.now) ||
    (o.status = .failed && o.nextAttemptAt ≤ input.now) ||
    (o.status = .processing && o.lockedAt.any (· < input.staleBefore))

/-- `"status" IN ('PENDING', 'FAILED', 'PROCESSING')` -/
def awaiting (o : OutboxRow) : Bool :=
  o.status = .pending || o.status = .failed || o.status = .processing

/-- `LIKE 'announcement:%'` decides. -/
def quota (key : Key) : Nat :=
  if like (announcementPrefix ++ [37]) key.text then systemAnnouncementRowsPerTick
  else maxPerSenderPerTick

/-- `ORDER BY "createdAt" ASC, "id" ASC` -/
def position (o : OutboxRow) : Time ×ₗ Nat := toLex (o.createdAt, o.id)

def byPosition (a b : OutboxRow) : Prop := position a ≤ position b

instance : DecidableRel byPosition := fun a b => inferInstanceAs (Decidable (position a ≤ position b))

section Query

variable [LinearOrder Key]

/-- The keys of rows to send, of any or of those behind one. -/
def pendingKeys (rows : List OutboxRow) (after : Option Key) : List Key :=
  ((rows.filter awaiting).filterMap (·.fairnessKey)).filter fun key => after.all (· < key)

/-- `ORDER BY "fairnessKey" LIMIT 1` -/
def nextKey (rows : List OutboxRow) (after : Option Key) : Option Key :=
  ((pendingKeys rows after).insertionSort (· ≤ ·)).head?

/-- The recursive query; it ends where no key is behind the last one. -/
def scan (rows : List OutboxRow) : Nat → Option Key → List Key
  | 0, _ => []
  | left + 1, after =>
    match nextKey rows after with
    | none => []
    | some key => key :: scan rows left (some key)

/-- There are no more keys than rows. -/
def partitions (rows : List OutboxRow) : List Key := scan rows (rows.length + 1) none

/-- The `LATERAL` rows of a partition. -/
def firstRows (input : PushOutboxFairBatchInput) (rows : List OutboxRow) (key : Key) :
    List OutboxRow :=
  ((rows.filter fun o => o.fairnessKey = some key && awaiting o && eligible input o).insertionSort
    byPosition).take (quota key)

def candidates (input : PushOutboxFairBatchInput) (rows : List OutboxRow) : List (OutboxRow × Key) :=
  (partitions rows).flatMap (fun key => (firstRows input rows key).map fun o => (o, key)) ++
    (rows.filter fun o => o.fairnessKey = none && awaiting o && eligible input o).map
      fun o => (o, o.notification.key)

/-- `enabled` is the switch of `ConsolePushSettings`. -/
def pushOutboxFairBatchQuery (enabled : Bool) (input : PushOutboxFairBatchInput)
    (rows : List OutboxRow) : List Nat :=
  if enabled then
    (batch Prod.snd (fun p => position p.1) quota pushOutboxBatchSize
      (candidates input rows)).map (·.1.id)
  else []

/-- Every eligible row with its partition. -/
def eligibleRows (input : PushOutboxFairBatchInput) (rows : List OutboxRow) :
    List (OutboxRow × Key) :=
  (rows.filter (eligible input)).map fun o => (o, o.notification.key)

/-- The plain query: all eligible rows are ranked. -/
def plainBatch (input : PushOutboxFairBatchInput) (rows : List OutboxRow) : List (OutboxRow × Key) :=
  batch Prod.snd (fun p => position p.1) quota pushOutboxBatchSize (eligibleRows input rows)

end Query

/-! ## The quota -/

theorem quota_key (n : Notification) :
    quota n.key = if n.systemAnnouncementID.isSome then 50 else 10 := by
  have starts : ∀ text, like (announcementPrefix ++ [37]) text = true ↔
      announcementPrefix <+: text := by
    intro text
    have plain : escapeLike announcementPrefix = announcementPrefix := by decide
    have pattern := tokens_escaped announcementPrefix
    rw [plain] at pattern
    unfold like
    rw [pattern, matchTokens_start]
  unfold quota Notification.key
  cases n.systemAnnouncementID with
  | some id =>
    rw [if_pos ((starts _).mpr (List.prefix_append _ _))]
    rfl
  | none =>
    have other : ¬announcementPrefix <+: senderPrefix ++ n.fromUserID := by
      rintro ⟨rest, same⟩
      cases same
    rw [if_neg fun matched => other ((starts _).mp matched)]
    rfl

/-! ## The partitions -/

section Partitions

variable [LinearOrder Key] {rows : List OutboxRow} {after : Option Key} {key : Key}

theorem mem_pendingKeys : key ∈ pendingKeys rows after ↔
    (∃ o ∈ rows, awaiting o = true ∧ o.fairnessKey = some key) ∧ after.all (· < key) = true := by
  simp only [pendingKeys, List.mem_filter, List.mem_filterMap, and_assoc]

theorem nextKey_none (ended : nextKey rows after = none) : pendingKeys rows after = [] := by
  rw [nextKey, List.head?_eq_none_iff] at ended
  have perm := List.perm_insertionSort (· ≤ ·) (pendingKeys rows after)
  rw [ended] at perm
  exact perm.symm.eq_nil

theorem nextKey_some (found : nextKey rows after = some key) :
    key ∈ pendingKeys rows after ∧ ∀ other ∈ pendingKeys rows after, key ≤ other := by
  have perm := List.perm_insertionSort (· ≤ ·) (pendingKeys rows after)
  have sorted := List.pairwise_insertionSort (· ≤ ·) (pendingKeys rows after)
  obtain ⟨rest, order⟩ := List.head?_eq_some_iff.mp found
  rw [order] at perm sorted
  refine ⟨perm.mem_iff.mp List.mem_cons_self, fun other member => ?_⟩
  rcases List.mem_cons.mp (perm.mem_iff.mpr member) with rfl | later
  · exact le_rfl
  · exact (List.pairwise_cons.mp sorted).1 other later

theorem pendingKeys_some (found : nextKey rows after = some key) :
    pendingKeys rows (some key) = (pendingKeys rows after).filter (key < ·) := by
  have behind := (mem_pendingKeys.mp (nextKey_some found).1).2
  unfold pendingKeys
  rw [List.filter_filter]
  apply List.filter_congr
  intro other _
  cases after with
  | none => simp
  | some last =>
    simp only [Option.all_some, decide_eq_true_eq] at behind
    simp only [Option.all_some, ← Bool.decide_and, decide_eq_decide]
    exact ⟨fun later => ⟨later, lt_trans behind later⟩, And.left⟩

/-- The walk goes through the keys in order and misses none. -/
theorem scan_spec {left : Nat} : ∀ {after : Option Key},
    (pendingKeys rows after).length < left →
      (∀ key, key ∈ scan rows left after ↔ key ∈ pendingKeys rows after) ∧
        (scan rows left after).Pairwise (· < ·) := by
  induction left with
  | zero =>
    intro after short
    omega
  | succ left ih =>
    intro after enough
    rw [scan]
    cases found : nextKey rows after with
    | none =>
      rw [nextKey_none found]
      exact ⟨fun _ => Iff.rfl, List.Pairwise.nil⟩
    | some first =>
      obtain ⟨own, least⟩ := nextKey_some found
      have rest := pendingKeys_some found
      have fewer : (pendingKeys rows (some first)).length < (pendingKeys rows after).length := by
        rw [rest]
        apply List.length_filter_lt_length_iff_exists.mpr
        exact ⟨first, own, by simp⟩
      obtain ⟨members, sorted⟩ := @ih (some first) (by omega)
      dsimp only
      constructor
      · intro key
        rw [List.mem_cons, members, rest, List.mem_filter, decide_eq_true_eq]
        constructor
        · rintro (rfl | ⟨inside, -⟩)
          · exact own
          · exact inside
        · intro inside
          rcases (least key inside).eq_or_lt with same | later
          · exact .inl same.symm
          · exact .inr ⟨inside, later⟩
      · refine List.pairwise_cons.mpr ⟨fun key member => ?_, sorted⟩
        rw [members, rest, List.mem_filter, decide_eq_true_eq] at member
        exact member.2

theorem pendingKeys_length : (pendingKeys rows after).length ≤ rows.length := by
  unfold pendingKeys
  refine Nat.le_trans (List.length_filter_le _ _) (Nat.le_trans (List.length_filterMap_le _ _) ?_)
  exact List.length_filter_le _ _

theorem mem_partitions : key ∈ partitions rows ↔
    ∃ o ∈ rows, awaiting o = true ∧ o.fairnessKey = some key := by
  have enough : (pendingKeys rows none).length < rows.length + 1 :=
    Nat.lt_succ_of_le pendingKeys_length
  rw [partitions, (scan_spec enough).1, mem_pendingKeys]
  simp

theorem partitions_nodup : (partitions rows).Nodup := by
  have enough : (pendingKeys rows none).length < rows.length + 1 :=
    Nat.lt_succ_of_le pendingKeys_length
  exact (scan_spec enough).2.imp fun before => ne_of_lt before

end Partitions

/-! ## The candidates -/

section Candidates

variable {q : Queue} {input : PushOutboxFairBatchInput} {o : OutboxRow} {key : Key}

theorem awaiting_of_eligible (ready : eligible input o = true) : awaiting o = true := by
  unfold eligible at ready
  unfold awaiting
  simp only [Bool.or_eq_true, Bool.and_eq_true, decide_eq_true_eq] at ready ⊢
  exact ready.imp (Or.imp And.left And.left) And.left

theorem Queue.nodup (q : Queue) : q.rows.Nodup := List.Nodup.of_map _ q.ids

theorem Queue.apart (q : Queue) : ∀ a ∈ q.rows, ∀ b ∈ q.rows, position a = position b → a = b := by
  intro a inA b inB same
  exact List.inj_on_of_nodup_map q.ids inA inB (congrArg (fun p => (ofLex p).2) same)

theorem mem_eligibleRows {p : OutboxRow × Key} : p ∈ eligibleRows input q.rows ↔
    p.1 ∈ q.rows ∧ eligible input p.1 = true ∧ p.2 = p.1.notification.key := by
  obtain ⟨o, key⟩ := p
  rw [eligibleRows, List.mem_map]
  simp only [List.mem_filter, Prod.mk.injEq]
  constructor
  · rintro ⟨o', ⟨member, ready⟩, rfl, rfl⟩
    exact ⟨member, ready, rfl⟩
  · rintro ⟨member, ready, rfl⟩
    exact ⟨o, ⟨member, ready⟩, rfl, rfl⟩

theorem eligibleRows_nodup : (eligibleRows input q.rows).Nodup := by
  apply (q.nodup.filter _).map
  intro a b same
  exact (Prod.mk.inj same).1

theorem eligibleRows_apart : ∀ a ∈ eligibleRows input q.rows, ∀ b ∈ eligibleRows input q.rows,
    position a.1 = position b.1 → a = b := by
  intro a inA b inB same
  obtain ⟨memberA, -, keyA⟩ := mem_eligibleRows.mp inA
  obtain ⟨memberB, -, keyB⟩ := mem_eligibleRows.mp inB
  have rows := q.apart a.1 memberA b.1 memberB same
  exact Prod.ext rows (by rw [keyA, keyB, rows])

variable [LinearOrder Key]

/-- The rows of one partition, in their order. -/
def partition (input : PushOutboxFairBatchInput) (rows : List OutboxRow) (key : Key) :
    List OutboxRow :=
  (rows.filter fun o => o.fairnessKey = some key && awaiting o && eligible input o).insertionSort
    byPosition

theorem mem_partition : o ∈ partition input q.rows key ↔
    o ∈ q.rows ∧ o.fairnessKey = some key ∧ eligible input o = true := by
  rw [partition, List.mem_insertionSort, List.mem_filter]
  simp only [Bool.and_eq_true, decide_eq_true_eq]
  constructor
  · rintro ⟨member, ⟨own, -⟩, ready⟩
    exact ⟨member, own, ready⟩
  · rintro ⟨member, own, ready⟩
    exact ⟨member, ⟨own, awaiting_of_eligible ready⟩, ready⟩

theorem partition_nodup : (partition input q.rows key).Nodup :=
  (List.perm_insertionSort byPosition _).nodup_iff.mpr (q.nodup.filter _)

theorem partition_sorted :
    (partition input q.rows key).Pairwise fun a b => position a < position b := by
  have total : Std.Total byPosition := ⟨fun a b => le_total (position a) (position b)⟩
  have trans : IsTrans OutboxRow byPosition := ⟨fun a b c first second => le_trans first second⟩
  have sorted : (partition input q.rows key).Pairwise byPosition := List.pairwise_insertionSort _ _
  apply (sorted.and partition_nodup).imp_of_mem
  rintro a b inA inB ⟨before, differ⟩
  apply lt_of_le_of_ne before
  intro same
  exact differ (q.apart a (mem_partition.mp inA).1 b (mem_partition.mp inB).1 same)

theorem firstRows_eq : firstRows input q.rows key = (partition input q.rows key).take (quota key) :=
  rfl

theorem mem_candidates {p : OutboxRow × Key} : p ∈ candidates input q.rows ↔
    (∃ key ∈ partitions q.rows, p.1 ∈ firstRows input q.rows key ∧ p.2 = key) ∨
      p.1 ∈ q.rows ∧ p.1.fairnessKey = none ∧ eligible input p.1 = true ∧
        p.2 = p.1.notification.key := by
  obtain ⟨o, key⟩ := p
  rw [candidates, List.mem_append, List.mem_flatMap]
  simp only [List.mem_map, List.mem_filter, Bool.and_eq_true, decide_eq_true_eq, Prod.mk.injEq]
  constructor
  · rintro (⟨k, visited, o', first, rfl, rfl⟩ | ⟨o', ⟨member, ⟨bare, -⟩, ready⟩, rfl, rfl⟩)
    · exact .inl ⟨k, visited, first, rfl⟩
    · exact .inr ⟨member, bare, ready, rfl⟩
  · rintro (⟨k, visited, first, rfl⟩ | ⟨member, bare, ready, rfl⟩)
    · exact .inl ⟨key, visited, o, first, rfl, rfl⟩
    · exact .inr ⟨o, ⟨member, ⟨bare, awaiting_of_eligible ready⟩, ready⟩, rfl, rfl⟩

theorem candidates_nodup : (candidates input q.rows).Nodup := by
  rw [candidates, List.nodup_append]
  refine ⟨?_, ?_, ?_⟩
  · rw [List.nodup_flatMap]
    constructor
    · intro key _
      apply (partition_nodup.sublist (List.take_sublist _ _)).map
      intro a b same
      exact (Prod.mk.inj same).1
    · apply partitions_nodup.imp
      intro key key' differ p member member'
      obtain ⟨o, -, rfl⟩ := List.mem_map.mp member
      obtain ⟨o', -, same⟩ := List.mem_map.mp member'
      exact differ (Prod.mk.inj same).2.symm
  · apply (q.nodup.filter _).map
    intro a b same
    exact (Prod.mk.inj same).1
  · rintro p first p' second rfl
    obtain ⟨key, -, inside⟩ := List.mem_flatMap.mp first
    obtain ⟨o, taken, rfl⟩ := List.mem_map.mp inside
    obtain ⟨o', bare, same⟩ := List.mem_map.mp second
    have own := (mem_partition.mp (List.mem_of_mem_take taken)).2.1
    obtain rfl := (Prod.mk.inj same).1
    have none' := (List.mem_filter.mp bare).2
    simp only [Bool.and_eq_true, decide_eq_true_eq] at none'
    rw [own] at none'
    cases none'.1.1

/-- What the two branches leave out has a full quota of its partition before it. -/
theorem candidates_cover :
    Covers Prod.snd (fun p => position p.1) quota (eligibleRows input q.rows)
      (candidates input q.rows) where
  distinct := candidates_nodup
  sub := by
    intro p member
    rcases mem_candidates.mp member with ⟨key, -, taken, own⟩ | ⟨inside, -, ready, own⟩
    · obtain ⟨inside, keyed, ready⟩ := mem_partition.mp (List.mem_of_mem_take taken)
      rcases q.keyed p.1 inside with bare | derived
      · rw [bare] at keyed
        cases keyed
      · rw [derived] at keyed
        exact mem_eligibleRows.mpr ⟨inside, ready, own.trans (Option.some.inj keyed).symm⟩
    · exact mem_eligibleRows.mpr ⟨inside, ready, own⟩
  full := by
    rintro ⟨o, key⟩ member out
    obtain ⟨inside, ready, own⟩ := mem_eligibleRows.mp member
    dsimp only at inside ready own ⊢
    rcases q.keyed o inside with bare | derived
    · exact absurd (mem_candidates.mpr (.inr ⟨inside, bare, ready, own⟩)) out
    · have keyed : o.fairnessKey = some key := by rw [derived, own]
      have visited : key ∈ partitions q.rows :=
        mem_partitions.mpr ⟨o, inside, awaiting_of_eligible ready, keyed⟩
      have notFirst : o ∉ (partition input q.rows key).take (quota key) := fun first =>
        out (mem_candidates.mpr (.inl ⟨key, visited, first, rfl⟩))
      obtain ⟨count, before⟩ := before_left_out partition_sorted
        (mem_partition.mpr ⟨inside, keyed, ready⟩) notFirst
      have taken : ((firstRows input q.rows key).map fun o => (o, key)) ⊆
          candidates input q.rows := by
        intro p held
        obtain ⟨o', first, rfl⟩ := List.mem_map.mp held
        exact mem_candidates.mpr (.inl ⟨key, visited, first, rfl⟩)
      have nodup : ((firstRows input q.rows key).map fun o => (o, key)).Nodup := by
        apply (partition_nodup.sublist (List.take_sublist _ _)).map
        intro a b same
        exact (Prod.mk.inj same).1
      have all' : ((firstRows input q.rows key).map fun o => (o, key)).countP
          (fun c => c.2 = key ∧ position c.1 < position o) = quota key := by
        rw [List.countP_eq_length.mpr, List.length_map, firstRows_eq, count]
        intro p held
        obtain ⟨o', first, rfl⟩ := List.mem_map.mp held
        simp only [true_and, decide_eq_true_eq]
        exact before o' first
      calc quota key
          = ((firstRows input q.rows key).map fun o => (o, key)).countP
              (fun c => c.2 = key ∧ position c.1 < position o) := all'.symm
        _ ≤ (candidates input q.rows).countP
              (fun c => c.2 = key ∧ position c.1 < position o) :=
            (List.subperm_of_subset nodup taken).countP_le _

/-- The fast query returns the plain one's batch, and a row within its quota is left for a later
batch only behind a hundred rows. -/
theorem fair_batch_eq (q : Queue) (input : PushOutboxFairBatchInput) :
    pushOutboxFairBatchQuery true input q.rows = (plainBatch input q.rows).map (·.1.id) ∧
    (∀ n : Notification, quota n.key = if n.systemAnnouncementID.isSome then 50 else 10) ∧
    ∀ p ∈ kept Prod.snd (fun p => position p.1) quota (eligibleRows input q.rows),
      p.1.id ∉ pushOutboxFairBatchQuery true input q.rows →
        100 ≤ (kept Prod.snd (fun p => position p.1) quota (eligibleRows input q.rows)).countP
          fun p' => place Prod.snd (fun p => position p.1) (eligibleRows input q.rows) p' <
            place Prod.snd (fun p => position p.1) (eligibleRows input q.rows) p := by
  have same : pushOutboxFairBatchQuery true input q.rows =
      (plainBatch input q.rows).map (·.1.id) := by
    rw [pushOutboxFairBatchQuery, if_pos rfl, plainBatch,
      batch_eq candidates_cover eligibleRows_nodup eligibleRows_apart]
  refine ⟨same, quota_key, ?_⟩
  intro p own out
  apply batch_full eligibleRows_nodup eligibleRows_apart own
  intro member
  rw [same] at out
  exact out (List.mem_map_of_mem member)

end Candidates

end CircleBackend.Push.FairQueue
