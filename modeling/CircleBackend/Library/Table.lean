import Mathlib.Algebra.Order.Ring.Int
import Mathlib.Data.List.Nodup
import Mathlib.Data.List.Perm.Subperm
import Mathlib.Logic.Function.Basic

/-!
# Tables with a unique key

A relation stored as a list of rows no two of which share a key. The uniqueness
is a field, so that no operation can produce a table that violates it. Each
operation comes with its effect on `find`, which is all that later proofs read:

* `find_updateMany`, `find_put`, `find_insert`, `find_upsert`, `find_deleteMany`;
* `unique_match`: a conditional update that counts one row
  changed exactly the row that was looked up;
* `put_update`, `updateOne_update`, `insert_update`: the effect on the function that
  `find` is;
* `count_le`, `count_le_succ`: how many rows meet a condition, from what `find`
  answers.
-/

namespace CircleBackend.Library

structure Table (α κ : Type) (key : α → κ) where
  rows : List α
  unique : (rows.map key).Nodup

namespace Table

variable {α κ : Type} {key : α → κ}

def empty : Table α κ key := ⟨[], List.nodup_nil⟩

theorem row_unique (t : Table α κ key) {a b : α} (ha : a ∈ t.rows) (hb : b ∈ t.rows)
    (h : key a = key b) : a = b :=
  List.inj_on_of_nodup_map t.unique ha hb h

/-- The rows a `WHERE p` selects. -/
def select (t : Table α κ key) (p : α → Bool) : List α := t.rows.filter p

def count (t : Table α κ key) (p : α → Bool) : Nat := t.rows.countP p

/-- `UPDATE ... SET f WHERE p`. The key of a row never changes. -/
def updateMany (t : Table α κ key) (p : α → Bool) (f : α → α) (hf : ∀ a, key (f a) = key a) :
    Table α κ key where
  rows := t.rows.map fun a => if p a then f a else a
  unique := by
    have same : key ∘ (fun a => if p a then f a else a) = key := by
      funext a
      by_cases h : p a <;> simp [h, hf]
    rw [List.map_map, same]
    exact t.unique

def deleteMany (t : Table α κ key) (p : α → Bool) : Table α κ key where
  rows := t.rows.filter fun a => !p a
  unique := t.unique.sublist (List.filter_sublist.map key)

theorem mem_updateMany (t : Table α κ key) (p : α → Bool) (f : α → α) (hf : ∀ a, key (f a) = key a)
    {b : α} : b ∈ (t.updateMany p f hf).rows ↔ ∃ a ∈ t.rows, b = if p a then f a else a := by
  simp only [updateMany, List.mem_map, eq_comm]

theorem mem_deleteMany {t : Table α κ key} {p : α → Bool} {b : α} :
    b ∈ (t.deleteMany p).rows ↔ b ∈ t.rows ∧ p b = false := by
  simp [deleteMany]

theorem deleteMany_none {t : Table α κ key} {p : α → Bool} (h : ∀ a ∈ t.rows, p a = false) :
    t.deleteMany p = t := by
  obtain ⟨rows, unique⟩ := t
  have kept : (rows.filter fun a => !p a) = rows := by
    rw [List.filter_eq_self]
    intro a member
    simp [h a member]
  simp only [deleteMany, kept]

/-- When exactly one row matches, every matching row is that one. -/
theorem unique_match {t : Table α κ key} {p : α → Bool} (h : t.count p = 1) {a b : α}
    (ha : a ∈ t.rows) (hpa : p a = true) (hb : b ∈ t.rows) (hpb : p b = true) : a = b := by
  rw [count, List.countP_eq_length_filter, List.length_eq_one_iff] at h
  obtain ⟨c, hc⟩ := h
  have hac : a ∈ [c] := hc ▸ List.mem_filter.mpr ⟨ha, hpa⟩
  have hbc : b ∈ [c] := hc ▸ List.mem_filter.mpr ⟨hb, hpb⟩
  rw [List.mem_singleton.mp hac, List.mem_singleton.mp hbc]

theorem count_pos {t : Table α κ key} {p : α → Bool} {a : α} (ha : a ∈ t.rows)
    (hp : p a = true) : 0 < t.count p :=
  List.countP_pos_iff.mpr ⟨a, ha, hp⟩

/-- The first of the rows `ORDER BY` would list, ties broken by row order. -/
def firstBy (before : α → α → Bool) : List α → Option α
  | [] => none
  | a :: rest =>
    match firstBy before rest with
    | none => some a
    | some b => if before b a then some b else some a

theorem firstBy_mem {before : α → α → Bool} {rows : List α} {a : α}
    (h : firstBy before rows = some a) : a ∈ rows := by
  induction rows generalizing a with
  | nil => cases h
  | cons b rest ih =>
    simp only [firstBy] at h
    split at h
    · cases h
      exact List.mem_cons_self
    · rename_i c hc
      split at h
      · cases h
        exact List.mem_cons_of_mem b (ih hc)
      · cases h
        exact List.mem_cons_self

theorem firstBy_none {before : α → α → Bool} {rows : List α} (h : firstBy before rows = none) :
    rows = [] := by
  cases rows with
  | nil => rfl
  | cons b rest =>
    rw [firstBy] at h
    split at h
    · cases h
    · split at h <;> cases h

/-- `findFirst({ where: p, orderBy: before })` -/
def findFirst (t : Table α κ key) (p : α → Bool) (before : α → α → Bool) : Option α :=
  firstBy before (t.select p)

theorem mem_select {t : Table α κ key} {p : α → Bool} {a : α} :
    a ∈ t.select p ↔ a ∈ t.rows ∧ p a = true := by
  simp [select]

theorem findFirst_some {t : Table α κ key} {p : α → Bool} {before : α → α → Bool} {a : α}
    (h : t.findFirst p before = some a) : a ∈ t.rows ∧ p a = true :=
  mem_select.mp (firstBy_mem h)

theorem findFirst_none {t : Table α κ key} {p : α → Bool} {before : α → α → Bool}
    (h : t.findFirst p before = none) {a : α} (ha : a ∈ t.rows) : p a = false := by
  by_contra matched
  have member := mem_select.mpr ⟨ha, Bool.not_eq_false _ ▸ matched⟩
  rw [firstBy_none h] at member
  cases member

section
variable [DecidableEq κ]

def find (t : Table α κ key) (k : κ) : Option α := t.rows.find? fun a => key a = k

@[simp] theorem find_empty (k : κ) : (empty : Table α κ key).find k = none := rfl

theorem find_eq_some {t : Table α κ key} {k : κ} {a : α} :
    t.find k = some a ↔ a ∈ t.rows ∧ key a = k := by
  constructor
  · intro h
    exact ⟨List.mem_of_find?_eq_some h, by simpa using List.find?_some h⟩
  · rintro ⟨ha, hk⟩
    cases h : t.find k with
    | none => simpa [hk] using List.find?_eq_none.mp h a ha
    | some b =>
      have hb : key b = k := by simpa using List.find?_some h
      exact congrArg some (t.row_unique (List.mem_of_find?_eq_some h) ha (hb.trans hk.symm))

theorem find_mem {t : Table α κ key} {k : κ} {a : α} (h : t.find k = some a) : a ∈ t.rows :=
  (find_eq_some.mp h).1

theorem find_key {t : Table α κ key} {k : κ} {a : α} (h : t.find k = some a) : key a = k :=
  (find_eq_some.mp h).2

theorem mem_find {t : Table α κ key} {a : α} (h : a ∈ t.rows) : t.find (key a) = some a :=
  find_eq_some.mpr ⟨h, rfl⟩

theorem find_eq_none {t : Table α κ key} {k : κ} : t.find k = none ↔ ∀ a ∈ t.rows, key a ≠ k := by
  simp [find]

theorem find_updateMany (t : Table α κ key) (p : α → Bool) (f : α → α) (hf : ∀ a, key (f a) = key a)
    (k : κ) : (t.updateMany p f hf).find k = (t.find k).map fun a => if p a then f a else a := by
  cases h : t.find k with
  | none =>
    refine find_eq_none.mpr fun b hb => ?_
    obtain ⟨a, ha, rfl⟩ := (mem_updateMany t p f hf).mp hb
    have absent := find_eq_none.mp h a ha
    by_cases hp : p a <;> simp [hp, hf, absent]
  | some a =>
    obtain ⟨ha, hk⟩ := find_eq_some.mp h
    refine find_eq_some.mpr ⟨(mem_updateMany t p f hf).mpr ⟨a, ha, rfl⟩, ?_⟩
    by_cases hp : p a <;> simp [hp, hf, hk]

theorem find_updateMany_some {t : Table α κ key} {p : α → Bool} {f : α → α} {k : κ} {a : α}
    (hf : ∀ a, key (f a) = key a) (found : t.find k = some a) :
    (t.updateMany p f hf).find k = some (if p a then f a else a) := by
  rw [find_updateMany, found]
  rfl

theorem find_deleteMany (t : Table α κ key) (p : α → Bool) (k : κ) :
    (t.deleteMany p).find k = (t.find k).filter fun a => !p a := by
  cases h : t.find k with
  | none => exact find_eq_none.mpr fun b hb => find_eq_none.mp h b (mem_deleteMany.mp hb).1
  | some a =>
    obtain ⟨ha, hk⟩ := find_eq_some.mp h
    by_cases hp : p a
    · simp only [hp, Option.filter, Bool.not_true, Bool.false_eq_true, ↓reduceIte]
      refine find_eq_none.mpr fun b hb hbk => ?_
      obtain ⟨hb, hpb⟩ := mem_deleteMany.mp hb
      rw [t.row_unique hb ha (hbk.trans hk.symm), hp] at hpb
      cases hpb
    · simp only [hp, Option.filter, Bool.not_false, ↓reduceIte]
      exact find_eq_some.mpr ⟨mem_deleteMany.mpr ⟨ha, by simpa using hp⟩, hk⟩

/-- The row with the key of `a` is now `a`. -/
def put (t : Table α κ key) (a : α) : Table α κ key where
  rows := t.rows.map fun b => if key b = key a then a else b
  unique := by
    have same : key ∘ (fun b => if key b = key a then a else b) = key := by
      funext b
      by_cases h : key b = key a <;> simp [h]
    rw [List.map_map, same]
    exact t.unique

theorem find_put (t : Table α κ key) (a : α) (k : κ) :
    (t.put a).find k = (t.find k).map fun b => if key b = key a then a else b := by
  cases h : t.find k with
  | none =>
    refine find_eq_none.mpr fun b hb => ?_
    obtain ⟨c, hc, rfl⟩ := List.mem_map.mp hb
    have absent := find_eq_none.mp h c hc
    by_cases hk : key c = key a
    · simpa [hk] using absent
    · simpa [hk] using absent
  | some c =>
    obtain ⟨hc, hk⟩ := find_eq_some.mp h
    refine find_eq_some.mpr ⟨List.mem_map.mpr ⟨c, hc, rfl⟩, ?_⟩
    have kept : key (if key c = key a then a else c) = key c := by
      split
      · rename_i same
        exact same.symm
      · rfl
    exact kept.trans hk

theorem find_put_of_find {t : Table α κ key} {a old : α} (h : t.find (key a) = some old) (k : κ) :
    (t.put a).find k = if k = key a then some a else t.find k := by
  rw [find_put]
  by_cases hk : k = key a
  · simp [hk, h, find_key h]
  · cases other : t.find k with
    | none => simp [hk]
    | some b =>
      have apart : key b ≠ key a := (find_key other).trans_ne hk
      simp [hk, apart]

/-- A row that is written again. -/
theorem find_put_own {t : Table α κ key} {a old : α} {i : κ} (h : t.find i = some old)
    (own : key a = key old) (k : κ) : (t.put a).find k = if k = i then some a else t.find k := by
  have same : key a = i := own.trans (find_key h)
  subst same
  exact find_put_of_find h k

/-- A row found after a `put` is the one put, or was found before. -/
theorem of_find_put {t : Table α κ key} {a old b : α} {k : κ} (h : t.find (key a) = some old)
    (found : (t.put a).find k = some b) : k = key a ∧ b = a ∨ k ≠ key a ∧ t.find k = some b := by
  rw [find_put_of_find h] at found
  split at found
  case isTrue own => exact .inl ⟨own, (Option.some.inj found).symm⟩
  case isFalse other => exact .inr ⟨other, found⟩

/-- `updateMany` of the row with a key, where its count is asked to be 1. -/
def updateOne (t : Table α κ key) (k : κ) (p : α → Bool) (f : α → α) : Option (Table α κ key) :=
  (t.find k).bind fun a => if p a then some (t.put (f a)) else none

theorem updateOne_some {t u : Table α κ key} {k : κ} {p : α → Bool} {f : α → α}
    (h : t.updateOne k p f = some u) (hf : ∀ a, key (f a) = key a) :
    ∃ a, t.find k = some a ∧ p a = true ∧
      ∀ k', u.find k' = if k' = k then some (f a) else t.find k' := by
  obtain ⟨a, found, h⟩ := Option.bind_eq_some_iff.mp h
  split at h
  · rename_i chosen
    cases h
    exact ⟨a, found, chosen, find_put_own found (hf a)⟩
  · cases h

/-- A key selects at most one row. -/
theorem select_key (t : Table α κ key) (k : κ) :
    t.select (fun a => key a = k) = (t.find k).toList := by
  have found : ∀ rows : List α, (rows.map key).Nodup →
      rows.filter (fun a => key a = k) = (rows.find? fun a => key a = k).toList := by
    intro rows nodup
    induction rows with
    | nil => rfl
    | cons b rest ih =>
      rw [List.map_cons, List.nodup_cons] at nodup
      by_cases hb : key b = k
      · have none_left : ∀ a ∈ rest, ¬ key a = k := by
          intro a ha hk
          exact nodup.1 (List.mem_map.mpr ⟨a, ha, hk.trans hb.symm⟩)
        simpa [hb] using none_left
      · simpa [hb] using ih nodup.2
  exact found t.rows t.unique

omit [DecidableEq κ] in
theorem count_eq_keys (t : Table α κ key) (p : α → Bool) :
    t.count p = ((t.select p).map key).length := by
  rw [List.length_map, count, select, List.countP_eq_length_filter]

omit [DecidableEq κ] in
theorem keys_nodup (t : Table α κ key) (p : α → Bool) : ((t.select p).map key).Nodup :=
  t.unique.sublist (List.filter_sublist.map key)

/-- A condition that no row starts to meet selects no more rows than before. -/
theorem count_le {t u : Table α κ key} {p : α → Bool}
    (h : ∀ k b, u.find k = some b → p b = true → ∃ a, t.find k = some a ∧ p a = true) :
    u.count p ≤ t.count p := by
  rw [count_eq_keys, count_eq_keys]
  refine (List.subperm_of_subset (u.keys_nodup p) fun k hk => ?_).length_le
  obtain ⟨b, hb, rfl⟩ := List.mem_map.mp hk
  obtain ⟨hb, chosen⟩ := mem_select.mp hb
  obtain ⟨a, found, chosen'⟩ := h _ b (mem_find hb) chosen
  exact List.mem_map.mpr ⟨a, mem_select.mpr ⟨find_mem found, chosen'⟩, find_key found⟩

/-- With one row that may start to meet it. -/
theorem count_le_succ {t u : Table α κ key} {p : α → Bool} (k₀ : κ)
    (h : ∀ k b, k ≠ k₀ → u.find k = some b → p b = true → ∃ a, t.find k = some a ∧ p a = true) :
    u.count p ≤ t.count p + 1 := by
  rw [count_eq_keys, count_eq_keys]
  have inside : (u.select p).map key ⊆ k₀ :: (t.select p).map key := by
    intro k hk
    obtain ⟨b, hb, rfl⟩ := List.mem_map.mp hk
    obtain ⟨hb, chosen⟩ := mem_select.mp hb
    by_cases here : key b = k₀
    · exact List.mem_cons.mpr (Or.inl here)
    · obtain ⟨a, found, chosen'⟩ := h _ b here (mem_find hb) chosen
      exact List.mem_cons_of_mem _
        (List.mem_map.mpr ⟨a, mem_select.mpr ⟨find_mem found, chosen'⟩, find_key found⟩)
  exact (List.subperm_of_subset (u.keys_nodup p) inside).length_le

theorem mem_keys {t : Table α κ key} {p : α → Bool} {k : κ} :
    k ∈ (t.select p).map key ↔ (t.find k).any p = true := by
  simp only [List.mem_map, mem_select, Option.any_eq_true]
  constructor
  · rintro ⟨a, ⟨member, holds⟩, rfl⟩
    exact ⟨a, mem_find member, holds⟩
  · rintro ⟨a, found, holds⟩
    exact ⟨a, ⟨find_mem found, holds⟩, find_key found⟩

/-- The rows at `ks` come to meet `p`, and no others do. -/
theorem count_gain {t u : Table α κ key} {p : α → Bool} {ks : List κ} (distinct : ks.Nodup)
    (gained : ∀ k ∈ ks, (t.find k).any p = false ∧ (u.find k).any p = true)
    (same : ∀ k, k ∉ ks → (u.find k).any p = (t.find k).any p) :
    u.count p = t.count p + ks.length := by
  have apart : List.Disjoint ks ((t.select p).map key) := by
    intro k hk before
    rw [mem_keys, (gained k hk).1] at before
    cases before
  have perm : List.Perm ((u.select p).map key) (ks ++ (t.select p).map key) := by
    apply (List.perm_ext_iff_of_nodup (u.keys_nodup p)
      (distinct.append (t.keys_nodup p) apart)).mpr
    intro k
    rw [List.mem_append, mem_keys, mem_keys]
    by_cases hk : k ∈ ks
    · simp only [hk, (gained k hk).2, true_or]
    · simp only [hk, same k hk, false_or]
  rw [count_eq_keys, count_eq_keys, perm.length_eq, List.length_append, Nat.add_comm]

theorem count_same {t u : Table α κ key} {p : α → Bool}
    (same : ∀ k, (u.find k).any p = (t.find k).any p) : u.count p = t.count p :=
  count_gain List.nodup_nil nofun fun k _ => same k

/-- What one row in another's place does to a count. -/
theorem count_put {t : Table α κ key} {a old : α} (p : α → Bool) (h : t.find (key a) = some old) :
    (t.put a).count p + (if p old then 1 else 0) = t.count p + if p a then 1 else 0 := by
  have own : ((t.put a).find (key a)).any p = p a := by
    rw [find_put_of_find h, if_pos rfl, Option.any_some]
  have before : (t.find (key a)).any p = p old := by rw [h, Option.any_some]
  have apart (k : κ) (other : k ∉ [key a]) : ((t.put a).find k).any p = (t.find k).any p := by
    rw [find_put_of_find h, if_neg fun here => other (List.mem_singleton.mpr here)]
  cases old' : p old <;> cases new' : p a
  · have same := count_same (t := t) (u := t.put a) (p := p) fun k => by
      by_cases here : k = key a
      · rw [here, own, before, old', new']
      · exact apart k fun inside => here (List.mem_singleton.mp inside)
    simpa using same
  · have gain := count_gain (t := t) (u := t.put a) (p := p) (List.nodup_singleton (key a))
      (fun k inside => by
        rw [List.mem_singleton.mp inside, own, before]
        exact ⟨old', new'⟩) apart
    simpa using gain
  · have gain := count_gain (t := t.put a) (u := t) (p := p) (List.nodup_singleton (key a))
      (fun k inside => by
        rw [List.mem_singleton.mp inside, own, before]
        exact ⟨new', old'⟩) fun k other => (apart k other).symm
    simpa using gain.symm
  · have same := count_same (t := t) (u := t.put a) (p := p) fun k => by
      by_cases here : k = key a
      · rw [here, own, before, old', new']
      · exact apart k fun inside => here (List.mem_singleton.mp inside)
    simpa using same


/-- `INSERT`; `none` is the unique violation. -/
def insert (t : Table α κ key) (a : α) : Option (Table α κ key) :=
  if h : key a ∈ t.rows.map key then none
  else some ⟨t.rows ++ [a], by
    rw [List.map_append]
    exact List.Nodup.append t.unique (by simp) (by simpa using h)⟩

theorem insert_rows {t u : Table α κ key} {a : α} (h : t.insert a = some u) :
    u.rows = t.rows ++ [a] := by
  unfold insert at h
  split at h
  · cases h
  · cases h; rfl

theorem insert_fresh {t u : Table α κ key} {a : α} (h : t.insert a = some u) :
    t.find (key a) = none := by
  unfold insert at h
  split at h
  · cases h
  · rename_i absent
    refine find_eq_none.mpr fun b hb hk => absent ?_
    exact List.mem_map.mpr ⟨b, hb, hk⟩

theorem count_insert {t u : Table α κ key} {a : α} (p : α → Bool) (h : t.insert a = some u) :
    u.count p = t.count p + if p a then 1 else 0 := by
  rw [count, insert_rows h, List.countP_append, List.countP_singleton]
  rfl

theorem mem_insert {t u : Table α κ key} {a b : α} (h : t.insert a = some u) :
    b ∈ u.rows ↔ b ∈ t.rows ∨ b = a := by
  rw [insert_rows h]
  simp

theorem find_insert {t u : Table α κ key} {a : α} (h : t.insert a = some u) (k : κ) :
    u.find k = if key a = k then some a else t.find k := by
  by_cases hk : key a = k
  · simp only [hk, ↓reduceIte]
    exact find_eq_some.mpr ⟨(mem_insert h).mpr (Or.inr rfl), hk⟩
  · simp only [hk, ↓reduceIte, find, insert_rows h, List.find?_append]
    simp [hk]

theorem of_find_insert {t u : Table α κ key} {a b : α} {k : κ} (h : t.insert a = some u)
    (found : u.find k = some b) : k = key a ∧ b = a ∨ k ≠ key a ∧ t.find k = some b := by
  rw [find_insert h] at found
  split at found
  case isTrue own => exact .inl ⟨own.symm, (Option.some.inj found).symm⟩
  case isFalse other => exact .inr ⟨Ne.symm other, found⟩

/-- What a list of inserts adds. -/
theorem find_insertMany {β : Type} {f : β → α} {bs : List β} {t u : Table α κ key}
    (h : bs.foldlM (fun t b => t.insert (f b)) t = some u) (k : κ) :
    (∃ b ∈ bs, key (f b) = k ∧ u.find k = some (f b) ∧ t.find k = none) ∨
      (∀ b ∈ bs, key (f b) ≠ k) ∧ u.find k = t.find k := by
  induction bs generalizing t with
  | nil =>
    cases h
    exact Or.inr ⟨by simp, rfl⟩
  | cons b rest ih =>
    rw [List.foldlM_cons] at h
    obtain ⟨mid, first, h⟩ := Option.bind_eq_some_iff.mp h
    have here := find_insert first k
    rcases ih h with ⟨c, member, own, found, absent⟩ | ⟨others, same⟩
    · have apart : key (f b) ≠ k := by
        intro own'
        rw [here, if_pos own'] at absent
        cases absent
      rw [here, if_neg apart] at absent
      exact Or.inl ⟨c, List.mem_cons_of_mem b member, own, found, absent⟩
    · by_cases own : key (f b) = k
      · rw [if_pos own] at here
        refine Or.inl ⟨b, List.mem_cons_self, own, same.trans here, ?_⟩
        rw [← own]
        exact insert_fresh first
      · rw [if_neg own] at here
        refine Or.inr ⟨?_, same.trans here⟩
        intro c member
        rcases List.mem_cons.mp member with rfl | tail
        · exact own
        · exact others c tail

theorem insert_of_fresh {t : Table α κ key} {a : α} (h : t.find (key a) = none) :
    ∃ u, t.insert a = some u := by
  unfold insert
  split
  · rename_i member
    obtain ⟨b, hb, same⟩ := List.mem_map.mp member
    exact absurd same (find_eq_none.mp h b hb)
  · exact ⟨_, rfl⟩

theorem insertMany_of_fresh {β : Type} (f : β → α) (bs : List β) (t : Table α κ key)
    (nodup : (bs.map fun b => key (f b)).Nodup) (absent : ∀ b ∈ bs, t.find (key (f b)) = none) :
    ∃ u, bs.foldlM (fun t b => t.insert (f b)) t = some u := by
  induction bs generalizing t with
  | nil => exact ⟨t, rfl⟩
  | cons b rest ih =>
    rw [List.map_cons, List.nodup_cons] at nodup
    obtain ⟨mid, first⟩ := insert_of_fresh (absent b List.mem_cons_self)
    have later : ∀ c ∈ rest, mid.find (key (f c)) = none := by
      intro c member
      have apart : key (f b) ≠ key (f c) := by
        intro same
        exact nodup.1 (List.mem_map.mpr ⟨c, member, same.symm⟩)
      rw [find_insert first, if_neg apart]
      exact absent c (List.mem_cons_of_mem b member)
    obtain ⟨u, tail⟩ := ih mid nodup.2 later
    exact ⟨u, by rw [List.foldlM_cons, first]; exact tail⟩

/-- `INSERT ... ON CONFLICT (key) DO UPDATE`. -/
def upsert (t : Table α κ key) (create : α) (update : α → α) (hu : ∀ a, key (update a) = key a) :
    Table α κ key :=
  (t.insert create).getD (t.updateMany (fun a => key a = key create) update hu)

theorem find_upsert (t : Table α κ key) (create : α) (update : α → α)
    (hu : ∀ a, key (update a) = key a) (k : κ) :
    (t.upsert create update hu).find k =
      if key create = k then some ((t.find k).elim create update) else t.find k := by
  unfold upsert
  cases h : t.insert create with
  | some u =>
    rw [Option.getD_some, find_insert h]
    split
    · rename_i hk
      rw [← hk, insert_fresh h]
      rfl
    · rfl
  | none =>
    rw [Option.getD_none, find_updateMany]
    by_cases hk : key create = k
    · have present : ∃ a, t.find k = some a := by
        unfold insert at h
        split at h
        · rename_i member
          obtain ⟨a, ha, hak⟩ := List.mem_map.mp member
          exact ⟨a, find_eq_some.mpr ⟨ha, hak.trans hk⟩⟩
        · cases h
      obtain ⟨a, ha⟩ := present
      simp [ha, hk, find_key ha]
    · cases ha : t.find k with
      | none => simp [hk]
      | some a => simp [hk, find_key ha, Ne.symm hk]

/-- The row is now the one with its key. -/
def set (t : Table α κ key) (a : α) : Table α κ key := (t.insert a).getD (t.put a)

theorem find_set (t : Table α κ key) (a : α) (k : κ) :
    (t.set a).find k = if key a = k then some a else t.find k := by
  unfold set
  cases old : t.find (key a) with
  | none =>
    obtain ⟨u, first⟩ := insert_of_fresh old
    rw [first, Option.getD_some, find_insert first]
  | some b =>
    have taken : t.insert a = none := by
      by_contra fresh
      obtain ⟨u, first⟩ := Option.ne_none_iff_exists'.mp fresh
      rw [insert_fresh first] at old
      cases old
    rw [taken, Option.getD_none, find_put_of_find old]
    by_cases same : key a = k
    · rw [if_pos same.symm, if_pos same]
    · rw [if_neg (Ne.symm same), if_neg same]

/-- The rows of `w` over those of `t`. -/
def overlay (t w : Table α κ key) : Table α κ key := w.rows.foldl set t

theorem find_overlay (t w : Table α κ key) (k : κ) :
    (t.overlay w).find k = (w.find k).or (t.find k) := by
  have fold : ∀ (l : List α) (t : Table α κ key), (l.map key).Nodup →
      (l.foldl set t).find k = (l.find? fun a => key a = k).or (t.find k) := by
    intro l
    induction l with
    | nil =>
      intro t _
      rfl
    | cons a l ih =>
      intro t unique
      obtain ⟨fresh, unique⟩ := List.nodup_cons.mp unique
      rw [List.foldl_cons, ih _ unique, find_set, List.find?_cons]
      by_cases own : key a = k
      · have later : l.find? (fun b => key b = k) = none := by
          rw [List.find?_eq_none]
          intro b member same
          have same : key b = k := by simpa using same
          exact fresh (List.mem_map.mpr ⟨b, member, same.trans own.symm⟩)
        simp [own, later]
      · simp [own]
  exact fold w.rows t w.unique

/-! ## As a function of the key -/

theorem put_update {t : Table α κ key} {a old : α} (h : t.find (key a) = some old) :
    (t.put a).find = Function.update t.find (key a) (some a) := by
  funext k
  rw [find_put_of_find h, Function.update_apply]

theorem updateOne_update {t u : Table α κ key} {k : κ} {p : α → Bool} {f : α → α}
    (h : t.updateOne k p f = some u) (hf : ∀ a, key (f a) = key a) :
    ∃ a, t.find k = some a ∧ p a = true ∧ u.find = Function.update t.find k (some (f a)) := by
  obtain ⟨a, found, chosen, rows⟩ := updateOne_some h hf
  refine ⟨a, found, chosen, ?_⟩
  funext k'
  rw [rows, Function.update_apply]

theorem updateOne_exists {t : Table α κ key} {k : κ} {a : α} (p : α → Bool) (f : α → α)
    (found : t.find k = some a) (chosen : p a = true) (hf : ∀ a, key (f a) = key a) :
    ∃ u, t.updateOne k p f = some u ∧ u.find = Function.update t.find k (some (f a)) := by
  have own : key (f a) = k := (hf a).trans (find_key found)
  refine ⟨t.put (f a), ?_, ?_⟩
  · rw [updateOne, found, Option.bind_some, if_pos chosen]
  · rw [put_update (own.symm ▸ found), own]

theorem insert_update {t u : Table α κ key} {a : α} (h : t.insert a = some u) :
    u.find = Function.update t.find (key a) (some a) := by
  funext k
  rw [find_insert h, Function.update_apply]
  by_cases own : k = key a
  · rw [if_pos own, if_pos own.symm]
  · rw [if_neg own, if_neg (Ne.symm own)]

end

end Table

end CircleBackend.Library
