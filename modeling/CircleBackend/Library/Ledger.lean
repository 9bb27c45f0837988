import CircleBackend.Library.Table

/-!
# Ledgers and sums over tables

Entries carry an amount; `posted` adds up those a condition picks. `Table.sum`
adds a measure of the rows of a table.

* `posted_append`, `posted_le`: entries that are added, and a stronger condition;
* `Table.sum_insert`, `Table.sum_put`, `Table.sum_ensure`: what a write adds.
-/

namespace CircleBackend.Library

section Posted

variable {ε : Type} {amount : ε → Int} {p q : ε → Bool}

def posted (amount : ε → Int) (p : ε → Bool) (entries : List ε) : Int :=
  ((entries.filter p).map amount).sum

@[simp] theorem posted_nil : posted amount p [] = 0 := rfl

@[simp] theorem posted_cons (e : ε) (entries : List ε) :
    posted amount p (e :: entries) = (if p e then amount e else 0) + posted amount p entries := by
  by_cases h : p e <;> simp [posted, h]

@[simp] theorem posted_append (entries more : List ε) :
    posted amount p (entries ++ more) = posted amount p entries + posted amount p more := by
  simp [posted]

/-- Among debits, those a stronger condition picks come to less. -/
theorem posted_le {entries : List ε} (debits : ∀ e ∈ entries, p e = true → amount e ≤ 0)
    (sub : ∀ e ∈ entries, q e = true → p e = true) :
    posted amount p entries ≤ posted amount q entries := by
  induction entries with
  | nil => simp
  | cons e rest ih =>
    have tail := ih (fun a ha => debits a (List.mem_cons_of_mem e ha)) fun a ha =>
      sub a (List.mem_cons_of_mem e ha)
    have head := debits e List.mem_cons_self
    have picked := sub e List.mem_cons_self
    rw [posted_cons, posted_cons]
    by_cases hq : q e
    · simp only [hq, picked hq, ↓reduceIte]
      omega
    · by_cases hp : p e
      · have low := head hp
        simp only [hq, hp, ↓reduceIte, Bool.false_eq_true]
        omega
      · simp only [hq, hp, ↓reduceIte, Bool.false_eq_true]
        omega

theorem posted_debits {entries : List ε} (debits : ∀ e ∈ entries, p e = true → amount e ≤ 0) :
    posted amount p entries ≤ 0 := by
  have whole := posted_le (q := fun _ => false) debits (by simp)
  simpa [posted] using whole

end Posted

namespace Table

variable {α κ : Type} {key : α → κ} [DecidableEq κ]

def sum (t : Table α κ key) (measure : α → Int) : Int := (t.rows.map measure).sum

theorem sum_insert {t u : Table α κ key} {a : α} (h : t.insert a = some u) (measure : α → Int) :
    u.sum measure = t.sum measure + measure a := by
  simp [sum, insert_rows h]

/-- `INSERT … ON CONFLICT DO NOTHING` -/
def ensure (t : Table α κ key) (a : α) : Table α κ key := (t.insert a).getD t

theorem find_ensure (t : Table α κ key) (a : α) (k : κ) :
    (t.ensure a).find k = if k = key a then some ((t.find k).getD a) else t.find k := by
  unfold ensure
  cases h : t.insert a with
  | some u =>
    rw [Option.getD_some, find_insert h]
    by_cases own : k = key a
    · rw [own, insert_fresh h]
      simp
    · simp [own, Ne.symm own]
  | none =>
    rw [Option.getD_none]
    by_cases own : k = key a
    · unfold insert at h
      split at h
      · rename_i member
        obtain ⟨b, hb, same⟩ := List.mem_map.mp member
        have there : t.find k = some b := find_eq_some.mpr ⟨hb, same.trans own.symm⟩
        rw [if_pos own, there]
        rfl
      · cases h
    · simp [own]

theorem sum_ensure (t : Table α κ key) {a : α} {measure : α → Int} (empty : measure a = 0) :
    (t.ensure a).sum measure = t.sum measure := by
  unfold ensure
  cases h : t.insert a with
  | some u => rw [Option.getD_some, sum_insert h, empty, Int.add_zero]
  | none => rfl

theorem sum_put {t : Table α κ key} {a old : α} (h : t.find (key a) = some old)
    (measure : α → Int) : (t.put a).sum measure = t.sum measure + (measure a - measure old) := by
  have along : ∀ rows : List α, (rows.map key).Nodup → old ∈ rows →
      ((rows.map fun b => if key b = key a then a else b).map measure).sum =
        (rows.map measure).sum + (measure a - measure old) := by
    intro rows nodup member
    induction rows with
    | nil => cases member
    | cons b rest ih =>
      rw [List.map_cons, List.nodup_cons] at nodup
      by_cases own : b = old
      · have here : key b = key a := own ▸ find_key h
        have others : rest.map (fun b => if key b = key a then a else b) = rest := by
          conv_rhs => rw [← List.map_id rest]
          apply List.map_congr_left
          intro c hc
          have apart : key c ≠ key a := by
            intro same
            exact nodup.1 (List.mem_map.mpr ⟨c, hc, same.trans here.symm⟩)
          simp [apart]
        rw [List.map_cons, List.map_cons, if_pos here, others, List.map_cons, List.sum_cons,
          List.sum_cons, own]
        omega
      · have tail : old ∈ rest := by
          rcases List.mem_cons.mp member with same | tail
          · exact absurd same.symm own
          · exact tail
        have apart : key b ≠ key a := by
          intro same
          have old_key : key old = key a := find_key h
          exact nodup.1 (List.mem_map.mpr ⟨old, tail, old_key.trans same.symm⟩)
        have ih' := ih nodup.2 tail
        rw [List.map_cons, List.map_cons, if_neg apart, List.map_cons, List.sum_cons,
          List.sum_cons, ih']
        omega
  exact along t.rows t.unique (find_mem h)

end Table

end CircleBackend.Library
