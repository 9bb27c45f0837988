import Mathlib.Data.List.Basic
import Mathlib.Data.List.Nodup
import Mathlib.Data.List.Sort
import Mathlib.Order.Basic

/-!
# Pages of a sorted list

The first `k` elements of a list sorted by distinct keys are all those up to the
last key of the page, and those with fewer than `k` keys before their own
(`mem_take_iff`).
-/

namespace CircleBackend.Library

variable {α β : Type} [LinearOrder β] {key : α → β}

variable {k : Nat} {l : List α}

theorem mem_take_of_le (sorted : l.Pairwise fun a b => key a ≤ key b)
    (distinct : ∀ a ∈ l, ∀ b ∈ l, key a = key b → a = b) {last a : α}
    (hlast : last ∈ l.take k) (ha : a ∈ l) (low : key a ≤ key last) : a ∈ l.take k := by
  rw [← List.take_append_drop k l, List.mem_append] at ha
  rcases ha with first | later
  · exact first
  · have split := List.take_append_drop k l
    rw [← split, List.pairwise_append] at sorted
    have up : key last ≤ key a := sorted.2.2 last hlast a later
    have same : a = last := distinct a (List.mem_of_mem_drop later) last (List.mem_of_mem_take hlast)
      (le_antisymm low up)
    exact same ▸ hlast

theorem le_getLast (sorted : l.Pairwise fun a b => key a ≤ key b) {last a : α}
    (hlast : l.getLast? = some last) (ha : a ∈ l) : key a ≤ key last := by
  obtain ⟨front, rfl⟩ := List.getLast?_eq_some_iff.mp hlast
  rw [List.pairwise_append] at sorted
  rcases List.mem_append.mp ha with earlier | own
  · exact sorted.2.2 a earlier last (List.mem_singleton.mpr rfl)
  · exact le_of_eq (congrArg key (List.mem_singleton.mp own))

/-- A full page is cut off at its own last element. -/
theorem take_cut (key : α → β) (sorted : l.Pairwise fun a b => key a ≤ key b)
    (distinct : ∀ a ∈ l, ∀ b ∈ l, key a = key b → a = b) (positive : 0 < k) (more : k < l.length) :
    ∃ last ∈ l, (l.take k).getLast? = some last ∧ ∀ a ∈ l, a ∈ l.take k ↔ key a ≤ key last := by
  have length : (l.take k).length = k := List.length_take_of_le (Nat.le_of_lt more)
  have nonempty : l.take k ≠ [] := by
    intro empty
    rw [empty] at length
    simp at length
    omega
  have final := List.getLast?_eq_some_getLast nonempty
  have inside := List.getLast_mem nonempty
  refine ⟨_, List.mem_of_mem_take inside, final, fun a ha => ⟨fun within => ?_, fun low => ?_⟩⟩
  · exact le_getLast (sorted.sublist (List.take_sublist k l)) final within
  · exact mem_take_of_le sorted distinct inside ha low

/-- A page of `n` rows for which one more was read. -/
theorem mem_page (sorted : l.Pairwise fun a b => key a ≤ key b)
    (distinct : ∀ a ∈ l, ∀ b ∈ l, key a = key b → a = b) {n : Nat} (positive : 0 < n) {a : α}
    (ha : a ∈ l) (reaches : ∀ last, ((l.take (n + 1)).take n).getLast? = some last →
      n < (l.take (n + 1)).length → key a ≤ key last) : a ∈ (l.take (n + 1)).take n := by
  rw [List.take_take, Nat.min_eq_left (Nat.le_succ n)] at reaches ⊢
  rw [List.length_take] at reaches
  by_cases more : n < l.length
  · have nonempty : l.take n ≠ [] := by
      intro empty
      have length := congrArg List.length empty
      rw [List.length_take, List.length_nil] at length
      omega
    have low := reaches _ (List.getLast?_eq_some_getLast nonempty) (by omega)
    exact mem_take_of_le sorted distinct (List.getLast_mem nonempty) ha low
  · rw [List.take_of_length_le (Nat.not_lt.mp more)]
    exact ha

/-- The rows that are chosen, in the order of their keys. -/
theorem mem_sorted_page {rows : List α} (unique : (rows.map key).Nodup) (p : α → Bool) {n : Nat}
    (positive : 0 < n) {a : α} (ha : a ∈ rows) (chosen : p a = true)
    (reaches : ∀ last, ((((rows.filter p).insertionSort fun a b => key a ≤ key b).take
      (n + 1)).take n).getLast? = some last →
        n < (((rows.filter p).insertionSort fun a b => key a ≤ key b).take (n + 1)).length →
          key a ≤ key last) :
    a ∈ (((rows.filter p).insertionSort fun a b => key a ≤ key b).take (n + 1)).take n := by
  refine mem_page ?_ ?_ positive ?_ reaches
  · exact List.pairwise_insertionSort (fun a b => key a ≤ key b) _
  · intro a ha b hb same
    exact List.inj_on_of_nodup_map unique (List.mem_filter.mp ((List.mem_insertionSort _).mp ha)).1
      (List.mem_filter.mp ((List.mem_insertionSort _).mp hb)).1 same
  · exact (List.mem_insertionSort _).mpr (List.mem_filter.mpr ⟨ha, chosen⟩)

theorem countP_before_first {a : α} (first : ∀ b ∈ l, key a ≤ key b) :
    l.countP (fun b => key b < key a) = 0 := by
  rw [List.countP_eq_zero]
  intro b hb before
  exact absurd (first b hb) (not_le_of_gt (of_decide_eq_true before))

theorem mem_take_iff (sorted : l.Pairwise fun a b => key a < key b) {a : α}
    (ha : a ∈ l) : a ∈ l.take k ↔ l.countP (fun b => key b < key a) < k := by
  induction l generalizing k with
  | nil => cases ha
  | cons b rest ih =>
    obtain ⟨first, sorted⟩ := List.pairwise_cons.mp sorted
    cases k with
    | zero => simp
    | succ k =>
      rw [List.take_succ_cons, List.mem_cons, List.countP_cons]
      rcases List.mem_cons.mp ha with rfl | later
      · have none : rest.countP (fun b => key b < key a) = 0 :=
          countP_before_first fun c hc => le_of_lt (first c hc)
        rw [none, if_neg (by simp)]
        simp
      · have before : key b < key a := first a later
        have apart : a ≠ b := by
          rintro rfl
          exact lt_irrefl _ before
        rw [if_pos (by simpa using before), ih sorted later]
        constructor
        · rintro (same | few)
          · exact absurd same apart
          · omega
        · intro few
          exact Or.inr (by omega)

/-- What comes after the last element of a page is the rest of the list. -/
theorem filter_beyond {γ : Type} {lt : γ → γ → Bool} {l : List γ} {last : γ}
    (sorted : l.Pairwise fun a b => lt a b = true) (asymm : ∀ a b, lt a b = true → lt b a = false)
    (cut : (l.take k).getLast? = some last) : l.filter (lt last) = l.drop k := by
  obtain ⟨front, page⟩ := List.getLast?_eq_some_iff.mp cut
  have whole := List.take_append_drop k l
  rw [← whole, List.pairwise_append] at sorted
  obtain ⟨inPage, -, later⟩ := sorted
  have own : lt last last = false := by
    cases own : lt last last with
    | false => rfl
    | true => rw [asymm last last own] at own; cases own
  have before : (l.take k).filter (lt last) = [] := by
    rw [List.filter_eq_nil_iff]
    intro a member
    rw [page, List.pairwise_append] at inPage
    rw [page] at member
    rcases List.mem_append.mp member with earlier | same
    · rw [asymm a last (inPage.2.2 a earlier last (List.mem_singleton.mpr rfl))]
      exact Bool.false_ne_true
    · rw [List.mem_singleton.mp same, own]
      exact Bool.false_ne_true
  have after : (l.drop k).filter (lt last) = l.drop k := by
    rw [List.filter_eq_self]
    intro b member
    exact later last (List.mem_of_getLast? cut) b member
  conv_lhs => rw [← whole]
  rw [List.filter_append, before, after, List.nil_append]

/-- A part of a list, asked for by its keys. -/
theorem filter_keys {γ δ : Type} [DecidableEq δ] (key : γ → δ) {l part : List γ}
    (unique : (l.map key).Nodup) (sub : part.Sublist l) :
    (l.filter fun a => part.any fun b => key b = key a) = part := by
  induction sub with
  | slnil => rfl
  | @cons part l a sub ih =>
    obtain ⟨own, rest⟩ := List.nodup_cons.mp unique
    have absent : (part.any fun b => key b = key a) = false := by
      rw [List.any_eq_false]
      intro b member same
      exact own (of_decide_eq_true same ▸ List.mem_map_of_mem (sub.subset member))
    rw [List.filter_cons_of_neg (by rw [absent]; exact Bool.false_ne_true), ih rest]
  | @cons_cons part l a sub ih =>
    obtain ⟨own, rest⟩ := List.nodup_cons.mp unique
    rw [List.filter_cons_of_pos (by simp)]
    conv_rhs => rw [← ih rest]
    congr 1
    apply List.filter_congr
    intro b member
    have apart : key a ≠ key b := fun same => own (same ▸ List.mem_map_of_mem member)
    simp [apart]

end CircleBackend.Library
