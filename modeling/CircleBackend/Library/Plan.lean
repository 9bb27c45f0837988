import Mathlib.Data.List.Basic

/-!
# A plan told into a log

A log that refuses what it already has is told the items of a fixed plan, by anyone who
is not ahead of it. It then always holds a beginning of the plan.
-/

namespace CircleBackend.Library

variable {α β : Type}

section Tell

variable [DecidableEq α] {plan log : List α} {a : α}

def tell (log : List α) (a : α) : List α := if a ∈ log then log else log ++ [a]

theorem nodup_tell (h : log.Nodup) : (tell log a).Nodup := by
  unfold tell
  split
  case isTrue => exact h
  case isFalse absent => exact List.nodup_append.mpr ⟨h, by simp, by grind⟩

theorem prefix_tell : log <+: tell log a := by
  unfold tell
  split
  · exact List.prefix_rfl
  · exact List.prefix_append _ _

/-- Whoever is not ahead of the log may tell it what is next. -/
theorem tell_next (distinct : plan.Nodup) (told : log <+: plan) {i : Nat} (behind : i ≤ log.length)
    (next : plan[i]? = some a) : tell log a <+: plan ∧ i + 1 ≤ (tell log a).length := by
  obtain ⟨rest, rfl⟩ := told
  unfold tell
  by_cases known : i < log.length
  · rw [List.getElem?_append_left known] at next
    have there : a ∈ log := List.mem_of_getElem? next
    rw [if_pos there]
    exact ⟨List.prefix_append _ _, known⟩
  · have here : i = log.length := by omega
    subst here
    rw [List.getElem?_append_right (Nat.le_refl _), Nat.sub_self] at next
    cases rest with
    | nil => cases next
    | cons b rest =>
      cases next
      have absent : a ∉ log := by
        intro there
        exact (List.nodup_append.mp distinct).2.2 a there a List.mem_cons_self rfl
      rw [if_neg absent]
      exact ⟨⟨rest, by simp⟩, by simp⟩

end Tell

/-! What is left out of the items is passed over. -/

section Passing

variable {p : α → Bool} {items : List α} {i : Nat} {x : α}

theorem items_split (at' : items[i]? = some x) :
    items = items.take i ++ x :: items.drop (i + 1) := by
  obtain ⟨inside, rfl⟩ := List.getElem?_eq_some_iff.mp at'
  rw [List.getElem_cons_drop, List.take_append_drop]

theorem filter_next (at' : items[i]? = some x) (kept : p x = true) :
    (items.filter p)[(items.take i).countP p]? = some x := by
  rw [List.countP_eq_length_filter]
  conv => enter [1, 1]; rw [items_split at', List.filter_append, List.filter_cons_of_pos kept]
  rw [List.getElem?_append_right (Nat.le_refl _), Nat.sub_self, List.getElem?_cons_zero]

theorem countP_next (at' : items[i]? = some x) :
    (items.take (i + 1)).countP p = (items.take i).countP p + if p x then 1 else 0 := by
  rw [List.take_add_one, at', List.countP_append]
  simp [List.countP_cons]

theorem countP_take_le : (items.take i).countP p ≤ (items.filter p).length := by
  rw [← List.countP_eq_length_filter]
  exact (List.take_sublist _ _).countP_le

end Passing

theorem eq_of_keys (key : α → β) :
    ∀ {xs ys : List α}, xs.map key = ys.map key →
      (∀ x ∈ xs, ∀ y ∈ ys, key x = key y → x = y) → xs = ys
  | [], [], _, _ => rfl
  | x :: xs, y :: ys, keys, same => by
    rw [List.map_cons, List.map_cons, List.cons.injEq] at keys
    rw [same x List.mem_cons_self y List.mem_cons_self keys.1,
      eq_of_keys key keys.2 fun a ha b hb =>
        same a (List.mem_cons_of_mem _ ha) b (List.mem_cons_of_mem _ hb)]

end CircleBackend.Library
