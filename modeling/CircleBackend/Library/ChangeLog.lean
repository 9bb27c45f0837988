import Mathlib.Data.List.Nodup
import Mathlib.Logic.Function.Basic

/-!
# Change logs

What a list of changing items is to a reader that holds one number. Every item
carries the number its last change was recorded under; no two items share one
and none is above the mark. A change is recorded under a number above the mark
and the mark moves up to it, so the changes a reader at `mark` has not seen are
exactly the items with a greater number.

`Grows log ks later` is a history of changes, `ks` the items changed in order:

* `Grows.kept`, `Grows.numbered`, `Grows.changed`: what a history does to an item;
* `Grows.faithful`: over changes of different items, an item is either untouched
  or reads differently under a number above the old mark.
-/

namespace CircleBackend.Library

structure ChangeLog (κ ν : Type) where
  entry : κ → Option (Nat × ν)
  mark : Nat
  bounded : ∀ k e, entry k = some e → e.1 ≤ mark
  distinct : ∀ k l e f, entry k = some e → entry l = some f → e.1 = f.1 → k = l

namespace ChangeLog

variable {κ ν : Type}

/-- What an item shows. -/
def reads (log : ChangeLog κ ν) (k : κ) : Option ν := (log.entry k).map Prod.snd

def advance (log : ChangeLog κ ν) (mark : Nat) (h : log.mark ≤ mark) : ChangeLog κ ν where
  entry := log.entry
  mark := mark
  bounded k e he := Nat.le_trans (log.bounded k e he) h
  distinct := log.distinct

variable [DecidableEq κ]

/-- The item `k` shows `v` from number `n` on. -/
def record (log : ChangeLog κ ν) (k : κ) (n : Nat) (v : ν) (h : log.mark < n) :
    ChangeLog κ ν where
  entry := Function.update log.entry k (some (n, v))
  mark := n
  bounded l e he := by
    by_cases hl : l = k
    · simp only [hl, Function.update_self, Option.some.injEq] at he
      exact Nat.le_of_eq (congrArg Prod.fst he.symm)
    · rw [Function.update_of_ne hl] at he
      exact Nat.le_trans (log.bounded l e he) (Nat.le_of_lt h)
  distinct l m e f he hf same := by
    by_cases hl : l = k <;> by_cases hm : m = k
    · rw [hl, hm]
    · simp only [hl, Function.update_self, Option.some.injEq] at he
      rw [Function.update_of_ne hm] at hf
      have := log.bounded m f hf
      simp only [← he] at same
      omega
    · simp only [hm, Function.update_self, Option.some.injEq] at hf
      rw [Function.update_of_ne hl] at he
      have := log.bounded l e he
      simp only [← hf] at same
      omega
    · rw [Function.update_of_ne hl] at he
      rw [Function.update_of_ne hm] at hf
      exact log.distinct l m e f he hf same

theorem entry_record (log : ChangeLog κ ν) (k : κ) (n : Nat) (v : ν) (h : log.mark < n) (l : κ) :
    (log.record k n v h).entry l = if l = k then some (n, v) else log.entry l := by
  simp [record, Function.update_apply]

inductive Grows : ChangeLog κ ν → List κ → ChangeLog κ ν → Prop
  | refl (log : ChangeLog κ ν) : Grows log [] log
  | advance {log later : ChangeLog κ ν} {ks : List κ} (mark : Nat) (h : later.mark ≤ mark) :
      Grows log ks later → Grows log ks (later.advance mark h)
  | record {log later : ChangeLog κ ν} {ks : List κ} (k : κ) (n : Nat) (v : ν)
      (h : later.mark < n) (changed : later.reads k ≠ some v) :
      Grows log ks later → Grows log (ks ++ [k]) (later.record k n v h)

namespace Grows

variable {log later last : ChangeLog κ ν} {ks ls : List κ} {k : κ}

theorem trans (h : Grows log ks later) (g : Grows later ls last) : Grows log (ks ++ ls) last := by
  induction g with
  | refl => simpa using h
  | advance mark up _ ih => exact ih.advance mark up
  | record k n v up changed _ ih =>
    rw [← List.append_assoc]
    exact ih.record k n v up changed

theorem mark_le (h : Grows log ks later) : log.mark ≤ later.mark := by
  induction h with
  | refl => exact Nat.le_refl _
  | advance mark up _ ih => exact Nat.le_trans ih up
  | record k n v up _ _ ih => exact Nat.le_trans ih (Nat.le_of_lt up)

theorem kept (h : Grows log ks later) (untouched : k ∉ ks) : later.entry k = log.entry k := by
  induction h with
  | refl => rfl
  | advance _ _ _ ih => exact ih untouched
  | record l n v up _ _ ih =>
    simp only [List.mem_append, List.mem_singleton, not_or] at untouched
    rw [entry_record, if_neg untouched.2]
    exact ih untouched.1

theorem numbered (h : Grows log ks later) (touched : k ∈ ks) :
    ∃ e, later.entry k = some e ∧ log.mark < e.1 := by
  induction h with
  | refl => cases touched
  | advance _ _ _ ih => exact ih touched
  | record l n v up _ before ih =>
    rw [entry_record]
    split
    · exact ⟨(n, v), rfl, Nat.lt_of_le_of_lt before.mark_le up⟩
    · rename_i other
      exact ih ((List.mem_append.mp touched).resolve_right fun h => other (List.mem_singleton.mp h))

theorem changed (h : Grows log ks later) (once : ks.Nodup) (touched : k ∈ ks) :
    later.reads k ≠ log.reads k := by
  induction h with
  | refl => cases touched
  | advance _ _ _ ih => exact ih once touched
  | @record before ks l n v up new grown ih =>
    have apart := List.nodup_append.mp once
    by_cases hk : k = l
    · have first : k ∉ ks := fun h => apart.2.2 k h l (List.mem_singleton.mpr rfl) hk
      have shown : (before.record l n v up).reads k = some v := by
        rw [reads, entry_record, if_pos hk]
        rfl
      rw [shown, reads, ← grown.kept first, hk]
      exact new.symm
    · have earlier : k ∈ ks :=
        (List.mem_append.mp touched).resolve_right fun h => hk (List.mem_singleton.mp h)
      rw [reads, entry_record, if_neg hk]
      exact ih apart.1 earlier

theorem faithful (h : Grows log ks later) (once : ks.Nodup) (k : κ) :
    later.entry k = log.entry k ∨
      later.reads k ≠ log.reads k ∧ ∃ e, later.entry k = some e ∧ log.mark < e.1 := by
  by_cases touched : k ∈ ks
  · exact Or.inr ⟨h.changed once touched, h.numbered touched⟩
  · exact Or.inl (h.kept touched)

end Grows

end ChangeLog

end CircleBackend.Library
