import Mathlib.Algebra.BigOperators.Group.List.Basic
import Mathlib.Algebra.Order.Ring.Int
import Mathlib.Data.List.Nodup

/-!
# Logs, newest first

`Chronicle P log` says that each entry met `P` when it was added, on the log as
it was then.

* `Chronicle.split`: what an entry met, wherever the log is cut;
* `Since.split`: some entry `start`s the log's newest stretch of `quiet` ones;
* `Chronicle.window_le`: a rate limit that looks back over a window of fixed
  width bounds every window of that width;
* `sum_countP_keys`: counting the entries of a log key by key.
-/

namespace CircleBackend.Library

variable {α : Type}

inductive Chronicle (P : α → List α → Prop) : List α → Prop
  | nil : Chronicle P []
  | cons {e : α} {older : List α} (met : P e older) (past : Chronicle P older) :
      Chronicle P (e :: older)

namespace Chronicle

variable {P Q : α → List α → Prop}

theorem split {newer older : List α} {e : α} (h : Chronicle P (newer ++ e :: older)) :
    P e older := by
  induction newer with
  | nil =>
    cases h with
    | cons met _ => exact met
  | cons a newer ih =>
    cases h with
    | cons _ past => exact ih past

/-- Each entry was added while fewer than `n` entries lay within the last `width`
before it; then no window of that width holds more than `n`. -/
theorem window_le {time : α → Nat} {n width : Nat} {log : List α}
    (h : Chronicle (fun e older => older.countP (fun g => time e ≤ time g + width) < n) log)
    (start : Nat) : log.countP (fun g => start ≤ time g && time g ≤ start + width) ≤ n := by
  induction h with
  | nil => exact Nat.zero_le n
  | @cons e older met _ ih =>
    rw [List.countP_cons]
    split
    · rename_i inside
      have fewer : older.countP (fun g => start ≤ time g && time g ≤ start + width) ≤
          older.countP (fun g => time e ≤ time g + width) := by
        apply List.countP_mono_left
        intro g _ hg
        simp only [Bool.and_eq_true, decide_eq_true_eq] at inside hg ⊢
        omega
      omega
    · omega

end Chronicle

/-- Nothing but `quiet` entries has been added since one that is a `start`. -/
inductive Since (start quiet : α → Prop) : List α → Prop
  | here {e : α} {before : List α} (begun : start e) : Since start quiet (e :: before)
  | later {e : α} {log : List α} (still : quiet e) (past : Since start quiet log) :
      Since start quiet (e :: log)

theorem Since.split {start quiet : α → Prop} {log : List α} (h : Since start quiet log) :
    ∃ between e before, log = between ++ e :: before ∧ start e ∧ ∀ x ∈ between, quiet x := by
  induction h with
  | @here e before begun => exact ⟨[], e, before, rfl, begun, nofun⟩
  | @later x log still _ ih =>
    obtain ⟨between, e, before, rfl, begun, calm⟩ := ih
    refine ⟨x :: between, e, before, rfl, begun, ?_⟩
    intro y hy
    obtain rfl | hy := List.mem_cons.mp hy
    · exact still
    · exact calm y hy

/-- The entries whose key is listed, counted key by key. -/
theorem sum_countP_keys {κ : Type} [DecidableEq κ] (key : α → κ) (log : List α) {keys : List κ}
    (distinct : keys.Nodup) :
    (keys.map fun k => log.countP fun e => key e = k).sum = log.countP fun e => key e ∈ keys := by
  induction keys with
  | nil => simp
  | cons k keys ih =>
    obtain ⟨fresh, distinct⟩ := List.nodup_cons.mp distinct
    rw [List.map_cons, List.sum_cons, ih distinct]
    clear ih
    induction log with
    | nil => rfl
    | cons e log ih =>
      simp only [List.countP_cons, List.mem_cons] at ih ⊢
      by_cases hk : key e = k
      · simp only [hk, fresh, true_or, decide_true, decide_false, Bool.false_eq_true, ↓reduceIte]
        omega
      · simp only [hk, false_or, decide_false, Bool.false_eq_true, ↓reduceIte]
        omega

end CircleBackend.Library
