import CircleBackend.Library.ReadCommitted
import Mathlib.Algebra.BigOperators.Group.List.Basic
import Mathlib.Algebra.Ring.Int.Defs

/-!
# Counters kept beside the rows they count

Under READ COMMITTED a transaction that changes rows and then a counter of them leaves the two
apart until it ends. `gain` is what it has added in its own eyes; a commit adds it to what is
committed and leaves what the others have added alone.

`Balanced` says that the committed counters are exact and that every transaction has counted what
it did but for what it still owes. Writing a row owes, writing a counter pays, and a transaction
that owes nothing may commit (`Balanced.commit`).
-/

namespace CircleBackend.Library.ReadCommitted

variable {κ χ τ α β : Type}

section Gain

variable [DecidableEq τ]

/-- What `t` has added to a number read off a cell. -/
def Cell.gain (f : Option α → Int) (c : Cell τ α) (t : τ) : Int :=
  f (c.view t) - f c.committed

variable {f : Option α → Int} {c : Cell τ α} {t w : τ} {a : α}

namespace Cell

theorem gain_write_self : (c.write t a).gain f t = f (some a) - f c.committed := by
  unfold gain
  rw [view_write_self]
  rfl

theorem gain_write_other (free : c.Free t) (other : w ≠ t) :
    (c.write t a).gain f w = c.gain f w := by
  unfold gain
  rw [view_write_other free other]
  rfl

theorem gain_apart (apart : ∀ a, c.pending ≠ some (t, a)) : c.gain f t = 0 := by
  obtain ⟨a, held, -⟩ | ⟨-, seen⟩ := c.view_cases t
  · exact absurd held (apart a)
  · unfold gain
    rw [seen, Int.sub_self]

theorem gain_of_pending (held : c.pending = some (t, a)) :
    c.gain f t = f (some a) - f c.committed := by
  unfold gain
  rw [view_of_pending held]

theorem committed_gain : f (c.commit t).committed = f c.committed + c.gain f t := by
  obtain ⟨a, held, -⟩ | ⟨apart, -⟩ := c.view_cases t
  · rw [gain_of_pending held]
    unfold commit
    rw [held]
    simp
  · rw [commit_apart apart, gain_apart apart, Int.add_zero]

theorem gain_commit_self : (c.commit t).gain f t = 0 := by
  apply gain_apart
  intro a held
  exact (pending_commit held).2 rfl

theorem gain_abort_self : (c.abort t).gain f t = 0 := by
  apply gain_apart
  intro a held
  exact (pending_abort held).2 rfl

theorem gain_commit_other (other : w ≠ t) : (c.commit t).gain f w = c.gain f w := by
  obtain ⟨a, held, -⟩ | ⟨apart, -⟩ := c.view_cases t
  · have before : ∀ b, c.pending ≠ some (w, b) := by
      intro b mine
      rw [held] at mine
      cases mine
      exact other rfl
    have after : ∀ b, (c.commit t).pending ≠ some (w, b) := by
      intro b mine
      exact before b (pending_commit mine).1
    rw [gain_apart before, gain_apart after]
  · rw [commit_apart apart]

theorem gain_abort_other (other : w ≠ t) : (c.abort t).gain f w = c.gain f w := by
  unfold gain
  rw [view_abort_other other]
  rfl

end Cell

end Gain

section Sums

variable {ids : List κ} {k : κ} {g h : κ → Int}

theorem sum_congr (same : ∀ k ∈ ids, g k = h k) : (ids.map g).sum = (ids.map h).sum := by
  rw [List.map_congr_left same]

/-- A sum in which one summand changes. -/
theorem sum_change [DecidableEq κ] (distinct : ids.Nodup) (member : k ∈ ids)
    (others : ∀ j ∈ ids, j ≠ k → g j = h j) : (ids.map g).sum = (ids.map h).sum + (g k - h k) := by
  induction ids with
  | nil => cases member
  | cons i ids ih =>
    obtain ⟨fresh, distinct⟩ := List.nodup_cons.mp distinct
    simp only [List.map_cons, List.sum_cons]
    by_cases own : i = k
    · have rest : (ids.map g).sum = (ids.map h).sum := by
        apply sum_congr
        intro j there
        exact others j (List.mem_cons_of_mem _ there) fun same => fresh (own ▸ same ▸ there)
      rw [rest, own]
      omega
    · have there : k ∈ ids := (List.mem_cons.mp member).resolve_left (Ne.symm own)
      rw [ih distinct there fun j inside => others j (List.mem_cons_of_mem _ inside),
        others i List.mem_cons_self own]
      omega

end Sums

section Counted

/-- The rows, the counters, how much of a row is counted where, and what a counter says. -/
structure Counted (κ χ τ α β : Type) where
  ids : List κ
  rows : Store κ τ α
  counters : Store χ τ β
  weight : χ → κ → Option α → Int
  value : Option β → Int

namespace Counted

section Ends

variable [DecidableEq τ]

def total (b : Counted κ χ τ α β) (c : χ) : Int :=
  (b.ids.map fun k => b.weight c k (b.rows k).committed).sum

/-- What `t` has added to the rows at `c`. -/
def drift (b : Counted κ χ τ α β) (c : χ) (t : τ) : Int :=
  (b.ids.map fun k => (b.rows k).gain (b.weight c k) t).sum

def count (b : Counted κ χ τ α β) (c : χ) : Int := b.value (b.counters c).committed

/-- What `t` has added to the counter at `c`. -/
def counted (b : Counted κ χ τ α β) (c : χ) (t : τ) : Int := (b.counters c).gain b.value t

def commit (b : Counted κ χ τ α β) (t : τ) : Counted κ χ τ α β :=
  { b with rows := b.rows.commit t, counters := b.counters.commit t }

def abort (b : Counted κ χ τ α β) (t : τ) : Counted κ χ τ α β :=
  { b with rows := b.rows.abort t, counters := b.counters.abort t }

def putRow [DecidableEq κ] (b : Counted κ χ τ α β) (t : τ) (k : κ) (a : α) : Counted κ χ τ α β :=
  { b with rows := b.rows.insert t k a }

def putCounter [DecidableEq χ] (b : Counted κ χ τ α β) (t : τ) (c : χ) (a : β) : Counted κ χ τ α β :=
  { b with counters := b.counters.insert t c a }

/-- Committed counters are exact; a transaction has counted what it did but for what it owes. -/
structure Balanced (b : Counted κ χ τ α β) (owed : τ → χ → Int) : Prop where
  distinct : b.ids.Nodup
  exact : ∀ c, b.count c = b.total c
  due : ∀ t c, b.counted c t + owed t c = b.drift c t

variable {b : Counted κ χ τ α β} {owed : τ → χ → Int} {t w : τ} {k : κ} {c : χ}

theorem total_commit : (b.commit t).total c = b.total c + b.drift c t := by
  unfold total drift
  rw [← List.sum_map_add]
  apply sum_congr
  intro k _
  exact Cell.committed_gain

theorem drift_commit_self : (b.commit t).drift c t = 0 := by
  unfold drift
  apply List.sum_eq_zero
  intro x member
  obtain ⟨k, -, rfl⟩ := List.mem_map.mp member
  exact Cell.gain_commit_self

theorem drift_commit_other (other : w ≠ t) : (b.commit t).drift c w = b.drift c w :=
  sum_congr fun _ _ => Cell.gain_commit_other other

theorem drift_abort_self : (b.abort t).drift c t = 0 := by
  unfold drift
  apply List.sum_eq_zero
  intro x member
  obtain ⟨k, -, rfl⟩ := List.mem_map.mp member
  exact Cell.gain_abort_self

theorem drift_abort_other (other : w ≠ t) : (b.abort t).drift c w = b.drift c w :=
  sum_congr fun _ _ => Cell.gain_abort_other other

/-- A transaction that owes nothing may commit. -/
theorem Balanced.commit (balanced : b.Balanced owed) (paid : ∀ c, owed t c = 0) :
    (b.commit t).Balanced owed where
  distinct := balanced.distinct
  exact c := by
    have due := balanced.due t c
    rw [paid, Int.add_zero] at due
    rw [total_commit, ← balanced.exact c, ← due]
    exact Cell.committed_gain
  due w c := by
    by_cases own : w = t
    · rw [own, drift_commit_self, paid, Int.add_zero]
      exact Cell.gain_commit_self
    · rw [drift_commit_other own, ← balanced.due w c]
      congr 1
      exact Cell.gain_commit_other own

/-- One that rolls back owes nothing any more. -/
theorem Balanced.abort {owed' : τ → χ → Int} (balanced : b.Balanced owed)
    (others : ∀ w, w ≠ t → owed' w = owed w) (paid : ∀ c, owed' t c = 0) :
    (b.abort t).Balanced owed' where
  distinct := balanced.distinct
  exact := balanced.exact
  due w c := by
    by_cases own : w = t
    · rw [own, drift_abort_self, paid, Int.add_zero]
      exact Cell.gain_abort_self
    · rw [drift_abort_other own, others w own, ← balanced.due w c]
      congr 1
      exact Cell.gain_abort_other own

/-! ### Writes -/

theorem drift_putRow_self [DecidableEq κ] {a : α} (distinct : b.ids.Nodup) (member : k ∈ b.ids) :
    (b.putRow t k a).drift c t = b.drift c t +
      (b.weight c k (some a) - b.weight c k ((b.rows k).view t)) := by
  have change := @sum_change κ b.ids k
    (fun j => (Function.update b.rows k ((b.rows k).write t a) j).gain (b.weight c j) t)
    (fun j => (b.rows j).gain (b.weight c j) t) _ distinct member (by
      intro j _ other
      rw [Function.update_of_ne other])
  refine change.trans ?_
  rw [Function.update_self, Cell.gain_write_self]
  unfold drift Cell.gain
  omega

theorem drift_putRow_other [DecidableEq κ] {a : α} (free : (b.rows k).Free t) (other : w ≠ t) :
    (b.putRow t k a).drift c w = b.drift c w := by
  apply sum_congr
  intro j _
  show (Function.update b.rows k ((b.rows k).write t a) j).gain (b.weight c j) w = _
  by_cases own : j = k
  · rw [own, Function.update_self, Cell.gain_write_other free other]
  · rw [Function.update_of_ne own]

/-- A changed row is owed to the counters. -/
theorem Balanced.putRow [DecidableEq κ] {owed' : τ → χ → Int} {a : α} (balanced : b.Balanced owed)
    (member : k ∈ b.ids) (free : (b.rows k).Free t) (others : ∀ w, w ≠ t → owed' w = owed w)
    (owes : ∀ c, owed' t c = owed t c +
      (b.weight c k (some a) - b.weight c k ((b.rows k).view t))) :
    (b.putRow t k a).Balanced owed' where
  distinct := balanced.distinct
  exact c := by
    rw [show (b.putRow t k a).count c = b.count c from rfl, balanced.exact c]
    unfold total
    apply sum_congr
    intro j _
    rw [show ((b.putRow t k a).rows j).committed = (b.rows j).committed from
      Store.committed_insert]
    rfl
  due w c := by
    have due := balanced.due w c
    have same : (b.putRow t k a).counted c w = b.counted c w := rfl
    by_cases own : w = t
    · rw [own] at due same ⊢
      rw [drift_putRow_self balanced.distinct member, same, owes]
      omega
    · rw [drift_putRow_other free own, same, others w own, due]

theorem counted_putCounter_self [DecidableEq χ] {a : β} :
    (b.putCounter t c a).counted c t = b.counted c t + (b.value (some a) -
      b.value ((b.counters c).view t)) := by
  unfold counted
  show (Function.update b.counters c ((b.counters c).write t a) c).gain b.value t = _
  rw [Function.update_self, Cell.gain_write_self]
  unfold Cell.gain
  omega

/-- A changed counter pays. -/
theorem Balanced.putCounter [DecidableEq χ] {owed' : τ → χ → Int} {a : β} (balanced : b.Balanced owed)
    (free : (b.counters c).Free t) (others : ∀ w, w ≠ t → owed' w = owed w)
    (apart : ∀ d, d ≠ c → owed' t d = owed t d)
    (pays : owed' t c = owed t c - (b.value (some a) - b.value ((b.counters c).view t))) :
    (b.putCounter t c a).Balanced owed' where
  distinct := balanced.distinct
  exact d := by
    rw [show (b.putCounter t c a).total d = b.total d from rfl, ← balanced.exact d]
    unfold count
    rw [show ((b.putCounter t c a).counters d).committed = (b.counters d).committed from
      Store.committed_insert]
    rfl
  due w d := by
    have due := balanced.due w d
    have same : (b.putCounter t c a).drift d w = b.drift d w := rfl
    have elsewhere : w ≠ t ∨ d ≠ c →
        (b.putCounter t c a).counted d w = b.counted d w := by
      intro apart
      unfold counted
      show (Function.update b.counters c ((b.counters c).write t a) d).gain b.value w = _
      by_cases here : d = c
      · rw [here, Function.update_self, Cell.gain_write_other free
          (apart.resolve_right fun other => other here)]
      · rw [Function.update_of_ne here]
    rw [same, ← due]
    by_cases own : w = t
    · by_cases here : d = c
      · rw [own, here, counted_putCounter_self, pays]
        omega
      · rw [elsewhere (.inr here), own, apart d here]
    · rw [elsewhere (.inl own), others w own]

/-- A key that nothing is written under yet. -/
theorem Balanced.enter (balanced : b.Balanced owed) (fresh : k ∉ b.ids)
    (empty : b.rows k = ⟨none, none⟩) (nothing : ∀ c, b.weight c k none = 0) :
    ({ b with ids := b.ids ++ [k] } : Counted κ χ τ α β).Balanced owed where
  distinct := by
    rw [List.nodup_append]
    refine ⟨balanced.distinct, List.pairwise_singleton _ _, ?_⟩
    intro j member i own same
    exact fresh (List.mem_singleton.mp own ▸ same ▸ member)
  exact c := by
    show b.count c = _
    rw [balanced.exact c]
    unfold total
    simp [empty, nothing]
  due t c := by
    show b.counted c t + owed t c = _
    rw [balanced.due t c]
    unfold drift
    have none' : ∀ a, (b.rows k).pending ≠ some (t, a) := by
      intro a held
      rw [empty] at held
      cases held
    simp [Cell.gain_apart none']

end Ends

end Counted

end Counted

end CircleBackend.Library.ReadCommitted
