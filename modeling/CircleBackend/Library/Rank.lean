import CircleBackend.Library.Paging
import Mathlib.Data.List.Sort
import Mathlib.Data.Prod.Lex
import Mathlib.Order.Lattice

/-!
# Ranks within groups

Rows are ranked within their group by a position of their own; a batch keeps the first ranks of
every group and takes them rank by rank. It may be made from candidates alone when every row
left out has a full quota of candidates before it (`batch_eq`).
-/

namespace CircleBackend.Library

section Rank

variable {α κ β : Type} [DecidableEq κ] [LinearOrder β] (key : α → κ) (pos : α → β)

/-- `ROW_NUMBER()`: how many of the group are not behind the row. -/
def rank (rows : List α) (a : α) : Nat :=
  rows.countP fun b => key b = key a ∧ pos b ≤ pos a

/-- The order of a batch: by rank, then by position. -/
def place (rows : List α) (a : α) : Nat ×ₗ β := toLex (rank key pos rows a, pos a)

def kept (quota : κ → Nat) (rows : List α) : List α :=
  rows.filter fun a => rank key pos rows a ≤ quota (key a)

def inPlace (rows : List α) (a b : α) : Prop := place key pos rows a ≤ place key pos rows b

instance (rows : List α) : DecidableRel (inPlace key pos rows) :=
  fun a b => inferInstanceAs (Decidable (place key pos rows a ≤ place key pos rows b))

def batch (quota : κ → Nat) (size : Nat) (rows : List α) : List α :=
  ((kept key pos quota rows).insertionSort (inPlace key pos rows)).take size

/-- Candidates among the rows, with a full quota before every row that is left out. -/
structure Covers (quota : κ → Nat) (rows candidates : List α) : Prop where
  distinct : candidates.Nodup
  sub : ∀ a ∈ candidates, a ∈ rows
  full : ∀ b ∈ rows, b ∉ candidates →
    quota (key b) ≤ candidates.countP fun c => key c = key b ∧ pos c < pos b

variable {key pos} {quota : κ → Nat} {rows candidates : List α} {a b : α}

theorem countP_lt_of_mem {p q : α → Bool} (le : ∀ c ∈ rows, p c = true → q c = true)
    (inside : a ∈ rows) (out : p a = false) (counted : q a = true) :
    rows.countP p < rows.countP q := by
  obtain ⟨front, back, rfl⟩ := List.append_of_mem inside
  have first : front.countP p ≤ front.countP q :=
    List.countP_mono_left fun c member => le c (List.mem_append_left _ member)
  have last : back.countP p ≤ back.countP q :=
    List.countP_mono_left fun c member =>
      le c (List.mem_append_right _ (List.mem_cons_of_mem _ member))
  rw [List.countP_append, List.countP_append, List.countP_cons, List.countP_cons, out, counted]
  simp only [Bool.false_eq_true, if_false, if_true]
  omega

theorem rank_le (covers : Covers key pos quota rows candidates) (a : α) :
    rank key pos candidates a ≤ rank key pos rows a :=
  (List.subperm_of_subset covers.distinct covers.sub).countP_le _

theorem rank_mono (same : key b = key a) (before : pos b ≤ pos a) :
    rank key pos rows b ≤ rank key pos rows a := by
  apply List.countP_mono_left
  intro c _ counted
  simp only [decide_eq_true_eq] at counted ⊢
  exact ⟨counted.1.trans same, le_trans counted.2 before⟩

/-- A row left out is beyond its quota, and so is what comes behind it. -/
theorem rank_of_left_out (covers : Covers key pos quota rows candidates) (inRows : b ∈ rows)
    (out : b ∉ candidates) (inside : a ∈ candidates) (same : key b = key a)
    (before : pos b ≤ pos a) : quota (key a) < rank key pos candidates a := by
  have full := covers.full b inRows out
  rw [same] at full
  -- the candidates before `b` and `a` itself
  have more : candidates.countP (fun c => key c = key a ∧ pos c < pos b) <
      candidates.countP fun c => key c = key a ∧ pos c ≤ pos a := by
    apply countP_lt_of_mem _ inside
    · simp only [decide_eq_false_iff_not, not_and, not_lt]
      exact fun _ => before
    · simp
    · intro c _ counted
      simp only [decide_eq_true_eq] at counted ⊢
      exact ⟨counted.1, le_of_lt (lt_of_lt_of_le counted.2 before)⟩
  exact Nat.lt_of_le_of_lt full more

/-- The ranks that count are those among the candidates. -/
theorem rank_eq (covers : Covers key pos quota rows candidates) (distinct : rows.Nodup)
    (within : ∀ b ∈ rows, key b = key a → pos b ≤ pos a → b ∈ candidates) :
    rank key pos candidates a = rank key pos rows a := by
  apply le_antisymm (rank_le covers a)
  unfold rank
  rw [List.countP_eq_length_filter, List.countP_eq_length_filter]
  apply (List.subperm_of_subset (distinct.filter _) _).length_le
  intro b member
  obtain ⟨inRows, counted⟩ := List.mem_filter.mp member
  obtain ⟨same, before⟩ := of_decide_eq_true counted
  exact List.mem_filter.mpr ⟨within b inRows same before, counted⟩

theorem mem_kept {a : α} :
    a ∈ kept key pos quota rows ↔ a ∈ rows ∧ rank key pos rows a ≤ quota (key a) := by
  rw [kept, List.mem_filter, decide_eq_true_eq]

/-- Nothing before a row of a low rank is left out. -/
theorem before_kept (covers : Covers key pos quota rows candidates)
    (low : rank key pos rows a ≤ quota (key a)) (inRows : b ∈ rows) (same : key b = key a)
    (before : pos b ≤ pos a) : b ∈ candidates := by
  by_contra out
  have full := covers.full b inRows out
  have more : candidates.countP (fun c => key c = key b ∧ pos c < pos b) <
      rank key pos rows b := by
    apply Nat.lt_of_le_of_lt
      ((List.subperm_of_subset covers.distinct covers.sub).countP_le _)
    apply countP_lt_of_mem _ inRows
    · simp
    · simp
    · intro c _ counted
      simp only [decide_eq_true_eq] at counted ⊢
      exact ⟨counted.1, le_of_lt counted.2⟩
  have mono : rank key pos rows b ≤ rank key pos rows a := rank_mono same before
  rw [same] at full
  rw [same] at more
  omega

/-- The same rows are kept, with the same ranks. -/
theorem kept_iff (covers : Covers key pos quota rows candidates) (distinct : rows.Nodup) :
    (a ∈ kept key pos quota candidates ↔ a ∈ kept key pos quota rows) ∧
      (a ∈ kept key pos quota rows → rank key pos candidates a = rank key pos rows a) := by
  have equal : a ∈ kept key pos quota rows → rank key pos candidates a = rank key pos rows a := by
    intro member
    obtain ⟨-, low⟩ := mem_kept.mp member
    exact rank_eq covers distinct fun b inRows same before =>
      before_kept covers low inRows same before
  refine ⟨⟨?_, ?_⟩, equal⟩
  · intro member
    obtain ⟨inside, low⟩ := mem_kept.mp member
    have same : rank key pos candidates a = rank key pos rows a := by
      apply rank_eq covers distinct
      intro b inRows same before
      by_contra out
      have high := rank_of_left_out covers inRows out inside same before
      omega
    exact mem_kept.mpr ⟨covers.sub a inside, by omega⟩
  · intro member
    obtain ⟨inRows, low⟩ := mem_kept.mp member
    have own := before_kept covers low inRows rfl le_rfl
    exact mem_kept.mpr ⟨own, by rw [equal member]; exact low⟩

theorem inPlace_sorted (rows' : List α) :
    (rows'.insertionSort (inPlace key pos rows)).Pairwise (inPlace key pos rows) := by
  have total : Std.Total (inPlace key pos rows) := ⟨fun a b => le_total (place key pos rows a) _⟩
  have trans : IsTrans α (inPlace key pos rows) := ⟨fun a b c first second => le_trans first second⟩
  exact List.pairwise_insertionSort _ _

/-- A batch of the candidates is the batch of all rows. -/
theorem batch_eq (covers : Covers key pos quota rows candidates) (distinct : rows.Nodup)
    (apart : ∀ a ∈ rows, ∀ b ∈ rows, pos a = pos b → a = b) (size : Nat) :
    batch key pos quota size candidates = batch key pos quota size rows := by
  have both := fun a => kept_iff (a := a) covers distinct
  have perm : (kept key pos quota candidates).Perm (kept key pos quota rows) :=
    (List.perm_ext_iff_of_nodup (covers.distinct.filter _) (distinct.filter _)).mpr
      fun a => (both a).1
  have sorted := List.perm_insertionSort (inPlace key pos candidates)
    (kept key pos quota candidates)
  have sorted' := List.perm_insertionSort (inPlace key pos rows) (kept key pos quota rows)
  unfold batch
  congr 1
  apply (sorted.trans (perm.trans sorted'.symm)).eq_of_pairwise _ _ (inPlace_sorted _)
  · intro a b inA inB before after
    have placed : place key pos rows a = place key pos rows b := le_antisymm before after
    have same : pos a = pos b := congrArg (fun p => (ofLex p).2) placed
    have keptA := (both a).1.mp (sorted.mem_iff.mp inA)
    have keptB := sorted'.mem_iff.mp inB
    exact apart a (mem_kept.mp keptA).1 b (mem_kept.mp keptB).1 same
  · apply (inPlace_sorted _).imp_of_mem
    intro a b inA inB before
    have rankA := (both a).2 ((both a).1.mp (sorted.mem_iff.mp inA))
    have rankB := (both b).2 ((both b).1.mp (sorted.mem_iff.mp inB))
    unfold inPlace place at before ⊢
    rw [← rankA, ← rankB]
    exact before

/-- A row that is kept misses a batch only behind a full batch of kept rows. -/
theorem batch_full (distinct : rows.Nodup)
    (apart : ∀ a ∈ rows, ∀ b ∈ rows, pos a = pos b → a = b) {size : Nat}
    (own : a ∈ kept key pos quota rows) (out : a ∉ batch key pos quota size rows) :
    size ≤ (kept key pos quota rows).countP fun b => place key pos rows b < place key pos rows a := by
  have perm := List.perm_insertionSort (inPlace key pos rows) (kept key pos quota rows)
  have strict : ((kept key pos quota rows).insertionSort (inPlace key pos rows)).Pairwise
      fun a b => place key pos rows a < place key pos rows b := by
    have differ : ((kept key pos quota rows).insertionSort (inPlace key pos rows)).Pairwise (· ≠ ·) :=
      perm.nodup_iff.mpr (distinct.filter _)
    apply ((inPlace_sorted _).and differ).imp_of_mem
    rintro b c inB inC ⟨before, notSame⟩
    apply lt_of_le_of_ne before
    intro placed
    have same : pos b = pos c := congrArg (fun p => (ofLex p).2) placed
    exact notSame (apart b (mem_kept.mp (perm.mem_iff.mp inB)).1 c
      (mem_kept.mp (perm.mem_iff.mp inC)).1 same)
  have member := perm.mem_iff.mpr own
  have few := mt (mem_take_iff strict member).mpr out
  rw [perm.countP_eq] at few
  exact Nat.le_of_not_lt few

/-- A row behind the first ones of a sorted group has all of them before it. -/
theorem before_left_out {l : List α} {n : Nat} (sorted : l.Pairwise fun a b => pos a < pos b)
    (own : a ∈ l) (out : a ∉ l.take n) : (l.take n).length = n ∧ ∀ b ∈ l.take n, pos b < pos a := by
  rw [← List.take_append_drop n l, List.mem_append] at own
  have behind := own.resolve_left out
  have long : n < l.length := by
    by_contra short
    rw [List.drop_eq_nil_of_le (not_lt.mp short)] at behind
    cases behind
  rw [← List.take_append_drop n l, List.pairwise_append] at sorted
  exact ⟨List.length_take_of_le (le_of_lt long), fun b member => sorted.2.2 b member a behind⟩

end Rank

end CircleBackend.Library
