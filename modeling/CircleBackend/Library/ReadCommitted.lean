import Mathlib.Logic.Function.Basic

/-!
# Statements under READ COMMITTED

Rows with their last committed version and at most one uncommitted version, held
with the row lock by the transaction that wrote it. An `UPDATE` fixes the rows it
will visit from what its transaction sees when the statement starts; each visit
waits for the lock and checks the condition again on the newest version. Rows
that another transaction inserts and commits later are not visited.

`view_write_other`, `view_commit_other` and `view_abort_other` say what a
transaction sees of the others' statements, `view_visit` what a visit leaves.
-/

namespace CircleBackend.Library.ReadCommitted

variable {κ τ α : Type}

structure Cell (τ α : Type) where
  committed : Option α
  pending : Option (τ × α)

section Cell
variable [DecidableEq τ]

namespace Cell

/-- The version a transaction sees: its own uncommitted one, else the committed. -/
def view (c : Cell τ α) (t : τ) : Option α :=
  (c.pending.filter (·.1 = t)).elim c.committed (some ·.2)

/-- No other transaction holds the lock of the row. -/
def Free (c : Cell τ α) (t : τ) : Prop := ∀ w ∈ c.pending, w.1 = t

instance (c : Cell τ α) (t : τ) : Decidable (c.Free t) :=
  inferInstanceAs (Decidable (∀ w ∈ c.pending, w.1 = t))

def write (c : Cell τ α) (t : τ) (a : α) : Cell τ α := ⟨c.committed, some (t, a)⟩

def commit (c : Cell τ α) (t : τ) : Cell τ α :=
  match c.pending with
  | some (w, a) => if w = t then ⟨some a, none⟩ else c
  | none => c

def abort (c : Cell τ α) (t : τ) : Cell τ α :=
  ⟨c.committed, c.pending.filter (·.1 ≠ t)⟩

variable {c : Cell τ α} {t w : τ} {a : α}

@[simp] theorem view_write_self : (c.write t a).view t = some a := by
  simp [view, write, Option.filter]

theorem view_write_other (free : c.Free t) (other : w ≠ t) : (c.write t a).view w = c.view w := by
  have apart : ∀ v ∈ c.pending, v.1 ≠ w := fun v hv same => other (same.symm.trans (free v hv))
  unfold view
  cases held : c.pending with
  | none => simp [write, Option.filter, other.symm]
  | some v => simp [write, Option.filter, other.symm, apart v held]

theorem view_of_pending (held : c.pending = some (t, a)) : c.view t = some a := by
  simp [view, held, Option.filter]

theorem view_cases (c : Cell τ α) (t : τ) :
    (∃ a, c.pending = some (t, a) ∧ c.view t = some a) ∨
      (∀ a, c.pending ≠ some (t, a)) ∧ c.view t = c.committed := by
  unfold view
  cases held : c.pending with
  | none => exact Or.inr ⟨by simp, rfl⟩
  | some v =>
    obtain ⟨w, b⟩ := v
    by_cases mine : w = t
    · subst mine
      exact Or.inl ⟨b, rfl, by simp [Option.filter]⟩
    · refine Or.inr ⟨fun a h => ?_, by simp [Option.filter, mine]⟩
      cases h
      exact mine rfl

theorem commit_apart (apart : ∀ a, c.pending ≠ some (t, a)) : c.commit t = c := by
  unfold commit
  split
  · rename_i w a held
    split
    · rename_i same
      exact absurd (same ▸ held) (apart a)
    · rfl
  · rfl

theorem abort_apart (apart : ∀ a, c.pending ≠ some (t, a)) : c.abort t = c := by
  obtain ⟨committed, pending⟩ := c
  cases pending with
  | none => rfl
  | some v =>
    have other : v.1 ≠ t := fun same => apart v.2 (by rw [← same])
    simp [abort, Option.filter, other]

theorem view_commit_self : (c.commit t).view t = c.view t := by
  unfold commit
  split
  · rename_i w a held
    split
    · rename_i same
      subst same
      rw [view_of_pending held]
      rfl
    · rfl
  · rfl

theorem view_commit_other (other : w ≠ t) :
    (c.commit t).view w = c.view w ∨
      ∃ a, c.pending = some (t, a) ∧ (c.commit t).view w = some a := by
  unfold commit
  split
  · rename_i v a held
    split
    · rename_i same
      subst same
      exact Or.inr ⟨a, held, rfl⟩
    · exact Or.inl rfl
  · exact Or.inl rfl

theorem view_abort_other (other : w ≠ t) : (c.abort t).view w = c.view w := by
  unfold view abort
  cases held : c.pending with
  | none => rfl
  | some v =>
    by_cases mine : v.1 = t
    · simp [Option.filter, mine, other.symm]
    · simp [Option.filter, mine]

/-- What an end of `t` leaves uncommitted belongs to others. -/
theorem pending_commit {v : τ × α} (held : (c.commit t).pending = some v) :
    c.pending = some v ∧ v.1 ≠ t := by
  unfold commit at held
  split at held
  · rename_i w a before
    split at held
    · cases held
    · rename_i other
      rw [held] at before
      cases before
      exact ⟨held, other⟩
  · rename_i before
    rw [before] at held
    cases held

theorem pending_abort {v : τ × α} (held : (c.abort t).pending = some v) :
    c.pending = some v ∧ v.1 ≠ t := by
  simpa [abort, Option.filter_eq_some_iff] using held

theorem committed_commit :
    (c.commit t).committed = c.committed ∨
      ∃ a, c.pending = some (t, a) ∧ (c.commit t).committed = some a := by
  unfold commit
  split
  · rename_i v a held
    split
    · rename_i same
      subst same
      exact Or.inr ⟨a, held, rfl⟩
    · exact Or.inl rfl
  · exact Or.inl rfl

end Cell

end Cell

abbrev Store (κ τ α : Type) := κ → Cell τ α

/-- The rows an `UPDATE` still has to visit, and how many it has changed. -/
structure Update (κ : Type) where
  targets : κ → Bool
  count : Nat

def Update.Finished (u : Update κ) : Prop := ∀ k, u.targets k = false

namespace Store

variable [DecidableEq κ] [DecidableEq τ]

/-- The statement `UPDATE ... WHERE p` of `t` starts. -/
def beginUpdate (s : Store κ τ α) (t : τ) (p : α → Bool) : Update κ :=
  ⟨fun k => ((s k).view t).any p, 0⟩

/-- The row as the statement leaves it, given what its transaction sees of it. -/
def visit (s : Store κ τ α) (t : τ) (p : α → Bool) (f : α → α) (k : κ) : Store κ τ α :=
  match (s k).view t with
  | some a => if p a then Function.update s k ((s k).write t (f a)) else s
  | none => s

def insert (s : Store κ τ α) (t : τ) (k : κ) (a : α) : Store κ τ α :=
  Function.update s k ((s k).write t a)

def commit (s : Store κ τ α) (t : τ) : Store κ τ α := fun k => (s k).commit t

def abort (s : Store κ τ α) (t : τ) : Store κ τ α := fun k => (s k).abort t

end Store

/-- The progress of a statement that has visited a row. -/
def Update.visited [DecidableEq κ] (u : Update κ) (k : κ) (changed : Bool) : Update κ :=
  ⟨Function.update u.targets k false, u.count + changed.toNat⟩

theorem Update.target_of_visited [DecidableEq κ] {u : Update κ} {k k' : κ} {changed : Bool}
    (target : (u.visited k changed).targets k' = true) : k' ≠ k ∧ u.targets k' = true := by
  unfold visited at target
  by_cases same : k' = k
  · rw [same] at target
    simp at target
  · exact ⟨same, (Function.update_of_ne same ..).symm.trans target⟩

/-- A statement ends with its only target. -/
theorem Update.finished_visited [DecidableEq κ] {u : Update κ} {k : κ}
    (only : ∀ k', u.targets k' = true → k' = k) (changed : Bool) : (u.visited k changed).Finished := by
  intro k'
  by_contra target
  obtain ⟨other, target⟩ := Update.target_of_visited (by simpa using target)
  exact other (only k' target)

namespace Store

variable [DecidableEq κ] [DecidableEq τ] {s : Store κ τ α} {t w : τ} {p : α → Bool} {f : α → α}
variable {k k' : κ}

/-- A visit either leaves a row alone or writes it, having seen it match. -/
theorem visit_cases (s : Store κ τ α) (t : τ) (p : α → Bool) (f : α → α) (k k' : κ) :
    s.visit t p f k k' = s k' ∨
      k' = k ∧ ∃ a, (s k).view t = some a ∧ p a = true ∧
        s.visit t p f k k' = (s k).write t (f a) := by
  unfold visit
  cases seen : (s k).view t with
  | none => exact Or.inl rfl
  | some a =>
    dsimp only
    split
    · rename_i matched
      by_cases same : k' = k
      · subst same
        exact Or.inr ⟨rfl, a, rfl, matched, Function.update_self ..⟩
      · exact Or.inl (Function.update_of_ne same ..)
    · exact Or.inl rfl

theorem visit_unseen (unseen : (s k').view t = none) : s.visit t p f k k' = s k' := by
  obtain same | ⟨rfl, a, seen, -, -⟩ := s.visit_cases t p f k k'
  · exact same
  · rw [unseen] at seen
    cases seen

theorem visit_other (other : k' ≠ k) : s.visit t p f k k' = s k' := by
  obtain same | ⟨same, -⟩ := s.visit_cases t p f k k'
  · exact same
  · exact absurd same other

theorem view_visit_apart (other : k' ≠ k) : (s.visit t p f k k').view w = (s k').view w := by
  rw [visit_other other]

/-- After the visit the row does not match, if the update makes rows that do not. -/
theorem view_visit (settles : ∀ a, p (f a) = false) {a : α}
    (seen : (s.visit t p f k k).view t = some a) : p a = false := by
  obtain same | ⟨-, b, -, -, written⟩ := s.visit_cases t p f k k
  · rw [same] at seen
    by_contra matched
    have matched : p a = true := by simpa using matched
    simp only [visit, seen, matched, ↓reduceIte] at same
    rw [Function.update_self] at same
    have written : (s k).view t = some (f a) := by
      rw [← same]
      exact Cell.view_write_self
    rw [seen] at written
    have fixed := settles a
    rw [← Option.some.inj written, matched] at fixed
    cases fixed
  · rw [written, Cell.view_write_self] at seen
    rw [← Option.some.inj seen]
    exact settles b

/-- Another transaction does not see the visit. -/
theorem view_visit_other (free : (s k).Free t) (other : w ≠ t) (k' : κ) :
    (s.visit t p f k k').view w = (s k').view w := by
  obtain same | ⟨rfl, a, -, -, written⟩ := s.visit_cases t p f k k'
  · rw [same]
  · rw [written, Cell.view_write_other free other]

theorem committed_visit : (s.visit t p f k k').committed = (s k').committed := by
  obtain same | ⟨rfl, a, -, -, written⟩ := s.visit_cases t p f k k'
  · rw [same]
  · rw [written]
    rfl

theorem pending_visit {b : α} (held : (s.visit t p f k k').pending = some (w, b)) :
    (s k').pending = some (w, b) ∨
      w = t ∧ k' = k ∧ ∃ a, (s k).view t = some a ∧ p a = true ∧ b = f a := by
  obtain same | ⟨rfl, a, seen, matched, written⟩ := s.visit_cases t p f k k'
  · rw [same] at held
    exact Or.inl held
  · rw [written] at held
    cases held
    exact Or.inr ⟨rfl, rfl, a, seen, matched, rfl⟩

omit [DecidableEq τ] in
theorem pending_insert {a b : α} (held : (s.insert t k a k').pending = some (w, b)) :
    k' ≠ k ∧ (s k').pending = some (w, b) ∨ k' = k ∧ w = t ∧ b = a := by
  unfold insert at held
  by_cases same : k' = k
  · subst same
    rw [Function.update_self] at held
    cases held
    exact Or.inr ⟨rfl, rfl, rfl⟩
  · rw [Function.update_of_ne same] at held
    exact Or.inl ⟨same, held⟩

omit [DecidableEq τ] in
theorem committed_insert {a : α} : (s.insert t k a k').committed = (s k').committed := by
  unfold insert
  by_cases same : k' = k
  · subst same
    rw [Function.update_self]
    rfl
  · rw [Function.update_of_ne same]

theorem view_insert_other (free : (s k).Free t) (other : w ≠ t) {a : α} (k' : κ) :
    (s.insert t k a k').view w = (s k').view w := by
  unfold insert
  by_cases same : k' = k
  · subst same
    rw [Function.update_self, Cell.view_write_other free other]
  · rw [Function.update_of_ne same]

end Store

end CircleBackend.Library.ReadCommitted
