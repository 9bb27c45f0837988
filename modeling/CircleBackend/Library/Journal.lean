import CircleBackend.Library.ReadCommitted

/-!
# Rows written under the lock of another

Entries of a transaction that holds the lock of the row they belong to. What a transaction sees
of the entries of a row agrees with what it sees of the row, whatever the others do and whether
or not they commit.

* `Kept.write`, `Kept.append`: a statement of the holder of the lock;
* `Kept.commit`, `Kept.abort`: the end of a transaction.
-/

namespace CircleBackend.Library.ReadCommitted

structure Entry (τ ε : Type) where
  tx : τ
  committed : Bool
  row : ε
  deriving DecidableEq

abbrev Journal (τ ε : Type) := List (Entry τ ε)

variable {κ τ α ε : Type} [DecidableEq κ] [DecidableEq τ]

/-- What a transaction sees, or what is committed. -/
def Journal.visible (j : Journal τ ε) (v : Option τ) : List ε :=
  (j.filter fun e => e.committed || v = some e.tx).map (·.row)

def Journal.append (j : Journal τ ε) (t : τ) (row : ε) : Journal τ ε :=
  j ++ [{ tx := t, committed := false, row := row }]

def Journal.commit (j : Journal τ ε) (t : τ) : Journal τ ε :=
  j.map fun e => if e.tx = t then { e with committed := true } else e

def Journal.abort (j : Journal τ ε) (t : τ) : Journal τ ε :=
  j.filter fun e => e.committed || e.tx ≠ t

def Cell.seen (c : Cell τ α) : Option τ → Option α
  | none => c.committed
  | some t => c.view t

/-- `place` is the row an entry belongs to. `owed` is what a row was before a transaction wrote it,
until the entry of the change is there. -/
structure Kept (s : Store κ τ α) (j : Journal τ ε) (place : ε → κ)
    (P : κ → List ε → Option α → Prop) (owed : τ → κ → Option α) : Prop where
  held : ∀ e ∈ j, e.committed = false → ∃ a, (s (place e.row)).pending = some (e.tx, a)
  owing : ∀ t k, owed t k ≠ none → ∃ a, (s k).pending = some (t, a)
  agree : ∀ v k, P k ((j.visible v).filter (place · = k)) ((v.bind (owed · k)).or ((s k).seen v))

variable {s : Store κ τ α} {j : Journal τ ε} {place : ε → κ} {P : κ → List ε → Option α → Prop}
variable {owed owed' : τ → κ → Option α} {t : τ} {k : κ}

theorem visible_append (v : Option τ) (row : ε) : (j.append t row).visible v =
    j.visible v ++ if v = some t then [row] else [] := by
  by_cases own : v = some t <;> simp [Journal.visible, Journal.append, own]

omit [DecidableEq τ] in
/-- A lock stays when others write, commit and abort. -/
theorem locked_insert {w : τ} {k' : κ} {a b : α} (locked : (s k').pending = some (w, b))
    (free : (s k).Free t) (other : w ≠ t) : (s.insert t k a k').pending = some (w, b) := by
  unfold Store.insert
  by_cases same : k' = k
  · subst same
    exact absurd (free _ locked) other
  · rw [Function.update_of_ne same]
    exact locked

omit [DecidableEq τ] in
theorem apart_of_locked {c : Cell τ α} {w : τ} {b : α} (locked : c.pending = some (w, b))
    (other : w ≠ t) (a : α) : c.pending ≠ some (t, a) := by
  intro mine
  rw [locked] at mine
  cases mine
  exact other rfl

omit [DecidableEq κ] in
theorem locked_commit {w : τ} {b : α} (locked : (s k).pending = some (w, b)) (other : w ≠ t) :
    (s.commit t k).pending = some (w, b) := by
  rw [Store.commit, Cell.commit_apart (apart_of_locked locked other), locked]

omit [DecidableEq κ] in
theorem locked_abort {w : τ} {b : α} (locked : (s k).pending = some (w, b)) (other : w ≠ t) :
    (s.abort t k).pending = some (w, b) := by
  rw [Store.abort, Cell.abort_apart (apart_of_locked locked other), locked]

/-- The holder of the lock writes a row. -/
theorem Kept.write (kept : Kept s j place P owed) {a : α} (free : (s k).Free t)
    (others : ∀ w k', (w ≠ t ∨ k' ≠ k) → owed' w k' = owed w k')
    (own : P k ((j.visible (some t)).filter (place · = k)) ((owed' t k).or (some a))) :
    Kept (s.insert t k a) j place P owed' := by
  have lock (w : τ) (k' : κ) (locked : ∃ b, (s k').pending = some (w, b)) :
      ∃ b, (s.insert t k a k').pending = some (w, b) := by
    obtain ⟨b, locked⟩ := locked
    unfold Store.insert
    by_cases same : k' = k
    · subst same
      rw [Function.update_self]
      exact ⟨a, by rw [Cell.write, ← free _ locked]⟩
    · rw [Function.update_of_ne same]
      exact ⟨b, locked⟩
  refine ⟨fun e member fresh => lock _ _ (kept.held e member fresh), fun w k' open' => ?_,
    fun v k' => ?_⟩
  · by_cases mine : w = t ∧ k' = k
    · obtain ⟨rfl, rfl⟩ := mine
      exact ⟨a, by rw [Store.insert, Function.update_self]; rfl⟩
    · rw [others w k' (not_and_or.mp mine)] at open'
      exact lock w k' (kept.owing w k' open')
  · by_cases mine : v = some t ∧ k' = k
    · obtain ⟨rfl, rfl⟩ := mine
      have seen : (s.insert t k' a k').seen (some t) = some a := by
        rw [Store.insert, Function.update_self]
        exact Cell.view_write_self
      rw [seen]
      exact own
    · have seen : (s.insert t k a k').seen v = (s k').seen v := by
        cases v with
        | none => exact Store.committed_insert
        | some w =>
          by_cases same : w = t
          · subst same
            have other : k' ≠ k := fun equal => mine ⟨rfl, equal⟩
            rw [Store.insert, Function.update_of_ne other]
          · exact Store.view_insert_other free same k'
      have owes : v.bind (owed' · k') = v.bind (owed · k') := by
        cases v with
        | none => rfl
        | some w =>
          exact others w k' (not_and_or.mp fun same => mine ⟨congrArg some same.1, same.2⟩)
      rw [seen, owes]
      exact kept.agree v k'

/-- The holder of the lock adds an entry. -/
theorem Kept.append (kept : Kept s j place P owed) (row : ε) {a : α}
    (locked : (s (place row)).pending = some (t, a))
    (others : ∀ w k, (w ≠ t ∨ k ≠ place row) → owed' w k = owed w k)
    (own : P (place row) ((j.visible (some t)).filter (place · = place row) ++ [row])
      ((owed' t (place row)).or (some a))) :
    Kept s (j.append t row) place P owed' := by
  refine ⟨fun e member fresh => ?_, fun w k open' => ?_, fun v k => ?_⟩
  · rcases List.mem_append.mp member with old | new
    · exact kept.held e old fresh
    · rw [List.mem_singleton.mp new]
      exact ⟨a, locked⟩
  · by_cases mine : w = t ∧ k = place row
    · obtain ⟨rfl, rfl⟩ := mine
      exact ⟨a, locked⟩
    · rw [others w k (not_and_or.mp mine)] at open'
      exact kept.owing w k open'
  · rw [visible_append]
    by_cases mine : v = some t ∧ k = place row
    · obtain ⟨rfl, rfl⟩ := mine
      have seen : (s (place row)).seen (some t) = some a := Cell.view_of_pending locked
      rw [if_pos rfl, List.filter_append, seen]
      simpa using own
    · have same : ((j.visible v ++ if v = some t then [row] else []).filter (place · = k)) =
          (j.visible v).filter (place · = k) := by
        by_cases own : v = some t
        · have other : ¬place row = k := fun equal => mine ⟨own, equal.symm⟩
          simp [own, other]
        · simp [own]
      have owes : v.bind (owed' · k) = v.bind (owed · k) := by
        cases v with
        | none => rfl
        | some w => exact others w k (not_and_or.mp fun same => mine ⟨congrArg some same.1, same.2⟩)
      rw [same, owes]
      exact kept.agree v k

/-- A row and its entry, in one statement. -/
theorem Kept.write_append (kept : Kept s j place P fun _ _ => none) (row : ε) {a old : α}
    (free : (s (place row)).Free t) (found : (s (place row)).view t = some old)
    (own : P (place row) ((j.visible (some t)).filter (place · = place row) ++ [row]) (some a)) :
    Kept (s.insert t (place row) a) (j.append t row) place P fun _ _ => none := by
  obtain ⟨open', own'⟩ : ∃ open' : τ → κ → Option α, open' = fun w k =>
    if w = t ∧ k = place row then some old else none := ⟨_, rfl⟩
  have others (w : τ) (k : κ) (other : w ≠ t ∨ k ≠ place row) : open' w k = none := by
    rw [own']
    exact if_neg (not_and_or.mpr other)
  have agrees := kept.agree (some t) (place row)
  rw [show (s (place row)).seen (some t) = some old from found] at agrees
  have written : Kept (s.insert t (place row) a) j place P open' := by
    refine kept.write free others ?_
    rw [own']
    simpa using agrees
  refine written.append row ?_ (fun w k other => (others w k other).symm) own
  rw [Store.insert, Function.update_self]
  rfl

/-- Entries that count the same in both journals. -/
theorem Kept.visible_congr (kept : Kept s j place P owed) {p q : Entry τ ε → Bool}
    (same : ∀ e, place e.row = k → (e.committed = true ∨ ∃ a, (s k).pending = some (e.tx, a)) →
      p e = q e) :
    ((j.filter p).map (·.row)).filter (place · = k) =
      ((j.filter q).map (·.row)).filter (place · = k) := by
  simp only [List.filter_map, List.filter_filter]
  congr 1
  apply List.filter_congr
  intro e member
  by_cases own : place e.row = k
  · have locked : e.committed = true ∨ ∃ a, (s k).pending = some (e.tx, a) := by
      cases committed : e.committed with
      | true => exact Or.inl rfl
      | false => exact Or.inr (own ▸ kept.held e member committed)
    simp [same e own locked]
  · simp [own]

theorem visible_commit (v : Option τ) : (j.commit t).visible v =
    (j.filter fun e => e.committed || e.tx = t || v = some e.tx).map (·.row) := by
  induction j with
  | nil => rfl
  | cons e rest ih =>
    simp only [Journal.visible, Journal.commit, List.map_cons, List.filter_cons] at ih ⊢
    by_cases own : e.tx = t
    · simp [own, ih]
    · simp only [own, ↓reduceIte, decide_false, Bool.or_false]
      split <;> simp [ih]

theorem Kept.commit (kept : Kept s j place P owed) (paid : ∀ k, owed t k = none) :
    Kept (s.commit t) (j.commit t) place P owed := by
  refine ⟨fun e member fresh => ?_, fun w k open' => ?_, fun v k => ?_⟩
  · obtain ⟨old, inside, rfl⟩ := List.mem_map.mp member
    by_cases own : old.tx = t
    · rw [if_pos own] at fresh
      cases fresh
    · rw [if_neg own] at fresh ⊢
      obtain ⟨a, locked⟩ := kept.held old inside fresh
      exact ⟨a, locked_commit locked own⟩
  · obtain ⟨a, locked⟩ := kept.owing w k open'
    have other : w ≠ t := fun same => open' (same ▸ paid k)
    exact ⟨a, locked_commit locked other⟩
  · rw [visible_commit]
    by_cases holds : ∃ a, (s k).pending = some (t, a)
    · obtain ⟨a, locked⟩ := holds
      have seen : ((s.commit t) k).seen v = (s k).seen (some t) := by
        have done : (s k).commit t = ⟨some a, none⟩ := by simp [Cell.commit, locked]
        rw [Store.commit, done]
        cases v <;> exact (Cell.view_of_pending locked).symm
      have owes : v.bind (owed · k) = (some t).bind (owed · k) := by
        cases v with
        | none => exact (paid k).symm
        | some w =>
          by_contra open'
          have due : owed w k ≠ none := fun none => open' (none.trans (paid k).symm)
          obtain ⟨b, mine⟩ := kept.owing w k due
          rw [locked] at mine
          cases mine
          exact due (paid k)
      have same := kept.visible_congr (k := k)
        (p := fun e => e.committed || e.tx = t || v = some e.tx)
        (q := fun e => e.committed || some t = some e.tx) (by
          rintro e - (committed | ⟨b, mine⟩)
          · simp [committed]
          · rw [locked] at mine
            cases mine
            simp)
      rw [seen, same, owes]
      exact kept.agree (some t) k
    · have seen : ((s.commit t) k).seen v = (s k).seen v := by
        rw [Store.commit, Cell.commit_apart fun a mine => holds ⟨a, mine⟩]
      have same := kept.visible_congr (k := k)
        (p := fun e => e.committed || e.tx = t || v = some e.tx)
        (q := fun e => e.committed || v = some e.tx) (by
          rintro e - (committed | ⟨b, mine⟩)
          · simp [committed]
          · have other : e.tx ≠ t := fun own => holds ⟨b, own ▸ mine⟩
            simp [other])
      rw [seen, same]
      exact kept.agree v k

theorem Kept.abort (kept : Kept s j place P owed) (others : ∀ w k, w ≠ t → owed' w k = owed w k)
    (done : ∀ k, owed' t k = none) : Kept (s.abort t) (j.abort t) place P owed' := by
  refine ⟨fun e member fresh => ?_, fun w k open' => ?_, fun v k => ?_⟩
  · obtain ⟨inside, stays⟩ := List.mem_filter.mp member
    have own : e.tx ≠ t := by simpa [fresh] using stays
    obtain ⟨a, locked⟩ := kept.held e inside fresh
    exact ⟨a, locked_abort locked own⟩
  · have other : w ≠ t := fun same => open' (same ▸ done k)
    rw [others w k other] at open'
    obtain ⟨a, locked⟩ := kept.owing w k open'
    exact ⟨a, locked_abort locked other⟩
  · by_cases own : v = some t
    · subst own
      have seen : ((s.abort t) k).seen (some t) = (s k).seen none := by
        obtain ⟨a, mine, -⟩ | ⟨-, same⟩ := ((s k).abort t).view_cases t
        · exact absurd rfl (Cell.pending_abort mine).2
        · exact same
      have same : (j.abort t).visible (some t) = j.visible none := by
        simp only [Journal.visible, Journal.abort, List.filter_filter]
        congr 1
        apply List.filter_congr
        intro e member
        cases e.committed <;> simp [eq_comm]
      rw [seen, same, Option.bind_some, done k]
      exact kept.agree none k
    · have seen : ((s.abort t) k).seen v = (s k).seen v := by
        cases v with
        | none => rfl
        | some w => exact Cell.view_abort_other fun same => own (congrArg some same)
      have same : (j.abort t).visible v = j.visible v := by
        simp only [Journal.visible, Journal.abort, List.filter_filter]
        congr 1
        apply List.filter_congr
        intro e member
        by_cases viewer : v = some e.tx
        · have other : e.tx ≠ t := fun same => own (viewer.trans (congrArg some same))
          simp [viewer, other]
        · cases e.committed <;> simp [viewer]
      have owes : v.bind (owed' · k) = v.bind (owed · k) := by
        cases v with
        | none => rfl
        | some w => exact others w k fun same => own (congrArg some same)
      rw [seen, same, owes]
      exact kept.agree v k

end CircleBackend.Library.ReadCommitted
