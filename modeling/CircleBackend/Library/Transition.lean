/-!
# Runs of a labelled transition system

`Run step s ls t` is a finite run from `s` to `t` whose steps carry the labels
`ls` in order. The induction over a run is packaged once:

* `Run.preserves`: what every step keeps, a run keeps;
* `Run.preserves_where`: the same when the steps of the run also meet a
  condition on the state before them;
* `Run.of_along`: a list of labels played from a state is a run;
* `Run.of_foldlM`: the same for a step function that may refuse a label;
* `Reachable.invariant`: an invariant of the initial states kept by every step
  holds in every reachable state.
-/

namespace CircleBackend.Library

variable {σ ℓ : Type}

inductive Run (step : σ → ℓ → σ → Prop) : σ → List ℓ → σ → Prop
  | nil (s : σ) : Run step s [] s
  | snoc {s t u : σ} {ls : List ℓ} {l : ℓ} : Run step s ls t → step t l u → Run step s (ls ++ [l]) u

namespace Run

variable {step : σ → ℓ → σ → Prop}

theorem single {s t : σ} {l : ℓ} (h : step s l t) : Run step s [l] t :=
  .snoc (.nil s) h

variable {ls : List ℓ}

theorem append {s t u : σ} {ms : List ℓ} (h : Run step s ls t) (k : Run step t ms u) :
    Run step s (ls ++ ms) u := by
  induction k with
  | nil => simpa using h
  | snoc _ last ih => simpa [← List.append_assoc] using ih.snoc last

theorem cons {s t u : σ} {l : ℓ} (h : step s l t) (k : Run step t ls u) : Run step s (l :: ls) u :=
  (single h).append k

theorem preserves {P : σ → Prop} (keep : ∀ s l t, step s l t → P s → P t) {s t : σ}
    (h : Run step s ls t) (hs : P s) : P t := by
  induction h with
  | nil => exact hs
  | snoc _ last ih => exact keep _ _ _ last ih

/-- `ok` restricts the steps of a run; the restricted relation runs inside the
unrestricted one. -/
theorem mono {step' : σ → ℓ → σ → Prop} (sub : ∀ s l t, step s l t → step' s l t) {s t : σ}
    (h : Run step s ls t) : Run step' s ls t := by
  induction h with
  | nil => exact .nil _
  | snoc _ last ih => exact ih.snoc (sub _ _ _ last)

/-- A step relation cut down to the steps that meet a condition. -/
def Where (step : σ → ℓ → σ → Prop) (ok : σ → ℓ → Prop) (s : σ) (l : ℓ) (t : σ) : Prop :=
  step s l t ∧ ok s l

/-- What may also speak of the labels so far. -/
theorem history {P : List ℓ → σ → Prop} (keep : ∀ ls t l u, step t l u → P ls t → P (ls ++ [l]) u)
    {s t : σ} (h : Run step s ls t) (hs : P [] s) : P ls t := by
  induction h with
  | nil => exact hs
  | snoc _ last ih => exact keep _ _ _ _ last ih

theorem restrict {p : ℓ → Prop} {s t : σ} (h : Run step s ls t)
    (allowed : ∀ l ∈ ls, p l) : Run (Where step fun _ l => p l) s ls t := by
  induction h with
  | nil => exact .nil _
  | snoc _ last ih =>
    refine (ih fun l hl => allowed l (List.mem_append_left _ hl)).snoc ⟨last, ?_⟩
    exact allowed _ (List.mem_append_right _ (List.mem_singleton.mpr rfl))

theorem preserves_where {ok : σ → ℓ → Prop} {I P : σ → Prop} (inv : ∀ s l t, step s l t → I s → I t)
    (keep : ∀ s l t, step s l t → ok s l → I s → P s → P t) {s t : σ}
    (h : Run (Where step ok) s ls t) (hi : I s) (hs : P s) : P t := by
  have both : I t ∧ P t :=
    h.preserves (P := fun s => I s ∧ P s)
      (fun s l t hst hp => ⟨inv s l t hst.1 hp.1, keep s l t hst.1 hst.2 hp.1 hp.2⟩) ⟨hi, hs⟩
  exact both.2

/-- The state a list of labels leads to when every label has one successor. -/
def play (next : σ → ℓ → σ) : σ → List ℓ → σ
  | s, [] => s
  | s, l :: ls => play next (next s l) ls

/-- Every label of a played list meets `ok` in the state it is played in. -/
def Along (ok : σ → ℓ → Prop) (next : σ → ℓ → σ) : σ → List ℓ → Prop
  | _, [] => True
  | s, l :: ls => ok s l ∧ Along ok next (next s l) ls

instance decidableAlong {ok : σ → ℓ → Prop} [∀ s l, Decidable (ok s l)] (next : σ → ℓ → σ) :
    (s : σ) → (ls : List ℓ) → Decidable (Along ok next s ls)
  | _, [] => inferInstanceAs (Decidable True)
  | s, l :: ls =>
    have : Decidable (Along ok next (next s l) ls) := decidableAlong next (next s l) ls
    inferInstanceAs (Decidable (ok s l ∧ Along ok next (next s l) ls))

theorem of_along {ok : σ → ℓ → Prop} {next : σ → ℓ → σ} (h : ∀ s l, ok s l → step s l (next s l))
    {s : σ} (along : Along ok next s ls) : Run step s ls (play next s ls) := by
  induction ls generalizing s with
  | nil => exact .nil s
  | cons l ls ih => exact .cons (h s l along.1) (ih along.2)

theorem of_foldlM {next : σ → ℓ → Option σ} {s t : σ}
    (h : ls.foldlM next s = some t) : Run (fun s l t => next s l = some t) s ls t := by
  induction ls generalizing s with
  | nil =>
    cases h
    exact .nil _
  | cons l ls ih =>
    rw [List.foldlM_cons] at h
    obtain ⟨u, first, rest⟩ := Option.bind_eq_some_iff.mp h
    exact .cons first (ih rest)

/-- A successor, where a condition holds. -/
def whenever (ok : σ → ℓ → Bool) (next : σ → ℓ → Option σ) (s : σ) (l : ℓ) : Option σ :=
  if ok s l then next s l else none

theorem where_of_foldlM {ok : σ → ℓ → Bool} {next : σ → ℓ → Option σ} {s t : σ}
    (h : ls.foldlM (whenever ok next) s = some t) :
    Run (Where (fun s l t => next s l = some t) fun s l => ok s l = true) s ls t := by
  apply (of_foldlM h).mono
  intro s l t h
  unfold whenever at h
  split at h
  · rename_i holds
    exact ⟨h, holds⟩
  · cases h

/-- One label before another, in a run that is one label longer. -/
theorem pair_sublist_concat {a b x : ℓ} :
    [a, b].Sublist (ls ++ [x]) ↔ [a, b].Sublist ls ∨ x = b ∧ a ∈ ls := by
  constructor
  · intro h
    obtain ⟨l₁, l₂, split, h₁, h₂⟩ := List.sublist_append_iff.mp h
    cases l₂ with
    | nil =>
      rw [List.append_nil] at split
      exact Or.inl (split ▸ h₁)
    | cons y rest =>
      have only : y = x ∧ rest = [] := by
        have short := h₂.length_le
        have member := h₂.subset (List.mem_cons_self ..)
        simp only [List.length_cons, List.length_nil] at short
        exact ⟨List.mem_singleton.mp member, List.length_eq_zero_iff.mp (by omega)⟩
      obtain ⟨rfl, rfl⟩ := only
      cases l₁ with
      | nil => cases split
      | cons z tail =>
        simp only [List.cons_append, List.cons.injEq] at split
        obtain ⟨rfl, split⟩ := split
        cases tail with
        | nil =>
          simp only [List.nil_append, List.cons.injEq, and_true] at split
          exact Or.inr ⟨split.symm, h₁.subset (List.mem_cons_self ..)⟩
        | cons => simp at split
  · rintro (earlier | ⟨rfl, member⟩)
    · exact earlier.trans (List.sublist_append_left ..)
    · exact (List.singleton_sublist.mpr member).append (List.Sublist.refl _)

end Run

def Reachable (init : σ → Prop) (step : σ → ℓ → σ → Prop) (s : σ) : Prop :=
  ∃ s₀ ls, init s₀ ∧ Run step s₀ ls s

namespace Reachable

variable {init : σ → Prop} {step : σ → ℓ → σ → Prop}

theorem invariant {P : σ → Prop} (start : ∀ s, init s → P s)
    (keep : ∀ s l t, step s l t → P s → P t) {s : σ} (h : Reachable init step s) : P s := by
  obtain ⟨s₀, _, h₀, run⟩ := h
  exact run.preserves keep (start s₀ h₀)

theorem run {s t : σ} {ls : List ℓ} (h : Reachable init step s) (k : Run step s ls t) :
    Reachable init step t := by
  obtain ⟨s₀, _, h₀, run⟩ := h
  exact ⟨s₀, _, h₀, run.append k⟩

end Reachable

end CircleBackend.Library
