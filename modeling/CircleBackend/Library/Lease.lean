/-!
# A key with an owner

A key that is set only where it is not, with a time to live, and extended or
removed only by the token it holds. What the owner may rely on is `Covers`: the key
holds the owner's token up to a deadline. It survives every command of another
token, and two owners cannot both rely on it at one time.
-/

namespace CircleBackend.Library

/-- A token and the time the key expires at. -/
abbrev Lease (τ : Type) := Option (τ × Nat)

namespace Lease

variable {τ : Type}

/-- The key as a command sees it. -/
def live (l : Lease τ) (now : Nat) : Lease τ := l.filter fun p => now < p.2

def holder (l : Lease τ) (now : Nat) : Option τ := (l.live now).map Prod.fst

/-- `SET NX PX`; `none` is a refusal. -/
def acquire (l : Lease τ) (now : Nat) (t : τ) (ttl : Nat) : Option (Lease τ) :=
  match l.live now with
  | some _ => none
  | none => some (some (t, now + ttl))

variable [DecidableEq τ]

/-- Compare and `PEXPIRE`. -/
def renew (l : Lease τ) (now : Nat) (t : τ) (ttl : Nat) : Lease τ × Bool :=
  if l.holder now = some t then (some (t, now + ttl), true) else (l.live now, false)

/-- Compare and `DEL`. -/
def release (l : Lease τ) (now : Nat) (t : τ) : Lease τ :=
  if l.holder now = some t then none else l.live now

variable {l : Lease τ} {now : Nat}

omit [DecidableEq τ] in
theorem live_some {p : τ × Nat} : l.live now = some p ↔ l = some p ∧ now < p.2 := by
  simp [live, Option.filter_eq_some_iff]

omit [DecidableEq τ] in

omit [DecidableEq τ] in
theorem holder_some {t : τ} : l.holder now = some t ↔ ∃ e, l = some (t, e) ∧ now < e := by
  unfold holder
  rw [Option.map_eq_some_iff]
  constructor
  · rintro ⟨⟨t', e⟩, alive, rfl⟩
    obtain ⟨same, later⟩ := live_some.mp alive
    exact ⟨e, same, later⟩
  · rintro ⟨e, same, later⟩
    exact ⟨(t, e), live_some.mpr ⟨same, later⟩, rfl⟩

/-- What a command of another token leaves of a live key. -/
theorem renew_other {ttl : Nat} {t : τ} {p : τ × Nat} (h : l.live now = some p)
    (other : p.1 ≠ t) : (l.renew now t ttl).1 = some p ∧ (l.renew now t ttl).2 = false := by
  have apart : l.holder now ≠ some t := by simp [holder, h, other]
  simp [renew, apart, h]

theorem release_other {t : τ} {p : τ × Nat} (h : l.live now = some p)
    (other : p.1 ≠ t) : l.release now t = some p := by
  have apart : l.holder now ≠ some t := by simp [holder, h, other]
  simp [release, apart, h]

omit [DecidableEq τ] in
theorem acquire_held {ttl : Nat} {t : τ} {p : τ × Nat} (h : l.live now = some p) :
    l.acquire now t ttl = none := by
  simp [acquire, h]

/-- Where `now` is before the deadline, the key holds the token until then. -/
def Covers (l : Lease τ) (now : Nat) (t : τ) (deadline : Nat) : Prop :=
  now < deadline → ∃ e, l = some (t, e) ∧ deadline ≤ e

section Covers

variable {l l' : Lease τ} {now ttl deadline : Nat} {t u : τ}

omit [DecidableEq τ] in
theorem Covers.live (h : l.Covers now t deadline) (early : now < deadline) :
    ∃ e, l.live now = some (t, e) ∧ deadline ≤ e := by
  obtain ⟨e, same, le⟩ := h early
  exact ⟨e, live_some.mpr ⟨same, Nat.lt_of_lt_of_le early le⟩, le⟩

omit [DecidableEq τ] in
theorem Covers.wait (h : l.Covers now t deadline) {time : Nat} (le : now ≤ time) :
    l.Covers time t deadline :=
  fun early => h (Nat.lt_of_le_of_lt le early)

omit [DecidableEq τ] in
theorem covers_acquired (h : l.acquire now t ttl = some l') {sent : Nat} (le : sent ≤ now) :
    l'.Covers now t (sent + ttl) := by
  unfold acquire at h
  split at h
  · cases h
  · cases h
    exact fun _ => ⟨_, rfl, Nat.add_le_add_right le ttl⟩

theorem covers_renewed (h : (l.renew now t ttl).2 = true) {sent : Nat} (le : sent ≤ now) :
    (l.renew now t ttl).1.Covers now t (sent + ttl) := by
  unfold renew at h ⊢
  split at h
  · rename_i own
    rw [if_pos own]
    exact fun _ => ⟨_, rfl, Nat.add_le_add_right le ttl⟩
  · cases h

omit [DecidableEq τ] in
theorem Covers.acquire (h : l.Covers now t deadline) (taken : l.acquire now u ttl = some l') :
    l'.Covers now t deadline := by
  intro early
  obtain ⟨e, alive, -⟩ := h.live early
  rw [acquire_held alive] at taken
  cases taken

/-- A renewal, whoever's it is, cuts no deadline short that it could have set. -/
theorem Covers.renew (h : l.Covers now t deadline) (own : u = t → deadline ≤ now + ttl) :
    (l.renew now u ttl).1.Covers now t deadline := by
  intro early
  obtain ⟨e, alive, le⟩ := h.live early
  by_cases same : t = u
  · subst same
    have held : l.holder now = some t := by simp [holder, alive]
    rw [Lease.renew, if_pos held]
    exact ⟨_, rfl, own rfl⟩
  · exact ⟨e, (renew_other alive same).1, le⟩

theorem Covers.release (h : l.Covers now t deadline) (other : t ≠ u) :
    (l.release now u).Covers now t deadline := by
  intro early
  obtain ⟨e, alive, le⟩ := h.live early
  exact ⟨e, release_other alive other, le⟩

omit [DecidableEq τ] in
/-- Two owners cannot both rely on the key. -/
theorem Covers.unique {before : Nat} (h : l.Covers now t deadline) (k : l.Covers now u before)
    (early : now < deadline) (early' : now < before) : t = u := by
  obtain ⟨e, same, -⟩ := h early
  obtain ⟨e', same', -⟩ := k early'
  rw [same] at same'
  cases same'
  rfl

end Covers

end Lease

end CircleBackend.Library
