/-!
# Computations that may fail

The tests and the lookups of a function that throws, and what its success says of
each of them.
-/

namespace CircleBackend.Library

variable {ε ε' α β : Type}

variable {x : Except ε α} {found : Option α}

theorem bind_ok {f : α → Except ε β} {b : β} (h : x >>= f = .ok b) :
    ∃ a, x = .ok a ∧ f a = .ok b := by
  cases x with
  | error e => cases h
  | ok a => exact ⟨a, rfl, h⟩

theorem map_ok {f : α → β} {b : β} (h : x.map f = .ok b) : ∃ a, x = .ok a ∧ f a = b := by
  cases x with
  | error e => cases h
  | ok a =>
    cases h
    exact ⟨a, rfl, rfl⟩

theorem mapError_ok {f : ε → ε'} {a : α} (h : x.mapError f = .ok a) : x = .ok a := by
  cases x with
  | error e => cases h
  | ok b =>
    cases h
    rfl

theorem toOption_some {a : α} (h : x.toOption = some a) : x = .ok a := by
  cases x with
  | error e => cases h
  | ok b =>
    cases h
    rfl

theorem mapM_ok {f : α → Except ε β} {xs : List α} {ys : List β} (h : xs.mapM f = .ok ys) :
    ∀ y ∈ ys, ∃ x ∈ xs, f x = .ok y := by
  induction xs generalizing ys with
  | nil =>
    cases h
    exact nofun
  | cons x xs ih =>
    rw [List.mapM_cons] at h
    obtain ⟨first, made, h⟩ := bind_ok h
    obtain ⟨rest, others, h⟩ := bind_ok h
    cases h
    intro y member
    cases member with
    | head => exact ⟨x, List.mem_cons_self, made⟩
    | tail _ member =>
      obtain ⟨x', inside, made'⟩ := ih others y member
      exact ⟨x', List.mem_cons_of_mem x inside, made'⟩

def throwIf (p : Bool) (fault : ε) : Except ε Unit := if p then .error fault else .ok ()

def orThrow (found : Option α) (fault : ε) : Except ε α := found.elim (.error fault) .ok

theorem throwIf_ok {p : Bool} {fault : ε} {u : Unit} (h : throwIf p fault = .ok u) : p = false := by
  cases p with
  | false => rfl
  | true => cases h

theorem orThrow_ok {fault : ε} {a : α} (h : orThrow found fault = .ok a) : found = some a := by
  cases found with
  | none => cases h
  | some b =>
    cases h
    rfl

theorem orThrow_error {fault e : ε} (h : orThrow found fault = .error e) : e = fault := by
  cases found with
  | none =>
    cases h
    rfl
  | some b => cases h

theorem throwIf_of {p : Bool} {fault : ε} (h : p = false) : throwIf p fault = .ok () := by
  rw [h]
  rfl

theorem orThrow_of {fault : ε} {a : α} (h : found = some a) : orThrow found fault = .ok a := by
  rw [h]
  rfl

end CircleBackend.Library
