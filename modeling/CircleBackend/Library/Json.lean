import Mathlib.Data.Rat.Defs

/-!
# JSON values

An object is a list of fields, read by the first of a key; `setField` is the spread
`{ ...fields, key: value }`. `mapValues` acts on every value by its key and
commutes with both.
-/

namespace CircleBackend.Library

inductive Json
  | null
  | bool (b : Bool)
  | num (q : ℚ)
  | str (s : String)
  | arr (items : List Json)
  | obj (fields : List (String × Json))
  deriving Repr

namespace Json

abbrev Fields := List (String × Json)

def isRecord : Json → Bool
  | .obj _ => true
  | _ => false

def items? : Json → Option (List Json)
  | .arr items => some items
  | _ => none

def fields? : Json → Option Fields
  | .obj fields => some fields
  | _ => none

def string? : Json → Option String
  | .str s => some s
  | _ => none

def number? : Json → Option ℚ
  | .num q => some q
  | _ => none

/-- `Boolean(value)` -/
def truthy : Json → Bool
  | .null => false
  | .bool b => b
  | .num q => q ≠ 0
  | .str s => s ≠ ""
  | .arr _ | .obj _ => true

/-- `isRecord(value) ? value : {}` -/
def record (value : Option Json) : Fields := (value.bind fields?).getD []

def setField (key : String) (value : Json) : Fields → Fields
  | [] => [(key, value)]
  | (k, v) :: rest => if k = key then (key, value) :: rest else (k, v) :: setField key value rest

def mapValues (f : String → Json → Json) (fields : Fields) : Fields :=
  fields.map fun p => (p.1, f p.1 p.2)

variable {key other : String} {value : Json} {fields : Fields} {f : String → Json → Json}

theorem lookup_cons (k : String) (v : Json) (rest : Fields) :
    List.lookup key ((k, v) :: rest) = if k = key then some v else rest.lookup key := by
  by_cases same : k = key
  · simp [same]
  · have apart : (key == k) = false := beq_eq_false_iff_ne.mpr (Ne.symm same)
    simp [List.lookup_cons, apart, same]

@[simp] theorem lookup_setField_self : (setField key value fields).lookup key = some value := by
  induction fields with
  | nil => simp [setField]
  | cons p rest ih =>
    obtain ⟨k, v⟩ := p
    by_cases same : k = key
    · simp [setField, same]
    · simp [setField, same, lookup_cons, ih]

theorem lookup_setField_of_ne (apart : other ≠ key) :
    (setField key value fields).lookup other = fields.lookup other := by
  induction fields with
  | nil => simp [setField, lookup_cons, apart.symm]
  | cons p rest ih =>
    obtain ⟨k, v⟩ := p
    by_cases same : k = key
    · subst same
      simp [setField, lookup_cons, apart.symm]
    · simp [setField, same, lookup_cons, ih]

@[simp] theorem lookup_mapValues :
    (mapValues f fields).lookup key = (fields.lookup key).map (f key) := by
  induction fields with
  | nil => rfl
  | cons p rest ih =>
    obtain ⟨k, v⟩ := p
    rw [mapValues, List.map_cons, lookup_cons, lookup_cons]
    by_cases same : k = key
    · rw [if_pos same, if_pos same, same]
      rfl
    · rw [if_neg same, if_neg same]
      exact ih

theorem mapValues_setField :
    mapValues f (setField key value fields) = setField key (f key value) (mapValues f fields) := by
  induction fields with
  | nil => rfl
  | cons p rest ih =>
    obtain ⟨k, v⟩ := p
    by_cases same : k = key
    · simp [setField, mapValues, same]
    · simp only [setField, if_neg same, mapValues, List.map_cons] at ih ⊢
      rw [ih]

/-- A field of what is read as a record lies in an object. -/
theorem lookup_record {read : Option Json} (held : (record read).lookup key = some value) :
    ∃ fields, read = some (.obj fields) ∧ fields.lookup key = some value := by
  cases read with
  | none => cases held
  | some json =>
    cases json with
    | obj fields => exact ⟨fields, rfl, held⟩
    | _ => cases held

theorem items?_some {items : List Json} (array : value.items? = some items) :
    value = .arr items := by
  cases value with
  | arr held =>
    cases array
    rfl
  | _ => cases array

theorem setField_lookup (held : fields.lookup key = some value) :
    setField key value fields = fields := by
  induction fields with
  | nil => cases held
  | cons p rest ih =>
    obtain ⟨k, v⟩ := p
    rw [lookup_cons] at held
    by_cases same : k = key
    · rw [if_pos same] at held
      cases held
      rw [setField, if_pos same, same]
    · rw [if_neg same] at held
      rw [setField, if_neg same, ih held]

variable {p : String → Bool}

/-- The fields whose key `p` keeps. -/
def keepKeys (p : String → Bool) (fields : Fields) : Fields := fields.filter fun q => p q.1

theorem lookup_keepKeys (kept : p key = true) :
    (keepKeys p fields).lookup key = fields.lookup key := by
  induction fields with
  | nil => rfl
  | cons q rest ih =>
    obtain ⟨k, v⟩ := q
    rw [lookup_cons, keepKeys, List.filter_cons]
    by_cases same : k = key
    · rw [if_pos same, if_pos (same ▸ kept), lookup_cons, if_pos same]
    · rw [if_neg same]
      split
      · rw [lookup_cons, if_neg same]
        exact ih
      · exact ih

theorem keepKeys_setField (kept : p key = true) :
    keepKeys p (setField key value fields) = setField key value (keepKeys p fields) := by
  induction fields with
  | nil => simp [setField, keepKeys, kept]
  | cons q rest ih =>
    obtain ⟨k, v⟩ := q
    simp only [keepKeys] at ih ⊢
    by_cases same : k = key
    · subst same
      simp [setField, kept]
    · by_cases keeps : p k = true
      · simp [setField, same, keeps, ih]
      · simp [setField, same, keeps, ih]

end Json

end CircleBackend.Library
