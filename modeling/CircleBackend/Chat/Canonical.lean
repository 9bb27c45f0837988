import CircleBackend.Library.Decimal
import CircleBackend.Library.Quoted
import Mathlib.Data.List.Lex
import Mathlib.Data.List.Sort

/-!
# The canonical text of a value

`canonicalJson` sorts the keys of every object, leaves out what is undefined and writes
`null` for it in arrays. What a value means does not depend on any of the three.

* `canonicalJson_eq_iff`: two values have one text exactly when they mean the same.
-/

namespace CircleBackend.Chat.Canonical

open Library

/-- A JSON-like value; `fields` are the `Object.entries`. -/
inductive Value
  | undefined
  | null
  | bool (b : Bool)
  | num (n : Number)
  | str (s : JsString)
  | arr (items : List Value)
  | obj (fields : List (JsString × Value))

abbrev Fields := List (JsString × Value)

/-- No object has a key twice. -/
inductive Value.Distinct : Value → Prop
  | undefined : Distinct .undefined
  | null : Distinct .null
  | bool (b : Bool) : Distinct (.bool b)
  | num (n : Number) : Distinct (.num n)
  | str (s : JsString) : Distinct (.str s)
  | arr {items : List Value} : (∀ v ∈ items, Distinct v) → Distinct (.arr items)
  | obj {fields : Fields} : (fields.map Prod.fst).Nodup → (∀ p ∈ fields, Distinct p.2) →
      Distinct (.obj fields)

/-- `item !== undefined` -/
def Value.defined : Value → Bool
  | .undefined => false
  | _ => true

/-- `<` compares the code units. -/
def compareKeys (a b : JsString) : Int :=
  if a.map UInt16.toNat < b.map UInt16.toNat then -1
  else if b.map UInt16.toNat < a.map UInt16.toNat then 1
  else 0

def byKey {α : Type} (p q : JsString × α) : Prop := compareKeys p.1 q.1 ≤ 0

instance {α : Type} : DecidableRel (@byKey α) :=
  fun p q => inferInstanceAs (Decidable (compareKeys p.1 q.1 ≤ 0))

def nullText : JsString := [110, 117, 108, 108]
def trueText : JsString := [116, 114, 117, 101]
def falseText : JsString := [102, 97, 108, 115, 101]

mutual

/-- The sort looks at the keys alone, so it may come after the texts. -/
def canonicalJson : Value → JsString
  | .arr items => 91 :: (join (canonicalItems items) ++ [93])
  | .obj fields =>
    123 :: (join (((canonicalFields fields).insertionSort byKey).map fun p =>
      quote p.1 ++ 58 :: p.2) ++ [125])
  | .undefined => nullText
  | .null => nullText
  | .bool true => trueText
  | .bool false => falseText
  | .num n => n.text
  | .str s => quote s

def canonicalItems : List Value → List JsString
  | [] => []
  | item :: rest => canonicalJson item :: canonicalItems rest

def canonicalFields : List (JsString × Value) → List (JsString × JsString)
  | [] => []
  | (key, item) :: rest =>
    if item.defined then (key, canonicalJson item) :: canonicalFields rest
    else canonicalFields rest

end

/-! ## Meaning -/

/-- A value up to what the text leaves out: an object is a function of its keys. -/
inductive Meaning
  | null
  | bool (b : Bool)
  | num (n : Number)
  | str (s : JsString)
  | arr (items : List Meaning)
  | obj (fields : JsString → Option Meaning)

mutual

def meaning : Value → Meaning
  | .undefined => .null
  | .null => .null
  | .bool b => .bool b
  | .num n => .num n
  | .str s => .str s
  | .arr items => .arr (meanings items)
  | .obj fields => .obj (fieldMeaning fields)

def meanings : List Value → List Meaning
  | [] => []
  | item :: rest => meaning item :: meanings rest

def fieldMeaning : List (JsString × Value) → JsString → Option Meaning
  | [], _ => none
  | (k, item) :: rest, key =>
    if k = key then (if item.defined then some (meaning item) else none)
    else fieldMeaning rest key

end

/-! ## Lists of values -/

/-- Induction where the members of a list and of an object are at hand. -/
@[elab_as_elim]
theorem Value.ind {motive : Value → Prop} (undefined : motive .undefined) (null : motive .null)
    (bool : ∀ b, motive (.bool b)) (num : ∀ n, motive (.num n)) (str : ∀ s, motive (.str s))
    (arr : ∀ items, (∀ v ∈ items, motive v) → motive (.arr items))
    (obj : ∀ fields : Fields, (∀ p ∈ fields, motive p.2) → motive (.obj fields)) (v : Value) :
    motive v :=
  @Value.rec motive (fun items => ∀ v ∈ items, motive v)
    (fun fields => ∀ p ∈ fields, motive p.2) (fun p => motive p.2)
    undefined null bool num str arr obj
    (fun _ member => by cases member)
    (fun _ _ first rest => List.forall_mem_cons.mpr ⟨first, rest⟩)
    (fun _ member => by cases member)
    (fun _ _ first rest => List.forall_mem_cons.mpr ⟨first, rest⟩)
    (fun _ _ item => item) v

theorem canonicalItems_eq (items : List Value) : canonicalItems items = items.map canonicalJson := by
  induction items with
  | nil => rfl
  | cons item rest ih => rw [canonicalItems, ih, List.map_cons]

theorem meanings_eq (items : List Value) : meanings items = items.map meaning := by
  induction items with
  | nil => rfl
  | cons item rest ih => rw [meanings, ih, List.map_cons]

/-- `Object.entries(value).filter(…).sort(…)` -/
def entries (fields : Fields) : Fields := (fields.filter fun p => p.2.defined).insertionSort byKey

theorem canonicalFields_eq (fields : Fields) :
    canonicalFields fields =
      (fields.filter fun p => p.2.defined).map fun p => (p.1, canonicalJson p.2) := by
  induction fields with
  | nil => rfl
  | cons p rest ih =>
    obtain ⟨key, item⟩ := p
    rw [canonicalFields, ih]
    by_cases held : item.defined = true
    · rw [if_pos held, List.filter_cons_of_pos (by exact held), List.map_cons]
    · rw [if_neg held, List.filter_cons_of_neg (by exact held)]

/-- The text of an object goes through its sorted entries. -/
theorem canonicalJson_obj (fields : Fields) :
    canonicalJson (.obj fields) =
      123 :: (join ((entries fields).map fun p => quote p.1 ++ 58 :: canonicalJson p.2) ++ [125]) := by
  have sorted := List.map_insertionSort byKey byKey
    (fun p : JsString × Value => (p.1, canonicalJson p.2)) (fields.filter fun p => p.2.defined)
    fun _ _ _ _ => Iff.rfl
  rw [canonicalJson, canonicalFields_eq, ← sorted, List.map_map]
  rfl

/-! ## Keys -/

theorem compareKeys_le {a b : JsString} :
    compareKeys a b ≤ 0 ↔ a.map UInt16.toNat ≤ b.map UInt16.toNat := by
  unfold compareKeys
  split
  case isTrue below => simp [le_of_lt below]
  case isFalse notBelow =>
    split
    case isTrue above => simp [not_le.mpr above]
    case isFalse notAbove => simp [not_lt.mp notAbove]

theorem units_inj {a b : JsString} (same : a.map UInt16.toNat = b.map UInt16.toNat) : a = b :=
  List.map_injective_iff.mpr (fun _ _ => UInt16.toNat_inj.mp) same

instance {α : Type} : Std.Total (@byKey α) where
  total p q := by
    unfold byKey
    rw [compareKeys_le, compareKeys_le]
    exact le_total _ _

instance {α : Type} : IsTrans (JsString × α) byKey where
  trans p q r first second := by
    unfold byKey at *
    rw [compareKeys_le] at *
    exact le_trans first second

theorem byKey_antisymm {α : Type} {p q : JsString × α} (before : byKey p q) (after : byKey q p) :
    p.1 = q.1 := by
  unfold byKey at before after
  rw [compareKeys_le] at before after
  exact units_inj (le_antisymm before after)

theorem entries_sorted (fields : Fields) : (entries fields).Pairwise byKey :=
  List.pairwise_insertionSort byKey _

variable {fields : Fields} {a b v : Value}

theorem mem_entries {p : JsString × Value} :
    p ∈ entries fields ↔ p ∈ fields ∧ p.2.defined = true := by
  rw [entries, List.mem_insertionSort, List.mem_filter]

theorem entries_nodup (distinct : (fields.map Prod.fst).Nodup) :
    ((entries fields).map Prod.fst).Nodup := by
  have sorted := (List.perm_insertionSort byKey (fields.filter fun p => p.2.defined)).map Prod.fst
  apply sorted.nodup_iff.mpr
  exact distinct.sublist ((List.filter_sublist).map Prod.fst)

/-! ## What an object means -/

/-- The entries of an object with what they mean. -/
def shape (fields : Fields) : List (JsString × Meaning) :=
  (entries fields).map fun p => (p.1, meaning p.2)

theorem fieldMeaning_iff (distinct : (fields.map Prod.fst).Nodup) {key : JsString} {m : Meaning} :
    fieldMeaning fields key = some m ↔
      ∃ v, (key, v) ∈ fields ∧ v.defined = true ∧ meaning v = m := by
  induction fields with
  | nil => simp [fieldMeaning]
  | cons p rest ih =>
    obtain ⟨k, item⟩ := p
    obtain ⟨own, others⟩ := List.nodup_cons.mp distinct
    rw [fieldMeaning]
    by_cases same : k = key
    · rw [if_pos same]
      have notRest : ∀ v, (key, v) ∉ rest :=
        fun v member => own (List.mem_map.mpr ⟨(key, v), member, same.symm⟩)
      by_cases held : item.defined = true
      · rw [if_pos held]
        constructor
        · intro found
          exact ⟨item, by rw [same]; exact List.mem_cons_self, held, Option.some.inj found⟩
        · rintro ⟨v, member, -, rfl⟩
          rcases List.mem_cons.mp member with first | member
          · rw [(Prod.mk.inj first).2]
          · exact absurd member (notRest v)
      · rw [if_neg held]
        constructor
        · intro found
          cases found
        · rintro ⟨v, member, held', -⟩
          rcases List.mem_cons.mp member with first | member
          · exact absurd ((Prod.mk.inj first).2 ▸ held') held
          · exact absurd member (notRest v)
    · rw [if_neg same, ih others]
      constructor
      · rintro ⟨v, member, rest⟩
        exact ⟨v, List.mem_cons_of_mem _ member, rest⟩
      · rintro ⟨v, member, more⟩
        rcases List.mem_cons.mp member with first | member
        · exact absurd (Prod.mk.inj first).1.symm same
        · exact ⟨v, member, more⟩

theorem mem_shape (distinct : (fields.map Prod.fst).Nodup) {key : JsString}
    {m : Meaning} : (key, m) ∈ shape fields ↔ fieldMeaning fields key = some m := by
  rw [fieldMeaning_iff distinct, shape, List.mem_map]
  constructor
  · rintro ⟨⟨k, v⟩, member, equal⟩
    obtain ⟨rfl, rfl⟩ := Prod.mk.inj equal
    obtain ⟨inside, held⟩ := mem_entries.mp member
    exact ⟨v, inside, held, rfl⟩
  · rintro ⟨v, inside, held, rfl⟩
    exact ⟨(key, v), mem_entries.mpr ⟨inside, held⟩, rfl⟩

theorem shape_keys (fields : Fields) :
    (shape fields).map Prod.fst = (entries fields).map Prod.fst := by
  rw [shape, List.map_map]
  rfl

/-- The sorted entries are fixed by the function. -/
theorem shape_eq {fields' : Fields} (distinct : (fields.map Prod.fst).Nodup)
    (distinct' : (fields'.map Prod.fst).Nodup) :
    shape fields = shape fields' ↔ fieldMeaning fields = fieldMeaning fields' := by
  constructor
  · intro same
    funext key
    apply Option.ext
    intro m
    rw [← mem_shape distinct, ← mem_shape distinct', same]
  · intro same
    have nodup : ∀ {f : Fields}, (f.map Prod.fst).Nodup → (shape f).Nodup := by
      intro f keys
      apply List.Nodup.of_map Prod.fst
      rw [shape_keys]
      exact entries_nodup keys
    have members : ∀ p, p ∈ shape fields ↔ p ∈ shape fields' := by
      rintro ⟨key, m⟩
      rw [mem_shape distinct, mem_shape distinct', same]
    have sorted : ∀ f : Fields, (shape f).Pairwise byKey :=
      fun f => List.pairwise_map.mpr (entries_sorted f)
    have perm := (List.perm_ext_iff_of_nodup (nodup distinct) (nodup distinct')).mpr members
    apply perm.eq_of_pairwise _ (sorted fields) (sorted fields')
    rintro ⟨k, m⟩ ⟨k', m'⟩ member member' before after
    obtain rfl : k = k' := byKey_antisymm before after
    have own := (mem_shape distinct).mp member
    rw [same, (mem_shape distinct').mp member'] at own
    rw [Option.some.inj own]

/-! ## The first character -/

/-- What kind of value a text is of. -/
inductive Kind
  | null
  | bool (b : Bool)
  | num
  | str
  | arr
  | obj
  deriving DecidableEq

def Value.kind : Value → Kind
  | .undefined | .null => .null
  | .bool b => .bool b
  | .num _ => .num
  | .str _ => .str
  | .arr _ => .arr
  | .obj _ => .obj

instance (c : UInt16) : Decidable (IsDigit c) :=
  inferInstanceAs (Decidable (48 ≤ c.toNat ∧ c.toNat ≤ 57))

def opener (c : UInt16) : Option Kind :=
  if IsDigit c ∨ c = 45 then some .num
  else if c = 110 then some .null
  else if c = 116 then some (.bool true)
  else if c = 102 then some (.bool false)
  else if c = 34 then some .str
  else if c = 91 then some .arr
  else if c = 123 then some .obj
  else none

theorem canonicalJson_opens (v : Value) :
    ∃ c t, canonicalJson v = c :: t ∧ opener c = some v.kind := by
  cases v with
  | undefined => exact ⟨110, _, rfl, by decide⟩
  | null => exact ⟨110, _, rfl, by decide⟩
  | bool b =>
    cases b with
    | true => exact ⟨116, _, rfl, by decide⟩
    | false => exact ⟨102, _, rfl, by decide⟩
  | num n =>
    obtain ⟨c, t, text, start⟩ := n.text_head
    exact ⟨c, t, text, if_pos start⟩
  | str s => exact ⟨34, _, rfl, rfl⟩
  | arr items => exact ⟨91, _, rfl, rfl⟩
  | obj fields => exact ⟨123, _, rfl, rfl⟩

theorem kinds_eq {r r' : JsString}
    (same : canonicalJson a ++ r = canonicalJson b ++ r') : a.kind = b.kind := by
  obtain ⟨c, t, text, kind⟩ := canonicalJson_opens a
  obtain ⟨c', t', text', kind'⟩ := canonicalJson_opens b
  rw [text, text'] at same
  have first : c = c' := (List.cons.inj same).1
  rw [first, kind'] at kind
  exact (Option.some.inj kind).symm

theorem not_close {close : UInt16} (closes : opener close = none) :
    ∃ c t, canonicalJson v = c :: t ∧ c ≠ close := by
  obtain ⟨c, t, text, kind⟩ := canonicalJson_opens v
  refine ⟨c, t, text, ?_⟩
  rintro rfl
  rw [closes] at kind
  cases kind

theorem stops_numeric {s : JsString} (stops : Stops s) : ∀ c ∈ s.head?, ¬IsNumeric c := by
  intro c found
  rcases stops c found with rfl | rfl | rfl
  all_goals
    unfold IsNumeric IsDigit
    decide

/-! ## Both directions -/

theorem Value.kind_arr (kind : Kind.arr = v.kind) : ∃ items, v = .arr items := by
  cases v with
  | arr items => exact ⟨items, rfl⟩
  | _ => cases kind

theorem Value.kind_obj (kind : Kind.obj = v.kind) : ∃ fields, v = .obj fields := by
  cases v with
  | obj fields => exact ⟨fields, rfl⟩
  | _ => cases kind

theorem Value.kind_null (kind : Kind.null = v.kind) :
    meaning v = .null ∧ canonicalJson v = nullText := by
  cases v with
  | undefined => exact ⟨rfl, rfl⟩
  | null => exact ⟨rfl, rfl⟩
  | _ => cases kind

theorem Value.kind_bool {b : Bool} (kind : Kind.bool b = v.kind) : v = .bool b := by
  cases v with
  | bool b' => rw [(Kind.bool.inj kind)]
  | _ => cases kind

theorem Value.kind_num (kind : Kind.num = v.kind) : ∃ n, v = .num n := by
  cases v with
  | num n => exact ⟨n, rfl⟩
  | _ => cases kind

theorem Value.kind_str (kind : Kind.str = v.kind) : ∃ s, v = .str s := by
  cases v with
  | str s => exact ⟨s, rfl⟩
  | _ => cases kind

/-- A text tells what it means and where it ends, whatever follows. -/
theorem canonicalJson_told (a : Value) : a.Distinct → ∀ b : Value, b.Distinct →
    ∀ r r', Stops r → Stops r' → canonicalJson a ++ r = canonicalJson b ++ r' →
      meaning a = meaning b ∧ r = r' := by
  have plain : ∀ a b : Value, Kind.null = a.kind → Kind.null = b.kind → ∀ r r' : JsString,
      canonicalJson a ++ r = canonicalJson b ++ r' → meaning a = meaning b ∧ r = r' := by
    intro a b kind kind' r r' same
    rw [(Value.kind_null kind).2, (Value.kind_null kind').2] at same
    exact ⟨by rw [(Value.kind_null kind).1, (Value.kind_null kind').1],
      List.append_cancel_left same⟩
  induction a using Value.ind with
  | undefined =>
    intro _ b _ r r' _ _ same
    exact plain _ b rfl (kinds_eq same) r r' same
  | null =>
    intro _ b _ r r' _ _ same
    exact plain _ b rfl (kinds_eq same) r r' same
  | bool x =>
    intro _ b _ r r' _ _ same
    obtain rfl := Value.kind_bool (kinds_eq same)
    exact ⟨rfl, List.append_cancel_left same⟩
  | num n =>
    intro _ b _ r r' stops stops' same
    obtain ⟨n', rfl⟩ := Value.kind_num (kinds_eq same)
    obtain ⟨texts, rest⟩ := span_unique n.text_numeric n'.text_numeric (stops_numeric stops)
      (stops_numeric stops') same
    exact ⟨by rw [Number.text_inj texts], rest⟩
  | str s =>
    intro _ b _ r r' _ _ same
    obtain ⟨s', rfl⟩ := Value.kind_str (kinds_eq same)
    obtain ⟨strings, rest⟩ := quote_unique same
    exact ⟨by rw [strings], rest⟩
  | arr items ih =>
    intro distinct b distinct' r r' _ _ same
    obtain ⟨items', rfl⟩ := Value.kind_arr (kinds_eq same)
    cases distinct with
    | arr own =>
      cases distinct' with
      | arr own' =>
        have told : Told canonicalJson meaning items items' :=
          fun v member v' member' => ih v member (own v member) v' (own' v' member')
        rw [canonicalJson, canonicalJson, canonicalItems_eq, canonicalItems_eq, List.cons_append,
          List.cons_append, List.append_assoc, List.append_assoc] at same
        obtain ⟨means, rest⟩ := join_unique (.inl rfl) told (fun _ => not_close (by decide))
          (List.cons.inj same).2
        rw [← meanings_eq, ← meanings_eq] at means
        exact ⟨by rw [meaning, meaning, means], rest⟩
  | obj fields ih =>
    intro distinct b distinct' r r' _ _ same
    obtain ⟨fields', rfl⟩ := Value.kind_obj (kinds_eq same)
    cases distinct with
    | obj keys own =>
      cases distinct' with
      | obj keys' own' =>
        have told : Told (fun p : JsString × Value => quote p.1 ++ 58 :: canonicalJson p.2)
            (fun p => (p.1, meaning p.2)) (entries fields) (entries fields') := by
          intro p member p' member' s s' stops stops' equal
          rw [List.append_assoc, List.append_assoc] at equal
          obtain ⟨key, rest⟩ := quote_unique equal
          obtain ⟨inside, -⟩ := mem_entries.mp member
          obtain ⟨inside', -⟩ := mem_entries.mp member'
          obtain ⟨value, ends⟩ := ih p inside (own p inside) p'.2 (own' p' inside') s s' stops
            stops' (List.cons.inj rest).2
          exact ⟨Prod.ext key value, ends⟩
        rw [canonicalJson_obj, canonicalJson_obj, List.cons_append, List.cons_append,
          List.append_assoc, List.append_assoc] at same
        obtain ⟨shapes, rest⟩ := join_unique (.inr rfl) told
          (fun p => ⟨34, _, rfl, by decide⟩) (List.cons.inj same).2
        have functions := (shape_eq keys keys').mp shapes
        exact ⟨by rw [meaning, meaning, functions], rest⟩

theorem map_eq_of_map_eq {α β γ : Type} {f : α → β} {g : α → γ} {xs ys : List α}
    (own : ∀ x ∈ xs, ∀ y ∈ ys, f x = f y → g x = g y) (same : xs.map f = ys.map f) :
    xs.map g = ys.map g := by
  induction xs generalizing ys with
  | nil =>
    cases ys with
    | nil => rfl
    | cons y ys => cases same
  | cons x xs ih =>
    cases ys with
    | nil => cases same
    | cons y ys =>
      obtain ⟨first, rest⟩ := List.cons.inj same
      rw [List.map_cons, List.map_cons, own x List.mem_cons_self y List.mem_cons_self first,
        ih (fun x' member y' member' => own x' (List.mem_cons_of_mem _ member) y'
          (List.mem_cons_of_mem _ member')) rest]

theorem meaning_kind (same : meaning a = meaning b) : a.kind = b.kind := by
  cases a <;> cases b <;> simp_all [meaning, Value.kind]

/-- What a value means fixes its text. -/
theorem canonicalJson_of_meaning (a : Value) : a.Distinct → ∀ b : Value, b.Distinct →
    meaning a = meaning b → canonicalJson a = canonicalJson b := by
  induction a using Value.ind with
  | undefined =>
    intro _ b _ same
    exact (Value.kind_null (meaning_kind same)).2.symm
  | null =>
    intro _ b _ same
    exact (Value.kind_null (meaning_kind same)).2.symm
  | bool x =>
    intro _ b _ same
    rw [Value.kind_bool (meaning_kind same)]
  | num n =>
    intro _ b _ same
    obtain ⟨n', rfl⟩ := Value.kind_num (meaning_kind same)
    rw [Meaning.num.inj same]
  | str s =>
    intro _ b _ same
    obtain ⟨s', rfl⟩ := Value.kind_str (meaning_kind same)
    rw [Meaning.str.inj same]
  | arr items ih =>
    intro distinct b distinct' same
    obtain ⟨items', rfl⟩ := Value.kind_arr (meaning_kind same)
    cases distinct with
    | arr own =>
      cases distinct' with
      | arr own' =>
        have means := Meaning.arr.inj same
        rw [meanings_eq, meanings_eq] at means
        rw [canonicalJson, canonicalJson, canonicalItems_eq, canonicalItems_eq,
          map_eq_of_map_eq (fun v member v' member' =>
            ih v member (own v member) v' (own' v' member')) means]
  | obj fields ih =>
    intro distinct b distinct' same
    obtain ⟨fields', rfl⟩ := Value.kind_obj (meaning_kind same)
    cases distinct with
    | obj keys own =>
      cases distinct' with
      | obj keys' own' =>
        have shapes := (shape_eq keys keys').mpr (Meaning.obj.inj same)
        rw [canonicalJson_obj, canonicalJson_obj,
          map_eq_of_map_eq (fun p member p' member' equal => by
            obtain ⟨key, value⟩ := Prod.mk.inj equal
            obtain ⟨inside, -⟩ := mem_entries.mp member
            obtain ⟨inside', -⟩ := mem_entries.mp member'
            rw [key, ih p inside (own p inside) p'.2 (own' p' inside') value]) shapes]

theorem canonicalJson_eq_iff (distinct : a.Distinct) (distinct' : b.Distinct) :
    canonicalJson a = canonicalJson b ↔ meaning a = meaning b := by
  constructor
  · intro same
    have ended : Stops [] := by
      intro c found
      cases found
    exact (canonicalJson_told a distinct b distinct' [] [] ended ended (by rw [same])).1
  · exact canonicalJson_of_meaning a distinct b distinct'

end CircleBackend.Chat.Canonical
