import Mathlib.Algebra.Order.Ring.Int
import Mathlib.Data.Fintype.EquivFin
import Mathlib.Data.List.Sort
import Mathlib.Data.Prod.Lex
import Mathlib.Data.Rat.Defs
import Mathlib.Order.Fin.Basic

/-!
# JavaScript values

Strings are sequences of UTF-16 code units, so that `length` and `slice` are
list operations. A time is a `Date` as milliseconds since the epoch.
-/

namespace CircleBackend

abbrev Time := Nat

abbrev JsString := List UInt16

instance jsString_lawful : LawfulBEq JsString := List.instLawfulBEq

/-- `truncate`, with `undefined` and `null` both `none`. -/
def truncate (value : Option JsString) (max : Nat) : Option JsString :=
  value.map fun s => if s.length > max then s.take max else s

/-- The white space and the line terminators that `trim` takes off. -/
def isSpace (c : UInt16) : Bool :=
  (9 ≤ c && c ≤ 13) || c = 32 || c = 160 || c = 5760 || (8192 ≤ c && c ≤ 8202) || c = 8232 ||
    c = 8233 || c = 8239 || c = 8287 || c = 12288 || c = 65279

def trim (s : JsString) : JsString := ((s.dropWhile isSpace).reverse.dropWhile isSpace).reverse

/-- `a ?? b` -/
def nullish {α : Type} (a b : Option α) : Option α := a.orElse fun _ => b

@[simp] theorem nullish_some {α : Type} (a : α) (b : Option α) : nullish (some a) b = some a := rfl

@[simp] theorem nullish_none {α : Type} (b : Option α) : nullish none b = b := rfl

end CircleBackend
