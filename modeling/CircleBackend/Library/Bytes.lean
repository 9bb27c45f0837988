import Mathlib.Algebra.Order.Ring.Nat

/-!
# Little-endian fields of a buffer

Numbers are written at fixed places of a buffer and read back; a write outside its range or
the buffer throws.

* `written_read`: fields that do not overlap are all read back;
* `read_inside`: where the buffer stands in a longer one does not matter.
-/

namespace CircleBackend.Library

abbrev Buffer := List (BitVec 8)

namespace Buffer

/-- `Buffer.alloc` -/
def alloc (size : Nat) : Buffer := List.replicate size 0#8

def littleEndian : Nat → Nat → Buffer
  | 0, _ => []
  | width + 1, value => BitVec.ofNat 8 value :: littleEndian width (value / 256)

def ofLittleEndian : Buffer → Nat
  | [] => 0
  | byte :: rest => byte.toNat + 256 * ofLittleEndian rest

def slice (buffer : Buffer) (start length : Nat) : Buffer := (buffer.drop start).take length

/-- One call of `writeUInt16LE` or `writeUInt32LE`. -/
structure Write where
  width : Nat
  value : Int
  offset : Nat

def writeUInt16LE (value : Int) (offset : Nat) : Write := ⟨2, value, offset⟩
def writeUInt32LE (value : Int) (offset : Nat) : Write := ⟨4, value, offset⟩

def Write.InRange (w : Write) : Prop := 0 ≤ w.value ∧ w.value < 256 ^ w.width

instance (w : Write) : Decidable w.InRange := inferInstanceAs (Decidable (_ ∧ _))

def write (buffer : Buffer) (w : Write) : Option Buffer :=
  if w.InRange ∧ w.offset + w.width ≤ buffer.length then
    some (buffer.take w.offset ++ littleEndian w.width w.value.toNat ++
      buffer.drop (w.offset + w.width))
  else none

def writes (buffer : Buffer) (ws : List Write) : Option Buffer := ws.foldlM write buffer

/-- `readUInt16LE` and `readUInt32LE`, which throw past the end. -/
def read (buffer : Buffer) (width offset : Nat) : Option Nat :=
  if offset + width ≤ buffer.length then some (ofLittleEndian (slice buffer offset width)) else none

@[simp] theorem length_littleEndian (width value : Nat) :
    (littleEndian width value).length = width := by
  induction width generalizing value with
  | zero => rfl
  | succ width ih => rw [littleEndian, List.length_cons, ih]

theorem ofLittleEndian_littleEndian {width value : Nat} (small : value < 256 ^ width) :
    ofLittleEndian (littleEndian width value) = value := by
  induction width generalizing value with
  | zero =>
    have zero : value = 0 := by simpa using small
    rw [zero]
    rfl
  | succ width ih =>
    have rest : value / 256 < 256 ^ width := by
      apply Nat.div_lt_of_lt_mul
      rw [← Nat.pow_succ']
      exact small
    rw [littleEndian, ofLittleEndian, ih rest, BitVec.toNat_ofNat]
    exact Nat.mod_add_div value 256

theorem slice_congr {a b : Buffer} {start length : Nat}
    (same : ∀ i, start ≤ i → i < start + length → a[i]? = b[i]?) :
    slice a start length = slice b start length := by
  apply List.ext_getElem?
  intro i
  unfold slice
  rw [List.getElem?_take, List.getElem?_take, List.getElem?_drop, List.getElem?_drop]
  split
  case isTrue inside => exact same _ (Nat.le_add_right _ _) (by omega)
  case isFalse => rfl

theorem slice_inside {before b after : Buffer} {start length : Nat}
    (fits : start + length ≤ b.length) :
    slice (before ++ b ++ after) (before.length + start) length = slice b start length := by
  unfold slice
  rw [List.append_assoc, List.drop_length_add_append, List.drop_append_of_le_length (by omega),
    List.take_append_of_le_length]
  rw [List.length_drop]
  omega

/-- A part of a buffer is the slice of its place. -/
theorem slice_part {whole before b after : Buffer} {start : Nat}
    (parts : whole = before ++ b ++ after) (place : start = before.length) :
    slice whole start b.length = b := by
  have inside := @slice_inside before b after 0 b.length (by omega)
  rw [parts, place]
  rw [Nat.add_zero] at inside
  rw [inside]
  unfold slice
  rw [List.drop_zero, List.take_length]

theorem read_inside {before b after : Buffer} {width offset : Nat}
    (fits : offset + width ≤ b.length) :
    read (before ++ b ++ after) width (before.length + offset) = read b width offset := by
  unfold read
  rw [if_pos fits, if_pos (by simp only [List.length_append]; omega), slice_inside fits]

section Writes

variable {buffer buffer' : Buffer} {w v : Write} {ws : List Write}

/-- No byte belongs to both. -/
def Write.Apart (v w : Write) : Prop :=
  v.offset + v.width ≤ w.offset ∨ w.offset + w.width ≤ v.offset

theorem write_length (done : write buffer w = some buffer') : buffer'.length = buffer.length := by
  unfold write at done
  split at done
  case isTrue fits =>
    obtain rfl := Option.some.inj done
    simp only [List.length_append, List.length_take, List.length_drop, length_littleEndian]
    omega
  case isFalse => cases done

theorem write_read (done : write buffer w = some buffer') :
    read buffer' w.width w.offset = some w.value.toNat := by
  have same := write_length done
  unfold write at done
  split at done
  case isTrue fits =>
    obtain ⟨⟨positive, small⟩, inside⟩ := fits
    have start : (buffer.take w.offset).length = w.offset := by
      rw [List.length_take]
      omega
    have written : slice buffer' w.offset w.width = littleEndian w.width w.value.toNat := by
      rw [← Option.some.inj done]
      have here := @slice_inside (buffer.take w.offset) (littleEndian w.width w.value.toNat)
        (buffer.drop (w.offset + w.width)) 0 w.width (by simp)
      rw [start, Nat.add_zero] at here
      rw [here]
      unfold slice
      rw [List.drop_zero]
      exact List.take_of_length_le (by simp)
    have value : w.value.toNat < 256 ^ w.width := by
      rw [← Int.ofNat_lt, Int.toNat_of_nonneg positive]
      exact_mod_cast small
    unfold read
    rw [if_pos (by omega), written, ofLittleEndian_littleEndian value]
  case isFalse => cases done

theorem write_read_apart (done : write buffer w = some buffer') (apart : v.Apart w) :
    read buffer' v.width v.offset = read buffer v.width v.offset := by
  have same := write_length done
  unfold write at done
  split at done
  case isTrue fits =>
    obtain ⟨-, inside⟩ := fits
    have kept : slice buffer' v.offset v.width = slice buffer v.offset v.width := by
      apply slice_congr
      intro i low high
      rw [← Option.some.inj done]
      rcases apart with before | after
      · rw [List.append_assoc, List.getElem?_append_left, List.getElem?_take_of_lt (by omega)]
        rw [List.length_take]
        omega
      · rw [List.getElem?_append_right, List.getElem?_drop]
        · congr 1
          simp only [List.length_append, List.length_take, length_littleEndian]
          omega
        · simp only [List.length_append, List.length_take, length_littleEndian]
          omega
    unfold read
    rw [same, kept]
  case isFalse => cases done

theorem writes_length (done : writes buffer ws = some buffer') :
    buffer'.length = buffer.length := by
  induction ws generalizing buffer with
  | nil => rw [← Option.some.inj done]
  | cons w ws ih =>
    obtain ⟨mid, first, rest⟩ := Option.bind_eq_some_iff.mp done
    rw [ih rest, write_length first]

theorem writes_read_apart (done : writes buffer ws = some buffer') (apart : ∀ w ∈ ws, v.Apart w) :
    read buffer' v.width v.offset = read buffer v.width v.offset := by
  induction ws generalizing buffer with
  | nil => rw [← Option.some.inj done]
  | cons w ws ih =>
    obtain ⟨mid, first, rest⟩ := Option.bind_eq_some_iff.mp done
    rw [ih rest fun w' member => apart w' (List.mem_cons_of_mem _ member),
      write_read_apart first (apart w List.mem_cons_self)]

/-- Each field keeps what was written into it. -/
theorem written_read (done : writes buffer ws = some buffer') (apart : ws.Pairwise Write.Apart) :
    ∀ w ∈ ws, read buffer' w.width w.offset = some w.value.toNat := by
  induction ws generalizing buffer with
  | nil => intro w member; cases member
  | cons w ws ih =>
    obtain ⟨mid, first, rest⟩ := Option.bind_eq_some_iff.mp done
    obtain ⟨fromFirst, later⟩ := List.pairwise_cons.mp apart
    intro w' member
    rcases List.mem_cons.mp member with rfl | member
    · rw [writes_read_apart rest fromFirst, write_read first]
    · exact ih rest later w' member

theorem writes_return (inRange : ∀ w ∈ ws, w.InRange)
    (inside : ∀ w ∈ ws, w.offset + w.width ≤ buffer.length) :
    ∃ buffer', writes buffer ws = some buffer' := by
  induction ws generalizing buffer with
  | nil => exact ⟨buffer, rfl⟩
  | cons w ws ih =>
    have first : write buffer w = some (buffer.take w.offset ++
        littleEndian w.width w.value.toNat ++ buffer.drop (w.offset + w.width)) :=
      if_pos ⟨inRange w List.mem_cons_self, inside w List.mem_cons_self⟩
    have rest := @ih _ (fun w' member => inRange w' (List.mem_cons_of_mem _ member))
      fun w' member => Nat.le_trans (inside w' (List.mem_cons_of_mem _ member))
        (Nat.le_of_eq (write_length first).symm)
    obtain ⟨buffer', done⟩ := rest
    exact ⟨buffer', Option.bind_eq_some_iff.mpr ⟨_, first, done⟩⟩

end Writes

end Buffer

end CircleBackend.Library
