import CircleBackend.Library.Bytes
import CircleBackend.Library.Crc
import CircleBackend.Library.Text
import Mathlib.Algebra.Order.BigOperators.Group.List

/-!
# The archive of an exported note

`createZip` writes an archive of stored files by hand; `readZip` is a reader of such archives.

* `crc32_eq_checksum`: the table gives the checksum of the polynomial;
* `zip_reads_back`: what is written is read.
-/

namespace CircleBackend.Notes.Zip

open Library
open Library.Buffer (alloc writes writeUInt16LE writeUInt32LE slice)

/-! ## `crc32` -/

def polynomial : BitVec 32 := 0xedb88320#32

/-- The inner loop's body. -/
def tableStep (c : BitVec 32) : BitVec 32 :=
  if c &&& 1#32 ≠ 0#32 then 0xedb88320#32 ^^^ (c >>> 1) else c >>> 1

def crc32Table : List (BitVec 32) :=
  (List.range 256).map fun i => tableStep^[8] (BitVec.ofNat 32 i)

def crc32 (buffer : Buffer) : BitVec 32 :=
  buffer.foldl (fun crc byte =>
    crc32Table.getD ((crc ^^^ byte.setWidth 32) &&& 0xff#32).toNat 0#32 ^^^ (crc >>> 8))
    0xffffffff#32 ^^^ 0xffffffff#32

/-! ## `createZip` -/

/-- `new Date()` as its local getters read it. -/
structure LocalTime where
  year : Int
  month : Nat
  date : Nat
  hours : Nat
  minutes : Nat
  seconds : Nat
  month_lt : month < 12
  date_le : date ≤ 31
  hours_lt : hours < 24
  minutes_lt : minutes < 60
  seconds_lt : seconds < 60

def LocalTime.dosTime (now : LocalTime) : Int :=
  ((BitVec.ofNat 32 now.hours <<< 11) ||| (BitVec.ofNat 32 now.minutes <<< 5) |||
    BitVec.ofNat 32 (now.seconds / 2)).toInt

def LocalTime.dosDate (now : LocalTime) : Int :=
  ((BitVec.ofInt 32 (now.year - 1980) <<< 9) ||| (BitVec.ofNat 32 (now.month + 1) <<< 5) |||
    BitVec.ofNat 32 now.date).toInt

structure Entry where
  name : JsString
  data : Buffer

/-- `Buffer.from(entry.name)` -/
def Entry.nameBytes (entry : Entry) : Buffer := utf8 entry.name

structure Pieces where
  locals : List Buffer
  centrals : List Buffer
  offset : Nat

variable (now : LocalTime)

def localHeader (entry : Entry) : Option Buffer :=
  writes (alloc 30) [
    writeUInt32LE 0x04034b50 0,
    writeUInt16LE 20 4,
    writeUInt16LE 0 6,
    writeUInt16LE 0 8,
    writeUInt16LE now.dosTime 10,
    writeUInt16LE now.dosDate 12,
    writeUInt32LE (crc32 entry.data).toNat 14,
    writeUInt32LE entry.data.length 18,
    writeUInt32LE entry.data.length 22,
    writeUInt16LE entry.nameBytes.length 26,
    writeUInt16LE 0 28]

def centralHeader (offset : Nat) (entry : Entry) : Option Buffer :=
  writes (alloc 46) [
    writeUInt32LE 0x02014b50 0,
    writeUInt16LE 20 4,
    writeUInt16LE 20 6,
    writeUInt16LE 0 8,
    writeUInt16LE 0 10,
    writeUInt16LE now.dosTime 12,
    writeUInt16LE now.dosDate 14,
    writeUInt32LE (crc32 entry.data).toNat 16,
    writeUInt32LE entry.data.length 20,
    writeUInt32LE entry.data.length 24,
    writeUInt16LE entry.nameBytes.length 28,
    writeUInt16LE 0 30,
    writeUInt16LE 0 32,
    writeUInt16LE 0 34,
    writeUInt16LE 0 36,
    writeUInt32LE 0 38,
    writeUInt32LE offset 42]

/-- The loop's body. -/
def pushEntry (pieces : Pieces) (entry : Entry) : Option Pieces := do
  let header ← localHeader now entry
  let central ← centralHeader now pieces.offset entry
  some {
    locals := pieces.locals ++ [header, entry.nameBytes, entry.data]
    centrals := pieces.centrals ++ [central, entry.nameBytes]
    offset := pieces.offset + (header.length + entry.nameBytes.length + entry.data.length) }

def endRecord (count centralSize offset : Nat) : Option Buffer :=
  writes (alloc 22) [
    writeUInt32LE 0x06054b50 0,
    writeUInt16LE 0 4,
    writeUInt16LE 0 6,
    writeUInt16LE count 8,
    writeUInt16LE count 10,
    writeUInt32LE centralSize 12,
    writeUInt32LE offset 16,
    writeUInt16LE 0 20]

/-- `none` where a write throws. -/
def createZip (entries : List Entry) : Option Buffer := do
  let pieces ← entries.foldlM (pushEntry now) ⟨[], [], 0⟩
  let centralSize := pieces.centrals.foldl (fun sum item => sum + item.length) 0
  let last ← endRecord entries.length centralSize pieces.offset
  some (pieces.locals ++ pieces.centrals ++ [last]).flatten

/-! ## A reader -/

structure Stored where
  name : Buffer
  data : Buffer
  checksum : Nat

structure Archive where
  centralOffset : Nat
  centralSize : Nat
  files : List Stored

/-- The bytes of a stored file, behind the local header at `start`. -/
def readLocal (zip : Buffer) (start length : Nat) : Option (Buffer × Buffer) := do
  let signature ← zip.read 4 start
  let method ← zip.read 2 (start + 8)
  let nameLength ← zip.read 2 (start + 26)
  let extra ← zip.read 2 (start + 28)
  let data := start + 30 + nameLength + extra
  if signature = 0x04034b50 ∧ method = 0 ∧ data + length ≤ zip.length then
    some (slice zip (start + 30) nameLength, slice zip data length)
  else none

/-- The file of the central header at `start`, and where the next header is. -/
def readCentral (zip : Buffer) (start : Nat) : Option (Stored × Nat) := do
  let signature ← zip.read 4 start
  let method ← zip.read 2 (start + 10)
  let checksum ← zip.read 4 (start + 16)
  let compressed ← zip.read 4 (start + 20)
  let size ← zip.read 4 (start + 24)
  let nameLength ← zip.read 2 (start + 28)
  let extra ← zip.read 2 (start + 30)
  let comment ← zip.read 2 (start + 32)
  let offset ← zip.read 4 (start + 42)
  let (name, data) ← readLocal zip offset compressed
  if signature = 0x02014b50 ∧ method = 0 ∧ compressed = size ∧
      start + 46 + nameLength ≤ zip.length ∧ slice zip (start + 46) nameLength = name then
    some (⟨name, data, checksum⟩, start + 46 + nameLength + extra + comment)
  else none

def readFiles (zip : Buffer) : Nat → Nat → Option (List Stored × Nat)
  | 0, start => some ([], start)
  | count + 1, start => do
    let (file, next) ← readCentral zip start
    let (files, finish) ← readFiles zip count next
    some (file :: files, finish)

def readZip (zip : Buffer) : Option Archive := do
  let last := zip.length - 22
  let signature ← zip.read 4 last
  let count ← zip.read 2 (last + 10)
  let centralSize ← zip.read 4 (last + 12)
  let centralOffset ← zip.read 4 (last + 16)
  let comment ← zip.read 2 (last + 20)
  if signature = 0x06054b50 ∧ comment = 0 then
    let (files, finish) ← readFiles zip count centralOffset
    if finish = centralOffset + centralSize ∧ finish = last then
      some ⟨centralOffset, centralSize, files⟩
    else none
  else none

/-! ## The checksum -/

theorem tableStep_eq (c : BitVec 32) : tableStep c = Crc.step polynomial c := by
  unfold tableStep Crc.step polynomial
  have bit : (c &&& 1#32 ≠ 0#32) ↔ c.getLsbD 0 = true := by
    rw [BitVec.and_one_eq_setWidth_ofBool_getLsbD]
    cases c.getLsbD 0 <;> decide
  by_cases one : c.getLsbD 0 = true
  · rw [if_pos (bit.mpr one), if_pos one]
  · rw [if_neg fun odd => one (bit.mp odd), if_neg one]

theorem tableStep_iterate (k : Nat) (c : BitVec 32) :
    tableStep^[k] c = Crc.steps polynomial k c := by
  induction k generalizing c with
  | zero => rfl
  | succ k ih => rw [Function.iterate_succ_apply, tableStep_eq, ih, Crc.steps]

theorem crc32Table_entry (c : BitVec 32) :
    crc32Table.getD (c &&& 0xff#32).toNat 0#32 = Crc.steps polynomial 8 (c &&& 0xff#32) := by
  have small : (c &&& 0xff#32).toNat < 256 := by
    rw [BitVec.toNat_and]
    exact Nat.lt_of_le_of_lt Nat.and_le_right (by decide)
  unfold crc32Table
  rw [List.getD_eq_getElem?_getD, List.getElem?_map, List.getElem?_range small, Option.map_some,
    Option.getD_some, tableStep_iterate, BitVec.ofNat_toNat, BitVec.setWidth_eq]

/-- The table's step is eight steps of the polynomial. -/
theorem crc32_eq_checksum (buffer : Buffer) : crc32 buffer = Crc.checksum polynomial buffer := by
  unfold crc32 Crc.checksum
  have bytes : (fun (crc : BitVec 32) (byte : BitVec 8) =>
      crc32Table.getD ((crc ^^^ byte.setWidth 32) &&& 0xff#32).toNat 0#32 ^^^ (crc >>> 8)) =
      fun crc byte => Crc.feed polynomial 8 crc (byte.setWidth 32) := by
    funext crc byte
    rw [crc32Table_entry, Crc.feed_byte]
  rw [bytes]
  exact BitVec.xor_allOnes

/-! ## The headers -/

section Headers

variable {now : LocalTime} {entry : Entry} {header : Buffer} {offset : Nat}

/-- What a reader finds in a local header. -/
structure IsLocal (entry : Entry) (header : Buffer) : Prop where
  length : header.length = 30
  signature : header.read 4 0 = some 0x04034b50
  method : header.read 2 8 = some 0
  nameLength : header.read 2 26 = some entry.nameBytes.length
  extra : header.read 2 28 = some 0

/-- What a reader finds in a central header. -/
structure IsCentral (offset : Nat) (entry : Entry) (header : Buffer) : Prop where
  length : header.length = 46
  signature : header.read 4 0 = some 0x02014b50
  method : header.read 2 10 = some 0
  checksum : header.read 4 16 = some (crc32 entry.data).toNat
  compressed : header.read 4 20 = some entry.data.length
  size : header.read 4 24 = some entry.data.length
  nameLength : header.read 2 28 = some entry.nameBytes.length
  extra : header.read 2 30 = some 0
  comment : header.read 2 32 = some 0
  offset : header.read 4 42 = some offset

structure IsEnd (count centralSize offset : Nat) (record : Buffer) : Prop where
  length : record.length = 22
  signature : record.read 4 0 = some 0x06054b50
  count : record.read 2 10 = some count
  centralSize : record.read 4 12 = some centralSize
  offset : record.read 4 16 = some offset
  comment : record.read 2 20 = some 0

theorem localHeader_spec (done : localHeader now entry = some header) : IsLocal entry header := by
  have kept := Buffer.written_read done
    (by simp [Buffer.Write.Apart, writeUInt16LE, writeUInt32LE])
  exact {
    length := Buffer.writes_length done
    signature := kept (writeUInt32LE 0x04034b50 0) (by simp)
    method := kept (writeUInt16LE 0 8) (by simp)
    nameLength := kept (writeUInt16LE entry.nameBytes.length 26) (by simp)
    extra := kept (writeUInt16LE 0 28) (by simp) }

theorem centralHeader_spec (done : centralHeader now offset entry = some header) :
    IsCentral offset entry header := by
  have kept := Buffer.written_read done
    (by simp [Buffer.Write.Apart, writeUInt16LE, writeUInt32LE])
  exact {
    length := Buffer.writes_length done
    signature := kept (writeUInt32LE 0x02014b50 0) (by simp)
    method := kept (writeUInt16LE 0 10) (by simp)
    checksum := kept (writeUInt32LE (crc32 entry.data).toNat 16) (by simp)
    compressed := kept (writeUInt32LE entry.data.length 20) (by simp)
    size := kept (writeUInt32LE entry.data.length 24) (by simp)
    nameLength := kept (writeUInt16LE entry.nameBytes.length 28) (by simp)
    extra := kept (writeUInt16LE 0 30) (by simp)
    comment := kept (writeUInt16LE 0 32) (by simp)
    offset := kept (writeUInt32LE offset 42) (by simp) }

theorem endRecord_spec {count centralSize : Nat} {record : Buffer}
    (done : endRecord count centralSize offset = some record) :
    IsEnd count centralSize offset record := by
  have kept := Buffer.written_read done
    (by simp [Buffer.Write.Apart, writeUInt16LE, writeUInt32LE])
  exact {
    length := Buffer.writes_length done
    signature := kept (writeUInt32LE 0x06054b50 0) (by simp)
    count := kept (writeUInt16LE count 10) (by simp)
    centralSize := kept (writeUInt32LE centralSize 12) (by simp)
    offset := kept (writeUInt32LE offset 16) (by simp)
    comment := kept (writeUInt16LE 0 20) (by simp) }

end Headers

/-! ## The layout -/

/-- The bytes of an entry before the central directory, and in it. -/
def localSize (entry : Entry) : Nat := 30 + entry.nameBytes.length + entry.data.length
def centralSize (entry : Entry) : Nat := 46 + entry.nameBytes.length

def localsSize (entries : List Entry) : Nat := (entries.map localSize).sum
def centralsSize (entries : List Entry) : Nat := (entries.map centralSize).sum

def encodedSize (entries : List Entry) : Nat := localsSize entries + centralsSize entries + 22

/-- The file that an entry is to be read as. -/
def Entry.stored (entry : Entry) : Stored :=
  ⟨entry.nameBytes, entry.data, (Crc.checksum polynomial entry.data).toNat⟩

/-- Local parts from `offset` on, and the central headers that lead to them. -/
inductive Laid : Nat → List Entry → Buffer → Buffer → Prop
  | nil (offset : Nat) : Laid offset [] [] []
  | cons {offset : Nat} {entry : Entry} {entries : List Entry}
      {header central locals centrals : Buffer} :
      IsLocal entry header → IsCentral offset entry central →
      Laid (offset + localSize entry) entries locals centrals →
      Laid offset (entry :: entries) (header ++ entry.nameBytes ++ entry.data ++ locals)
        (central ++ entry.nameBytes ++ centrals)

theorem Laid.lengths {offset : Nat} {entries : List Entry} {locals centrals : Buffer}
    (laid : Laid offset entries locals centrals) :
    locals.length = localsSize entries ∧ centrals.length = centralsSize entries := by
  induction laid with
  | nil => exact ⟨rfl, rfl⟩
  | cons isLocal isCentral rest ih =>
    obtain ⟨locals, centrals⟩ := ih
    constructor
    · simp only [List.length_append, isLocal.length, locals, localsSize, List.map_cons,
        List.sum_cons, localSize]
    · simp only [List.length_append, isCentral.length, centrals, centralsSize, List.map_cons,
        List.sum_cons, centralSize]

variable {now} in
theorem pushEntry_cases {pieces pieces' : Pieces} {entry : Entry}
    (done : pushEntry now pieces entry = some pieces') :
    ∃ header central, IsLocal entry header ∧ IsCentral pieces.offset entry central ∧
      pieces' = {
        locals := pieces.locals ++ [header, entry.nameBytes, entry.data]
        centrals := pieces.centrals ++ [central, entry.nameBytes]
        offset := pieces.offset + localSize entry } := by
  obtain ⟨header, first, rest⟩ := Option.bind_eq_some_iff.mp done
  obtain ⟨central, second, result⟩ := Option.bind_eq_some_iff.mp rest
  have isLocal := localHeader_spec first
  refine ⟨header, central, isLocal, centralHeader_spec second, ?_⟩
  rw [← Option.some.inj result, isLocal.length]
  rfl

variable {now} in
/-- The running offset is where each local part goes. -/
theorem pushEntries_laid {entries : List Entry} {pieces pieces' : Pieces}
    (done : entries.foldlM (pushEntry now) pieces = some pieces') :
    ∃ locals centrals, Laid pieces.offset entries locals centrals ∧
      pieces'.locals.flatten = pieces.locals.flatten ++ locals ∧
        pieces'.centrals.flatten = pieces.centrals.flatten ++ centrals ∧
          pieces'.offset = pieces.offset + localsSize entries := by
  induction entries generalizing pieces with
  | nil =>
    obtain rfl := Option.some.inj done
    exact ⟨[], [], .nil _, (List.append_nil _).symm, (List.append_nil _).symm, rfl⟩
  | cons entry entries ih =>
    obtain ⟨mid, first, rest⟩ := Option.bind_eq_some_iff.mp done
    obtain ⟨header, central, isLocal, isCentral, rfl⟩ := pushEntry_cases first
    obtain ⟨locals, centrals, laid, localsEq, centralsEq, offsetEq⟩ := ih rest
    refine ⟨_, _, .cons isLocal isCentral laid, ?_, ?_, ?_⟩
    · rw [localsEq]
      simp [List.append_assoc]
    · rw [centralsEq]
      simp [List.append_assoc]
    · rw [offsetEq, localsSize, localsSize, List.map_cons, List.sum_cons, Nat.add_assoc]

/-! ## Reading back -/

section Reading

variable {zip before after header : Buffer} {entry : Entry} {start : Nat}

theorem readLocal_part
    (parts : zip = before ++ (header ++ entry.nameBytes ++ entry.data) ++ after)
    (place : start = before.length) (isLocal : IsLocal entry header) :
    readLocal zip start entry.data.length = some (entry.nameBytes, entry.data) := by
  have field : ∀ {width offset value}, header.read width offset = some value →
      offset + width ≤ 30 → zip.read width (start + offset) = some value := by
    intro width offset value found inside
    rw [← isLocal.length] at inside
    rw [← found, ← @Buffer.read_inside before header (entry.nameBytes ++ entry.data ++ after) _ _
      inside, place, parts]
    simp only [List.append_assoc]
  have name : slice zip (start + 30) entry.nameBytes.length = entry.nameBytes := by
    apply @Buffer.slice_part _ (before ++ header) _ (entry.data ++ after)
    · rw [parts]
      simp only [List.append_assoc]
    · rw [List.length_append, isLocal.length, place]
  have data : slice zip (start + 30 + entry.nameBytes.length + 0) entry.data.length =
      entry.data := by
    apply @Buffer.slice_part _ (before ++ header ++ entry.nameBytes) _ after
    · rw [parts]
      simp only [List.append_assoc]
    · rw [List.length_append, List.length_append, isLocal.length, place]
      omega
  have signature := field isLocal.signature (by omega)
  rw [Nat.add_zero] at signature
  have long : start + 30 + entry.nameBytes.length + 0 + entry.data.length ≤ zip.length := by
    rw [parts, place]
    simp only [List.length_append, isLocal.length]
    omega
  unfold readLocal
  rw [signature, field isLocal.method (by omega), field isLocal.nameLength (by omega),
    field isLocal.extra (by omega)]
  simp only [Option.bind_eq_bind, Option.bind_some, true_and, if_pos long, name, data]

theorem readCentral_part {offset : Nat}
    (parts : zip = before ++ (header ++ entry.nameBytes) ++ after)
    (place : start = before.length) (isCentral : IsCentral offset entry header)
    (file : readLocal zip offset entry.data.length = some (entry.nameBytes, entry.data)) :
    readCentral zip start = some (entry.stored, start + centralSize entry) := by
  have field : ∀ {width offset value}, header.read width offset = some value →
      offset + width ≤ 46 → zip.read width (start + offset) = some value := by
    intro width offset value found inside
    rw [← isCentral.length] at inside
    rw [← found, ← @Buffer.read_inside before header (entry.nameBytes ++ after) _ _ inside, place,
      parts]
    simp only [List.append_assoc]
  have name : slice zip (start + 46) entry.nameBytes.length = entry.nameBytes := by
    apply @Buffer.slice_part _ (before ++ header) _ after
    · rw [parts]
      simp only [List.append_assoc]
    · rw [List.length_append, isCentral.length, place]
  have signature := field isCentral.signature (by omega)
  rw [Nat.add_zero] at signature
  have long : start + 46 + entry.nameBytes.length ≤ zip.length := by
    rw [parts, place]
    simp only [List.length_append, isCentral.length]
    omega
  unfold readCentral
  rw [signature, field isCentral.method (by omega), field isCentral.checksum (by omega),
    field isCentral.compressed (by omega), field isCentral.size (by omega),
    field isCentral.nameLength (by omega), field isCentral.extra (by omega),
    field isCentral.comment (by omega), field isCentral.offset (by omega)]
  simp only [Option.bind_eq_bind, Option.bind_some, file, true_and, if_pos, long, name]
  rw [crc32_eq_checksum]
  simp only [Entry.stored, centralSize, Nat.add_assoc, Nat.add_zero]

end Reading

/-- Each header is found where the one before it ended, its file where it says. -/
theorem readFiles_laid {entries : List Entry} {offset : Nat} {locals centrals zip : Buffer}
    (laid : Laid offset entries locals centrals) :
    ∀ {before between after : Buffer} {start : Nat},
      zip = before ++ locals ++ between → offset = before.length →
      ∀ {before' : Buffer}, zip = before' ++ centrals ++ after → start = before'.length →
      readFiles zip entries.length start =
        some (entries.map Entry.stored, start + centralsSize entries) := by
  induction laid with
  | nil =>
    intros
    rfl
  | @cons offset entry entries header central locals centrals isLocal isCentral rest ih =>
    intro before between after start localParts localPlace before' centralParts centralPlace
    have file : readLocal zip offset entry.data.length = some (entry.nameBytes, entry.data) := by
      apply @readLocal_part _ before (locals ++ between) header _ _ _ localPlace isLocal
      rw [localParts]
      simp only [List.append_assoc]
    have first : readCentral zip start = some (entry.stored, start + centralSize entry) := by
      apply @readCentral_part _ before' (centrals ++ after) central _ _ _ _ centralPlace isCentral
        file
      rw [centralParts]
      simp only [List.append_assoc]
    have others : readFiles zip entries.length (start + centralSize entry) =
        some (entries.map Entry.stored, start + centralSize entry + centralsSize entries) := by
      apply @ih (before ++ (header ++ entry.nameBytes ++ entry.data)) between after _ _ _
        (before' ++ (central ++ entry.nameBytes))
      · rw [centralParts]
        simp only [List.append_assoc]
      · rw [centralPlace]
        simp only [List.length_append, isCentral.length, centralSize]
      · rw [localParts]
        simp only [List.append_assoc]
      · rw [localPlace]
        simp only [List.length_append, isLocal.length, localSize]
    rw [List.length_cons, readFiles, first]
    simp only [Option.bind_eq_bind, Option.bind_some, others]
    rw [List.map_cons, centralsSize, centralsSize, List.map_cons, List.sum_cons, Nat.add_assoc]

/-! ## What is written and read -/

theorem uint16_or {a b c : BitVec 32} (first : a.toNat < 2 ^ 16) (second : b.toNat < 2 ^ 16)
    (third : c.toNat < 2 ^ 16) (offset : Nat) :
    (writeUInt16LE (a ||| b ||| c).toInt offset).InRange := by
  have small : (a ||| b ||| c).toNat < 2 ^ 16 := by
    rw [BitVec.toNat_or, BitVec.toNat_or]
    exact Nat.or_lt_two_pow (Nat.or_lt_two_pow first second) third
  have same : (a ||| b ||| c).toInt = ((a ||| b ||| c).toNat : Int) :=
    BitVec.toInt_eq_toNat_of_lt (by omega)
  unfold Buffer.Write.InRange writeUInt16LE
  rw [same]
  dsimp only
  omega

theorem uint16_shift {n k limit : Nat} (bounded : n < limit) (fits : limit * 2 ^ k ≤ 2 ^ 16) :
    (BitVec.ofNat 32 n <<< k).toNat < 2 ^ 16 := by
  have shifted : n <<< k < 2 ^ 16 := by
    rw [Nat.shiftLeft_eq]
    have grows := Nat.mul_lt_mul_of_pos_right bounded (Nat.two_pow_pos k)
    omega
  have own : n ≤ n <<< k := by
    rw [Nat.shiftLeft_eq]
    exact Nat.le_mul_of_pos_right n (Nat.two_pow_pos k)
  rw [BitVec.toNat_shiftLeft, BitVec.toNat_ofNat, Nat.mod_eq_of_lt (a := n) (by omega),
    Nat.mod_eq_of_lt (by omega)]
  exact shifted

theorem dosTime_inRange (now : LocalTime) (offset : Nat) :
    (writeUInt16LE now.dosTime offset).InRange := by
  apply uint16_or
  · exact uint16_shift now.hours_lt (by decide)
  · exact uint16_shift now.minutes_lt (by decide)
  · have seconds := now.seconds_lt
    rw [BitVec.toNat_ofNat]
    omega

/-- The years of the format's dates. -/
def LocalTime.InDosRange (now : LocalTime) : Prop := 1980 ≤ now.year ∧ now.year ≤ 2107

theorem dosDate_inRange {now : LocalTime} (year : now.InDosRange) (offset : Nat) :
    (writeUInt16LE now.dosDate offset).InRange := by
  obtain ⟨low, high⟩ := year
  obtain ⟨y, since⟩ := Int.eq_ofNat_of_zero_le (show 0 ≤ now.year - 1980 by omega)
  apply uint16_or
  · rw [since, BitVec.ofInt_natCast]
    exact uint16_shift (show y < 128 by omega) (by decide)
  · have month := now.month_lt
    exact uint16_shift (show now.month + 1 < 13 by omega) (by decide)
  · have date := now.date_le
    rw [BitVec.toNat_ofNat]
    omega

theorem uint16_nat {n : Nat} (small : n < 65536) (offset : Nat) :
    (writeUInt16LE n offset).InRange := by
  unfold Buffer.Write.InRange writeUInt16LE
  dsimp only
  omega

theorem uint32_nat {n : Nat} (small : n < 2 ^ 32) (offset : Nat) :
    (writeUInt32LE n offset).InRange := by
  unfold Buffer.Write.InRange writeUInt32LE
  dsimp only
  omega

/-- An entry whose sizes fit the fields of its headers. -/
structure Entry.Fits (entry : Entry) : Prop where
  name : entry.nameBytes.length < 65536
  data : entry.data.length < 2 ^ 32

variable {now} in
theorem pushEntry_returns (year : now.InDosRange) {pieces : Pieces} {entry : Entry}
    (fits : entry.Fits) (offset : pieces.offset < 2 ^ 32) :
    ∃ pieces', pushEntry now pieces entry = some pieces' := by
  have time := dosTime_inRange now
  have date := dosDate_inRange year
  have name := uint16_nat fits.name
  have data := uint32_nat fits.data
  have checksum := uint32_nat (crc32 entry.data).isLt
  obtain ⟨header, first⟩ : ∃ header, localHeader now entry = some header := by
    apply Buffer.writes_return
    · simp only [List.forall_mem_cons, List.not_mem_nil, false_imp_iff, implies_true, and_true,
        time, date, name, data, checksum, true_and]
      decide
    · simp [writeUInt16LE, writeUInt32LE, alloc]
  obtain ⟨central, second⟩ : ∃ central, centralHeader now pieces.offset entry = some central := by
    apply Buffer.writes_return
    · simp only [List.forall_mem_cons, List.not_mem_nil, false_imp_iff, implies_true, and_true,
        time, date, name, data, checksum, uint32_nat offset, true_and]
      decide
    · simp [writeUInt16LE, writeUInt32LE, alloc]
  exact ⟨_, Option.bind_eq_some_iff.mpr ⟨header, first,
    Option.bind_eq_some_iff.mpr ⟨central, second, rfl⟩⟩⟩

variable {now} in
theorem pushEntries_return (year : now.InDosRange) {entries : List Entry}
    (fits : ∀ entry ∈ entries, entry.Fits) :
    ∀ {pieces : Pieces}, pieces.offset + localsSize entries < 2 ^ 32 →
      ∃ pieces', entries.foldlM (pushEntry now) pieces = some pieces' := by
  induction entries with
  | nil => intro pieces _; exact ⟨pieces, rfl⟩
  | cons entry entries ih =>
    intro pieces small
    rw [localsSize, List.map_cons, List.sum_cons] at small
    obtain ⟨mid, first⟩ := pushEntry_returns year (fits entry List.mem_cons_self)
      (show pieces.offset < 2 ^ 32 by omega)
    obtain ⟨header, central, -, -, same⟩ := pushEntry_cases first
    have next : mid.offset + localsSize entries < 2 ^ 32 := by
      rw [same, localsSize]
      dsimp only
      omega
    obtain ⟨pieces', rest⟩ := ih (fun e member => fits e (List.mem_cons_of_mem _ member)) next
    exact ⟨pieces', Option.bind_eq_some_iff.mpr ⟨mid, first, rest⟩⟩

theorem lengths_sum (items : List Buffer) (start : Nat) :
    items.foldl (fun sum item => sum + item.length) start = start + items.flatten.length := by
  induction items generalizing start with
  | nil => rfl
  | cons item items ih =>
    rw [List.foldl_cons, ih, List.flatten_cons, List.length_append, Nat.add_assoc]

variable {now} in
/-- The archive is its local parts, its central headers and the end record. -/
theorem createZip_cases {entries : List Entry} {zip : Buffer}
    (done : createZip now entries = some zip) :
    ∃ locals centrals last, Laid 0 entries locals centrals ∧
      IsEnd entries.length (centralsSize entries) (localsSize entries) last ∧
        zip = locals ++ centrals ++ last := by
  obtain ⟨pieces, loop, rest⟩ := Option.bind_eq_some_iff.mp done
  obtain ⟨last, ending, result⟩ := Option.bind_eq_some_iff.mp rest
  obtain ⟨locals, centrals, laid, localsEq, centralsEq, offsetEq⟩ := pushEntries_laid loop
  have isEnd := endRecord_spec ending
  rw [lengths_sum, Nat.zero_add, centralsEq, List.flatten_nil, List.nil_append, laid.lengths.2,
    offsetEq, Nat.zero_add] at isEnd
  refine ⟨locals, centrals, last, laid, isEnd, ?_⟩
  rw [← Option.some.inj result, List.flatten_append, List.flatten_append, localsEq, centralsEq]
  simp

/-- What `createZip` writes, the reader reads: every file with its name, its data and the
checksum of the polynomial. It writes whenever the sizes fit and the year has a date. -/
theorem zip_reads_back (now : LocalTime) (entries : List Entry)
    (few : entries.length < 65536) (names : ∀ entry ∈ entries, entry.nameBytes.length ≤ 65535)
    (small : encodedSize entries < 2 ^ 32) :
    (now.InDosRange → ∃ zip, createZip now entries = some zip) ∧
      (∀ zip, createZip now entries = some zip →
        zip.length = encodedSize entries ∧
          readZip zip = some {
            centralOffset := localsSize entries
            centralSize := centralsSize entries
            files := entries.map Entry.stored }) ∧
      ∀ data, crc32 data = Crc.checksum polynomial data := by
  unfold encodedSize at small
  refine ⟨?_, ?_, crc32_eq_checksum⟩
  · intro year
    have fits : ∀ entry ∈ entries, entry.Fits := by
      intro entry member
      have own : localSize entry ≤ localsSize entries :=
        List.le_sum_of_mem (List.mem_map_of_mem member)
      unfold localSize at own
      exact { name := Nat.lt_succ_of_le (names entry member), data := by omega }
    obtain ⟨pieces, loop⟩ := @pushEntries_return _ year _ fits ⟨[], [], 0⟩
      (by dsimp only; omega)
    obtain ⟨locals, centrals, laid, -, centralsEq, offsetEq⟩ := pushEntries_laid loop
    have size : pieces.centrals.foldl (fun sum item => sum + item.length) 0 =
        centralsSize entries := by
      rw [lengths_sum, centralsEq]
      simp [laid.lengths.2]
    have ending : ∃ last, endRecord entries.length (centralsSize entries) pieces.offset =
        some last := by
      apply Buffer.writes_return
      · simp only [List.forall_mem_cons, List.not_mem_nil, false_imp_iff, implies_true, and_true,
          uint16_nat few, uint32_nat (show centralsSize entries < 2 ^ 32 by omega),
          uint32_nat (show pieces.offset < 2 ^ 32 by rw [offsetEq]; dsimp only; omega), true_and]
        decide
      · simp [writeUInt16LE, writeUInt32LE, alloc]
    obtain ⟨last, ending⟩ := ending
    rw [← size] at ending
    exact ⟨_, Option.bind_eq_some_iff.mpr ⟨pieces, loop,
      Option.bind_eq_some_iff.mpr ⟨last, ending, rfl⟩⟩⟩
  · intro zip done
    obtain ⟨locals, centrals, last, laid, isEnd, parts⟩ := createZip_cases done
    obtain ⟨localsLength, centralsLength⟩ := laid.lengths
    have size : zip.length = localsSize entries + centralsSize entries + 22 := by
      rw [parts, List.length_append, List.length_append, localsLength, centralsLength,
        isEnd.length]
    have place : zip.length - 22 = (locals ++ centrals).length := by
      rw [size, List.length_append, localsLength, centralsLength]
      omega
    have field : ∀ {width offset value}, last.read width offset = some value →
        offset + width ≤ 22 → zip.read width (zip.length - 22 + offset) = some value := by
      intro width offset value found inside
      rw [← isEnd.length] at inside
      have here := @Buffer.read_inside (locals ++ centrals) last [] _ _ inside
      rw [List.append_nil, ← parts, ← place] at here
      rw [here, found]
    have files : readFiles zip entries.length (localsSize entries) =
        some (entries.map Entry.stored, localsSize entries + centralsSize entries) := by
      apply @readFiles_laid _ _ _ _ _ laid [] (centrals ++ last) last _ _ _ locals
      · exact parts
      · exact localsLength.symm
      · rw [parts, List.nil_append, List.append_assoc]
      · rfl
    have signature := field isEnd.signature (by omega)
    rw [Nat.add_zero] at signature
    refine ⟨size, ?_⟩
    unfold readZip
    dsimp only
    rw [signature, field isEnd.count (by omega), field isEnd.centralSize (by omega),
      field isEnd.offset (by omega), field isEnd.comment (by omega)]
    have finish : localsSize entries + centralsSize entries = zip.length - 22 := by omega
    simp only [Option.bind_eq_bind, Option.bind_some, and_self, if_true, files, finish]

/-- Noon of the first of May 2026. -/
def noon : LocalTime where
  year := 2026
  month := 4
  date := 1
  hours := 12
  minutes := 0
  seconds := 0
  month_lt := by decide
  date_le := by decide
  hours_lt := by decide
  minutes_lt := by decide
  seconds_lt := by decide

/-- A file of two bytes under `a` and an empty one under `é`. -/
theorem zip_reads_back_two : ∃ zip,
    createZip noon [⟨[97], [1#8, 2#8]⟩, ⟨[233], []⟩] = some zip ∧ zip.length = 182 ∧
      readZip zip = some {
        centralOffset := 65
        centralSize := 95
        files := [⟨[97#8], [1#8, 2#8], 0xb6cc4292⟩, ⟨[195#8, 169#8], [], 0⟩] } := by
  obtain ⟨returns, reads, -⟩ := zip_reads_back noon [⟨[97], [1#8, 2#8]⟩, ⟨[233], []⟩]
    (by decide) (by decide) (by decide)
  obtain ⟨zip, done⟩ := returns (by unfold LocalTime.InDosRange; decide)
  obtain ⟨size, back⟩ := reads zip done
  have checksum : (Crc.checksum polynomial [1#8, 2#8]).toNat = 0xb6cc4292 := by
    decide +kernel
  refine ⟨zip, done, size, ?_⟩
  rw [back, ← checksum]
  rfl

end CircleBackend.Notes.Zip
