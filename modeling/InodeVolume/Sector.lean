/-!
# Sectors and the bytes in them

Devices are read and written in whole sectors of `sectorSize` bytes. A `Block n` is a run of
exactly `n` bytes, a `Sector` one of 512, and two operations on byte strings carry everything
above: `slice` takes a range out and `splice` lays one byte string over another.

* `getElem_splice` says what `splice` does to each byte, and `size_splice` that a splice which
  fits changes no length.
* Sector numbers are 32-bit words (`SectorId`); number 0 in a block map stands for "no sector".
-/

namespace InodeVolume

/-- Bytes in a sector. -/
def sectorSize : Nat := 512

/-- Offsets, lengths and counts are 64-bit words: sums and products reach at most one below this. -/
def wordLimit : Nat := 0x10000000000000000

/-! ## Byte strings -/

/-- Byte strings. -/
abbrev Bytes := ByteArray

namespace Bytes

/-- The byte `b`, `n` times. -/
def fill (b : UInt8) (n : Nat) : Bytes := ⟨Array.replicate n b⟩

@[simp] theorem size_fill (b : UInt8) (n : Nat) : (fill b n).size = n := by
  simp [fill, ByteArray.size]

/-- The bytes of `b` from `start` on, `length` of them where there are so many. -/
def slice (b : Bytes) (start length : Nat) : Bytes := b.extract start (start + length)

theorem size_slice (b : Bytes) {start length : Nat} (fits : start + length ≤ b.size) :
    (slice b start length).size = length := by
  simp only [slice, ByteArray.size_extract]
  omega

theorem getElem_slice (b : Bytes) {start length i : Nat}
    (inside : i < (slice b start length).size) (bound : start + i < b.size) :
    (slice b start length)[i] = b[start + i] := by
  simp only [slice, ByteArray.getElem_extract]

/-- `b` with the bytes of `patch` in place of its own from `start` on. -/
def splice (b : Bytes) (start : Nat) (patch : Bytes) : Bytes :=
  patch.copySlice 0 b start patch.size

theorem splice_eq_append (b : Bytes) (start : Nat) (patch : Bytes) :
    splice b start patch =
      b.extract 0 start ++ patch ++ b.extract (start + patch.size) b.size := by
  rw [splice, ByteArray.copySlice_eq_append]
  simp

theorem size_splice (b : Bytes) {start : Nat} {patch : Bytes}
    (fits : start + patch.size ≤ b.size) : (splice b start patch).size = b.size := by
  rw [splice_eq_append]
  simp only [ByteArray.size_append, ByteArray.size_extract]
  omega

/-- A splice changes exactly the bytes it covers. -/
theorem getElem_splice (b : Bytes) {start i : Nat} {patch : Bytes}
    (fits : start + patch.size ≤ b.size) (inside : i < (splice b start patch).size)
    (bound : i < b.size) :
    (splice b start patch)[i] =
      if covered : start ≤ i ∧ i < start + patch.size then patch[i - start] else b[i] := by
  have headSize : (b.extract 0 start).size = start := by
    rw [ByteArray.size_extract]; omega
  have leadSize : (b.extract 0 start ++ patch).size = start + patch.size := by
    rw [ByteArray.size_append, headSize]
  simp only [splice_eq_append]
  by_cases early : i < start + patch.size
  · rw [ByteArray.getElem_append_left (by omega)]
    by_cases before : i < start
    · rw [ByteArray.getElem_append_left (by omega), dif_neg (by omega)]
      simp only [ByteArray.getElem_extract, Nat.zero_add]
    · rw [ByteArray.getElem_append_right (by omega), dif_pos ⟨by omega, early⟩]
      simp only [headSize]
  · rw [ByteArray.getElem_append_right (by omega), dif_neg (by omega)]
    simp only [ByteArray.getElem_extract, leadSize]
    congr 1
    omega

end Bytes

/-! ## Blocks of a fixed length -/

/-- A run of exactly `n` bytes. -/
structure Block (n : Nat) where
  bytes : Bytes
  size_bytes : bytes.size = n

/-- The contents of one sector. -/
abbrev Sector := Block sectorSize

namespace Block

variable {n : Nat}

@[ext] theorem ext {a b : Block n} (same : a.bytes = b.bytes) : a = b := by
  cases a; cases b; cases same; rfl

instance : DecidableEq (Block n) := fun a b =>
  match ByteArray.instDecidableEq a.bytes b.bytes with
  | .isTrue same => .isTrue (ext same)
  | .isFalse differ => .isFalse fun equal => differ (congrArg bytes equal)

/-- The block whose byte `i` is `f i`. -/
def ofFn (f : Fin n → UInt8) : Block n :=
  ⟨⟨Array.ofFn f⟩, by simp [ByteArray.size]⟩

/-- All bytes zero. -/
def zero : Block n := ⟨Bytes.fill 0 n, Bytes.size_fill 0 n⟩

/-- Whether all bytes of a sector are zero. -/
def isZero (sector : Sector) : Bool := sector.bytes == (zero : Sector).bytes

instance : Inhabited (Block n) := ⟨zero⟩

/-- Byte `i` of a block. -/
def get (b : Block n) (i : Fin n) : UInt8 :=
  have bound : i.val < b.bytes.size := by rw [b.size_bytes]; exact i.isLt
  b.bytes[i.val]

@[simp] theorem get_ofFn (f : Fin n → UInt8) (i : Fin n) : (ofFn f).get i = f i := by
  simp [get, ofFn, ByteArray.getElem_eq_getElem_data]

@[simp] theorem get_zero (i : Fin n) : (zero : Block n).get i = 0 := by
  simp [get, zero, Bytes.fill, ByteArray.getElem_eq_getElem_data]

theorem ext_get {a b : Block n} (same : ∀ i, a.get i = b.get i) : a = b := by
  apply ext
  apply ByteArray.ext_getElem
  · rw [a.size_bytes, b.size_bytes]
  · intro i inside _
    exact same ⟨i, by rw [← a.size_bytes]; exact inside⟩

/-- `length` bytes of a block, from `start` on. -/
def slice (b : Block n) (start length : Nat) (fits : start + length ≤ n) : Block length :=
  ⟨Bytes.slice b.bytes start length, Bytes.size_slice _ (by rw [b.size_bytes]; exact fits)⟩

theorem get_slice (b : Block n) {start length : Nat} (fits : start + length ≤ n)
    (i : Fin length) : (b.slice start length fits).get i = b.get ⟨start + i, by omega⟩ :=
  Bytes.getElem_slice _ _ _

/-- A block with `patch` laid over it from `start` on. -/
def splice (b : Block n) (start : Nat) (patch : Bytes) (fits : start + patch.size ≤ n) :
    Block n :=
  ⟨Bytes.splice b.bytes start patch, by
    rw [Bytes.size_splice _ (by rw [b.size_bytes]; exact fits), b.size_bytes]⟩

theorem get_splice (b : Block n) {start : Nat} {patch : Bytes} (fits : start + patch.size ≤ n)
    (i : Fin n) : (b.splice start patch fits).get i =
      if covered : start ≤ i ∧ i < start + patch.size then patch[i - start] else b.get i :=
  Bytes.getElem_splice _ (by rw [b.size_bytes]; exact fits) _ _

/-- The block of a byte string that has the right length. -/
def ofBytes? (bytes : Bytes) : Option (Block n) :=
  if size_bytes : bytes.size = n then some ⟨bytes, size_bytes⟩ else none

end Block

/-! ## Sector numbers -/

/-- The number of a sector on a device. -/
structure SectorId where
  raw : UInt32
deriving DecidableEq, Inhabited

namespace SectorId

/-- The entry of a block map that holds no sector. Sector 0 always belongs to the inode of the
free map, so no file data and no index block can be there. -/
def unmapped : SectorId := ⟨0⟩

/-- Whether a block-map entry holds a sector. -/
def isAllocated (sector : SectorId) : Bool := sector.raw != 0

/-- The place of the sector on its device. -/
def index (sector : SectorId) : Nat := sector.raw.toNat

/-- The sector at a place; places count modulo 2^32. -/
def ofNat (index : Nat) : SectorId := ⟨UInt32.ofNat index⟩

theorem index_lt (sector : SectorId) : sector.index < 0x100000000 := sector.raw.toNat_lt

theorem index_ofNat {index : Nat} (small : index < 0x100000000) : (ofNat index).index = index := by
  show (UInt32.ofNat index).toNat = index
  rw [UInt32.toNat_ofNat']
  exact Nat.mod_eq_of_lt small

theorem index_injective {a b : SectorId} (same : a.index = b.index) : a = b := by
  cases a; cases b
  exact congrArg mk (UInt32.toNat_inj.mp same)

/-- How a sector number is written in messages. -/
def text (sector : SectorId) : String := s!"SectorId({sector.index})"

end SectorId

end InodeVolume
