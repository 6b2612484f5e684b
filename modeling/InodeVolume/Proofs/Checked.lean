import InodeVolume.Contents

/-!
# Arithmetic of words

Lengths, offsets and counts are words of 64 bits, and what is computed of them must be one, too. Here every
sum, difference and product is checked. None of the checks that counting, locating and cutting a range into
pieces would make can fail.
-/

namespace InodeVolume

namespace Checked

/-! ## Operations -/

/-- The sum of two words, if it is one. -/
def add? (a b : Nat) : Option Nat := if a + b < wordLimit then some (a + b) else none

/-- The difference of two words, if it is one. -/
def sub? (a b : Nat) : Option Nat := if b ≤ a then some (a - b) else none

/-- The product of two words, if it is one. -/
def mul? (a b : Nat) : Option Nat := if a * b < wordLimit then some (a * b) else none

/-- A quotient, rounded up. -/
def ceilDiv? (a b : Nat) : Option Nat := if a % b = 0 then some (a / b) else add? (a / b) 1

/-- The low 32 bits of a word, if they are all of it. -/
def narrow? (a : Nat) : Option UInt32 := if a < UInt32.size then some (.ofNat a) else none

/-! ## Counts and places -/

/-- `dataSectors`, step by step. -/
def dataSectors? (length : Nat) : Option Nat := ceilDiv? length sectorSize

/-- Adds the index block to `data` sectors of data. -/
def withSingle? (data : Nat) : Option Nat := if data > directCount then add? data 1 else some data

/-- Adds the outer index block, and those it names, to a count. -/
def withDouble? (data total : Nat) : Option Nat :=
  if data > singleLimit then do
    let inner ← ceilDiv? (← sub? data singleLimit) indexCount
    add? total (← add? 1 inner)
  else some total

/-- `totalSectors`, step by step. -/
def totalSectors? (length : Nat) : Option Nat := do
  let data ← dataSectors? length
  withDouble? data (← withSingle? data)

/-- `locate`, step by step. -/
def locate? (offset : Nat) : Option Location :=
  let number := offset / sectorSize
  if number < directCount then return .direct number
  else if number < singleLimit then do return .indirect (← sub? number directCount)
  else if number < maxFileSectors then do
    let behind ← sub? number singleLimit
    return .doubleIndirect (behind / indexCount) (behind % indexCount)
  else return .outOfRange

/-- `pieceLength`, step by step, when `done` bytes of a range of `room` bytes are read and the next is at `offset`. -/
def pieceLength? (size offset room done : Nat) : Option Nat := do
  let asked ← sub? room done
  let sector ← sub? sectorSize (offset % sectorSize)
  let file ← sub? size offset
  return min (min asked sector) file

/-- The place of logical sector `index`, step by step from its first byte. -/
def place? (index : Nat) : Option Location := do
  let number := (← mul? index sectorSize) / sectorSize
  if number < directCount then return .direct number
  else if number < singleLimit then return .indirect (← sub? number directCount)
  else if number < maxFileSectors then
    let behind ← sub? number singleLimit
    return .doubleIndirect (behind / indexCount) (behind % indexCount)
  else return .outOfRange

/-! ## No check fails -/

variable {a b length index : Nat}

theorem add?_eq (small : a + b < wordLimit) : add? a b = some (a + b) := if_pos small

theorem sub?_eq (le : b ≤ a) : sub? a b = some (a - b) := if_pos le

theorem mul?_eq (small : a * b < wordLimit) : mul? a b = some (a * b) := if_pos small

theorem ceilDiv?_eq (small : a < wordLimit) (most : 1 < b) : ceilDiv? a b = some ((a + (b - 1)) / b) := by
  have limit : wordLimit = 18446744073709551616 := by decide
  have split := Nat.div_add_mod a b
  unfold ceilDiv?
  split
  · rename_i even
    congr 1
    refine (Nat.div_eq_of_lt_le ?_ ?_).symm
    · rw [Nat.mul_comm]
      omega
    · rw [Nat.mul_comm, Nat.mul_succ]
      omega
  · rename_i odd
    -- the quotient is at most half of a word, so one can be added to it
    have half : a / b ≤ a / 2 := Nat.div_le_div_left most (by decide)
    have low := Nat.mod_lt a (show 0 < b by omega)
    rw [add?_eq (by omega)]
    congr 1
    refine (Nat.div_eq_of_lt_le ?_ ?_).symm
    · rw [Nat.mul_comm, Nat.mul_succ]
      omega
    · rw [Nat.mul_comm, Nat.mul_succ, Nat.mul_succ]
      omega

theorem dataSectors?_eq (small : length < wordLimit) : dataSectors? length = some (dataSectors length) :=
  ceilDiv?_eq small (by decide)

theorem totalSectors?_eq (small : length < wordLimit) : totalSectors? length = some (totalSectors length) := by
  have limit : wordLimit = 18446744073709551616 := by decide
  have size : sectorSize = 512 := rfl
  have direct : directCount = 123 := rfl
  have single : singleLimit = 251 := rfl
  have index : indexCount = 128 := rfl
  -- a word over the size of a sector, which leaves room for all that is added
  have few : dataSectors length < 36028797018963969 := by
    rw [dataSectors, size]
    omega
  unfold totalSectors? totalSectors
  rw [dataSectors?_eq small]
  generalize dataSectors length = data at few
  have withSingle : withSingle? data = some (data + if data > directCount then 1 else 0) := by
    unfold withSingle?
    split
    · exact add?_eq (by omega)
    · rfl
  simp only [Option.bind_eq_bind, Option.bind_some, withSingle]
  unfold withDouble?
  split
  · rename_i past
    have inner : ceilDiv? (data - singleLimit) indexCount = some ((data - singleLimit + (indexCount - 1)) / indexCount) :=
      ceilDiv?_eq (by omega) (by decide)
    have few' : (data - singleLimit + (indexCount - 1)) / indexCount < 36028797018963969 := by
      rw [index]
      omega
    simp only [sub?_eq (Nat.le_of_lt past), Option.bind_eq_bind, Option.bind_some, inner]
    rw [add?_eq (by omega)]
    exact add?_eq (by split <;> omega)
  · rfl

theorem locate?_eq (offset : Nat) : locate? offset = some (locate offset) := by
  simp only [locate?, Option.bind_eq_bind, Option.pure_def, locate, Location.ofSectorIndex]
  generalize offset / sectorSize = number
  split
  · rfl
  split
  · rw [sub?_eq (by omega)]
    rfl
  split
  · rw [sub?_eq (by omega)]
    rfl
  · rfl

theorem place?_eq (small : index * sectorSize < wordLimit) : place? index = some (locate (index * sectorSize)) := by
  show (mul? index sectorSize).bind locate? = _
  rw [mul?_eq small, Option.bind_some, locate?_eq]

theorem pieceLength?_eq {size offset room done : Nat} (inside : offset < size) (begun : done ≤ room) :
    pieceLength? size offset room done = some (pieceLength size offset (room - done)) := by
  have low : offset % sectorSize ≤ sectorSize := Nat.le_of_lt (Nat.mod_lt _ (by decide))
  rw [pieceLength?, sub?_eq begun, sub?_eq low, sub?_eq (Nat.le_of_lt inside)]
  rfl

theorem narrow?_eq (addressed : dataSectors length ≤ maxFileSectors) :
    narrow? length = some (.ofNat length) ∧ (UInt32.ofNat length).toNat = length := by
  have size : sectorSize = 512 := rfl
  have most : maxFileSectors = 16635 := rfl
  have word : UInt32.size = 4294967296 := rfl
  rw [dataSectors, size] at addressed
  refine ⟨if_pos (by omega), ?_⟩
  rw [UInt32.toNat_ofNat']
  exact Nat.mod_eq_of_lt (by omega)

end Checked

end InodeVolume
