import InodeVolume.Location

/-!
# Words of a sector

Inodes and index blocks are 128 words of 32 bits, each stored lowest byte first. `decode` and
`encode` are inverse to each other (`decode_encode`, `encode_decode`): every sector is the image
of its words, and every choice of words fills a sector.
-/

namespace InodeVolume

/-- The words of a sector. -/
abbrev Words := Vector UInt32 indexCount

namespace Words

/-- Bytes in a word. -/
def wordSize : Nat := 4

/-- Byte `j` of a word, the lowest first. -/
def byte (word : UInt32) (j : Nat) : UInt8 := (word >>> UInt32.ofNat (8 * j)).toUInt8

/-- The word made of four bytes, the lowest first. -/
def ofBytes (b : Block wordSize) : UInt32 :=
  (b.get ⟨0, by decide⟩).toUInt32 + (b.get ⟨1, by decide⟩).toUInt32 * 256 +
    (b.get ⟨2, by decide⟩).toUInt32 * 65536 + (b.get ⟨3, by decide⟩).toUInt32 * 16777216

/-- The words that a sector holds. -/
def decode (sector : Sector) : Words :=
  Vector.ofFn fun i => ofBytes (sector.slice (wordSize * i) wordSize (by
    have := i.isLt
    simp only [wordSize, sectorSize, indexCount] at *
    omega))

/-- The sector that holds the words. -/
def encode (words : Words) : Sector :=
  Block.ofFn fun i =>
    have bound : i.val / wordSize < indexCount := by
      have := i.isLt
      simp only [wordSize, sectorSize, indexCount] at *
      omega
    byte words[i.val / wordSize] (i % wordSize)

/-! ## One word and its bytes -/

theorem toNat_byte (word : UInt32) {j : Nat} (small : j < wordSize) :
    (byte word j).toNat = word.toNat >>> (8 * j) % 256 := by
  have amount : (UInt32.ofNat (8 * j)).toNat % 32 = 8 * j := by
    simp only [UInt32.toNat_ofNat', wordSize] at *
    omega
  rw [byte, UInt32.toNat_toUInt8, UInt32.toNat_shiftRight, amount]

theorem toNat_ofBytes (b : Block wordSize) :
    (ofBytes b).toNat = (b.get ⟨0, by decide⟩).toNat + (b.get ⟨1, by decide⟩).toNat * 256 +
      (b.get ⟨2, by decide⟩).toNat * 65536 + (b.get ⟨3, by decide⟩).toNat * 16777216 := by
  have h0 := (b.get ⟨0, by decide⟩).toNat_lt
  have h1 := (b.get ⟨1, by decide⟩).toNat_lt
  have h2 := (b.get ⟨2, by decide⟩).toNat_lt
  have h3 := (b.get ⟨3, by decide⟩).toNat_lt
  simp only [ofBytes, UInt32.toNat_add, UInt32.toNat_mul, UInt8.toNat_toUInt32,
    UInt32.reduceToNat, Nat.reducePow] at *
  omega

/-- A word is made of its bytes. -/
theorem ofBytes_eq {b : Block wordSize} {word : UInt32}
    (same : ∀ j : Fin wordSize, b.get j = byte word j) : ofBytes b = word := by
  have wide := word.toNat_lt
  apply UInt32.toNat_inj.mp
  rw [toNat_ofBytes, same, same, same, same, toNat_byte _ (by decide), toNat_byte _ (by decide),
    toNat_byte _ (by decide), toNat_byte _ (by decide)]
  simp only [Nat.reduceMul, Nat.shiftRight_eq_div_pow, Nat.reducePow]
  omega

/-- The bytes of a word are those it is made of. -/
theorem byte_ofBytes (b : Block wordSize) (j : Fin wordSize) : byte (ofBytes b) j = b.get j := by
  have h0 := (b.get ⟨0, by decide⟩).toNat_lt
  have h1 := (b.get ⟨1, by decide⟩).toNat_lt
  have h2 := (b.get ⟨2, by decide⟩).toNat_lt
  have h3 := (b.get ⟨3, by decide⟩).toNat_lt
  apply UInt8.toNat_inj.mp
  rw [toNat_byte _ j.isLt, toNat_ofBytes]
  match j with
  | ⟨0, _⟩ | ⟨1, _⟩ | ⟨2, _⟩ | ⟨3, _⟩ => simp only [Nat.reduceMul, Nat.shiftRight_eq_div_pow, Nat.reducePow]; omega

/-! ## Whole sectors -/

theorem decode_encode (words : Words) : decode (encode words) = words := by
  apply Vector.ext
  intro i inside
  simp only [decode, Vector.getElem_ofFn]
  apply ofBytes_eq
  intro j
  have low := j.isLt
  simp only [wordSize] at low
  have place : (wordSize * i + j.val) / wordSize = i := by simp only [wordSize]; omega
  have rest : (wordSize * i + j.val) % wordSize = j := by simp only [wordSize]; omega
  simp only [Block.get_slice, encode, Block.get_ofFn, place, rest]

theorem encode_decode (sector : Sector) : encode (decode sector) = sector := by
  apply Block.ext_get
  intro i
  have low : i.val % wordSize < wordSize := Nat.mod_lt _ (by decide)
  simp only [encode, decode, Block.get_ofFn, Vector.getElem_ofFn]
  rw [byte_ofBytes _ ⟨i.val % wordSize, low⟩, Block.get_slice]
  congr 1
  exact Fin.ext (Nat.div_add_mod i.val wordSize)

end Words

end InodeVolume
