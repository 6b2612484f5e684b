import InodeVolume.Proofs.Contents

/-!
# One file on an array of sectors

A file is an inode on a sector and all that its block map leads to. `Whole` says that a file is in
order; it speaks of an inode in memory, which may differ from the one that is stored.

* **ownership** — `array.Owns file inode` are the sectors of a file, and nothing else decides what
  the file is (`Same.of_owned`, `Whole.congr`);
* **growth** — a file that has grown is whole once its inode is stored, whether or not the growth
  reached its end, and has the bytes it had (`Whole.stored`).
-/

namespace InodeVolume

namespace PartialArray

variable {array array' array'' : PartialArray} {file sector : SectorId} {inode inode' : DiskInode}
  {Taken Taken' : SectorId → Prop}

/-! ## Ownership -/

/-- The sectors of a file: its inode's, and those that the block map leads to. -/
def Owns (array : PartialArray) (file : SectorId) (inode : DiskInode) (sector : SectorId) : Prop :=
  sector = file ∨ ∃ spot, array.Holds inode spot ∧ array.held inode spot = sector

/-- A file in order: its sectors are on the device, are taken and are all different, its block map is
a prefix that covers the length, and it holds zeros past its length. -/
structure Whole (array : PartialArray) (Taken : SectorId → Prop) (file : SectorId) (inode : DiskInode) :
    Prop where
  has : array.Has file
  taken : Taken file
  valid : inode.isValid = true
  tidy : array.Tidy inode Taken
  own : ∀ spot, array.Holds inode spot → array.held inode spot ≠ file
  mapped : ∃ m, array.Prefix inode m ∧ dataSectors inode.size ≤ m
  zeros : ∀ i, inode.size ≤ i → array.byteAt inode i = 0

theorem Whole.taken_of_owns (whole : array.Whole Taken file inode) (owns : array.Owns file inode sector) :
    Taken sector := by
  rcases owns with rfl | ⟨spot, holds, rfl⟩
  · exact whole.taken
  · exact whole.tidy.taken spot holds

theorem Whole.has_of_owns (whole : array.Whole Taken file inode) (owns : array.Owns file inode sector) :
    array.Has sector := by
  rcases owns with rfl | ⟨spot, holds, rfl⟩
  · exact whole.has
  · exact has_of_mem (whole.tidy.inside spot holds)

/-- Bytes past the end of a whole file are zero, whether or not a sector is there. -/
theorem Whole.byte_contents (whole : array.Whole Taken file inode) (i : Nat) :
    (array.contents inode).byte i = array.byteAt inode i := by
  rw [PartialArray.byte_contents]
  split
  · rfl
  · rename_i past
    exact (whole.zeros i (Nat.le_of_not_lt past)).symm

theorem owns_congr (held : array'.held inode' = array.held inode) :
    array'.Owns file inode' sector ↔ array.Owns file inode sector := by
  have holds : ∀ spot, array'.Holds inode' spot ↔ array.Holds inode spot :=
    fun spot => holds_congr (congrFun held spot)
  unfold Owns
  simp only [holds, held]

/-- What a file is does not depend on sectors of others. Its own must be known still. -/
theorem Whole.congr (whole : array.Whole Taken file inode) (count : array'.count = array.count)
    (held : array'.held inode = array.held inode) (bytes : array'.byteAt inode = array.byteAt inode)
    (kept : ∀ sector, array.Owns file inode sector → (sector ∈ array → sector ∈ array') ∧ Taken' sector) :
    array'.Whole Taken' file inode := by
  obtain ⟨m, mapped, covered⟩ := whole.mapped
  have holds : ∀ spot, array'.Holds inode spot ↔ array.Holds inode spot :=
    fun spot => holds_congr (congrFun held spot)
  have tidy : array'.Tidy inode Taken := whole.tidy.of_held held fun spot here =>
    (kept _ (.inr ⟨spot, here, rfl⟩)).1 (whole.tidy.inside spot here)
  have taken : ∀ sector, array.Owns file inode sector → Taken' sector := fun sector owns => (kept sector owns).2
  refine ⟨Nat.lt_of_lt_of_eq whole.has count.symm, taken file (.inl rfl), whole.valid, ?_, ?_,
    ⟨m, mapped.congr held, covered⟩, ?_⟩
  · refine ⟨tidy.inside, ?_, tidy.apart⟩
    intro spot here
    rw [held]
    exact taken _ (.inr ⟨spot, (holds spot).mp here, rfl⟩)
  · intro spot here
    rw [held]
    exact whole.own spot ((holds spot).mp here)
  · intro i past
    rw [bytes]
    exact whole.zeros i past

/-! ## The same file -/

/-- The file on a sector is the same in two arrays: inode, block map and bytes. -/
structure Same (array array' : PartialArray) (file : SectorId) : Prop where
  inode : array'.inode file = array.inode file
  held : array'.held (array.inode file) = array.held (array.inode file)
  bytes : array'.byteAt (array.inode file) = array.byteAt (array.inode file)

namespace Same

theorem refl (array : PartialArray) (file : SectorId) : Same array array file := ⟨rfl, rfl, rfl⟩

theorem trans (first : Same array array' file) (second : Same array' array'' file) :
    Same array array'' file := by
  have held := second.held
  have bytes := second.bytes
  rw [first.inode] at held bytes
  exact ⟨second.inode.trans first.inode, held.trans first.held, bytes.trans first.bytes⟩

/-- A file is what its own sectors hold. -/
theorem of_owned (same : ∀ sector, array.Owns file (array.inode file) sector →
    array'.get sector = array.get sector) : Same array array' file := by
  have held : array'.held (array.inode file) = array.held (array.inode file) :=
    held_congr fun spot _ holds => same _ (.inr ⟨spot, holds, rfl⟩)
  refine ⟨?_, held, byteAt_congr held fun place holds => same _ (.inr ⟨.data place, holds, rfl⟩)⟩
  rw [PartialArray.inode, same file (.inl rfl), PartialArray.inode]

theorem contents (same : Same array array' file) :
    array'.contents (array'.inode file) = array.contents (array.inode file) := by
  rw [same.inode, PartialArray.contents, same.bytes, PartialArray.contents]

theorem owns_iff (same : Same array array' file) :
    array'.Owns file (array'.inode file) sector ↔ array.Owns file (array.inode file) sector := by
  rw [same.inode]
  exact owns_congr same.held

end Same

/-! ## Inodes that are not stored -/

/-- The length and the flags are not part of the block map. -/
theorem byteAt_of_entries (direct : inode'.direct = inode.direct) (indirect : inode'.indirect = inode.indirect)
    (doubleIndirect : inode'.doubleIndirect = inode.doubleIndirect) :
    array.byteAt inode' = array.byteAt inode :=
  byteAt_congr (held_of_entries direct indirect doubleIndirect) fun _ _ => rfl

theorem held_empty (array : PartialArray) (isDir : Bool) (spot : Spot) :
    array.held (.empty isDir) spot = .unmapped := by
  cases spot with
  | data place =>
      cases place with
      | direct i =>
          show (Vector.replicate directCount SectorId.unmapped)[i]?.getD .unmapped = .unmapped
          by_cases low : i < directCount
          · rw [Vector.getElem?_eq_getElem low, Vector.getElem_replicate, Option.getD_some]
          · rw [Vector.getElem?_eq_none (Nat.le_of_not_lt low), Option.getD_none]
      | indirect i => rfl
      | doubleIndirect q i => rfl
      | outOfRange => rfl
  | single => rfl
  | outer => rfl
  | inner q => rfl

theorem not_holds_empty (array : PartialArray) (isDir : Bool) (spot : Spot) :
    ¬array.Holds (.empty isDir) spot := by
  rw [Holds, held_empty]
  exact Bool.false_ne_true

theorem byteAt_empty (array : PartialArray) (isDir : Bool) (i : Nat) :
    array.byteAt (.empty isDir) i = 0 := if_neg (not_holds_empty array isDir _)

/-- A new inode maps nothing. -/
theorem prefix_empty (array : PartialArray) (isDir : Bool) : array.Prefix (.empty isDir) 0 := by
  have nothing := not_holds_empty array isDir
  refine ⟨Nat.zero_le _, fun k => iff_of_false (nothing _) (Nat.not_lt_zero k), ?_, ?_, ?_, ?_⟩
  · exact iff_of_false (nothing _) (Nat.not_lt_zero _)
  · exact fun holds => absurd holds (nothing _)
  · exact fun past => absurd past (Nat.not_lt_zero _)
  · exact fun q => iff_of_false (nothing _) (Nat.not_lt_zero _)

/-- A new inode is whole on any sector that is taken. -/
theorem Whole.empty (has : array.Has file) (taken : Taken file) (isDir : Bool) :
    array.Whole Taken file (.empty isDir) := by
  have nothing := not_holds_empty array isDir
  refine ⟨has, taken, rfl, ⟨?_, ?_, ?_⟩, ?_, ⟨0, prefix_empty array isDir, show dataSectors 0 ≤ 0 by decide⟩,
    fun i _ => byteAt_empty array isDir i⟩
  · exact fun spot holds => absurd holds (nothing spot)
  · exact fun spot holds => absurd holds (nothing spot)
  · exact fun spot _ holds => absurd holds (nothing spot)
  · exact fun spot holds => absurd holds (nothing spot)

end PartialArray

/-! ## Files that have grown -/

section Growth

variable {A : Type} [Allocator A] [LawfulAllocator A] {array array' : PartialArray} {space : A}
  {draft' : Draft A} {file sector : SectorId} {inode inode' : DiskInode} {m m' : Nat}

open LawfulAllocator (Sound limit Taken)
open Draft (Grown Ready)

/-- A whole file can be worked on. -/
theorem PartialArray.Whole.ready (whole : array.Whole (Taken space) file inode) (sound : Sound space)
    (limit : LawfulAllocator.limit space ≤ array.count) (mapped : array.Prefix inode m) :
    Ready array ⟨inode, space⟩ m := ⟨sound, limit, whole.tidy, mapped⟩

namespace Draft

/-- A growth adds zeros to what reads as zeros. -/
theorem Grown.byteAt (ready : Ready array ⟨inode, space⟩ m) (grown : Grown array ⟨inode, space⟩ array' draft') :
    array'.byteAt draft'.inode = array.byteAt inode := by
  funext i
  unfold PartialArray.byteAt
  by_cases before : array.Holds inode (.data (locate i))
  · have same : array'.held draft'.inode (.data (locate i)) = array.held inode (.data (locate i)) :=
      grown.kept _ before
    rw [if_pos (grown.holds before), if_pos before, same, grown.frame _ (ready.tidy.taken _ before)]
    intro spot index holds equal
    have clash := ready.tidy.apart spot _ holds equal
    rw [clash] at index
    exact index
  · rw [if_neg before]
    split
    · rename_i after
      rcases grown.zeros _ after with early | zero
      · exact absurd early before
      · rw [zero, zeroSector, Block.zero, Bytes.byte_fill, if_pos (Nat.mod_lt i (by decide))]
    · rfl

/-- A sector of a grown file was its own before, or was free. -/
theorem Grown.owns (grown : Grown array ⟨inode, space⟩ array' draft')
    (owns : array'.Owns file draft'.inode sector) : array.Owns file inode sector ∨ ¬Taken space sector := by
  rcases owns with same | ⟨spot, holds, rfl⟩
  · exact .inl (.inl same)
  · rcases grown.fresh spot holds with before | free
    · exact .inl (.inr ⟨spot, before, (grown.kept spot before).symm⟩)
    · exact .inr free

end Draft

/-- **Storing a grown file.** The file is whole with all that was mapped, and reads as before: with
its old length after a growth that failed, with zeros up to the new one after a growth that did
not. -/
theorem PartialArray.Whole.stored (whole : array.Whole (Taken space) file inode)
    (ready : Ready array ⟨inode, space⟩ m) (grown : Grown array ⟨inode, space⟩ array' draft')
    (ready' : Ready array' draft' m') (direct : inode'.direct = draft'.inode.direct)
    (indirect : inode'.indirect = draft'.inode.indirect)
    (doubleIndirect : inode'.doubleIndirect = draft'.inode.doubleIndirect)
    (magic : inode'.magic = inode.magic) (covered : dataSectors inode'.size ≤ m')
    (longer : inode.size ≤ inode'.size) :
    (array'.set file inode'.encode).Whole (Taken draft'.space) file inode' ∧
      (array'.set file inode'.encode).held inode' = array'.held draft'.inode ∧
      (array'.set file inode'.encode).byteAt inode' = array.byteAt inode := by
  have has : array'.Has file := grown.spreads.has.mpr whole.has
  have own : ∀ spot, array'.Holds draft'.inode spot → array'.held draft'.inode spot ≠ file := by
    intro spot holds
    rcases grown.fresh spot holds with before | free
    · rw [grown.kept spot before]
      exact whole.own spot before
    · exact fun same => free (same ▸ whole.taken)
  have others : ∀ spot, array'.Holds draft'.inode spot →
      (array'.set file inode'.encode).get (array'.held draft'.inode spot) =
        array'.get (array'.held draft'.inode spot) :=
    fun spot holds => PartialArray.get_set_ne has (own spot holds)
  have held : (array'.set file inode'.encode).held inode' = array'.held draft'.inode := by
    rw [PartialArray.held_of_entries direct indirect doubleIndirect]
    exact PartialArray.held_congr fun spot _ holds => others spot holds
  have bytes : (array'.set file inode'.encode).byteAt inode' = array.byteAt inode := by
    rw [PartialArray.byteAt_congr held fun place holds => others (.data place) holds]
    exact grown.byteAt ready
  have holds : ∀ spot, (array'.set file inode'.encode).Holds inode' spot ↔ array'.Holds draft'.inode spot :=
    fun spot => PartialArray.holds_congr (congrFun held spot)
  refine ⟨⟨?_, ?_, ?_, ready'.tidy.congr held (.set has), ?_, ⟨m', ready'.mapped.congr held, covered⟩,
    ?_⟩, held, bytes⟩
  · exact PartialArray.has_set.mpr has
  · exact (grown.taken file).mpr (.inl whole.taken)
  · have valid := whole.valid
    rw [DiskInode.isValid] at valid ⊢
    rw [magic]
    exact valid
  · intro spot here
    rw [held]
    exact own spot ((holds spot).mp here)
  · intro i past
    rw [bytes]
    exact whole.zeros i (Nat.le_trans longer past)

end Growth

end InodeVolume
