import InodeVolume.Proofs.Volume.SmallMap
import InodeVolume.Proofs.Volume.Unmapped

/-!
# Free maps that forget a sector

When the free map's file has been removed, the next file is made on sector 0, and the free map is stored in
that file. It has no sector yet, and the bytes to be stored are taken before it gets one: so the stored map
does not have that sector marked, and once it is taken up again the sector is handed out a second time.

* **up to the shutdown** — `cleared_ensures`, `remade_ensures` and `forgets_ensures`;
* **after the next mount** — `reuses_ensures`: the sector of the free map's file becomes an inode's;
* **forging** — `forges_ensures`: whoever writes to the first file writes that inode, and may have it lead
  to any sector.
-/

namespace InodeVolume

namespace Volume

variable {array : PartialArray} {volume : Volume} {n : Nat}

open LawfulAllocator (Taken)

/-! ## Up to the shutdown -/

/-- Nothing is left of a new volume but its root directory. -/
structure Cleared (array : PartialArray) (volume : Volume) (n : Nat) : Prop where
  room : 2 < n
  count : array.count = n
  known : freeMapSector ∈ array
  sectors : volume.space.sectors = n
  marked : ∀ k, volume.space.marked k = true ↔ n ≤ k ∨ k = 1
  unlisted : volume.table.find? freeMapSector = none

/-- Removing the free map's file frees all sectors but the root directory's. -/
theorem cleared_ensures (room : 2 < array.count) (healthy : Healthy array volume initialLedger)
    (root : array.inode rootSector = .empty true)
    (accounted : Accounted array volume.space initialLedger.files) :
    (remove freeMapSector).Ensures array volume
      (fun _ array' volume' => array' = array ∧ Cleared array volume' array.count) fun _ _ _ => False := by
  have intact := healthy.sane.intact
  refine (remove_tended healthy.sane.tended healthy.live.1 fun doomed => absurd doomed healthy.live.2).mono ?_
    fun _ _ _ failed => Ledger.not_crowded_of_nobody rfl failed.2.1
  rintro _ array volume' ⟨rfl, tended, removed⟩
  have freed := removed.last (by simp [initialLedger])
  have sectors : volume'.space.sectors = array.count := tended.parted.limit
  rw [removed_freeMap] at tended
  have whole := intact.whole freeMapSector healthy.live.1
  have rootTaken := (tended.parted.whole rootSector (List.mem_singleton.mpr rfl)).taken
  refine ⟨rfl, room, rfl, intact.known freeMapSector healthy.live.1, sectors, fun k => ?_, ?_⟩
  · by_cases bit : volume'.space.HasBit k
    swap
    · exact iff_of_true (dif_neg bit) (.inl (Nat.le_of_not_lt fun inside => bit (FreeMap.hasBit_of_lt (sectors ▸ inside))))
    have small : k < 2 ^ 32 := by
      have most : volume'.space.sectors ≤ 2 ^ 32 := sectors.trans intact.limit.symm ▸ intact.sound.small
      have bits : Group.bits = 64 := rfl
      rw [FreeMap.HasBit, groupCount, bits] at bit
      omega
    obtain ⟨sector, rfl⟩ : ∃ sector : SectorId, sector.index = k := ⟨.ofNat k, SectorId.index_ofNat small⟩
    refine (freed sector).trans ⟨?_, ?_⟩
    · rintro ⟨taken, other⟩
      by_cases past : array.count ≤ sector.index
      · exact .inl past
      obtain ⟨file, listed, owns⟩ := accounted sector (Nat.lt_of_not_le past) taken
      rcases List.mem_cons.mp listed with rfl | last
      · exact absurd owns other
      rw [List.mem_singleton.mp last, root] at owns
      rcases owns with rfl | ⟨spot, holds, -⟩
      · exact .inr rfl
      · exact absurd holds (PartialArray.not_holds_empty array true spot)
    · rintro (past | one)
      · exact ⟨intact.sound.tail _ (Nat.le_trans (Nat.le_of_eq intact.limit) past), fun owns => Nat.not_lt.mpr past (whole.has_of_owns owns)⟩
      · obtain rfl : sector = rootSector := SectorId.index_injective one
        exact (freed rootSector).mp rootTaken
  · have unlisted : ∀ ref, volume'.table.find? freeMapSector ≠ some ref := by
      intro ref found
      have := (tended.kept.listed ⟨freeMapSector, ref⟩).mp found
      cases this
    exact Option.eq_none_iff_forall_ne_some.mpr unlisted

/-- The free map's sector holds a file without sectors, and besides it there is the root directory. -/
structure Remade (array : PartialArray) (volume : Volume) (n : Nat) : Prop where
  room : 2 < n
  count : array.count = n
  known : freeMapSector ∈ array
  inode : array.inode freeMapSector = .empty false
  space : volume.space = fixedMap n
  unlisted : volume.table.find? freeMapSector = none

/-- The next file is made on sector 0. -/
theorem remade_ensures (cleared : Cleared array volume n) :
    (create 0 false).Ensures array volume
      (fun sector array' volume' => sector = freeMapSector ∧ Remade array' volume' n ∧
        ∀ other, other ≠ freeMapSector → array'.get other = array.get other) fun _ _ _ => False := by
  obtain ⟨table, space⟩ := volume
  have room := cleared.room
  have clear : space.marked 0 = false := by
    refine Bool.eq_false_iff.mpr fun marked => ?_
    have := (cleared.marked 0).mp marked
    omega
  have found : space.firstClear? = some 0 := FreeMap.firstClear?_eq clear fun j low => absurd low (Nat.not_lt_zero j)
  have has : array.Has freeMapSector := PartialArray.has_of_mem cleared.known
  refine (create_first found has false).mono ?_ fun _ _ _ failed => failed
  rintro _ _ _ ⟨rfl, rfl, rfl⟩
  refine ⟨rfl, ⟨room, PartialArray.count_set.trans cleared.count, PartialArray.mem_set_self has,
    PartialArray.inode_set_self has _, ?_, cleared.unlisted⟩, fun other apart => PartialArray.get_set_ne has apart⟩
  refine FreeMap.ext_marked ?_ fun k _ => ?_
  · rw [FreeMap.sectors_mark, sectors_fixedMap, cleared.sectors]
  · rw [Bool.eq_iff_iff, FreeMap.marked_mark _ (FreeMap.hasBit_of_clear clear), marked_fixedMap room, Bool.or_eq_true,
      cleared.marked, decide_eq_true_iff]
    omega

/-- A map is read back from its bytes. -/
theorem ofBlock_of_bytes {map : FreeMap} (sectors : map.sectors = n) {block : Block (groupCount n * Group.bytes)}
    (same : block.bytes = map.toBlock.bytes) : FreeMap.ofBlock n block = map := by
  subst sectors
  have equal : block = map.toBlock := Block.ext same
  rw [equal, FreeMap.ofBlock_toBlock]

/-- A device whose stored free map has only the fixed sectors marked, although sector 2 is where it is stored. -/
structure Forgetful (array : PartialArray) (n : Nat) : Prop where
  room : 2 < n
  count : array.count = n
  small : 0 + groupCount n * Group.bytes ≤ sectorSize
  single : Files.Single array freeMapSector (.ofNat 2) (groupCount n * Group.bytes)
  stored : FreeMap.ofBlock n ((array.get (.ofNat 2)).slice 0 (groupCount n * Group.bytes) small) = fixedMap n

/-- The free map is stored without the sector that its file gets meanwhile. -/
theorem forgets_ensures (remade : Remade array volume n) (small : groupCount n * Group.bytes ≤ sectorSize) :
    storeFreeMap.Ensures array volume
      (fun _ array' _ => Forgetful array' n ∧ ∀ other : SectorId, 2 < other.index → array'.get other = array.get other)
      fun _ _ _ => False := by
  obtain ⟨table, space⟩ := volume
  obtain rfl : space = fixedMap n := remade.space
  have room := remade.room
  have length : (fixedMap n).byteLength = groupCount n * Group.bytes := by rw [FreeMap.byteLength, sectors_fixedMap]
  have some_byte : 0 < (fixedMap n).byteLength := by
    rw [length, groupCount, Group.bits, Group.bytes]
    omega
  have opened : (table.insert freeMapSector).2.inode (table.insert freeMapSector).1 = ⟨freeMapSector, 1, 0, false⟩ :=
    InodeTable.inode_insert_self
  have has : array.Has (.ofNat 2) := by
    rw [PartialArray.Has, SectorId.index_ofNat (by decide), remade.count]
    exact room
  have bare : Files.Bare array ⟨(table.insert freeMapSector).2, fixedMap n⟩ (table.insert freeMapSector).1 freeMapSector 2 := by
    refine ⟨by rw [opened], by rw [opened]; rfl, remade.known, by rw [remade.inode]; rfl, by rw [remade.inode]; rfl, ?_,
      firstClear?_fixedMap room, has⟩
    rw [remade.inode]
    exact PartialArray.not_holds_empty array false _
  refine (storeFreeMap_bare remade.unlisted some_byte (length ▸ small) (by decide) bare).mono ?_ fun _ _ _ failed => failed
  rintro _ array' _ ⟨-, fits, written⟩
  have hasFile : (array.set (.ofNat 2) zeroSector).Has freeMapSector :=
    PartialArray.has_set.mpr (PartialArray.has_of_mem remade.known)
  have knownData : SectorId.ofNat 2 ∈ Files.withFirst array freeMapSector 2 (fixedMap n).byteLength :=
    PartialArray.mem_set_of_mem hasFile (PartialArray.mem_set_self has)
  have hasData := PartialArray.has_of_mem knownData
  have inode : array'.inode freeMapSector = (DiskInode.empty false).withFirst 2 (fixedMap n).byteLength := by
    rw [written, PartialArray.inode, PartialArray.get_set_ne hasData (by decide), ← PartialArray.inode, Files.withFirst,
      PartialArray.inode_set_self hasFile, remade.inode]
  refine ⟨⟨room, ?_, (Nat.zero_add _).symm ▸ small, ⟨?_, ?_, ?_, ?_, small, ?_, by decide, ?_⟩, ?_⟩, ?_⟩
  · rw [written, PartialArray.count_set, Files.withFirst, PartialArray.count_set, PartialArray.count_set, remade.count]
  · rw [written]
    exact PartialArray.mem_set_of_mem hasData (PartialArray.mem_set_self hasFile)
  · rw [inode]
    rfl
  · rw [inode, ← length]
    exact DiskInode.size_withFirst (length ▸ small)
  · rw [← length]
    exact some_byte
  · rw [inode]
    exact DiskInode.find_withFirst
  · rw [written]
    exact PartialArray.mem_set_self hasData
  · refine ofBlock_of_bytes sectors_fixedMap ?_
    rw [written, PartialArray.get_set_self hasData]
    show Bytes.slice (Bytes.splice _ 0 (fixedMap n).toBlock.bytes) 0 _ = _
    have size : (fixedMap n).toBlock.bytes.size = groupCount n * Group.bytes := (Block.size_bytes _).trans length
    rw [← size]
    exact Bytes.slice_splice (Nat.le_trans fits (Nat.le_of_eq (Block.size_bytes _).symm))
  · intro other past
    have apart : ∀ k, k ≤ 2 → other ≠ .ofNat k := by
      rintro k low rfl
      rw [SectorId.index_ofNat (by omega)] at past
      omega
    rw [written, PartialArray.get_set_ne hasData (apart 2 (by decide)), Files.withFirst,
      PartialArray.get_set_ne hasFile (show other ≠ freeMapSector from apart 0 (by decide)),
      PartialArray.get_set_ne has (apart 2 (by decide))]

/-! ## After the next mount -/

/-- The map that is taken up does not have the sector marked. -/
theorem retakes_ensures (forgetful : Forgetful array n) :
    restore.Ensures array (blank n)
      (fun _ array' volume' => array' = array ∧ volume' = ⟨InodeTable.empty.visited freeMapSector, fixedMap n⟩)
      fun _ _ _ => False := by
  refine (restore_single forgetful.single forgetful.single.some_byte forgetful.small (Nat.le_refl _)).mono ?_
    fun _ _ _ failed => failed
  rintro _ _ _ ⟨rfl, rfl⟩
  exact ⟨rfl, by rw [forgetful.stored]⟩

/-- The sector of the free map's file holds an inode of its own. -/
structure Reused (array : PartialArray) (n : Nat) : Prop where
  room : 2 < n
  count : array.count = n
  single : Files.Single array freeMapSector (.ofNat 2) (groupCount n * Group.bytes)
  inode : array.get (.ofNat 2) = (DiskInode.empty false).encode

/-- The next file is made on that sector. -/
theorem reuses_ensures {table : InodeTable} (forgetful : Forgetful array n) :
    (create 0 false).Ensures array ⟨table, fixedMap n⟩
      (fun sector array' volume' => sector = .ofNat 2 ∧ Reused array' n ∧ volume' = ⟨table, (fixedMap n).mark 2⟩ ∧
        ∀ other : SectorId, 2 < other.index → array'.get other = array.get other) fun _ _ _ => False := by
  have single := forgetful.single
  have has := PartialArray.has_of_mem single.there
  refine (create_first (firstClear?_fixedMap forgetful.room) has false).mono ?_ fun _ _ _ failed => failed
  rintro _ array' _ ⟨rfl, written, rfl⟩
  have inode : array'.inode freeMapSector = array.inode freeMapSector := by
    rw [written, PartialArray.inode, PartialArray.get_set_ne has (by decide), ← PartialArray.inode]
  have known : ∀ {other}, other ∈ array → other ∈ array' := fun here => written ▸ PartialArray.mem_set_of_mem has here
  refine ⟨rfl, ⟨forgetful.room, ?_, ⟨known single.known, ?_, ?_, single.some_byte, single.small, ?_, single.allocated,
    known single.there⟩, ?_⟩, rfl, ?_⟩
  · rw [written, PartialArray.count_set, forgetful.count]
  · rw [inode, single.valid]
  · rw [inode, single.size]
  · rw [inode]
    exact single.first
  · rw [written, PartialArray.get_set_self has]
  · intro other past
    rw [written, PartialArray.get_set_ne has]
    rintro rfl
    exact absurd past (by decide)

/-! ## Forging -/

end Volume

/-- Words laid over the first ones of a sector leave the others as they are. -/
theorem Words.encode_splice {words patch : Words} {w : Nat} (same : ∀ i (inside : i < indexCount), w ≤ i → words[i] = patch[i])
    (whole : w ≤ indexCount) (fits : 0 + (Bytes.slice (encode patch).bytes 0 (wordSize * w)).size ≤ sectorSize) :
    (encode words).splice 0 (Bytes.slice (encode patch).bytes 0 (wordSize * w)) fits = encode patch := by
  have word : wordSize = 4 := rfl
  have index : indexCount = 128 := rfl
  have sector : sectorSize = 512 := rfl
  have size : (Bytes.slice (encode patch).bytes 0 (wordSize * w)).size = wordSize * w :=
    Bytes.size_slice _ (by rw [Block.size_bytes, word]; omega)
  apply Block.ext_get
  intro i
  have low := i.isLt
  rw [Block.get_splice]
  split
  · rw [Bytes.getElem_slice _ _ (by rw [Block.size_bytes]; omega)]
    simp only [Nat.zero_add, Nat.sub_zero]
    rfl
  · rename_i past
    rw [encode, encode, Block.get_ofFn, Block.get_ofFn]
    dsimp only
    rw [size, word] at past
    rw [same (i.val / wordSize) (by rw [word]; omega) (by rw [word]; omega)]

namespace Volume

/-- An inode that leads to one sector. -/
def forged (k : Nat) : DiskInode := (DiskInode.empty false).withFirst k sectorSize

theorem forged_splice {k w : Nat} (some : 4 ≤ w) (whole : w ≤ indexCount)
    (fits : 0 + (Bytes.slice (forged k).encode.bytes 0 (Words.wordSize * w)).size ≤ sectorSize) :
    (DiskInode.empty false).encode.splice 0 (Bytes.slice (forged k).encode.bytes 0 (Words.wordSize * w)) fits =
      (forged k).encode := by
  refine Words.encode_splice (fun i inside past => ?_) whole fits
  show (DiskInode.empty false).toWords.get ⟨i, inside⟩ = (forged k).toWords.get ⟨i, inside⟩
  simp only [DiskInode.get_toWords, if_neg (show ¬i = 0 by omega), if_neg (show ¬i = 1 by omega),
    if_neg (show ¬i = 2 by omega)]
  split
  · rename_i direct
    have other : (forged k).direct[i - 3] = (DiskInode.empty false).direct[i - 3] :=
      Vector.getElem_set_ne (by decide) direct (by omega)
    rw [other]
  · rfl

/-- Writing to the first file writes the inode of the second. -/
theorem forges_ensures {k w : Nat} (reused : Reused array n) (words : groupCount n * Group.bytes = Words.wordSize * w)
    (some_words : 4 ≤ w) {ref : InodeRef} (here : (volume.table.inode ref).sector = freeMapSector)
    (allowed : (volume.table.inode ref).denyCount = 0) {source : Bytes}
    (forges : source = Bytes.slice (forged k).encode.bytes 0 (Words.wordSize * w)) :
    (Files.write ref source 0 : SectorM Volume Nat).Ensures array volume
      (fun m array' volume' => m = Words.wordSize * w ∧ volume' = volume ∧
        array' = array.set (.ofNat 2) (forged k).encode)
      fun _ _ _ => False := by
  have single := reused.single
  have word : Words.wordSize = 4 := rfl
  have sector : sectorSize = 512 := rfl
  have index : indexCount = 128 := rfl
  have small := single.small
  have size : source.size = Words.wordSize * w := by
    rw [forges]
    exact Bytes.size_slice _ (by rw [Block.size_bytes]; omega)
  refine (single.write here allowed (size.trans words.symm)).mono ?_ fun _ _ _ failed => failed
  rintro m array' _ ⟨rfl, rfl, fits, rfl⟩
  refine ⟨size, rfl, ?_⟩
  subst forges
  rw [reused.inode, forged_splice some_words (by rw [words, word] at small; omega)]

/-- The second file leads then wherever that inode does. -/
theorem Reused.single_forged {k : Nat} (reused : Reused array n) (allocated : (SectorId.ofNat k).isAllocated = true)
    (known : SectorId.ofNat k ∈ array) :
    Files.Single (array.set (.ofNat 2) (forged k).encode) (.ofNat 2) (.ofNat k) sectorSize := by
  have has := PartialArray.has_of_mem reused.single.there
  have inode := PartialArray.inode_set_self has (forged k)
  refine ⟨PartialArray.mem_set_self has, ?_, ?_, by decide, Nat.le_refl _, ?_, allocated,
    PartialArray.mem_set_of_mem has known⟩
  · rw [inode]
    rfl
  · rw [inode]
    exact DiskInode.size_withFirst (Nat.le_refl _)
  · rw [inode]
    exact DiskInode.find_withFirst

end Volume

end InodeVolume
