import InodeVolume.Proofs.Files.First
import InodeVolume.Proofs.Volume.Beginning

/-!
# Volumes whose free map takes one sector

On a device of at most 4096 sectors the stored free map fits into one sector. What happens to its file is
told here exactly, and without asking whose that sector is otherwise.

* **opening** — `Files.openAt_new` and `Files.close_new`: an inode that nobody has open is listed and taken
  off the list again;
* **storing** — `storeFreeMap_new` reduces storing the free map to the write, and `storeFreeMap_bare` stores
  it in a file that has no sector yet;
* **taking up** — `restore_single`: the map that is taken up is whatever the first sector of the file holds.
-/

namespace InodeVolume

/-! ## Inodes that nobody has open -/

namespace InodeTable

variable {table : InodeTable} {sector other : SectorId}

/-- The table after an inode was opened and closed that nobody else has open. -/
def visited (sector : SectorId) (table : InodeTable) : InodeTable :=
  ((table.insert sector).2.update (table.insert sector).1 fun inode =>
    { inode with opens := inode.opens - 1 }).erase sector

theorem find?_visited : (table.visited sector).find? other = if other = sector then none else table.find? other := by
  rw [visited, find?_erase, find?_update, find?_insert]
  split <;> rfl

/-- Who has an inode open alone is the last to close it. -/
theorem leave_last {ref : InodeRef} (alone : (table.inode ref).openCount = 1) : (leave ref).Ensures table
    (fun last table' => last = some (table.inode ref) ∧ table' = table.update ref
      fun inode => { inode with opens := inode.opens - 1 }) fun _ _ => False := by
  unfold leave
  refine .bind (Action.ensures_get.mpr (.bind (Action.ensures_require.mpr ?_)))
  rw [alone, if_pos (decide_eq_true Nat.one_pos)]
  refine .bind (Action.ensures_modify.mpr (Action.ensures_pure.mpr ⟨?_, rfl⟩))
  exact if_neg (Nat.lt_irrefl 1)

theorem leave_insert : (leave (table.insert sector).1).Ensures (table.insert sector).2
    (fun last table' => last = some ⟨sector, 1, 0, false⟩ ∧ table' = (table.insert sector).2.update (table.insert sector).1
      fun inode => { inode with opens := inode.opens - 1 }) fun _ _ => False := by
  have told := @leave_last (table.insert sector).2 (table.insert sector).1 (by rw [inode_insert_self]; rfl)
  rw [inode_insert_self] at told
  exact told

theorem withdraw_ensures : (withdraw sector).Ensures table (fun _ table' => table' = table.erase sector) fun _ _ => False := by
  unfold withdraw
  exact .bind (Action.ensures_modify.mpr (Action.ensures_emit.mpr rfl))

end InodeTable

namespace Files

variable {array : PartialArray} {table : InodeTable} {space : FreeMap} {sector : SectorId}

theorem openAt_new (absent : table.find? sector = none) (known : sector ∈ array)
    (valid : (array.inode sector).isValid = true) :
    (openAt sector : SectorM (Files FreeMap) InodeRef).Ensures array ⟨table, space⟩
      (fun ref array' files' => array' = array ∧ ref = (table.insert sector).1 ∧ files' = ⟨(table.insert sector).2, space⟩)
      fun _ _ _ => False := by
  rw [openAt, ensures_inTable, InodeTable.openAt, SectorM.ensures_bind, SectorM.ensures_get]
  dsimp only
  rw [absent]
  dsimp only
  rw [SectorM.ensures_bind, DiskInode.ensures_load, SectorM.ensures_ite, if_pos valid, SectorM.ensures_bind,
    SectorM.ensures_modifyGet, SectorM.ensures_bind, SectorM.ensures_emit, SectorM.ensures_pure]
  exact ⟨known, rfl, rfl, rfl⟩

theorem close_new :
    (close (table.insert sector).1 : SectorM (Files FreeMap) Unit).Ensures array ⟨(table.insert sector).2, space⟩
      (fun _ array' files' => array' = array ∧ files' = ⟨table.visited sector, space⟩) fun _ _ _ => False := by
  unfold close
  rw [SectorM.ensures_bind, ensures_onTable]
  refine InodeTable.leave_insert.mono ?_ fun _ _ failed => failed
  rintro _ table' ⟨rfl, rfl⟩
  dsimp only
  rw [SectorM.ensures_bind, ensures_onTable]
  refine InodeTable.withdraw_ensures.mono ?_ fun _ _ failed => failed
  rintro _ _ rfl
  rw [SectorM.ensures_ite, if_neg Bool.false_ne_true, SectorM.ensures_pure]
  exact ⟨rfl, rfl⟩

/-! ## Files of one sector -/

/-- A file of `length` bytes, all of them in its first sector `data`. -/
structure Single (array : PartialArray) (file data : SectorId) (length : Nat) : Prop where
  known : file ∈ array
  valid : (array.inode file).isValid = true
  size : (array.inode file).size = length
  some_byte : 0 < length
  small : length ≤ sectorSize
  first : array.find (array.inode file) (.direct 0) = data
  allocated : data.isAllocated = true
  there : data ∈ array

namespace Single

variable {file data : SectorId} {length k : Nat} {files : Files FreeMap} {ref : InodeRef}

theorem ensures_ofOpen {σ : Type} {s : σ} (single : Single array file data length)
    {good : DiskInode → PartialArray → σ → Prop} {bad : Failure → PartialArray → σ → Prop} :
    (DiskInode.ofOpen file : SectorM σ DiskInode).Ensures array s good bad ↔ good (array.inode file) array s := by
  rw [DiskInode.ofOpen, SectorM.ensures_bind, DiskInode.ensures_load, and_iff_right single.known, SectorM.ensures_bind,
    SectorM.ensures_require, if_pos single.valid, SectorM.ensures_pure]

/-- The bytes of such a file are read from its sector. -/
theorem read (single : Single array file data length) (here : (files.table.inode ref).sector = file) {wanted : Nat}
    (some_byte : 0 < wanted) (inside : wanted ≤ length) :
    (Files.read ref 0 wanted : SectorM (Files FreeMap) Bytes).Ensures array files
      (fun bytes array' files' => array' = array ∧ files' = files ∧ bytes = Bytes.slice (array.get data).bytes 0 wanted)
      fun _ _ _ => False := by
  have allocated := single.allocated
  have there := single.there
  rw [← single.first] at allocated there
  unfold Files.read
  rw [SectorM.ensures_bind, ensures_inode, here, SectorM.ensures_bind, single.ensures_ofOpen, ← single.first]
  exact DiskInode.read_first allocated there some_byte (Nat.le_trans inside single.small)
    (by rw [single.size]; exact inside)

/-- Reading into a buffer reads the same bytes. -/
theorem readInto (single : Single array file data length) (here : (files.table.inode ref).sector = file) {buffer : Bytes}
    (some_byte : 0 < buffer.size) (inside : buffer.size ≤ length) :
    (Files.readInto ref buffer 0 : SectorM (Files FreeMap) (Nat × Bytes)).Ensures array files
      (fun told array' files' => array' = array ∧ files' = files ∧
        told = (buffer.size, Bytes.splice buffer 0 (Bytes.slice (array.get data).bytes 0 buffer.size)))
      fun _ _ _ => False := by
  have small := single.small
  have allocated := single.allocated
  have there := single.there
  rw [← single.first] at allocated there
  unfold Files.readInto
  rw [SectorM.ensures_bind, ensures_inode, here, SectorM.ensures_bind, single.ensures_ofOpen, DiskInode.readInto,
    SectorM.ensures_bind]
  refine (DiskInode.read_first allocated there some_byte (Nat.le_trans inside small)
    (by rw [single.size]; exact inside)).mono ?_ fun _ _ _ failed => failed
  rintro bytes array _ ⟨rfl, rfl, rfl⟩
  have size : (Bytes.slice (array.get (array.find (array.inode file) (.direct 0))).bytes 0 buffer.size).size = buffer.size := by
    refine Bytes.size_slice _ ?_
    rw [Block.size_bytes]
    omega
  rw [SectorM.ensures_pure, size, single.first]
  exact ⟨rfl, rfl, rfl⟩

/-- What is written over all of such a file goes to its sector. -/
theorem write (single : Single array file data length) (here : (files.table.inode ref).sector = file)
    (allowed : (files.table.inode ref).denyCount = 0) {source : Bytes} (all : source.size = length) :
    (Files.write ref source 0 : SectorM (Files FreeMap) Nat).Ensures array files
      (fun n array' files' => n = source.size ∧ files' = files ∧
        ∃ fits, array' = array.set data ((array.get data).splice 0 source fits))
      fun _ _ _ => False := by
  have size : sectorSize = 512 := rfl
  have some_byte : 0 < source.size := all ▸ single.some_byte
  have small : source.size ≤ sectorSize := all ▸ single.small
  have allocated := single.allocated
  have there := single.there
  rw [← single.first] at allocated there
  have proceeds : ¬(decide ((files.table.inode ref).denyCount > 0) || decide (source.size = 0)) = true := by
    rw [allowed, decide_eq_false (Nat.lt_irrefl 0), Bool.false_or, decide_eq_true_iff]
    exact Nat.ne_of_gt some_byte
  unfold Files.write
  rw [SectorM.ensures_bind, ensures_inode, SectorM.ensures_ite, if_neg proceeds]
  dsimp only
  rw [SectorM.ensures_ite, if_neg (by rw [wordLimit]; omega), SectorM.ensures_bind, here, single.ensures_ofOpen,
    SectorM.ensures_ite, if_neg (by rw [single.size]; omega), SectorM.ensures_bind, SectorM.ensures_pure, ← single.first]
  exact DiskInode.write_first allocated there some_byte small (single.size.trans all.symm)

end Single

end Files

namespace Volume

variable {array : PartialArray} {table : InodeTable} {space space' : FreeMap} {k : Nat}

/-! ## Making a file -/

/-- A file without sectors takes the lowest sector that is free, and no other is changed. -/
theorem create_first (found : space.firstClear? = some k) (has : array.Has (.ofNat k)) (isDir : Bool) :
    (create 0 isDir).Ensures array ⟨table, space⟩
      (fun sector array' volume' => sector = .ofNat k ∧ array' = array.set (.ofNat k) (DiskInode.empty isDir).encode ∧
        volume' = ⟨table, space.mark k⟩)
      fun _ _ _ => False := by
  unfold create
  rw [SectorM.ensures_bind, Files.ensures_onSpace]
  refine (FreeMap.allocate_first found).mono ?_ fun _ _ failed => failed
  rintro _ _ ⟨rfl, rfl⟩
  dsimp only
  rw [SectorM.ensures_bind, SectorM.ensures_attempt, Files.ensures_inSpace]
  refine (DiskInode.create_empty has isDir).mono ?_ fun _ _ _ failed => failed.elim
  rintro _ _ _ ⟨rfl, rfl⟩
  exact ⟨rfl, rfl, rfl⟩

/-! ## Storing the free map -/

/-- Storing the free map is a write to its file, which is opened for it. -/
theorem storeFreeMap_new (absent : table.find? freeMapSector = none) (known : freeMapSector ∈ array)
    (valid : (array.inode freeMapSector).isValid = true) {written : PartialArray → Prop}
    (write : (Files.write (table.insert freeMapSector).1 space.toBlock.bytes 0 : SectorM Volume Nat).Ensures array
      ⟨(table.insert freeMapSector).2, space⟩ (fun n array' volume' => n = space.toBlock.bytes.size ∧
        volume' = ⟨(table.insert freeMapSector).2, space'⟩ ∧ written array') fun _ _ _ => False) :
    storeFreeMap.Ensures array ⟨table, space⟩
      (fun _ array' volume' => volume' = ⟨table.visited freeMapSector, space'⟩ ∧ written array')
      fun _ _ _ => False := by
  unfold storeFreeMap
  rw [SectorM.ensures_bind]
  refine (Files.openAt_new absent known valid).mono ?_ fun _ _ _ failed => failed
  rintro _ _ _ ⟨rfl, rfl, rfl⟩
  rw [SectorM.ensures_bind, SectorM.ensures_get]
  dsimp only
  rw [SectorM.ensures_bind]
  refine write.mono ?_ fun _ _ _ failed => failed
  rintro _ array' _ ⟨rfl, rfl, done⟩
  rw [SectorM.ensures_bind]
  refine Files.close_new.mono ?_ fun _ _ _ failed => failed
  rintro _ _ _ ⟨rfl, rfl⟩
  rw [SectorM.ensures_require, if_pos (decide_eq_true rfl)]
  exact ⟨rfl, done⟩

/-- What is stored in a file of one sector goes to that sector. -/
theorem storeFreeMap_single (absent : table.find? freeMapSector = none) {data : SectorId} {length : Nat}
    (single : Files.Single array freeMapSector data length) (all : space.byteLength = length) :
    storeFreeMap.Ensures array ⟨table, space⟩
      (fun _ array' volume' => volume' = ⟨table.visited freeMapSector, space⟩ ∧
        ∃ fits, array' = array.set data ((array.get data).splice 0 space.toBlock.bytes fits))
      fun _ _ _ => False := by
  have opened : (table.insert freeMapSector).2.inode (table.insert freeMapSector).1 = ⟨freeMapSector, 1, 0, false⟩ :=
    InodeTable.inode_insert_self
  refine storeFreeMap_new absent single.known single.valid ?_
  exact single.write (by rw [opened]) (by rw [opened]; rfl) (space.toBlock.size_bytes.trans all)

/-- A file that has no sector yet gets the lowest that is free. The free map that is stored does not have it
marked. -/
theorem storeFreeMap_bare (absent : table.find? freeMapSector = none) (some_byte : 0 < space.byteLength)
    (small : space.byteLength ≤ sectorSize) (allocated : (SectorId.ofNat k).isAllocated = true)
    (bare : Files.Bare array ⟨(table.insert freeMapSector).2, space⟩ (table.insert freeMapSector).1 freeMapSector k) :
    storeFreeMap.Ensures array ⟨table, space⟩
      (fun _ array' volume' => volume' = ⟨table.visited freeMapSector, space.mark k⟩ ∧ ∃ fits, array' =
        (Files.withFirst array freeMapSector k space.byteLength).set (.ofNat k)
          (((Files.withFirst array freeMapSector k space.byteLength).get (.ofNat k)).splice 0 space.toBlock.bytes fits))
      fun _ _ _ => False := by
  have size : space.toBlock.bytes.size = space.byteLength := space.toBlock.size_bytes
  refine storeFreeMap_new absent bare.known bare.valid ?_
  refine (bare.write_first (by rw [size]; exact some_byte) (by rw [size]; exact small) allocated).mono ?_
    fun _ _ _ failed => failed
  rintro n array' _ ⟨rfl, rfl, fits, rfl⟩
  exact ⟨rfl, rfl, fits, by rw [size]⟩

/-! ## Laying out -/

theorem firstClear?_fixedMap {sectors : Nat} (room : 2 < sectors) : (fixedMap sectors).firstClear? = some 2 := by
  refine FreeMap.firstClear?_eq ?_ fun j low => (marked_fixedMap room j).mpr (.inr (by omega))
  refine Bool.eq_false_iff.mpr fun marked => ?_
  have := (marked_fixedMap room 2).mp marked
  omega

/-- The file of a small free map once both fixed inodes are there. -/
theorem single_fixed (room : 2 < array.count) {length : Nat} (some_byte : 0 < length) (small : length ≤ sectorSize) :
    Files.Single (((array.set (.ofNat 2) zeroSector).set freeMapSector ((DiskInode.empty false).withFirst 2 length).encode).set
      rootSector (DiskInode.empty true).encode) freeMapSector (.ofNat 2) length := by
  have has : ∀ k, k ≤ 2 → array.Has (.ofNat k) := by
    intro k low
    rw [PartialArray.Has, SectorId.index_ofNat (by omega)]
    omega
  have hasMap : (array.set (.ofNat 2) zeroSector).Has freeMapSector := PartialArray.has_set.mpr (has 0 (by decide))
  have hasRoot : ((array.set (.ofNat 2) zeroSector).set freeMapSector
      ((DiskInode.empty false).withFirst 2 length).encode).Has rootSector :=
    PartialArray.has_set.mpr (PartialArray.has_set.mpr (has 1 (by decide)))
  have inode : (((array.set (.ofNat 2) zeroSector).set freeMapSector
      ((DiskInode.empty false).withFirst 2 length).encode).set rootSector (DiskInode.empty true).encode).inode
      freeMapSector = (DiskInode.empty false).withFirst 2 length := by
    rw [PartialArray.inode, PartialArray.get_set_ne hasRoot (by decide), ← PartialArray.inode,
      PartialArray.inode_set_self hasMap]
  refine ⟨PartialArray.mem_set_of_mem hasRoot (PartialArray.mem_set_self hasMap), ?_, ?_, some_byte, small, ?_, by decide,
    PartialArray.mem_set_of_mem hasRoot (PartialArray.mem_set_of_mem hasMap (PartialArray.mem_set_self (has 2 (by decide))))⟩
  · rw [inode]
    rfl
  · rw [inode]
    exact DiskInode.size_withFirst small
  · rw [inode]
    exact DiskInode.find_withFirst

/-- Laying out a small volume leaves all but the first three sectors as they were. -/
theorem layOut_spares (room : 2 < array.count) (small : (fixedMap array.count).byteLength ≤ sectorSize) :
    layOut.Ensures array (blank array.count)
      (fun _ array' _ => ∀ sector : SectorId, 2 < sector.index → array'.get sector = array.get sector)
      fun _ _ _ => False := by
  have some_byte : 0 < (fixedMap array.count).byteLength := by
    rw [FreeMap.byteLength, sectors_fixedMap, groupCount, Group.bits, Group.bytes]
    omega
  have has : ∀ k, k ≤ 2 → array.Has (.ofNat k) := by
    intro k low
    rw [PartialArray.Has, SectorId.index_ofNat (by omega)]
    omega
  refine ensures_layOut room ?_
  rw [SectorM.ensures_bind, Files.ensures_inSpace]
  refine (DiskInode.create_first (has 0 (by decide)) some_byte small (firstClear?_fixedMap room) (has 2 (by decide))
    false).mono ?_ fun _ _ _ failed => failed
  rintro _ _ _ ⟨rfl, rfl⟩
  rw [SectorM.ensures_bind, Files.ensures_inSpace]
  have hasMap : (array.set (.ofNat 2) zeroSector).Has freeMapSector := PartialArray.has_set.mpr (has 0 (by decide))
  have hasRoot : ((array.set (.ofNat 2) zeroSector).set freeMapSector
      ((DiskInode.empty false).withFirst 2 (fixedMap array.count).byteLength).encode).Has rootSector :=
    PartialArray.has_set.mpr (PartialArray.has_set.mpr (has 1 (by decide)))
  refine (DiskInode.create_empty hasRoot true).mono ?_ fun _ _ _ failed => failed
  rintro _ _ _ ⟨rfl, rfl⟩
  have single := single_fixed room some_byte small
  have length : ((fixedMap array.count).mark 2).byteLength = (fixedMap array.count).byteLength := by
    rw [FreeMap.byteLength, FreeMap.byteLength, FreeMap.sectors_mark]
  rw [SectorM.ensures_bind, sync, SectorM.ensures_bind]
  refine (storeFreeMap_single rfl single length).mono ?_ fun _ _ _ failed => failed
  rintro _ _ _ ⟨rfl, fits, rfl⟩
  rw [SectorM.ensures_syncStore, SectorM.ensures_bind, SectorM.ensures_get, SectorM.ensures_emit]
  intro sector past
  have apart : ∀ k, k ≤ 2 → sector ≠ .ofNat k := by
    rintro k low rfl
    rw [SectorId.index_ofNat (by omega)] at past
    omega
  rw [PartialArray.get_set_ne (PartialArray.has_of_mem single.there) (apart 2 (by decide)),
    PartialArray.get_set_ne hasRoot (show sector ≠ rootSector from apart 1 (by decide)),
    PartialArray.get_set_ne hasMap (show sector ≠ freeMapSector from apart 0 (by decide)),
    PartialArray.get_set_ne (has 2 (by decide)) (apart 2 (by decide))]

/-! ## Taking up -/

/-- **The free map that is taken up** is what the first sector of its file holds, whatever that is. -/
theorem restore_single {count length : Nat} {data : SectorId} (single : Files.Single array freeMapSector data length)
    (some_byte : 0 < groupCount count * Group.bytes) (fits : 0 + groupCount count * Group.bytes ≤ sectorSize)
    (inside : groupCount count * Group.bytes ≤ length) :
    restore.Ensures array (blank count)
      (fun _ array' volume' => array' = array ∧ volume' = ⟨InodeTable.empty.visited freeMapSector,
        .ofBlock count ((array.get data).slice 0 (groupCount count * Group.bytes) fits)⟩)
      fun _ _ _ => False := by
  have opened : (InodeTable.empty.insert freeMapSector).2.inode (InodeTable.empty.insert freeMapSector).1 =
      ⟨freeMapSector, 1, 0, false⟩ := InodeTable.inode_insert_self
  unfold restore
  rw [SectorM.ensures_bind]
  refine (Files.openAt_new rfl single.known single.valid).mono ?_ fun _ _ _ failed => failed
  rintro _ array _ ⟨rfl, rfl, rfl⟩
  rw [SectorM.ensures_bind, SectorM.ensures_get]
  dsimp only
  rw [SectorM.ensures_bind]
  refine (single.read (by rw [opened]) some_byte inside).mono ?_ fun _ _ _ failed => failed
  rintro bytes array _ ⟨rfl, rfl, read⟩
  let block := (array.get data).slice 0 (groupCount count * Group.bytes) fits
  have block_bytes : bytes = block.bytes := read
  have size : bytes.size = (FreeMap.clear count).byteLength := block_bytes ▸ block.size_bytes
  rw [SectorM.ensures_bind]
  refine Files.close_new.mono ?_ fun _ _ _ failed => failed
  rintro _ _ _ ⟨rfl, rfl⟩
  rw [SectorM.ensures_ite, if_neg (not_not.mpr size), SectorM.ensures_bind, Files.ensures_onSpace, block_bytes]
  refine (FreeMap.load_block (FreeMap.clear count) block).mono ?_ fun _ _ failed => failed
  rintro _ _ rfl
  rw [SectorM.ensures_bind, SectorM.ensures_get, SectorM.ensures_emit]
  exact ⟨rfl, rfl⟩

end Volume

end InodeVolume
