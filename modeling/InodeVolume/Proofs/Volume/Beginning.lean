import InodeVolume.Proofs.Volume.Healthy

/-!
# Beginning

How a volume begins: laid out on a device that may hold anything, or taken up from one where its free
map was stored.

* **laying out** — `layOut_ensures`: a device of three sectors and more gets a healthy volume of two
  files, as long as the free map is not longer than a file can be;
* **taking up** — `restore_ensures`: the free map that was stored is read back, and no sector is written.
-/

namespace InodeVolume

namespace Volume

variable {array : PartialArray} {volume : Volume} {ledger : Ledger}

open LawfulAllocator (Sound limit Taken left)

/-- What callers know of a new volume. -/
def initialLedger : Ledger := ⟨[freeMapSector, rootSector], [], [], []⟩

/-- Nobody has anything open before the first file is opened. -/
theorem kept_empty (nobody : ledger.holders = []) : Kept .empty ledger := by
  refine ⟨fun holder => ?_, fun holder there => ?_, fun holder there => ?_⟩
  · rw [nobody]
    exact iff_of_false (fun found => by cases found) (fun there => by cases there)
  · rw [nobody] at there
    cases there
  · rw [nobody] at there
    cases there

/-! ## The first free map -/

/-- The most sectors whose free map is no longer than a file can be. -/
def maxVolumeSectors : Nat := maxFileSectors * sectorSize * 8

theorem addressed_iff {sectors : Nat} :
    dataSectors (groupCount sectors * Group.bytes) ≤ maxFileSectors ↔ sectors ≤ maxVolumeSectors := by
  have most : maxFileSectors = 16635 := rfl
  have size : sectorSize = 512 := rfl
  have bits : Group.bits = 64 := rfl
  have bytes : Group.bytes = 8 := rfl
  rw [maxVolumeSectors, dataSectors, groupCount, most, size, bits, bytes]
  omega

/-- The free map of a device on which only the sectors of the two fixed inodes are set aside. -/
def fixedMap (sectors : Nat) : FreeMap :=
  ((FreeMap.clear sectors).mark freeMapSector.index).mark rootSector.index

section FixedMap

variable {sectors : Nat}

@[simp] theorem sectors_fixedMap : (fixedMap sectors).sectors = sectors := by
  rw [fixedMap, FreeMap.sectors_mark, FreeMap.sectors_mark, FreeMap.clear]

theorem hasBit_freeMap (room : 2 < sectors) : (FreeMap.clear sectors).HasBit freeMapSector.index :=
  FreeMap.hasBit_of_lt (show 0 < sectors by omega)

theorem hasBit_root (room : 2 < sectors) :
    ((FreeMap.clear sectors).mark freeMapSector.index).HasBit rootSector.index :=
  FreeMap.hasBit_of_lt (by rw [FreeMap.sectors_mark]; exact (show 1 < sectors by omega))

theorem marked_fixedMap (room : 2 < sectors) (k : Nat) :
    (fixedMap sectors).marked k = true ↔ sectors ≤ k ∨ k = 0 ∨ k = 1 := by
  rw [fixedMap, FreeMap.marked_mark _ (hasBit_root room), FreeMap.marked_mark _ (hasBit_freeMap room),
    FreeMap.marked_clear]
  simp [or_assoc, show freeMapSector.index = 0 from rfl, show rootSector.index = 1 from rfl]

/-- Neither sector is set aside before its turn. -/
theorem clear_freeMap (room : 2 < sectors) : (FreeMap.clear sectors).marked freeMapSector.index = false := by
  rw [FreeMap.marked_clear]
  exact decide_eq_false (show ¬sectors ≤ 0 by omega)

theorem clear_root (room : 2 < sectors) :
    ((FreeMap.clear sectors).mark freeMapSector.index).marked rootSector.index = false := by
  have past : ¬sectors ≤ rootSector.index := show ¬sectors ≤ 1 by omega
  rw [FreeMap.marked_mark _ (hasBit_freeMap room), FreeMap.marked_clear, decide_eq_false past]
  rfl

theorem left_fixedMap (room : 2 < sectors) : left (fixedMap sectors) + 2 = sectors := by
  have first := FreeMap.clearCount_mark (show 0 < sectors by omega) (clear_freeMap room)
  have inside : rootSector.index < ((FreeMap.clear sectors).mark freeMapSector.index).sectors := by
    rw [FreeMap.sectors_mark]
    exact (show 1 < sectors by omega)
  have second := FreeMap.clearCount_mark inside (clear_root room)
  rw [FreeMap.clearCount_clear] at first
  have here : left (fixedMap sectors) = (fixedMap sectors).clearCount := rfl
  rw [here, fixedMap]
  omega

theorem sound_fixedMap (room : 2 < sectors) (addressed : sectors ≤ maxVolumeSectors) :
    Sound (fixedMap sectors) := by
  have most : maxVolumeSectors = 68136960 := rfl
  refine ⟨?_, (marked_fixedMap room 0).mpr (.inr (.inl rfl)), fun k past => ?_⟩
  · rw [sectors_fixedMap]
    omega
  · rw [sectors_fixedMap] at past
    exact (marked_fixedMap room k).mpr (.inl past)

/-- There is room for the free map's file on every device that is not too small. -/
theorem canGrow_fixedMap (array : PartialArray) (room : 2 < sectors) (addressed : sectors ≤ maxVolumeSectors) :
    Draft.CanGrow array ⟨.empty false, fixedMap sectors⟩ (fixedMap sectors).byteLength := by
  have direct : directCount = 123 := rfl
  have single : singleLimit = 251 := rfl
  have index : indexCount = 128 := rfl
  have size : sectorSize = 512 := rfl
  have bits : Group.bits = 64 := rfl
  have bytes : Group.bytes = 8 := rfl
  have free := left_fixedMap room
  have byteLength : (fixedMap sectors).byteLength = groupCount sectors * Group.bytes := by
    rw [FreeMap.byteLength, sectors_fixedMap]
  rw [byteLength]
  refine ⟨addressed_iff.mpr addressed, fun m _ _ => ?_⟩
  refine Nat.le_trans ?_ (Nat.le_add_right _ _)
  show sectorsFor _ ≤ left (fixedMap sectors)
  rw [sectorsFor, dataSectors, groupCount, direct, single, index, size, bits, bytes]
  split_ifs <;> omega

end FixedMap

/-! ## Laying out -/

/-- An inode that is too long for a block map is not made. -/
theorem create_beyond {file : SectorId} {space : FreeMap} {new : Nat} {isDir : Bool}
    (beyond : maxFileSectors < dataSectors new) (has : array.Has file) :
    (DiskInode.create file new isDir : SectorM FreeMap Unit).Ensures array space (fun _ _ _ => False)
      fun failure _ _ => failure = .reported .outOfRange := by
  have longer : ¬new ≤ (DiskInode.empty isDir).size := by
    intro short
    have none : new = 0 := Nat.le_zero.mp short
    rw [none] at beyond
    exact absurd beyond (by decide)
  unfold DiskInode.create Draft.grow
  simp only [SectorM.ensures_bind, Draft.ensures_edit, SectorM.ensures_attempt, SectorM.ensures_get,
    SectorM.ensures_ite, if_neg longer, if_pos (show dataSectors new > maxFileSectors from beyond),
    SectorM.ensures_emit, SectorM.ensures_report, DiskInode.ensures_store]
  exact ⟨has, trivial⟩

theorem reserve_ensures {map : FreeMap} {sector : SectorId} (inside : sector.index < map.sectors)
    (clear : map.marked sector.index = false) :
    (FreeMap.reserve sector).Ensures map (fun _ after => after = map.mark sector.index)
      fun _ _ => False := by
  unfold FreeMap.reserve FreeMap.requireBit
  refine .bind (.bind (Action.ensures_get.mpr ?_))
  rw [if_pos (FreeMap.hasBit_of_lt inside)]
  refine Action.ensures_pure.mpr (.bind (Action.ensures_get.mpr (.bind (Action.ensures_require.mpr ?_))))
  rw [clear, if_pos (show (!false) = true from rfl)]
  exact Action.ensures_modify.mpr rfl

/-- The free map's inode is made on its sector, and the root's sector stays set aside. -/
theorem makeMap_ensures (room : 2 < array.count) (addressed : array.count ≤ maxVolumeSectors) :
    (DiskInode.create freeMapSector (fixedMap array.count).byteLength false : SectorM FreeMap Unit).Ensures
      array (fixedMap array.count)
      (fun _ array' space' => Intact array' space' [freeMapSector] ∧ array.Spreads array' ∧
        (array'.inode freeMapSector).size = (fixedMap array.count).byteLength ∧
        (array'.inode freeMapSector).isDir = false ∧ Taken space' rootSector ∧
        ¬array'.Owns freeMapSector (array'.inode freeMapSector) rootSector ∧
        (∀ sector, array.Has sector → Taken space' sector →
          sector = rootSector ∨ array'.Owns freeMapSector (array'.inode freeMapSector) sector) ∧
        left (fixedMap array.count) = left space' + totalSectors (fixedMap array.count).byteLength)
      fun _ _ _ => False := by
  have nothing : Intact array (fixedMap array.count) [] :=
    ⟨⟨sectors_fixedMap, by simp, by simp, by simp⟩, sound_fixedMap room addressed⟩
  have has : array.Has freeMapSector := show 0 < array.count by omega
  have takenMap : Taken (fixedMap array.count) freeMapSector := (marked_fixedMap room 0).mpr (.inr (.inl rfl))
  have takenRoot : Taken (fixedMap array.count) rootSector := (marked_fixedMap room 1).mpr (.inr (.inr rfl))
  refine ((DiskInode.create_ensures nothing has takenMap (by simp) _ false).and
      (DiskInode.create_spends nothing has takenMap _ false)).mono ?_
    fun _ _ _ failed => failed.1.2.2.2 (canGrow_fixedMap array room addressed)
  rintro _ array' space' ⟨⟨stored, size, -⟩, spent⟩
  refine ⟨stored.intact _ (by simp), stored.spreads, size, ?_, (stored.taken rootSector).mpr (.inl takenRoot), ?_, ?_,
    spent⟩
  · rw [DiskInode.isDir, stored.flag]
    rfl
  · intro owns
    rcases stored.owned rootSector owns with before | free
    · rcases before with same | ⟨spot, holds, -⟩
      · cases same
      · exact PartialArray.not_holds_empty array false spot holds
    · exact free takenRoot
  · intro sector here taken
    rcases (stored.taken sector).mp taken with before | owns
    · rcases (marked_fixedMap room sector.index).mp before with past | zero | one
      · exact absurd here (Nat.not_lt.mpr past)
      · exact .inr (.inl (SectorId.index_injective zero))
      · exact .inl (SectorId.index_injective one)
    · exact .inr owns

/-- The root directory is made beside the free map's file. -/
theorem makeRoot_ensures {space : FreeMap} (intact : Intact array space [freeMapSector])
    (has : array.Has rootSector) (taken : Taken space rootSector)
    (alone : ¬array.Owns freeMapSector (array.inode freeMapSector) rootSector)
    (accounted : ∀ sector, array.Has sector → Taken space sector →
      sector = rootSector ∨ array.Owns freeMapSector (array.inode freeMapSector) sector) :
    (DiskInode.create rootSector 0 true : SectorM FreeMap Unit).Ensures array space
      (fun _ array' space' => Intact array' space' initialLedger.files ∧ array.Spreads array' ∧
        array'.inode freeMapSector = array.inode freeMapSector ∧ array'.inode rootSector = .empty true ∧
        Accounted array' space' initialLedger.files ∧ left space' = left space)
      fun _ _ _ => False := by
  refine ((DiskInode.create_ensures intact has taken ?_ 0 true).and
      (DiskInode.create_spends intact has taken 0 true)).mono ?_ fun _ _ _ failed => Nat.lt_irrefl 0 failed.1.2.2.1
  · intro other listed
    rw [List.mem_singleton.mp listed]
    exact alone
  rintro _ array' space' ⟨⟨stored, -, empty⟩, spent⟩
  have same := stored.others freeMapSector (List.mem_singleton.mpr rfl) (by decide)
  refine ⟨stored.intact _ ?_, stored.spreads, same.inode, empty rfl, ?_, spent.symm⟩
  · simp [initialLedger, or_comm]
  · intro sector here taken
    rcases (stored.taken sector).mp taken with before | owns
    · rcases accounted sector (stored.spreads.has.mp here) before with rfl | owns
      · exact ⟨rootSector, by simp [initialLedger], .inl rfl⟩
      · exact ⟨freeMapSector, List.mem_cons_self, same.owns_iff.mpr owns⟩
    · exact ⟨rootSector, by simp [initialLedger], owns⟩

/-- Both fixed sectors are set aside before anything is made. -/
theorem ensures_reserved (room : 2 < array.count) {α : Type} {rest : SectorM Volume α}
    {good : α → PartialArray → Volume → Prop} {bad : Failure → PartialArray → Volume → Prop}
    (made : rest.Ensures array ⟨.empty, fixedMap array.count⟩ good bad) :
    SectorM.Ensures (do
      SectorM.perform (Files.onSpace (FreeMap.reserve freeMapSector))
      SectorM.perform (Files.onSpace (FreeMap.reserve rootSector))
      rest) array (blank array.count) good bad := by
  have low : freeMapSector.index < (FreeMap.clear array.count).sectors := show 0 < array.count by omega
  have next : rootSector.index < ((FreeMap.clear array.count).mark freeMapSector.index).sectors := by
    rw [FreeMap.sectors_mark]
    exact (show 1 < array.count by omega)
  rw [SectorM.ensures_bind, Files.ensures_onSpace]
  refine (reserve_ensures low (clear_freeMap room)).mono ?_ fun _ _ failed => failed.elim
  rintro _ _ rfl
  rw [SectorM.ensures_bind, Files.ensures_onSpace]
  refine (reserve_ensures next (clear_root room)).mono ?_ fun _ _ failed => failed.elim
  rintro _ _ rfl
  exact made

theorem ensures_layOut (room : 2 < array.count) {good : Unit → PartialArray → Volume → Prop}
    {bad : Failure → PartialArray → Volume → Prop}
    (made : SectorM.Ensures (do
        Files.inSpace (DiskInode.create freeMapSector (fixedMap array.count).byteLength false)
        Files.inSpace (DiskInode.create rootSector 0 true)
        sync
        SectorM.emit (.formatted (← get).freeSectors) : SectorM Volume Unit)
      array ⟨.empty, fixedMap array.count⟩ good bad) :
    layOut.Ensures array (blank array.count) good bad := by
  refine ensures_reserved room ?_
  rw [SectorM.ensures_bind, SectorM.ensures_get]
  exact made

/-- What laying out does before the volume is synced. -/
def laying : SectorM Volume Unit := do
  SectorM.perform (Files.onSpace (FreeMap.reserve freeMapSector))
  SectorM.perform (Files.onSpace (FreeMap.reserve rootSector))
  let length := (← get).space.byteLength
  Files.inSpace (DiskInode.create freeMapSector length false)
  Files.inSpace (DiskInode.create rootSector 0 true)

theorem layOut_eq : layOut = laying >>= fun _ => sync >>= fun _ => get >>= fun volume =>
    SectorM.emit (.formatted volume.freeSectors) := by
  simp only [layOut, laying, bind_assoc]

/-- A new volume, of which all but the two inodes and what the free map is stored in is free. -/
structure LaidOut (array : PartialArray) (volume : Volume) : Prop where
  healthy : Healthy array volume initialLedger
  size : (array.inode freeMapSector).size = groupCount array.count * Group.bytes
  isDir : (array.inode freeMapSector).isDir = false
  root : array.inode rootSector = .empty true
  accounted : Accounted array volume.space initialLedger.files
  left : left volume.space + totalSectors (groupCount array.count * Group.bytes) + 2 = array.count

theorem laying_ensures (room : 2 < array.count) (addressed : array.count ≤ maxVolumeSectors) :
    laying.Ensures array (blank array.count) (fun _ array' volume' => array.Spreads array' ∧ LaidOut array' volume')
      fun _ _ _ => False := by
  have free := left_fixedMap room
  have length : (fixedMap array.count).byteLength = groupCount array.count * Group.bytes := by
    rw [FreeMap.byteLength, sectors_fixedMap]
  refine ensures_reserved room ?_
  rw [SectorM.ensures_bind, SectorM.ensures_get, SectorM.ensures_bind, Files.ensures_inSpace]
  refine (makeMap_ensures room addressed).mono ?_ fun _ _ _ failed => failed.elim
  rintro _ array₁ space₁ ⟨intact, spreads, size, isDir, taken, alone, accounted, spent⟩
  have has : array₁.Has rootSector := spreads.has.mpr (show 1 < array.count by omega)
  rw [Files.ensures_inSpace]
  refine (makeRoot_ensures intact has taken alone fun sector here =>
    accounted sector (spreads.has.mp here)).mono ?_ fun _ _ _ failed => failed.elim
  rintro _ array₂ space₂ ⟨intact₂, spreads₂, same, empty, accounted₂, kept⟩
  have both := spreads.trans spreads₂
  have sectors₂ : space₂.sectors = array.count := intact₂.limit.trans both.count
  have size₂ : (array₂.inode freeMapSector).size = groupCount array₂.count * Group.bytes := by
    rw [same, size, length, both.count]
  have healthy : Healthy array₂ ⟨.empty, space₂⟩ initialLedger := by
    refine ⟨⟨intact₂, kept_empty rfl, fun _ there => by cases there⟩,
      ⟨List.mem_cons_self, by simp [initialLedger]⟩, ?_⟩
    have bytes : space₂.byteLength = groupCount array.count * Group.bytes := by rw [FreeMap.byteLength, sectors₂]
    exact Nat.le_of_eq (by rw [size₂, both.count, bytes])
  refine ⟨both, healthy, size₂, by rw [same, isDir], empty, accounted₂, ?_⟩
  rw [both.count, kept, ← length]
  omega

/-- Storing its free map leaves a new volume as it is. -/
theorem LaidOut.store_ensures (laid : LaidOut array volume) :
    storeFreeMap.Ensures array volume
      (fun _ array' volume' => LaidOut array' volume' ∧
        Bytes.slice (array'.contents (array'.inode freeMapSector)) 0 volume'.space.byteLength =
          volume'.space.toBlock.bytes)
      fun _ _ _ => False := by
  have stores : ∀ failure, ¬MapRefused initialLedger failure := fun _ =>
    not_mapRefused (Ledger.not_crowded_of_nobody rfl) List.not_mem_nil
  refine (storeFreeMap_ensures laid.healthy).mono ?_ fun failure _ _ failed => stores failure failed.1
  rintro _ array' volume' ⟨healthy, space, spreads, sameMap, heldMap, stored, others, -⟩
  have sameRoot := others rootSector (by simp [initialLedger]) (by decide)
  have accounted : Accounted array' volume'.space initialLedger.files := by
    refine laid.accounted.mono spreads (fun sector => by rw [space]; exact id) ?_
    intro file listed sector owns
    rcases List.mem_cons.mp listed with rfl | there
    · rw [sameMap]
      exact (PartialArray.owns_congr heldMap).mpr owns
    · rw [List.mem_singleton.mp there] at owns ⊢
      exact sameRoot.owns_iff.mpr owns
  refine ⟨⟨healthy, ?_, ?_, ?_, accounted, ?_⟩, ?_⟩
  · rw [sameMap, spreads.count]
    exact laid.size
  · rw [sameMap]
    exact laid.isDir
  · rw [sameRoot.inode]
    exact laid.root
  · rw [space, spreads.count]
    exact laid.left
  · rw [sameMap, space]
    exact stored

/-- **Laying out** makes a healthy volume of a free map and an empty root directory. It fails only where
the free map would be longer than a file can be. -/
theorem layOut_ensures (fits : fitsOn array.count = true) :
    layOut.Ensures array (blank array.count)
      (fun _ array' volume' => array.count ≤ maxVolumeSectors ∧ Healthy array' volume' initialLedger ∧
        array'.inode rootSector = .empty true ∧ (array'.inode freeMapSector).isDir = false ∧ Accounted array' volume'.space initialLedger.files)
      fun failure _ _ => maxVolumeSectors < array.count ∧ failure = .reported .outOfRange := by
  have room : 2 < array.count := of_decide_eq_true fits
  by_cases addressed : array.count ≤ maxVolumeSectors
  · rw [layOut_eq, SectorM.ensures_bind]
    refine (laying_ensures room addressed).mono ?_ fun _ _ _ failed => failed.elim
    rintro _ array₁ volume₁ ⟨-, laid⟩
    rw [SectorM.ensures_bind, sync, SectorM.ensures_bind]
    refine laid.store_ensures.mono ?_ fun _ _ _ failed => failed.elim
    rintro _ array' volume' ⟨laid', -⟩
    rw [SectorM.ensures_syncStore, SectorM.ensures_bind, SectorM.ensures_get, SectorM.ensures_emit]
    exact ⟨addressed, laid'.healthy, laid'.root, laid'.isDir, laid'.accounted⟩
  · refine ensures_layOut room ?_
    rw [SectorM.ensures_bind, Files.ensures_inSpace]
    have beyond : maxFileSectors < dataSectors (fixedMap array.count).byteLength := by
      rw [FreeMap.byteLength, sectors_fixedMap]
      exact Nat.lt_of_not_le (addressed_iff.not.mpr addressed)
    have has : array.Has freeMapSector := show 0 < array.count by omega
    exact (create_beyond beyond has).mono (fun _ _ _ failed => failed.elim)
      fun failure _ _ why => ⟨Nat.lt_of_not_le addressed, why⟩

/-! ## Taking up -/

/-- **Restoring** takes up the volume whose free map is stored on the device. -/
theorem restore_ensures {map : FreeMap} {files : List SectorId} (intact : Intact array map files)
    (listed : freeMapSector ∈ files)
    (stored : Bytes.slice (array.contents (array.inode freeMapSector)) 0 map.byteLength = map.toBlock.bytes)
    (sectors : volume.space.sectors = map.sectors) (kept : Kept volume.table ledger)
    (quiet : ¬ledger.Crowded freeMapSector) (spared : freeMapSector ∉ ledger.doomed) :
    restore.Ensures array volume
      (fun _ array' volume' => array' = array ∧ volume'.space = map ∧ Kept volume'.table ledger)
      fun _ _ _ => False := by
  have whole := intact.whole freeMapSector listed
  have size : map.toBlock.bytes.size = map.byteLength := map.toBlock.size_bytes
  have needed : volume.space.byteLength = map.byteLength := by
    rw [FreeMap.byteLength, FreeMap.byteLength, sectors]
  unfold restore
  rw [SectorM.ensures_bind]
  unfold Files.openAt
  rw [Files.ensures_inTable]
  refine (InodeTable.openAt_ensures kept (intact.known freeMapSector listed) whole.valid
    fun doomed => absurd doomed spared).mono ?_ fun _ _ _ failed => quiet failed.2.1
  rintro ref array table ⟨rfl, kept₁⟩
  have minds := kept₁.minds ⟨freeMapSector, ref⟩ List.mem_cons_self
  have there : ((⟨table, volume.space⟩ : Volume).table.inode ref).sector = freeMapSector := minds.sector
  have kept₂ : Kept (⟨table, volume.space⟩ : Volume).table (ledger.opened ⟨freeMapSector, ref⟩) := kept₁
  rw [SectorM.ensures_bind, SectorM.ensures_get]
  dsimp only
  rw [needed, SectorM.ensures_bind]
  refine (Files.read_ensures intact listed there 0 map.byteLength).mono ?_ fun _ _ _ failed => failed
  rintro bytes array volume₁ ⟨rfl, rfl, rfl⟩
  rw [stored, SectorM.ensures_bind]
  refine (Files.close_spared kept₂ List.mem_cons_self spared).mono ?_ fun _ _ _ failed => failed
  rintro _ array volume₂ ⟨rfl, space, kept₃⟩
  rw [Ledger.closed_opened spared] at kept₃
  rw [SectorM.ensures_ite, if_neg (not_not.mpr size)]
  rw [SectorM.ensures_bind, Files.ensures_onSpace]
  refine (FreeMap.load_ensures ?_).mono ?_ fun _ _ failed => failed
  · rw [space]
    exact sectors
  · rintro _ after rfl
    rw [SectorM.ensures_bind, SectorM.ensures_get, SectorM.ensures_emit]
    exact ⟨rfl, rfl, kept₃⟩

end Volume

end InodeVolume
