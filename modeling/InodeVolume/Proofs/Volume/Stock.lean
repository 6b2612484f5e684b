import InodeVolume.Proofs.Volume.Formatting

/-!
# Files that are put on a volume

A `Stock` lists the files that were put on a volume since it was laid out, by the sectors of their inodes, with the
bytes they hold. A volume is in `Service` with a stock while its files are those of the stock and the two fixed ones,
and every sector that is taken belongs to one of them.

* **books** — `Stocked`, and `Stocked.map_eq`: where nothing is in stock any more the free map is the one that the
  volume began with;
* **putting** — `create_serves` and `write_serves`: a new file holds the bytes that are put into it, or nothing where
  there is not room for all of them (`Stock.kept`);
* **taking out** — `read_serves` and `remove_serves`;
* **devices** — `Laden`: what a volume leaves on its device at the end, and is taken up from.
-/

namespace InodeVolume

/-- Files by the sectors of their inodes, with the bytes they hold, the latest first. -/
abbrev Stock := List (SectorId × Bytes)

namespace Stock

/-- The files of a volume with a stock. -/
def files (stock : Stock) : List SectorId := stock.map Prod.fst ++ [freeMapSector, rootSector]

/-- What is known of a volume with a stock while some have files open. -/
def ledger (stock : Stock) (holders : List Holder) : Ledger := ⟨stock.files, [], [], holders⟩

/-- The stock once a file was removed. -/
def without (stock : Stock) (sector : SectorId) : Stock := stock.filter (·.1 ≠ sector)

/-- What is in a file that these bytes are put into where so many sectors are free, one of them for its inode. -/
def kept (free : Nat) (data : Bytes) : Bytes :=
  if data.size ≤ maxFileSectors * sectorSize ∧ 1 + totalSectors data.size ≤ free then data else .empty

variable {stock : Stock} {sector : SectorId}

theorem files_cons (sector : SectorId) (bytes : Bytes) (stock : Stock) :
    files ((sector, bytes) :: stock) = sector :: stock.files := rfl

theorem mem_files : sector ∈ stock.files ↔ sector ∈ stock.map Prod.fst ∨ sector = freeMapSector ∨ sector = rootSector := by
  simp [files]

theorem mem_files_of_mem {entry : SectorId × Bytes} (listed : entry ∈ stock) : entry.1 ∈ stock.files :=
  mem_files.mpr (.inl (List.mem_map_of_mem listed))

theorem freeMap_mem : freeMapSector ∈ stock.files := mem_files.mpr (.inr (.inl rfl))

/-- The two fixed files are not in stock. -/
theorem ne_freeMap (once : stock.files.Nodup) (listed : sector ∈ stock.map Prod.fst) : sector ≠ freeMapSector :=
  fun same => (List.nodup_append.mp once).2.2 sector listed freeMapSector List.mem_cons_self same

theorem ne_root (once : stock.files.Nodup) (listed : sector ∈ stock.map Prod.fst) : sector ≠ rootSector :=
  fun same => (List.nodup_append.mp once).2.2 sector listed rootSector (List.mem_cons_of_mem _ List.mem_cons_self) same

/-- The latest file is no other. -/
theorem ne_head {bytes : Bytes} {file : SectorId} (once : files ((sector, bytes) :: stock) |>.Nodup)
    (listed : file ∈ stock.files) : file ≠ sector :=
  fun same => (List.nodup_cons.mp once).1 (same ▸ listed)

theorem files_without (once : stock.files.Nodup) (listed : sector ∈ stock.map Prod.fst) :
    (stock.without sector).files = stock.files.filter (· ≠ sector) := by
  have first : freeMapSector ≠ sector := (ne_freeMap once listed).symm
  have second : rootSector ≠ sector := (ne_root once listed).symm
  have fixed : [freeMapSector, rootSector].filter (· ≠ sector) = [freeMapSector, rootSector] := by
    simp [first, second]
  rw [files, files, List.filter_append, fixed, List.filter_map]
  rfl

/-- Removing a file that nobody has open takes it out of stock. -/
theorem ledger_removed (once : stock.files.Nodup) (listed : sector ∈ stock.map Prod.fst) :
    (stock.ledger []).removed sector = (stock.without sector).ledger [] := by
  rw [Ledger.removed, if_neg (by simp [ledger]), ledger, ledger, files_without once listed]
  rfl

end Stock

open LawfulAllocator (Sound Taken left)
open PartialArray (Same)

variable {base map map' : FreeMap} {stock : Stock} {array array' : PartialArray} {sector : SectorId} {bytes data : Bytes}

/-! ## Books -/

/-- The free map of an empty volume has taken what the two fixed files own, which is the same ever since. -/
structure Founded (base : FreeMap) (array : PartialArray) : Prop where
  sound : base.Sound
  sectors : base.sectors = array.count
  taken : ∀ sector, array.Has sector → (Taken base sector ↔
    ∃ file ∈ Volume.initialLedger.files, array.Owns file (array.inode file) sector)

/-- What a stock says of the sectors of a volume that began with the map `base`. -/
structure Stocked (base : FreeMap) (stock : Stock) (array : PartialArray) (map : FreeMap) : Prop where
  once : stock.files.Nodup
  accounted : Accounted array map stock.files
  contents : ∀ entry ∈ stock, array.contents (array.inode entry.1) = entry.2
  founded : Founded base array

namespace Founded

/-- The fixed files own what they owned. -/
theorem carry (founded : Founded base array) (spreads : array.Spreads array')
    (owns : ∀ file ∈ Volume.initialLedger.files, ∀ sector,
      array'.Owns file (array'.inode file) sector ↔ array.Owns file (array.inode file) sector) : Founded base array' := by
  refine ⟨founded.sound, founded.sectors.trans spreads.count.symm, fun sector has => ?_⟩
  rw [founded.taken sector (spreads.has.mp has)]
  refine exists_congr fun file => and_congr_right fun listed => (owns file listed sector).symm

end Founded

namespace Stocked

/-- Files that own what they owned, and hold what they held, are in stock as they were. -/
theorem carry (stocked : Stocked base stock array map) (spreads : array.Spreads array')
    (owns : ∀ file ∈ stock.files, ∀ sector,
      array'.Owns file (array'.inode file) sector ↔ array.Owns file (array.inode file) sector)
    (contents : ∀ entry ∈ stock, array'.contents (array'.inode entry.1) = array.contents (array.inode entry.1))
    (fewer : ∀ sector, Taken map' sector → Taken map sector) : Stocked base stock array' map' := by
  refine ⟨stocked.once, ?_, fun entry listed => (contents entry listed).trans (stocked.contents entry listed), ?_⟩
  · exact stocked.accounted.mono spreads fewer fun file listed sector => (owns file listed sector).mpr
  · exact stocked.founded.carry spreads fun file listed => owns file (List.mem_append_right _ listed)

/-- A new file joins the stock. -/
theorem add (stocked : Stocked base stock array map) (spreads : array.Spreads array') (absent : sector ∉ stock.files)
    (same : ∀ file ∈ stock.files, Same array array' file)
    (taken : ∀ mine, Taken map' mine ↔ Taken map mine ∨ array'.Owns sector (array'.inode sector) mine)
    (contents : array'.contents (array'.inode sector) = bytes) :
    Stocked base ((sector, bytes) :: stock) array' map' := by
  refine ⟨List.nodup_cons.mpr ⟨absent, stocked.once⟩, ?_, ?_, ?_⟩
  · intro mine has here
    rcases (taken mine).mp here with before | owns
    · obtain ⟨file, listed, owns⟩ := stocked.accounted mine (spreads.has.mp has) before
      exact ⟨file, List.mem_cons_of_mem _ listed, (same file listed).owns_iff.mpr owns⟩
    · exact ⟨sector, List.mem_cons_self, owns⟩
  · rintro entry listed
    rcases List.mem_cons.mp listed with rfl | listed
    · exact contents
    · exact (same entry.1 (Stock.mem_files_of_mem listed)).contents.trans (stocked.contents entry listed)
  · exact stocked.founded.carry spreads fun file listed sector => (same file (List.mem_append_right _ listed)).owns_iff

/-- The latest file is written to, and may grow. -/
theorem rewrite (stocked : Stocked base ((sector, bytes) :: stock) array map) (spreads : array.Spreads array')
    (same : ∀ file ∈ stock.files, Same array array' file)
    (taken : ∀ mine, Taken map' mine ↔ Taken map mine ∨ array'.Owns sector (array'.inode sector) mine)
    (kept : ∀ mine, array.Owns sector (array.inode sector) mine → array'.Owns sector (array'.inode sector) mine) :
    Stocked base ((sector, array'.contents (array'.inode sector)) :: stock) array' map' := by
  have once := stocked.once
  rw [Stock.files_cons] at once
  refine ⟨once, ?_, ?_, ?_⟩
  · intro mine has here
    rcases (taken mine).mp here with before | owns
    · obtain ⟨file, listed, owns⟩ := stocked.accounted mine (spreads.has.mp has) before
      rcases List.mem_cons.mp listed with rfl | listed
      · exact ⟨_, List.mem_cons_self, kept mine owns⟩
      · exact ⟨file, List.mem_cons_of_mem _ listed, (same file listed).owns_iff.mpr owns⟩
    · exact ⟨sector, List.mem_cons_self, owns⟩
  · intro entry listed
    rcases List.mem_cons.mp listed with rfl | listed
    · rfl
    · exact (same entry.1 (Stock.mem_files_of_mem listed)).contents.trans
        (stocked.contents entry (List.mem_cons_of_mem _ listed))
  · exact stocked.founded.carry spreads fun file listed sector => (same file (List.mem_append_right _ listed)).owns_iff

/-- A file leaves the stock with all that it owns. -/
theorem remove (stocked : Stocked base stock array map) (listed : sector ∈ stock.map Prod.fst)
    (freed : ∀ mine, Taken map' mine ↔ Taken map mine ∧ ¬array.Owns sector (array.inode sector) mine) :
    Stocked base (stock.without sector) array map' := by
  have files := Stock.files_without stocked.once listed
  refine ⟨?_, ?_, fun entry left => stocked.contents entry (List.mem_of_mem_filter left), stocked.founded⟩
  · rw [files]
    exact stocked.once.filter _
  · intro mine has here
    obtain ⟨before, other⟩ := (freed mine).mp here
    obtain ⟨file, there, owns⟩ := stocked.accounted mine has before
    refine ⟨file, ?_, owns⟩
    rw [files, List.mem_filter, decide_eq_true_iff]
    exact ⟨there, fun same => other (same ▸ owns)⟩

/-- **Nothing in stock.** The free map is again what it was when the volume was empty. -/
theorem map_eq (stocked : Stocked base [] array map) (intact : Intact array map (Stock.files [])) : map = base := by
  have founded := stocked.founded
  have count : map.sectors = array.count := intact.limit
  refine intact.sound.ext founded.sound (count.trans founded.sectors.symm) fun sector => ?_
  by_cases has : array.Has sector
  · refine Iff.trans ⟨fun taken => stocked.accounted sector has taken, ?_⟩ (founded.taken sector has).symm
    rintro ⟨file, listed, owns⟩
    exact intact.taken_of_owns listed owns
  · -- past the end of the device all bits are marked, in the one map as in the other
    have past : map.sectors ≤ sector.index := Nat.not_lt.mp fun inside => has (Nat.lt_of_lt_of_eq inside count)
    have past' : base.sectors ≤ sector.index := by
      rw [founded.sectors, ← count]
      exact past
    exact iff_of_true (intact.sound.tail _ past) (founded.sound.tail _ past')

end Stocked

/-! ## Service -/

namespace Volume

variable {volume volume' : Volume} {holders : List Holder} {holder : Holder}

/-- A volume is in use with a stock, and some have files open. -/
structure Service (base : FreeMap) (stock : Stock) (holders : List Holder) (array : PartialArray) (volume : Volume) :
    Prop where
  healthy : Healthy array volume (stock.ledger holders)
  stocked : Stocked base stock array volume.space

namespace Service

theorem freeSectors_eq (service : Service base stock holders array volume) : freeSectors volume = left volume.space :=
  service.healthy.freeSectors_eq

/-- A volume that was laid out serves, with nothing in stock. -/
theorem of_laidOut (laid : LaidOut array volume) : Service volume.space [] [] array volume := by
  have intact := laid.healthy.sane.intact
  refine ⟨laid.healthy, ?_, laid.accounted, fun entry listed => absurd listed List.not_mem_nil, intact.sound, intact.limit, ?_⟩
  · decide
  · intro sector has
    refine ⟨laid.accounted sector has, ?_⟩
    rintro ⟨file, listed, owns⟩
    exact intact.taken_of_owns listed owns

/-! ## Putting -/

/-- **Making a file** takes one sector, unless none is free. -/
theorem create_serves (service : Service base stock [] array volume) :
    (create 0 false).Ensures array volume
      (fun sector array' volume' => Service base ((sector, .empty) :: stock) [] array' volume' ∧
        array'.inode sector = .empty false ∧ freeSectors volume = freeSectors volume' + 1)
      fun failure array' _ => failure = .reported .noSpace ∧ array' = array ∧ freeSectors volume = 0 := by
  refine (create_ensures service.healthy 0 false).spreads.mono ?_ ?_
  · rintro sector array' volume' ⟨spreads, absent, healthy, -, -, empty, -, same, free, taken, -⟩
    have inode : array'.inode sector = .empty false := empty rfl
    have nothing : array'.contents (array'.inode sector) = .empty := by
      rw [inode]
      exact Bytes.ext_byte (by rw [PartialArray.size_contents]; rfl) fun i inside => by
        rw [PartialArray.size_contents] at inside
        exact absurd inside (Nat.not_lt_zero i)
    have serves : Service base ((sector, .empty) :: stock) [] array' volume' :=
      ⟨healthy, service.stocked.add spreads absent same taken nothing⟩
    refine ⟨serves, inode, ?_⟩
    -- the sector of the inode is all that the file owns
    have sound := service.healthy.sane.intact.sound
    have sectors : volume'.space.sectors = volume.space.sectors :=
      healthy.sectors_eq.trans (spreads.count.trans service.healthy.sectors_eq.symm)
    have clear : volume.space.marked sector.index = false := Bool.eq_false_iff.mpr free
    have inside : sector.index < volume.space.sectors := sound.lt_of_clear clear
    have marked : volume'.space = volume.space.mark sector.index := by
      refine healthy.sane.intact.sound.ext (sound.mark (FreeMap.hasBit_of_lt inside)) ?_ fun mine => ?_
      · rw [FreeMap.sectors_mark]
        exact sectors
      · rw [FreeMap.marked_mark _ (FreeMap.hasBit_of_lt inside), Bool.or_eq_true, decide_eq_true_iff]
        refine (taken mine).trans (or_congr Iff.rfl ?_)
        rw [inode]
        refine ⟨?_, fun same => .inl (SectorId.index_injective same)⟩
        rintro (same | ⟨spot, holds, -⟩)
        · rw [same]
        · exact absurd holds (PartialArray.not_holds_empty array' false spot)
    rw [service.freeSectors_eq, serves.freeSectors_eq, marked]
    exact FreeMap.clearCount_mark inside clear
  · rintro failure array' volume' ⟨-, -, -, -, -, none⟩
    obtain ⟨why, same, spent, -⟩ := none rfl
    exact ⟨why, same, service.freeSectors_eq.trans spent⟩

theorem openAt_serves (service : Service base stock [] array volume) (listed : sector ∈ stock.files) :
    (Files.openAt sector : SectorM Volume InodeRef).Ensures array volume
      (fun ref array' volume' => array' = array ∧ volume'.space = volume.space ∧
        Service base stock [⟨sector, ref⟩] array' volume')
      fun _ _ _ => False := by
  have healthy := service.healthy
  refine (Files.openAt_ensures healthy.sane ⟨listed, List.not_mem_nil⟩).mono ?_
    fun _ _ _ failed => Ledger.not_crowded_of_nobody rfl failed.2.1
  rintro ref array volume' ⟨rfl, space, sane⟩
  refine ⟨rfl, space, healthy.of_table sane healthy.live, ?_⟩
  rw [space]
  exact service.stocked

theorem close_serves (service : Service base stock [holder] array volume) :
    (Files.close holder.ref : SectorM Volume Unit).Ensures array volume
      (fun _ array' volume' => array' = array ∧ volume'.space = volume.space ∧ Service base stock [] array' volume')
      fun _ _ _ => False := by
  refine (close_ensures service.healthy List.mem_cons_self).mono ?_ fun _ _ _ failed => failed
  rintro _ array volume' ⟨rfl, healthy, closed⟩
  have spared : holder.sector ∉ (stock.ledger [holder]).doomed := List.not_mem_nil
  have space : volume'.space = volume.space := closed.other (.inr spared)
  have after : (stock.ledger [holder]).closed holder = stock.ledger [] :=
    Ledger.closed_opened (show holder.sector ∉ (stock.ledger []).doomed from spared)
  rw [after] at healthy
  refine ⟨rfl, space, healthy, ?_⟩
  rw [space]
  exact service.stocked

/-- There is room for a new file of so many bytes if there is a sector for all that it needs. -/
theorem canGrow_empty {space : FreeMap} {length : Nat} :
    Draft.CanGrow array ⟨.empty false, space⟩ length ↔
      length ≤ maxFileSectors * sectorSize ∧ totalSectors length ≤ left space := by
  have most : maxFileSectors = 16635 := rfl
  have size : sectorSize = 512 := rfl
  have addressed : dataSectors length ≤ maxFileSectors ↔ length ≤ maxFileSectors * sectorSize := by
    rw [dataSectors, most, size]
    omega
  refine and_congr addressed ?_
  rw [totalSectors_eq]
  rcases Nat.eq_zero_or_pos (dataSectors length) with none | some
  · rw [none]
    exact iff_of_true (fun m _ shorter => absurd shorter (Nat.not_lt_zero m)) (Nat.zero_le _)
  · rw [Draft.room_iff (PartialArray.prefix_empty array false) some, PartialArray.blocks_eq]
    · exact Iff.rfl
    · exact iff_of_false (PartialArray.not_holds_empty array false _) (Nat.not_lt_zero _)

/-- **Putting bytes into a new file.** It holds them all, or nothing. -/
theorem write_serves {ref : InodeRef} (service : Service base ((sector, .empty) :: stock) [⟨sector, ref⟩] array volume)
    (new : array.inode sector = .empty false) (small : data.size < wordLimit) :
    (Files.write ref data 0 : SectorM Volume Nat).Ensures array volume
      (fun _ array' volume' => Service base ((sector, Stock.kept (freeSectors volume + 1) data) :: stock)
        [⟨sector, ref⟩] array' volume')
      fun _ _ _ => False := by
  have healthy := service.healthy
  have minds := healthy.sane.kept.minds ⟨sector, ref⟩ List.mem_cons_self
  have free : (volume.table.inode ref).denyCount = 0 := minds.free List.not_mem_nil
  have room : Draft.CanGrow array ⟨array.inode sector, volume.space⟩ data.size ↔
      data.size ≤ maxFileSectors * sectorSize ∧ 1 + totalSectors data.size ≤ freeSectors volume + 1 := by
    rw [new, service.freeSectors_eq, canGrow_empty, Nat.add_comm 1, Nat.add_le_add_iff_right]
  refine (Files.write_ensures healthy.sane List.mem_cons_self data 0).mono ?_ fun _ _ _ failed => failed
  intro n array' volume' outcome
  split at outcome
  · -- writing is refused only where there is nothing to write
    rename_i refused
    obtain ⟨-, rfl, rfl⟩ := outcome
    have nothing : data = .empty := by
      rcases refused with denied | empty | long
      · exact absurd free (Nat.ne_of_gt denied)
      · exact ByteArray.size_eq_zero_iff.mp empty
      · omega
    rw [nothing, Stock.kept, ite_self]
    exact service
  obtain ⟨table, wrote⟩ := outcome
  have same : ∀ file ∈ stock.files, Same array array' file := fun file listed =>
    wrote.others file (List.mem_cons_of_mem _ listed) (Stock.ne_head service.stocked.once listed)
  have kept : ∀ mine, array.Owns sector (array.inode sector) mine → array'.Owns sector (array'.inode sector) mine := by
    rw [new]
    rintro mine (rfl | ⟨spot, holds, -⟩)
    · exact .inl rfl
    · exact absurd holds (PartialArray.not_holds_empty array false spot)
  have stocked := service.stocked.rewrite wrote.spreads same wrote.taken kept
  have holds : array'.contents (array'.inode sector) = Stock.kept (freeSectors volume + 1) data := by
    have size := wrote.size
    have length : (array.inode sector).size = 0 := by
      rw [new]
      rfl
    rw [length, Nat.zero_max, Nat.zero_add, room] at size
    unfold Stock.kept
    rcases size with ⟨whole, fits⟩ | ⟨nothing, -, full⟩
    · have here : array'.contents (array'.inode sector) = data := by
        have size : (array'.contents (array'.inode sector)).size = data.size := PartialArray.size_contents.trans whole
        have laid := (wrote.whole (by rw [whole, Nat.zero_add])).2
        rwa [← size, Bytes.slice_all] at laid
      split
      · exact here
      · rename_i full
        rw [here]
        exact ByteArray.size_eq_zero_iff.mp (Nat.le_zero.mp (fits.resolve_right full))
    · rw [if_neg full]
      exact ByteArray.size_eq_zero_iff.mp (by rw [PartialArray.size_contents, nothing])
  rw [holds] at stocked
  refine ⟨healthy.of_sane (wrote.sane healthy.sane table) healthy.live wrote.spreads ?_, stocked⟩
  exact wrote.length_le healthy.live.1

/-! ## Taking out -/

theorem length_serves {ref : InodeRef} (service : Service base stock [⟨sector, ref⟩] array volume) :
    (Files.length ref : SectorM Volume Nat).Ensures array volume
      (fun length array' volume' => array' = array ∧ volume' = volume ∧ length = (array.inode sector).size)
      fun _ _ _ => False := by
  have sane := service.healthy.sane
  have here : ⟨sector, ref⟩ ∈ (stock.ledger [⟨sector, ref⟩]).holders := List.mem_cons_self
  unfold Files.length
  rw [SectorM.ensures_bind, Files.ensures_inode, sane.sector_eq here, SectorM.ensures_bind,
    DiskInode.ensures_ofOpen sane.intact.toParted (sane.held _ here), SectorM.ensures_pure]
  exact ⟨rfl, rfl, rfl⟩

/-- **Reading a file** from its beginning to its end gives what is in stock. -/
theorem read_serves {ref : InodeRef} (service : Service base stock [⟨sector, ref⟩] array volume)
    (listed : (sector, bytes) ∈ stock) :
    (Files.read ref 0 (array.inode sector).size : SectorM Volume Bytes).Ensures array volume
      (fun read array' volume' => array' = array ∧ volume' = volume ∧ read = bytes)
      fun _ _ _ => False := by
  have sane := service.healthy.sane
  have here : ⟨sector, ref⟩ ∈ (stock.ledger [⟨sector, ref⟩]).holders := List.mem_cons_self
  refine (Files.read_ensures sane.intact (Stock.mem_files_of_mem listed) (sane.sector_eq here) 0 _).mono ?_
    fun _ _ _ failed => failed
  rintro _ array volume ⟨rfl, rfl, rfl⟩
  refine ⟨rfl, rfl, ?_⟩
  have held : array.contents (array.inode sector) = bytes := service.stocked.contents _ listed
  rw [← held, ← PartialArray.size_contents]
  exact Bytes.slice_all _

/-- **Removing a file** takes it out of stock. -/
theorem remove_serves (service : Service base stock [] array volume) (listed : sector ∈ stock.map Prod.fst) :
    (remove sector).Ensures array volume
      (fun _ array' volume' => array' = array ∧ Service base (stock.without sector) [] array' volume')
      fun _ _ _ => False := by
  have once := service.stocked.once
  have live : (stock.ledger []).Live sector := ⟨Stock.mem_files.mpr (.inl listed), List.not_mem_nil⟩
  refine (remove_ensures service.healthy live (Stock.ne_freeMap once listed)).mono ?_
    fun _ _ _ failed => Ledger.not_crowded_of_nobody rfl failed.2.1
  rintro _ array volume' ⟨rfl, healthy, removed⟩
  rw [Stock.ledger_removed once listed] at healthy
  refine ⟨rfl, healthy, service.stocked.remove listed (removed.last ?_)⟩
  exact fun holder there => absurd there List.not_mem_nil

end Service

/-! ## Devices -/

/-- A volume with a stock is stored, with its free map. -/
structure Laden (base : FreeMap) (stock : Stock) (array : PartialArray) (map : FreeMap) : Prop where
  intact : Intact array map stock.files
  length : map.byteLength ≤ (array.inode freeMapSector).size
  stored : Bytes.slice (array.contents (array.inode freeMapSector)) 0 map.byteLength = map.toBlock.bytes
  stocked : Stocked base stock array map

section Devices

variable {D : Type} [BlockDevice D] [LawfulDevice D] {device : D} {whole : SectorArray}

open LawfulDevice (sectors)

/-- What is saved at the end is the volume with its stock. -/
theorem Saved.laden (service : Service base stock holders (.ofWhole whole) volume)
    (saved : Saved (.ofWhole whole) volume (stock.ledger holders) device) :
    Laden base stock (.ofWhole (sectors device)) volume.space := by
  have count : (PartialArray.ofWhole (sectors device)).count = (PartialArray.ofWhole whole).count :=
    saved.intact.limit.symm.trans service.healthy.sectors_eq
  rw [PartialArray.count_ofWhole, PartialArray.count_ofWhole] at count
  have spreads := PartialArray.spreads_ofWhole count
  refine ⟨saved.intact, ?_, ?_, service.stocked.carry spreads ?_ ?_ fun _ taken => taken⟩
  · rw [saved.inode]
    exact service.healthy.length
  · rw [saved.inode]
    exact saved.map
  · intro file listed sector
    by_cases first : file = freeMapSector
    · rw [first, saved.inode]
      exact PartialArray.owns_congr saved.held
    · exact (saved.others file listed first).owns_iff
  · intro entry listed
    have there := List.mem_map_of_mem (f := Prod.fst) listed
    exact (saved.others entry.1 (Stock.mem_files_of_mem listed) (Stock.ne_freeMap service.stocked.once there)).contents

/-- **Mounting** takes the volume up with its stock, where the host has room for the cache. -/
theorem mount_serves (sound : LawfulDevice.Sound device) (laden : Laden base stock (.ofWhole (sectors device)) map)
    (capacity memory : Nat) :
    (Volume.mount capacity memory).Ensures device
      (fun mount device' => (mount.disk device').Shows (sectors device) ∧ mount.files.space = map ∧
        Service base stock [] (.ofWhole (sectors device)) mount.files)
      fun failure _ => Mount.Cramped memory capacity failure := by
  refine (mount_ensures (stock.ledger []) rfl sound capacity memory laden.intact Stock.freeMap_mem laden.stored
    List.not_mem_nil).mono ?_ fun _ _ failed => failed.1
  rintro mount device' ⟨shown, rfl, kept⟩
  refine ⟨shown, rfl, ⟨⟨laden.intact, kept, ?_⟩, ⟨Stock.freeMap_mem, List.not_mem_nil⟩, laden.length⟩, laden.stocked⟩
  exact fun holder there => absurd there List.not_mem_nil

end Devices

end Volume

end InodeVolume
