import InodeVolume.Proofs.Volume.Noninterference
import InodeVolume.Proofs.Volume.Upkeep

/-!
# Free maps that reach past the device

A stored free map has a bit for every sector of its last group. Those past the end of the device are
marked where a volume is laid out, but mounting takes over whatever is stored: only the number of groups
is compared, and it is the same for devices of up to 64 sizes.

* **what is taken up** — the map is the stored one, bit for bit;
* **fences** — while no bit past the end is clear, none is handed out that a file was not put on before,
  whatever the device holds otherwise: `mount_fenced`;
* **devices that were cut down** — `mount_cut`: where such a bit is clear, it counts as free and is handed
  out.
-/

namespace InodeVolume

/-- What follows from the front of a file to its last byte but so many is a slice of its contents. -/
theorem Follows.eq_slice {array : PartialArray} {inode : DiskInode} {bytes : Bytes} {start : Nat}
    (follows : Follows array inode bytes start) :
    Bytes.slice (array.contents inode) start bytes.size = bytes := by
  have size := Bytes.size_slice_eq (array.contents inode) start bytes.size
  rw [PartialArray.size_contents] at size
  have inside := follows.inside
  refine Bytes.ext_byte (by omega) fun i low => ?_
  rw [Bytes.byte_slice, if_pos (by omega), PartialArray.byte_contents, if_pos (by omega), follows.same i (by omega)]

namespace FreeMap

variable {map : FreeMap} {n : Nat}

/-- Bit `k` of a map that is taken up is a bit of byte `k / 8`, and whether there is one depends on the number of
groups alone. -/
theorem marked_ofBlock (block : Block (groupCount n * Group.bytes)) (k : Nat) :
    (ofBlock n block).marked k =
      (decide (groupCount n ≤ k / Group.bits) || (block.bytes.byte (k / 8)).toNat.testBit (k % 8)) := by
  have bits : Group.bits = 64 := rfl
  have bytes : Group.bytes = 8 := rfl
  by_cases inside : k / Group.bits < groupCount n
  · have low : k % Group.bits < Group.bits := mod_lt k
    have bound : k / 8 < block.bytes.size := by
      rw [block.size_bytes, bytes]
      rw [bits] at inside
      omega
    have here : (ofBlock n block).HasBit k := inside
    rw [marked, dif_pos here, decide_eq_false (Nat.not_le.mpr inside), Bool.false_or, Bytes.byte_of_lt bound]
    simp only [ofBlock, Vector.getElem_ofFn]
    rw [Group.mem_ofBytes _ low]
    have place : k / Group.bits * Group.bytes + k % Group.bits / 8 = k / 8 := by
      rw [bits, bytes]
      omega
    have rest : k % Group.bits % 8 = k % 8 := by
      rw [bits]
      omega
    simp only [Group.byteOf, Block.get, place, rest]
  · have missing : ¬(ofBlock n block).HasBit k := inside
    rw [marked, dif_neg missing, decide_eq_true (Nat.not_lt.mp inside), Bool.true_or]

/-- Allocating from a fenced map gives a sector of the device, and the map stays fenced. -/
theorem Fenced.allocate (fenced : map.Fenced) :
    (FreeMap.allocate 1).Ensures map
      (fun given after => after.sectors = map.sectors ∧ after.Fenced ∧
        ∀ sector, given = some sector → sector.index < map.sectors)
      fun _ _ => False := by
  refine (allocate_cases map).mono ?_ fun _ _ failed => failed
  intro given after answer
  cases given with
  | none =>
      obtain ⟨rfl, -⟩ := answer
      exact ⟨rfl, fenced, fun _ impossible => nomatch impossible⟩
  | some sector =>
      obtain ⟨start, rfl, clear, rfl⟩ := answer
      refine ⟨sectors_mark _, fenced.mark (hasBit_of_clear clear), ?_⟩
      rintro _ ⟨⟩
      -- the number of a sector is taken modulo 2^32, which makes it no larger
      refine Nat.lt_of_le_of_lt ?_ (fenced.lt_of_clear clear)
      show (UInt32.ofNat start).toNat ≤ start
      rw [UInt32.toNat_ofNat']
      exact Nat.mod_le _ _

/-- So does releasing a sector of the device. -/
theorem Fenced.release (fenced : map.Fenced) {sector : SectorId} (inside : sector.index < map.sectors) :
    (FreeMap.release sector 1).Ensures map (fun _ after => after.sectors = map.sectors ∧ after.Fenced)
      fun failure _ => ∃ why, failure = .fault why := by
  refine (release_cases map sector).mono ?_ fun _ _ failed => failed
  rintro _ _ ⟨-, -, rfl⟩
  exact ⟨sectors_unmark _, fenced.unmark inside⟩

/-- Files are worked on within the fence: they are given sectors of the device only. -/
theorem upkeep_bounded : Upkeep (fun _ => Bounded n) (·.index < n) where
  allocate := by
    rintro _ map ⟨rfl, fenced⟩
    exact fenced.allocate.mono (fun _ _ done => ⟨⟨done.1, done.2.1⟩, done.2.2⟩) fun _ _ failed => failed.elim
  release := by
    rintro _ map sector inside ⟨rfl, fenced⟩
    exact (fenced.release inside).mono (fun _ _ done => done) fun _ _ failed => failed
  write := fun _ _ bounded => bounded
  store := fun _ _ bounded => bounded

theorem Bounded.free_le (bounded : map.Bounded n) : map.freeCount ≤ n := by
  obtain ⟨rfl, fenced⟩ := bounded
  rw [fenced.freeCount_eq, clearCount]
  exact Nat.le_trans List.countP_le_length (Nat.le_of_eq List.length_range)

end FreeMap

/-! ## Runs -/

namespace Volume

variable {D : Type} [BlockDevice D]

/-- Volumes on devices after requests that have no file reclaimed, as long as none ends with a fault. -/
inductive Retained (start : D × Mount FreeMap) : D × Mount FreeMap → Prop where
  | refl : Retained start start
  | meet {world after : D × Mount FreeMap} (before : Retained start world) (request : Request)
      (retains : request.Retains) {told : Except Failure request.Answer} {log : Array Event}
      (met : (Mount.run request.perform).result world log = (told, after))
      (standing : ∀ why, told ≠ .error (.fault why)) : Retained start after

variable [LawfulDevice D] [RefusingDevice D] {device : D}

open Files (Upheld)
open LawfulDevice (Sound sectors)

/-- The volume on a device keeps the invariant, whatever the device holds. -/
def Tidies (invariant : PartialArray → FreeMap → Prop) (world : D × Mount FreeMap) : Prop :=
  ∃ array, (world.2.disk world.1).Stands False array ∧ Upheld invariant (.ofWhole array) world.2.files

/-- What files are worked on with is kept by a whole run. -/
theorem Retained.tidies {invariant : PartialArray → FreeMap → Prop} {Given : SectorId → Prop}
    (upkeep : Upkeep invariant Given) {start world : D × Mount FreeMap} (retained : Retained start world)
    (tidies : Tidies invariant start) : Tidies invariant world := by
  induction retained with
  | refl => exact tidies
  | meet before request retains met standing ih =>
      rename_i world after told log
      obtain ⟨array, stood, here⟩ := ih
      have ran := (Mount.run_mayEnd (request.perform_upholds upkeep retains _ _ here) stood).result log
      have same : (Mount.run request.perform).result (world.1, world.2) log = (told, after) := met
      rw [same] at ran
      cases told with
      | ok a => exact ran
      | error failure =>
          obtain ⟨array', stood', failed⟩ := ran
          rcases failed with ⟨why, rfl⟩ | ⟨-, kept⟩
          · exact absurd rfl (standing why)
          · exact ⟨array', stood', kept⟩

/-- Of a device of `n` sectors no more count as free, and no other is handed out. -/
structure Confined (n : Nat) (world : D × Mount FreeMap) : Prop where
  bounded : world.2.files.space.Bounded n
  free : freeSectors world.2.files ≤ n
  given : ∀ log sector, ((FreeMap.allocate 1).result world.2.files.space log).1 = .ok (some sector) → sector.index < n
  created : ∀ length isDir log sector, ((Mount.run (create length isDir)).result world log).1 = .ok sector →
    sector.index < n

theorem Tidies.confined {n : Nat} {world : D × Mount FreeMap} (tidies : Tidies (fun _ => FreeMap.Bounded n) world) :
    Confined n world := by
  obtain ⟨array, stood, bounded, spares⟩ := tidies
  refine ⟨bounded, bounded.free_le, fun log sector told => ?_, fun length isDir log sector told => ?_⟩
  · have ran := bounded.2.allocate.result log
    rw [bounded.1] at ran
    generalize (FreeMap.allocate 1).result world.2.files.space log = result at ran told
    obtain ⟨answer, after⟩ := result
    obtain rfl : answer = .ok (some sector) := told
    exact ran.2.2 sector rfl
  · have made : (create length isDir).MayEnd False (.ofWhole array) world.2.files _ _ :=
      create_mayEnd FreeMap.upkeep_bounded ⟨bounded, spares⟩
    have ran := (Mount.run_mayEnd made stood).result log
    have same : ((Mount.run (create length isDir)).result (world.1, world.2) log).1 = .ok sector := told
    generalize (Mount.run (create length isDir)).result (world.1, world.2) log = result at ran same
    obtain ⟨answer, after⟩ := result
    obtain rfl : answer = .ok sector := same
    obtain ⟨-, -, inside, -⟩ := ran
    exact inside

/-- **Mounting** takes over the stored free map bit for bit, and changes nothing on the device. If none of
its bits past the end of the device is clear, no sector past the end counts as free or is handed out, as
long as no file is reclaimed: the device may hold anything besides. -/
theorem mount_fenced (sound : Sound device) (capacity memory : Nat) :
    (Volume.mount capacity memory).Ensures device
      (fun mount device' => mount.files.space.sectors = (sectors device).count ∧
        HasMap (.ofWhole (sectors device)) mount.files.space ∧
        (mount.files.space.Fenced → ∀ world, Retained (device', mount) world → Confined (sectors device).count world))
      fun _ device' => sectors device' = sectors device := by
  refine (mount_mayEnd sound capacity memory).mono ?_ fun _ _ failed => failed.2
  rintro mount device' ⟨stood, taken⟩
  obtain ⟨block, follows, map⟩ := taken.map
  have count : mount.files.space.sectors = (sectors device).count := by rw [map]; rfl
  refine ⟨count, ?_, fun fenced world retained => ?_⟩
  · rw [HasMap, map, FreeMap.toBlock_ofBlock]
    have whole := follows.eq_slice
    rw [block.size_bytes] at whole
    exact whole
  · refine (retained.tidies FreeMap.upkeep_bounded ⟨_, ⟨stood.shown, False.elim⟩, ⟨count, fenced⟩, ?_⟩).confined
    rw [taken.table]
    exact InodeTable.spares_visited freeMapSector

/-! ## Devices that were cut down -/

/-- A device of ten sectors whose free map is stored in sector 2. -/
def shelf (data : Sector) : RamDisk :=
  World.filled (((sectors (RamDisk.zeroed 10)).set (.ofNat 2) data).set freeMapSector
    ((DiskInode.empty false).withFirst 2 8).encode)

theorem count_shelf (data : Sector) : (sectors (shelf data)).count = 10 := by
  rw [shelf, World.sectors_filled, SectorArray.count_set, SectorArray.count_set]
  exact Array.size_replicate

theorem single_shelf (data : Sector) :
    Files.Single (.ofWhole (sectors (shelf data))) freeMapSector (.ofNat 2) 8 ∧
      (PartialArray.ofWhole (sectors (shelf data))).get (.ofNat 2) = data := by
  have inside : ∀ k, k < 10 → SectorId.ofNat k ∈ PartialArray.ofWhole (sectors (RamDisk.zeroed 10)) := by
    intro k low
    have count : (sectors (RamDisk.zeroed 10)).count = 10 := Array.size_replicate
    rw [PartialArray.mem_ofWhole, SectorArray.mem_iff, SectorId.index_ofNat (by omega), count]
    exact low
  have has := PartialArray.has_of_mem (inside 2 (by decide))
  have first : ((PartialArray.ofWhole (sectors (RamDisk.zeroed 10))).set (.ofNat 2) data).Has freeMapSector :=
    PartialArray.has_set.mpr (PartialArray.has_of_mem (inside 0 (by decide)))
  rw [shelf, World.sectors_filled, ← PartialArray.ofWhole_set, ← PartialArray.ofWhole_set]
  have inode := PartialArray.inode_set_self first ((DiskInode.empty false).withFirst 2 8)
  refine ⟨⟨PartialArray.mem_set_self first, ?_, ?_, by decide, by decide, ?_, by decide,
    PartialArray.mem_set_of_mem first (PartialArray.mem_set_self has)⟩, ?_⟩
  · rw [inode]
    rfl
  · rw [inode]
    exact DiskInode.size_withFirst (by decide)
  · rw [inode]
    exact DiskInode.find_withFirst
  · rw [PartialArray.get_set_ne first (by decide), PartialArray.get_set_self has]

/-- The map that is taken up from it. -/
theorem mount_shelf (data : Sector) :
    ∃ device : RamDisk, (sectors device).count = 10 ∧
      ∃ mount device', (Volume.mount 1).result device #[] = (.ok mount, device') ∧
        mount.files.space = .ofBlock 10 (data.slice 0 (groupCount 10 * Group.bytes) (by decide)) := by
  obtain ⟨single, held⟩ := single_shelf data
  have restored : restore.Ensures (.ofWhole (sectors (shelf data))) (blank 10) _ _ :=
    restore_single single (by decide) (by decide) (by decide)
  have started : (Mount.start 1 (blank 10) restore).Ensures (shelf data)
      (fun mount _ => mount.files.space = .ofBlock 10 (data.slice 0 (groupCount 10 * Group.bytes) (by decide)))
      fun _ _ => False := by
    refine (Mount.start_ensures trivial restored).mono ?_ ?_
    · rintro mount device' ⟨array, -, -, files⟩
      rw [files]
      dsimp only
      rw [held]
    · rintro failure device' (⟨cramped, -⟩ | ⟨-, -, impossible⟩)
      · exact cramped.not_hasRoom (by decide)
      · exact impossible
  obtain ⟨mount, device', ran, space⟩ := started.result_ends #[]
  refine ⟨shelf data, count_shelf data, mount, device', ?_, space⟩
  have count : BlockDevice.sectorCount (shelf data) = 10 :=
    (LawfulDevice.count_sectors (D := RamDisk) trivial).symm.trans (count_shelf data)
  rw [result_mount, count]
  exact ran

/-- A sector holds the stored form of a small map. -/
theorem exists_mapSector (map : FreeMap) {n : Nat} (groups : groupCount n * Group.bytes = map.byteLength)
    (fits : 0 + groupCount n * Group.bytes ≤ sectorSize) :
    ∃ data : Sector, (data.slice 0 (groupCount n * Group.bytes) fits).bytes = map.toBlock.bytes := by
  have size : map.toBlock.bytes.size = map.byteLength := map.toBlock.size_bytes
  have small : 0 + map.toBlock.bytes.size ≤ sectorSize := by
    rw [size, ← groups]
    exact fits
  refine ⟨Block.zero.splice 0 map.toBlock.bytes small, ?_⟩
  show Bytes.slice (Bytes.splice (Block.zero : Sector).bytes 0 map.toBlock.bytes) 0 _ = _
  rw [groups.trans size.symm]
  exact Bytes.slice_splice (by rw [(Block.zero : Sector).size_bytes]; exact small)

/-- A new volume of ten sectors. -/
theorem mount_fenced_new : ∃ (device : RamDisk) (mount : Mount FreeMap) (device' : RamDisk),
    (Volume.mount 1).result device #[] = (.ok mount, device') ∧ mount.files.space = fixedMap 10 ∧
      Confined 10 (device', mount) := by
  have length : groupCount 10 * Group.bytes = (fixedMap 10).byteLength := by
    rw [FreeMap.byteLength, sectors_fixedMap]
  obtain ⟨data, held⟩ := exists_mapSector (fixedMap 10) length (by decide)
  obtain ⟨device, count, mount, device', mounted, space⟩ := mount_shelf data
  have space := space.trans (ofBlock_of_bytes sectors_fixedMap held)
  have told := (mount_fenced (show Sound device from trivial) 1 hostMemory).result #[]
  rw [mounted, count] at told
  refine ⟨device, mount, device', mounted, space, told.2.2 ?_ _ .refl⟩
  intro k past
  rw [space] at past ⊢
  rw [sectors_fixedMap] at past
  exact (marked_fixedMap (by decide) k).mpr (.inl past)

/-- The free map of a volume of 64 sectors of which ten are in use. -/
def tenOf64 : FreeMap := (FreeMap.clear 64).markRun 0 10

/-- Where only those ten are left of the device, more sectors count as free than there are, and the next to be
handed out is past the end. -/
theorem mount_cut : ∃ (device : RamDisk) (mount : Mount FreeMap) (device' : RamDisk),
    (Volume.mount 1).result device #[] = (.ok mount, device') ∧ (sectors device).count = 10 ∧
      freeSectors mount.files = 54 ∧
      ((FreeMap.allocate 1).result mount.files.space #[]).1 = .ok (some (.ofNat 10)) := by
  have length : groupCount 64 * Group.bytes = tenOf64.byteLength := rfl
  obtain ⟨data, held⟩ := exists_mapSector tenOf64 length (by decide)
  obtain ⟨device, count, mount, device', mounted, space⟩ := mount_shelf data
  have taken := ofBlock_of_bytes (show tenOf64.sectors = 64 from rfl) held
  have sectors : mount.files.space.sectors = 10 := by rw [space]; rfl
  -- devices of 10 and of 64 sectors have one group each
  have alike : ∀ k, mount.files.space.marked k = tenOf64.marked k := by
    intro k
    rw [space, ← taken, FreeMap.marked_ofBlock, FreeMap.marked_ofBlock]
    rfl
  refine ⟨device, mount, device', mounted, count, ?_, ?_⟩
  · rw [freeSectors, FreeMap.freeCount_eq, sectors]
    simp only [alike]
    exact (FreeMap.freeCount_eq tenOf64).symm.trans (by decide)
  · have lowest : mount.files.space.firstClear? = some 10 := by
      refine FreeMap.firstClear?_eq ?_ fun k low => ?_
      · rw [alike]
        decide
      · rw [alike]
        revert k
        decide
    obtain ⟨given, after, ran, told, -⟩ := (FreeMap.allocate_first lowest).result_ends #[]
    rw [ran, told]

end Volume

end InodeVolume
