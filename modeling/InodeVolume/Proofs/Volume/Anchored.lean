import InodeVolume.Proofs.Volume.Upkeep

/-!
# Volumes that stay on their first inode

A volume that was taken up has a valid inode on sector 0, whatever else its device holds, and no file open. Nothing
that is done to its files makes that inode invalid: if sector 0 counts as free, the next inode is stored there, and
data never is.

* **looking** — `Looks`: what reads files alone changes nothing;
* **storing back** — `shutdown_still`: a free map that is as it was taken up is stored over itself;
* **storing** — `shutdown_faults`: storing another one ends with a fault or not at all;
* **files** — `create_full`, `create_bare` and `remove_mayEnd`: making a file ends with an error only before anything
  was changed, and removing one changes no sector.
-/

namespace InodeVolume

/-! ## Looking -/

/-- Whatever the sectors hold and the state is, nothing is changed. -/
def SectorM.Looks {σ α : Type} (computation : SectorM σ α) : Prop :=
  ∀ (still : Prop) (array : PartialArray) (s : σ), computation.MayEnd still array s
    (fun _ array' s' => array' = array ∧ s' = s) (Unchanged array)

theorem SectorM.looks_pure {σ α : Type} {a : α} : (pure a : SectorM σ α).Looks := fun _ _ _ => ⟨rfl, rfl⟩

namespace Files

variable {A : Type} {ref : InodeRef} {α : Type}

open SectorM (looks_pure)

theorem looks_inode {next : OpenInode → SectorM (Files A) α} (looks : ∀ opened, (next opened).Looks) :
    (inode ref >>= next : SectorM (Files A) α).Looks := by
  intro still array files
  rw [SectorM.mayEnd_bind, mayEnd_inode]
  exact looks _ still array files

theorem looks_ofOpen {sector : SectorId} {next : DiskInode → SectorM (Files A) α} (looks : ∀ inode, (next inode).Looks) :
    (DiskInode.ofOpen sector >>= next : SectorM (Files A) α).Looks := by
  intro still array files
  rw [SectorM.mayEnd_bind]
  exact DiskInode.MayEnd.ofOpen (fun _ _ => looks _ still array files) unchanged

theorem looks_length : (length ref : SectorM (Files A) Nat).Looks :=
  looks_inode fun _ => looks_ofOpen fun _ => looks_pure

theorem looks_read {offset wanted : Nat} : (read ref offset wanted : SectorM (Files A) Bytes).Looks :=
  looks_inode fun _ => looks_ofOpen fun _ _ _ _ => (DiskInode.read_mayEnd offset wanted).mono
    (fun _ _ _ done => ⟨done.1, done.2.1⟩) fun _ _ _ failed => failed

theorem looks_stat : (stat ref : SectorM (Files A) Stat).Looks :=
  looks_inode fun _ => looks_ofOpen fun _ => looks_pure

end Files

namespace InodeTable

variable {table : InodeTable} {sector : SectorId}

/-- No inode is open. -/
def Idle (table : InodeTable) : Prop := ∀ sector, table.find? sector = none

theorem Idle.visited (idle : table.Idle) : (table.visited sector).Idle := by
  intro other
  rw [find?_visited, idle other, ite_self]

theorem idle_empty : empty.Idle := fun _ => rfl

end InodeTable

namespace Volume

variable {still : Prop} {array : PartialArray} {volume : Volume} {sector : SectorId}

open InodeTable (Idle)

/-! ## Storing back -/

/-- The file of the free map is there, and holds the map. -/
structure Mirrored (array : PartialArray) (map : FreeMap) : Prop where
  valid : (array.inode freeMapSector).isValid = true
  follows : Follows array (array.inode freeMapSector) map.toBlock.bytes 0

theorem TakenUp.mirrored {count : Nat} (taken : TakenUp array count volume) : Mirrored array volume.space := by
  obtain ⟨block, follows, map⟩ := taken.map
  refine ⟨taken.valid, ?_⟩
  rw [map, FreeMap.toBlock_ofBlock]
  exact follows

theorem TakenUp.idle {count : Nat} (taken : TakenUp array count volume) : volume.table.Idle := by
  rw [taken.table]
  exact InodeTable.idle_empty.visited

/-- Storing the free map over itself changes nothing, however the block map of its file leads there. -/
theorem storeFreeMap_still (total : ∀ sector, array.Has sector → sector ∈ array) (mirrored : Mirrored array volume.space)
    (idle : volume.table.Idle) :
    storeFreeMap.MayEnd still array volume (fun _ array' _ => array' = array) fun _ array' _ => array' = array := by
  unfold storeFreeMap
  rw [SectorM.mayEnd_bind]
  refine (Files.openAt_mayEnd (idle freeMapSector)).mono ?_ fun _ _ _ failed => failed.1
  rintro _ array _ ⟨rfl, rfl, rfl, -, -⟩
  rw [SectorM.mayEnd_bind, SectorM.mayEnd_get]
  dsimp only
  have written : (Files.write (volume.table.insert freeMapSector).1 volume.space.toBlock.bytes 0 : SectorM Volume Nat).MayEnd
      still array ⟨(volume.table.insert freeMapSector).2, volume.space⟩
      (fun _ array' volume' => array' = array ∧ volume' = ⟨(volume.table.insert freeMapSector).2, volume.space⟩)
      (Unchanged array) := by
    unfold Files.write
    rw [SectorM.mayEnd_bind, Files.mayEnd_inode, InodeTable.inode_insert_self, SectorM.mayEnd_ite]
    split
    · exact ⟨rfl, rfl⟩
    rename_i some_byte
    -- the file holds the whole map already, so writing does not lengthen it
    have inside := mirrored.follows.inside fun empty => some_byte (by simp [empty])
    dsimp only
    rw [SectorM.mayEnd_ite]
    split
    · rw [SectorM.mayEnd_bind, SectorM.mayEnd_emit]
      exact ⟨rfl, rfl⟩
    rw [SectorM.mayEnd_bind]
    refine DiskInode.MayEnd.ofOpen (fun _ _ => ?_) unchanged
    rw [SectorM.mayEnd_ite, if_neg (Nat.not_lt.mpr inside)]
    exact DiskInode.writeFrom_still total mirrored.follows 0
  rw [SectorM.mayEnd_bind]
  refine written.mono ?_ fun _ _ _ failed => failed.2
  rintro _ array _ ⟨rfl, rfl⟩
  rw [SectorM.mayEnd_bind]
  refine Files.close_mayEnd.mono ?_ fun _ _ _ failed => failed.elim
  rintro _ _ _ ⟨rfl, rfl⟩
  rw [SectorM.mayEnd_require]
  split <;> rfl

/-- What is left to do at the end writes nothing. -/
theorem shutdown_mayEnd {bad : Failure → PartialArray → Volume → Prop} (stored : PartialArray → Prop)
    (storing : storeFreeMap.MayEnd still array volume (fun _ array' _ => stored array') bad) :
    shutdown.MayEnd still array volume (fun _ array' _ => stored array') bad := by
  unfold shutdown
  rw [SectorM.mayEnd_bind]
  refine storing.mono (fun _ _ volume' here => ?_) fun _ _ _ failed => failed
  rw [SectorM.mayEnd_bind, SectorM.mayEnd_get]
  dsimp only
  split
  · exact SectorM.mayEnd_bind.mpr (SectorM.mayEnd_emit.mpr (SectorM.mayEnd_emit.mpr here))
  · exact SectorM.mayEnd_emit.mpr here

/-- A shutdown right after the volume was taken up changes nothing. -/
theorem shutdown_still (total : ∀ sector, array.Has sector → sector ∈ array) (mirrored : Mirrored array volume.space)
    (idle : volume.table.Idle) :
    shutdown.MayEnd still array volume (fun _ array' _ => array' = array) fun _ array' _ => array' = array :=
  shutdown_mayEnd (· = array) (storeFreeMap_still total mirrored idle)

/-! ## Storing -/

/-- Files are worked on whatever holds. -/
theorem upkeep_true : Upkeep (fun _ (_ : FreeMap) => True) fun _ => True where
  allocate := fun {_ map} _ => (FreeMap.allocate_cases map).mono (fun _ _ _ => ⟨trivial, fun _ _ => trivial⟩)
    fun _ _ failed => failed.elim
  release := fun {_ map sector} _ _ => (FreeMap.release_cases map sector).mono (fun _ _ _ => trivial)
    fun _ _ failed => failed
  write := fun _ _ _ => trivial
  store := fun _ _ _ => trivial

/-- A shutdown ends with a fault or not at all where the file of the free map can be opened. -/
theorem shutdown_faults (valid : (array.inode freeMapSector).isValid = true) (idle : volume.table.Idle) :
    shutdown.MayEnd False array volume (fun _ _ _ => True) fun failure _ _ => ∃ why, failure = .fault why := by
  refine shutdown_mayEnd (fun _ => True) ?_
  unfold storeFreeMap
  rw [SectorM.mayEnd_bind]
  refine (Files.openAt_mayEnd (idle freeMapSector)).mono ?_ ?_
  · rintro _ array _ ⟨rfl, rfl, rfl, -, -⟩
    rw [SectorM.mayEnd_bind, SectorM.mayEnd_get, SectorM.mayEnd_bind]
    refine (Files.write_mayEnd upkeep_true trivial).mono ?_ fun _ _ _ failed => failed
    rintro _ array' ⟨_, space⟩ ⟨-, rfl⟩
    rw [SectorM.mayEnd_bind]
    refine Files.close_mayEnd.mono ?_ fun _ _ _ failed => failed.elim
    intro _ _ _ _
    rw [SectorM.mayEnd_require]
    split
    · trivial
    · exact ⟨_, rfl⟩
  · rintro failure _ _ ⟨rfl, fault | ⟨invalid, -⟩⟩
    · exact fault
    · rw [valid] at invalid
      cases invalid

/-! ## Files -/

/-- The inode on sector 0 is valid and its sector is not handed out, nor is a number too large for a sector. -/
structure Anchored (array : PartialArray) (map : FreeMap) : Prop where
  valid : (array.inode freeMapSector).isValid = true
  taken : map.marked 0 = true
  small : map.byteLength ≤ maxFileSectors * sectorSize

/-- No file is longer than its block map reaches. -/
theorem Mirrored.small {map : FreeMap} (mirrored : Mirrored array map) : map.byteLength ≤ maxFileSectors * sectorSize := by
  have size : map.toBlock.bytes.size = map.byteLength := map.toBlock.size_bytes
  by_contra long
  -- a byte past what block maps reach would lie on no sector
  have holds := mirrored.follows.mapped (maxFileSectors * sectorSize) (by rw [size]; exact Nat.lt_of_not_le long)
  have past : locate (0 + maxFileSectors * sectorSize) = .outOfRange := by
    rw [Nat.zero_add, locate, Nat.mul_div_cancel _ (by decide : 0 < sectorSize)]
    exact Location.ofSectorIndex_of_ge (Nat.le_refl _)
  rw [past] at holds
  exact absurd (PartialArray.inTables_of_holds holds).2 (not_not.mpr rfl)

theorem inode_set_data {data : Sector} (has : array.Has sector) (different : sector ≠ freeMapSector) :
    (array.set sector data).inode freeMapSector = array.inode freeMapSector := by
  rw [PartialArray.inode, PartialArray.inode, PartialArray.get_set_ne has different.symm]

/-- A valid inode that is stored leaves a valid inode on sector 0. -/
theorem valid_store {inode : DiskInode} (has : array.Has sector) (valid : inode.isValid = true)
    (before : sector = freeMapSector ∨ (array.inode freeMapSector).isValid = true) :
    ((array.set sector inode.encode).inode freeMapSector).isValid = true := by
  by_cases first : sector = freeMapSector
  · subst first
    rw [PartialArray.inode_set_self has]
    exact valid
  · rw [inode_set_data has first]
    exact before.resolve_left first

theorem upkeep_anchored : Upkeep Anchored fun sector => sector.isAllocated = true where
  allocate := by
    intro _ map anchored
    refine (FreeMap.allocate_cases map).mono ?_ fun _ _ failed => failed.elim
    intro given after answer
    cases given with
    | none =>
        obtain ⟨rfl, -⟩ := answer
        exact ⟨anchored, fun _ impossible => nomatch impossible⟩
    | some sector =>
        obtain ⟨start, rfl, clear, rfl⟩ := answer
        have bit : map.HasBit start := FreeMap.hasBit_of_clear clear
        refine ⟨⟨anchored.valid, ?_, ?_⟩, ?_⟩
        · rw [FreeMap.marked_mark map bit, anchored.taken, Bool.true_or]
        · rw [FreeMap.byteLength, FreeMap.sectors_mark]
          exact anchored.small
        · rintro _ ⟨⟩
          -- the bit is not the first, and its number does not wrap to that of sector 0
          have nonzero : start ≠ 0 := by
            rintro rfl
            rw [anchored.taken] at clear
            cases clear
          have low : start / 64 < groupCount map.sectors := bit
          have bound : groupCount map.sectors * 8 ≤ maxFileSectors * 512 := anchored.small
          have limit : maxFileSectors = 16635 := rfl
          refine Healthy.isAllocated_of_ne fun first => nonzero ?_
          rw [← SectorId.index_ofNat (show start < 2 ^ 32 by omega), first]
          rfl
  release := by
    intro _ map sector allocated anchored
    refine (FreeMap.release_cases map sector).mono ?_ fun _ _ failed => failed
    rintro _ _ ⟨inside, -, rfl⟩
    refine ⟨anchored.valid, ?_, ?_⟩
    · have apart : ¬(0 = sector.index) := fun zero => by
        have first : sector = freeMapSector := SectorId.index_injective zero.symm
        rw [first] at allocated
        cases allocated
      rw [FreeMap.marked_unmark map inside, anchored.taken, decide_eq_false apart]
      rfl
    · rw [FreeMap.byteLength, FreeMap.sectors_unmark]
      exact anchored.small
  write := by
    intro array map sector data allocated has anchored
    refine ⟨?_, anchored.taken, anchored.small⟩
    rw [inode_set_data has (by rintro rfl; rcases allocated with allocated | allocated <;> cases allocated)]
    exact anchored.valid
  store := fun valid has anchored => ⟨valid_store has valid (.inr anchored.valid), anchored.taken, anchored.small⟩

/-- Where no sector counts as free no file is made. -/
theorem create_full (full : volume.space.firstClear? = none) (isDir : Bool) :
    (create 0 isDir).MayEnd still array volume (fun _ _ _ => False) fun _ array' _ => array' = array := by
  unfold create
  rw [SectorM.mayEnd_bind, Files.mayEnd_onSpace]
  have marked := FreeMap.marked_of_firstClear?_eq_none full
  have allocated : (FreeMap.allocate 1).Ensures volume.space _ _ := FreeMap.allocate_cases volume.space
  refine allocated.mono ?_ fun _ _ failed => failed.elim
  intro given after answer
  cases given with
  | none => exact SectorM.mayEnd_report.mpr rfl
  | some sector =>
      obtain ⟨start, -, clear, -⟩ := answer
      rw [marked start] at clear
      cases clear

/-- An empty file is made on the lowest sector that counts as free. Then sector 0 is not handed out, whether or not
it was free before. -/
theorem create_bare {k : Nat} (found : volume.space.firstClear? = some k) (mirrored : Mirrored array volume.space)
    (idle : volume.table.Idle) (isDir : Bool) :
    (create 0 isDir).MayEnd False array volume
      (fun sector array' volume' => (array'.inode sector).isValid = true ∧ Anchored array' volume'.space ∧
        volume'.table.Idle)
      fun failure _ _ => ∃ why, failure = .fault why := by
  have bit := FreeMap.hasBit_of_clear (FreeMap.marked_of_firstClear? found)
  have made : (DiskInode.create (.ofNat k) 0 isDir : SectorM FreeMap Unit).MayEnd False array (volume.space.mark k)
      (fun _ array' space' => array.Has (.ofNat k) ∧ array' = array.set (.ofNat k) (DiskInode.empty isDir).encode ∧
        space' = volume.space.mark k)
      fun failure _ _ => ∃ why, failure = .fault why := by
    have none : (Draft.grow 0 : SectorM (Draft FreeMap) Unit).MayEnd False array
        ⟨DiskInode.empty isDir, volume.space.mark k⟩
        (fun _ array' draft' => array' = array ∧ draft' = ⟨DiskInode.empty isDir, volume.space.mark k⟩)
        fun _ _ _ => False := by
      unfold Draft.grow
      rw [SectorM.mayEnd_bind, SectorM.mayEnd_get]
      dsimp only
      rw [SectorM.mayEnd_ite, if_pos (Nat.zero_le _)]
      exact ⟨rfl, rfl⟩
    unfold DiskInode.create
    rw [SectorM.mayEnd_bind, Draft.mayEnd_edit, SectorM.mayEnd_attempt]
    refine none.mono ?_ fun _ _ _ failed => failed.elim
    rintro _ array _ ⟨rfl, rfl⟩
    dsimp only
    rw [SectorM.mayEnd_bind, DiskInode.mayEnd_store]
    exact ⟨fun has => ⟨False.elim, SectorM.mayEnd_emit.mpr ⟨has, rfl, rfl⟩⟩, fun why => ⟨why, rfl⟩⟩
  unfold create
  rw [SectorM.mayEnd_bind, Files.mayEnd_onSpace]
  refine (FreeMap.allocate_first found).mono ?_ fun _ _ failed => failed.elim
  rintro _ _ ⟨rfl, rfl⟩
  dsimp only
  rw [SectorM.mayEnd_bind, SectorM.mayEnd_attempt, Files.mayEnd_inSpace]
  refine made.mono ?_ ?_
  · rintro _ _ _ ⟨has, rfl, rfl⟩
    refine ⟨?_, ⟨?_, ?_, ?_⟩, idle⟩
    · rw [PartialArray.inode_set_self has]
      rfl
    · exact valid_store has rfl (.inr mirrored.valid)
    · rw [FreeMap.marked_mark _ bit]
      -- the lowest free sector is sector 0, or sector 0 is taken
      by_cases first : k = 0
      · simp [first]
      · rw [Bool.or_eq_true]
        left
        by_contra clear
        exact first (Nat.le_zero.mp (FreeMap.le_of_firstClear? found (Bool.eq_false_iff.mpr clear)))
    · rw [FreeMap.byteLength, FreeMap.sectors_mark]
      exact mirrored.small
  · rintro failure _ _ ⟨why, rfl⟩
    exact ⟨why, rfl⟩

/-- Removing a file changes no sector, whatever its block map leads to. -/
theorem remove_mayEnd (idle : volume.table.Idle) :
    (remove sector).MayEnd still array volume (fun _ array' volume' => array' = array ∧ volume'.table.Idle)
      fun _ array' _ => array' = array := by
  have releasing : ∀ {map : FreeMap} {sector : SectorId}, True →
      (FreeMap.release sector 1).Ensures map (fun _ _ => True) fun failure _ => ∃ why, failure = .fault why :=
    fun {map sector} _ => (FreeMap.release_cases map sector).mono (fun _ _ _ => trivial) fun _ _ failed => failed
  refine remove_absent (idle sector) (fun _ => ?_) fun _ _ _ => rfl
  refine (DiskInode.reclaim_mayEnd releasing releasing trivial).mono ?_ fun _ _ _ failed => failed.2
  rintro _ _ _ ⟨rfl, -⟩
  refine ⟨rfl, fun other => ?_⟩
  rw [InodeTable.find?_struck, idle other, ite_self]

end Volume

end InodeVolume
