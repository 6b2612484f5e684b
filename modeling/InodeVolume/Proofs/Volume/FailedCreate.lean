import InodeVolume.Proofs.BlockMap.Exhausted
import InodeVolume.Proofs.Files.First
import InodeVolume.Proofs.Volume.Formatting
import InodeVolume.Proofs.Volume.Reachable

/-!
# Files that could not be made

Making a file takes a sector for the inode, grows the new file on it and stores the inode. Where the
growth fails the inode is stored nevertheless, and then its sector alone is given back. What becomes of
the rest is told here.

* **the inode** — `DiskInode.create_fails`: it is empty, and there is hardly a free sector left where
  there was no space;
* **the free map** — `create_costs`, and `Abandoned`: the sector of the inode is free again and those that
  the file had got are not, though no file leads to them;
* **worlds** — `Reachable.failed_create`: all that a failed call does to a volume.
-/

namespace InodeVolume

variable {array array' : PartialArray} {space before after : FreeMap} {files : List SectorId} {file sector : SectorId}

open LawfulAllocator (Gave Taken left)
open PartialArray (Same Whole)

/-! ## The inode -/

/-- **An inode that could not be made** is stored empty. A length that cannot be addressed takes no sector.
Where there was no space, one sector is free at most. -/
theorem DiskInode.create_fails (intact : Intact array space files) (has : array.Has file) (taken : Taken space file)
    (length : Nat) (isDir : Bool) :
    (create file length isDir : SectorM FreeMap Unit).Ensures array space (fun _ _ _ => True)
      fun failure array' space' => (array'.inode file).size = 0 ∧
        (failure = .reported .outOfRange → maxFileSectors < dataSectors length ∧ space' = space) ∧
        (failure = .reported .noSpace → space'.clearCount ≤ 1) := by
  have whole := Whole.empty has taken isDir
  have mapped := PartialArray.prefix_empty array isDir
  have ready := whole.ready intact.sound (Nat.le_of_eq intact.limit) mapped
  unfold create
  rw [SectorM.ensures_bind, Draft.ensures_edit, SectorM.ensures_attempt]
  rcases Nat.eq_zero_or_pos length with rfl | longer
  · refine Draft.grow_of_le (Nat.le_refl 0) ?_
    simp only [SectorM.ensures_bind, SectorM.ensures_emit, ensures_store]
    exact ⟨has, trivial⟩
  have grows := Draft.grow_ensures ready (show dataSectors 0 ≤ 0 by decide) longer
  refine (grows.and_mayEnd (Draft.grow_exhausted _ _)).mono ?_ ?_
  · intro _ array' draft' grown
    obtain ⟨⟨-, -, _, grown, -⟩, -⟩ := grown
    simp only [SectorM.ensures_bind, SectorM.ensures_emit, ensures_store]
    exact ⟨grown.spreads.has.mpr has, trivial⟩
  · intro failure array' draft' failed
    obtain ⟨⟨grown, -, why⟩, exhausted⟩ := failed
    have has' := grown.spreads.has.mpr has
    have empty : ((array'.set file draft'.inode.encode).inode file).size = 0 := by
      rw [PartialArray.inode_set_self has', size, grown.header.1]
      rfl
    rcases why with ⟨rfl, beyond, -, rfl⟩ | ⟨rfl, -⟩
    all_goals
      dsimp only
      rw [SectorM.ensures_bind, ensures_store]
      refine ⟨has', ?_⟩
      rw [SectorM.ensures_bind, SectorM.ensures_emit, SectorM.ensures_report]
    · exact ⟨empty, fun _ => ⟨beyond, rfl⟩, fun impossible => by cases impossible⟩
    · exact ⟨empty, fun impossible => (by cases impossible), exhausted⟩

/-! ## The free map -/

namespace FreeMap

/-- The lowest free sector is given, and none if there is none. -/
theorem allocate_lowest (sound : space.Sound) :
    (allocate 1).Ensures space
      (fun given after => match given with
        | none => after = space ∧ space.clearCount = 0
        | some sector => Gave space sector after ∧ space.firstClear? = some sector.index ∧
          after = space.mark sector.index)
      fun _ _ => False := by
  have gives := LawfulAllocator.allocate_ensures (A := FreeMap) sound
  cases found : space.firstClear? with
  | none =>
      have full := marked_of_firstClear?_eq_none found
      refine (gives.and (allocate_cases space)).mono ?_ fun _ _ failed => failed.1
      intro given after answer
      cases given with
      | none => exact ⟨answer.2.1, clearCount_eq_zero full⟩
      | some sector => exact absurd (full sector.index) answer.1.free
  | some k =>
      have low := sound.lt_of_clear (marked_of_firstClear? found)
      refine (gives.and (allocate_first found)).mono ?_ fun _ _ failed => failed.1
      intro given after answer
      obtain ⟨gave, rfl, rfl⟩ := answer
      have index : (SectorId.ofNat k).index = k := SectorId.index_ofNat (Nat.lt_of_lt_of_le low sound.small)
      exact ⟨gave, by rw [index], by rw [index]⟩

/-- To set a clear bit and to clear it again is to do nothing. -/
theorem unmark_mark {map : FreeMap} {k : Nat} (clear : map.marked k = false) : (map.mark k).unmark k = map := by
  have has := hasBit_of_clear clear
  have has' : (map.mark k).HasBit k := by
    rw [HasBit, sectors_mark]
    exact has
  refine ext_marked (by rw [sectors_unmark, sectors_mark]) fun j _ => ?_
  rw [marked_unmark _ has', marked_mark _ has]
  by_cases same : j = k
  · simp [same, clear]
  · simp [same]

end FreeMap

namespace Volume

variable {volume : Volume} {ledger : Ledger}

/-- What a file leaves behind that was not finished for want of space: an empty inode on a sector that is
free again, and the sectors that this inode leads to, which stay allocated. -/
structure Abandoned (array' : PartialArray) (isDir : Bool) (before after : FreeMap) (sector : SectorId) : Prop where
  /-- The inode was on the first free sector, -/
  first : before.firstClear? = some sector.index
  /-- which is free again. -/
  free : after.marked sector.index = false
  valid : (array'.inode sector).isValid = true
  empty : (array'.inode sector).size = 0
  isDir : (array'.inode sector).isDir = isDir
  /-- What was allocated stays so. -/
  kept : ∀ other : SectorId, before.marked other.index = true → after.marked other.index = true
  /-- What is newly allocated are the data sectors and index blocks of the inode. -/
  lost : ∀ other : SectorId, (before.marked other.index = false ∧ after.marked other.index = true) ↔
    ∃ spot, array'.Holds (array'.inode sector) spot ∧ array'.held (array'.inode sector) spot = other
  left : after.freeCount = 1 ∨ after.freeCount = 2

/-- The file that was begun on the first free sector is abandoned with it. -/
theorem Abandoned.of_stored {isDir : Bool} (found : before.firstClear? = some sector.index)
    (stored : InodeVolume.Stored array (before.mark sector.index) files sector (.empty isDir) array' space)
    (empty : (array'.inode sector).size = 0) (few : space.clearCount ≤ 1) :
    Abandoned array' isDir before (space.unmark sector.index) sector := by
  have clear := FreeMap.marked_of_firstClear? found
  have alone := stored.intact [sector] fun other listed => .inl (List.mem_singleton.mp listed)
  have whole := alone.whole sector (List.mem_singleton.mpr rfl)
  have inside : sector.index < space.sectors := Nat.lt_of_lt_of_eq whole.has alone.limit.symm
  have marks : ∀ other : SectorId, Taken (before.mark sector.index) other ↔
      before.marked other.index = true ∨ other = sector :=
    fun _ => FreeMap.marked_mark_iff (FreeMap.hasBit_of_clear clear)
  have unmarks : ∀ other : SectorId, (space.unmark sector.index).marked other.index = true ↔
      Taken space other ∧ other ≠ sector :=
    fun _ => FreeMap.marked_unmark_iff (FreeMap.hasBit_of_lt inside)
  have different : ∀ other : SectorId, before.marked other.index = true → other ≠ sector := by
    intro other marked same
    rw [same, clear] at marked
    cases marked
  refine ⟨found, ?_, whole.valid, empty, ?_, ?_, ?_, ?_⟩
  · rw [space.marked_unmark (FreeMap.hasBit_of_lt inside)]
    simp
  · rw [DiskInode.isDir, stored.flag]
    cases isDir <;> rfl
  · intro other marked
    have early : Taken (before.mark sector.index) other := (marks other).mpr (.inl marked)
    exact (unmarks other).mpr ⟨(stored.taken other).mpr (.inl early), different other marked⟩
  · intro other
    rw [unmarks]
    constructor
    · intro new
      obtain ⟨free, taken, apart⟩ := new
      rcases (stored.taken other).mp taken with marked | same | leads
      · rcases (marks other).mp marked with early | same
        · rw [early] at free
          cases free
        · exact absurd same apart
      · exact absurd same apart
      · exact leads
    · intro leads
      have owns : array'.Owns sector (array'.inode sector) other := .inr leads
      have apart : other ≠ sector := by
        obtain ⟨spot, holds, rfl⟩ := leads
        exact whole.own spot holds
      refine ⟨?_, (stored.taken other).mpr (.inr owns), apart⟩
      rcases stored.owned other owns with early | free
      · rcases early with same | ⟨spot, holds, -⟩
        · exact absurd same apart
        · exact absurd holds (PartialArray.not_holds_empty array isDir spot)
      · exact Bool.eq_false_iff.mpr fun marked => free ((marks other).mpr (.inl marked))
  · have fenced : space.Fenced := alone.sound.tail
    have marked : space.marked sector.index = true := whole.taken
    rw [(fenced.unmark inside).freeCount_eq, FreeMap.clearCount_unmark inside marked]
    omega

/-- The sector that was set aside for an inode is given back before the failure is told. -/
theorem setBack_ensures {table : InodeTable} {error : Error} (bit : space.HasBit sector.index)
    (taken : Taken space sector) : (do
      SectorM.perform (Files.onSpace (FreeMap.release sector 1))
      SectorM.report error : SectorM Volume SectorId).Ensures array ⟨table, space⟩ (fun _ _ _ => False)
      fun failure array' volume' => failure = .reported error ∧ array' = array ∧
        volume' = ⟨table, space.unmark sector.index⟩ := by
  rw [SectorM.ensures_bind, Files.ensures_onSpace]
  refine (FreeMap.release_ensures bit taken).mono ?_ fun _ _ failed => failed.elim
  intro _ after released
  rw [released, SectorM.ensures_report]
  exact ⟨rfl, rfl, rfl⟩

/-- **What a new file costs**: one sector for its inode, and those for its data and index blocks. One that
could not be made leaves the free map as it was, or what had been allocated for it. -/
theorem create_costs (healthy : Healthy array volume ledger) (length : Nat) (isDir : Bool) :
    (create length isDir).Ensures array volume
      (fun _ _ volume' => freeSectors volume = freeSectors volume' + totalSectors length + 1)
      fun failure array' volume' => volume'.table = volume.table ∧
        (failure = .reported .outOfRange → maxFileSectors < dataSectors length) ∧
        (failure = .reported .outOfRange ∨ freeSectors volume = 0 → volume'.space = volume.space) ∧
        (failure = .reported .noSpace → 0 < freeSectors volume →
          ∃ sector, Abandoned array' isDir volume.space volume'.space sector) := by
  have intact := healthy.sane.intact
  have free : freeSectors volume = volume.space.clearCount := healthy.freeSectors_eq
  unfold create
  rw [SectorM.ensures_bind, Files.ensures_onSpace]
  refine (FreeMap.allocate_lowest intact.sound).mono ?_ fun _ _ failed => failed.elim
  intro given after answer
  cases given with
  | none =>
      obtain ⟨rfl, none⟩ := answer
      refine SectorM.ensures_report.mpr ⟨rfl, fun impossible => (by cases impossible), fun _ => rfl, fun _ some => ?_⟩
      rw [free, none] at some
      exact absurd some (Nat.lt_irrefl 0)
  | some sector =>
      obtain ⟨gave, found, rfl⟩ := answer
      have clear := FreeMap.marked_of_firstClear? found
      have one : volume.space.clearCount = (volume.space.mark sector.index).clearCount + 1 := gave.left
      have has : array.Has sector := Nat.lt_of_lt_of_eq gave.inside intact.limit
      have taken : Taken (volume.space.mark sector.index) sector := (gave.taken sector).mpr (.inl rfl)
      have marked : Intact array (volume.space.mark sector.index) ledger.files :=
        intact.respace gave.sound gave.limit fun _ _ mine _ taken => (gave.taken mine).mpr (.inr taken)
      have makes := DiskInode.create_ensures marked has taken (fun _ => not_owns_of_gave healthy gave) length isDir
      have spends := DiskInode.create_spends marked has taken length isDir
      have fails := DiskInode.create_fails marked has taken length isDir
      dsimp only
      rw [SectorM.ensures_bind, SectorM.ensures_attempt, Files.ensures_inSpace]
      refine (makes.and (spends.and fails)).mono ?_ ?_
      · intro _ array' space' made
        obtain ⟨⟨stored, -, -⟩, spent, -⟩ := made
        have free' : freeSectors ⟨volume.table, space'⟩ = space'.clearCount :=
          (healthy.created gave stored).freeSectors_eq
        have spent : (volume.space.mark sector.index).clearCount = space'.clearCount + totalSectors length := spent
        show freeSectors volume = freeSectors ⟨volume.table, space'⟩ + totalSectors length + 1
        omega
      · intro failure array' space' failed
        obtain ⟨⟨stored, why, -, -⟩, -, empty, beyond, few⟩ := failed
        have limit := (stored.intact _ fun other listed => .inr listed : Intact array' space' ledger.files).limit
        have bit : space'.HasBit sector.index :=
          FreeMap.hasBit_of_lt (Nat.lt_of_lt_of_eq (stored.spreads.has.mpr has) limit.symm)
        have mine : Taken space' sector := (stored.taken sector).mpr (.inl taken)
        obtain ⟨error, rfl⟩ : ∃ error, failure = .reported error := by
          rcases why with told | told
          · exact ⟨_, told⟩
          · exact ⟨_, told⟩
        refine (setBack_ensures bit mine).mono (fun _ _ _ impossible => impossible.elim) ?_
        intro failure array'' volume' ended
        obtain ⟨rfl, rfl, rfl⟩ := ended
        refine ⟨rfl, fun told => (beyond told).1, ?_, fun told _ => ⟨sector, .of_stored found stored empty (few told)⟩⟩
        rintro (told | spent)
        · rw [(beyond told).2]
          exact FreeMap.unmark_mark clear
        · omega

end Volume

/-! ## Worlds -/

namespace World

variable {D : Type} [BlockDevice D] [LawfulDevice D] {world : World D}

open Volume (Abandoned initialLedger)

/-- What a call that failed to make a file of some length has done to a volume. -/
structure CreateFailed (before after : World D) (length : Nat) (isDir : Bool) (failure : Failure) : Prop where
  told : (failure = .reported .outOfRange ∧ maxFileSectors < dataSectors length) ∨ failure = .reported .noSpace
  table : after.mount.files.table = before.mount.files.table
  /-- All files are as they were: their inodes, their block maps and their bytes. -/
  files : ∀ file ∈ before.ledger.files, Same before.sectors after.sectors file
  /-- Where the length cannot be addressed or no sector was free, the free map is as it was. -/
  unchanged : failure = .reported .outOfRange ∨ Volume.freeSectors before.mount.files = 0 →
    after.mount.files.space = before.mount.files.space
  /-- Where some sector was free, but too few, the file that was begun is abandoned. -/
  abandoned : failure = .reported .noSpace → 0 < Volume.freeSectors before.mount.files → ∃ sector,
    Abandoned after.sectors isDir before.mount.files.space after.mount.files.space sector

/-- **A create that fails** leaves the table and all files alone. It leaves the free map alone too, but for
what the file had got by then where there was too little space. -/
theorem Reachable.failed_create (reached : world.Reachable .lenient) {length : Nat} {isDir : Bool} {log : Array Event}
    {failure : Failure} {ended : Traced (D × Mount FreeMap)}
    (failed : world.run (Volume.create length isDir) log = .error failure ended) :
    CreateFailed world (world.after (.create length isDir) log) length isDir failure := by
  have sane := reached.sane lenient_keeps
  have creates := (Volume.create_ensures sane.healthy length isDir).and (Volume.create_costs sane.healthy length isDir)
  have ran := Mount.run_ensures creates sane.shown log
  have after : world.after (.create length isDir) log = ⟨ended.state.1, ended.state.2, world.ledger⟩ := by
    unfold World.after
    rw [show world.run (Volume.Call.create length isDir).perform log = .error failure ended from failed]
    rfl
  unfold World.run at failed
  rw [failed] at ran
  obtain ⟨array, shown, ⟨told, -, same, -⟩, table, beyond, unchanged, abandoned⟩ := ran
  rw [← Mount.sectors_eq shown] at same abandoned
  rw [after]
  refine ⟨?_, table, same, unchanged, abandoned⟩
  rcases told with noSpace | outOfRange
  · exact .inr noSpace
  · exact .inl ⟨outOfRange, beyond outOfRange⟩

/-- A new volume of eight sectors, five of them free, and a file of six data sectors. -/
theorem failed_create_short : ∃ (mount : Mount FreeMap) (device : RamDisk) (log : Array Event)
    (ended : Traced (RamDisk × Mount FreeMap)),
    (Volume.format 2).run ⟨RamDisk.zeroed 8, #[]⟩ = .ok mount ⟨device, log⟩ ∧
      Volume.freeSectors mount.files = 5 ∧
      (⟨device, mount, initialLedger⟩ : World RamDisk).Reachable .lenient ∧
      (⟨device, mount, initialLedger⟩ : World RamDisk).run (Volume.create 3000 false) #[] =
        .error (.reported .noSpace) ended ∧
      CreateFailed (⟨device, mount, initialLedger⟩ : World RamDisk)
        ((⟨device, mount, initialLedger⟩ : World RamDisk).after (.create 3000 false) #[]) 3000 false
        (.reported .noSpace) := by
  have sound : LawfulDevice.Sound (RamDisk.zeroed 8) := trivial
  have count : (LawfulDevice.sectors (RamDisk.zeroed 8)).count = 8 := Array.size_replicate
  obtain ⟨mount, device, told, formatted⟩ := Volume.exists_formatted sound (show HasRoom hostMemory 2 by decide)
    (by rw [count]; decide) (by rw [count]; decide) #[]
  obtain ⟨log, format⟩ := Action.run_of_result told
  have reached : (⟨device, mount, initialLedger⟩ : World RamDisk).Reachable .lenient := .format sound format
  have sane := reached.sane lenient_keeps
  have free : Volume.freeSectors mount.files = 5 := by
    have free := formatted.free
    rw [count, show totalSectors (groupCount 8 * Group.bytes) = 1 by decide] at free
    omega
  -- six data sectors and an inode are more than there are
  have never := Mount.run_ensures (Volume.create_costs sane.healthy 3000 false) sane.shown #[]
  cases failed : (⟨device, mount, initialLedger⟩ : World RamDisk).run (Volume.create 3000 false) #[] with
  | ok sector ended =>
      have ran : (Mount.run (Volume.create 3000 false)).run ⟨(device, mount), #[]⟩ = .ok sector ended := failed
      rw [ran] at never
      obtain ⟨-, -, spent⟩ := never
      have cost : totalSectors 3000 = 6 := by decide
      have free : Volume.freeSectors (⟨device, mount, initialLedger⟩ : World RamDisk).mount.files = 5 := free
      omega
  | error failure ended =>
      have effect := reached.failed_create failed
      rcases effect.told with ⟨-, beyond⟩ | rfl
      · exact absurd beyond (by decide)
      · exact ⟨mount, device, log, ended, format, free, reached, failed, effect⟩

end World

end InodeVolume
