import InodeVolume.Files
import InodeVolume.Proofs.BlockMap.Free
import InodeVolume.Proofs.Files.Whole

/-!
# Files that share an array of sectors

`Intact` is the invariant of all files together: each is whole, and no two have a sector in common.
What one file does keeps it, because a file changes only sectors that it owns or that were free.

* **frames** — `Intact.restrict` keeps files whose sectors are left alone, and `Intact.add` takes in
  a file that is apart from them;
* **operations** — making, lengthening, patching and reclaiming one file, each with what becomes of
  that file and with all others the same.
-/

namespace InodeVolume

variable {A : Type} [Allocator A] [LawfulAllocator A] {array array' : PartialArray} {space space' : A}
  {files files' : List SectorId} {file : SectorId}

open LawfulAllocator (Sound limit Taken left)
open PartialArray (Same Whole)

/-! ## The invariant -/

/-- Files that are whole and have no sector in common, on a device of which the allocator knows all
sectors. -/
structure Parted (array : PartialArray) (space : A) (files : List SectorId) : Prop where
  limit : limit space = array.count
  known : ∀ file ∈ files, file ∈ array
  whole : ∀ file ∈ files, array.Whole (Taken space) file (array.inode file)
  apart : ∀ file ∈ files, ∀ other ∈ files, file ≠ other → ∀ sector,
    array.Owns file (array.inode file) sector → ¬array.Owns other (array.inode other) sector

/-- Parted files, and an allocator that can go on giving sectors. -/
structure Intact (array : PartialArray) (space : A) (files : List SectorId) : Prop
    extends Parted array space files where
  sound : Sound space

/-- Every sector that is taken belongs to some file. -/
def Accounted (array : PartialArray) (space : A) (files : List SectorId) : Prop :=
  ∀ sector, array.Has sector → Taken space sector → ∃ file ∈ files, array.Owns file (array.inode file) sector

/-- Files own no less than before. -/
theorem Accounted.mono (accounted : Accounted array space files) (spreads : array.Spreads array')
    (fewer : ∀ sector, Taken space' sector → Taken space sector)
    (owns : ∀ file ∈ files, ∀ sector, array.Owns file (array.inode file) sector →
      array'.Owns file (array'.inode file) sector) : Accounted array' space' files := by
  intro sector has taken
  obtain ⟨file, listed, here⟩ := accounted sector (spreads.has.mp has) (fewer sector taken)
  exact ⟨file, listed, owns file listed sector here⟩

namespace Parted

/-- Files whose sectors are left alone and are known still stay as they are. -/
theorem carry (parted : Parted array space files)
    (limit : LawfulAllocator.limit space' = LawfulAllocator.limit space)
    (count : array'.count = array.count) (fewer : ∀ other ∈ files', other ∈ files)
    (kept : ∀ other ∈ files', ∀ sector, array.Owns other (array.inode other) sector →
      array'.get sector = array.get sector ∧ (sector ∈ array → sector ∈ array') ∧ Taken space' sector) :
    Parted array' space' files' ∧ ∀ other ∈ files', Same array array' other := by
  have same : ∀ other ∈ files', Same array array' other :=
    fun other listed => .of_owned fun sector owns => (kept other listed sector owns).1
  refine ⟨⟨limit.trans (parted.limit.trans count.symm), ?_, ?_, ?_⟩, same⟩
  · exact fun other listed => (kept other listed other (.inl rfl)).2.1 (parted.known other (fewer other listed))
  · intro other listed
    rw [(same other listed).inode]
    exact (parted.whole other (fewer other listed)).congr count (same other listed).held
      (same other listed).bytes fun sector owns => (kept other listed sector owns).2
  · intro one listed two listed' different sector owns owns'
    exact parted.apart one (fewer one listed) two (fewer two listed') different sector
      ((same one listed).owns_iff.mp owns) ((same two listed').owns_iff.mp owns')

/-- Files whose sectors are left alone stay as they are. -/
theorem restrict (parted : Parted array space files)
    (limit : LawfulAllocator.limit space' = LawfulAllocator.limit space)
    (spreads : array.Spreads array') (fewer : ∀ other ∈ files', other ∈ files)
    (kept : ∀ other ∈ files', ∀ sector, array.Owns other (array.inode other) sector →
      array'.get sector = array.get sector ∧ Taken space' sector) :
    Parted array' space' files' ∧ ∀ other ∈ files', Same array array' other := by
  refine parted.carry limit spreads.count fewer fun other listed sector owns => ?_
  obtain ⟨same, taken⟩ := kept other listed sector owns
  exact ⟨same, spreads.mem, taken⟩

theorem taken_of_owns (parted : Parted array space files) (listed : file ∈ files) {sector : SectorId}
    (owns : array.Owns file (array.inode file) sector) : Taken space sector :=
  (parted.whole file listed).taken_of_owns owns

end Parted

namespace Intact

/-- Files whose sectors are left alone stay as they are. -/
theorem restrict (intact : Intact array space files) (sound : Sound space')
    (limit : LawfulAllocator.limit space' = LawfulAllocator.limit space)
    (spreads : array.Spreads array') (fewer : ∀ other ∈ files', other ∈ files)
    (kept : ∀ other ∈ files', ∀ sector, array.Owns other (array.inode other) sector →
      array'.get sector = array.get sector ∧ Taken space' sector) :
    Intact array' space' files' ∧ ∀ other ∈ files', Same array array' other :=
  have restricted := intact.toParted.restrict limit spreads fewer kept
  ⟨⟨restricted.1, sound⟩, restricted.2⟩

/-- Files are left alone where their sectors stay taken. -/
theorem respace (intact : Intact array space files) (sound : Sound space')
    (limit : LawfulAllocator.limit space' = LawfulAllocator.limit space)
    (kept : ∀ other ∈ files, ∀ sector, array.Owns other (array.inode other) sector → Taken space sector →
      Taken space' sector) : Intact array space' files := by
  refine (intact.restrict sound limit (.refl _) (fun _ listed => listed) ?_).1
  exact fun other listed sector owns => ⟨rfl, kept other listed sector owns (intact.taken_of_owns listed owns)⟩

/-- A whole file joins others when it has no sector of theirs. -/
theorem add (intact : Intact array space files) (known : file ∈ array)
    (whole : array.Whole (Taken space) file (array.inode file))
    (alone : ∀ other ∈ files, ∀ sector, array.Owns file (array.inode file) sector →
      ¬array.Owns other (array.inode other) sector)
    (more : ∀ other ∈ files', other = file ∨ other ∈ files) : Intact array space files' := by
  refine ⟨⟨intact.limit, ?_, ?_, ?_⟩, intact.sound⟩
  · intro other listed
    rcases more other listed with rfl | before
    · exact known
    · exact intact.known other before
  · intro other listed
    rcases more other listed with rfl | before
    · exact whole
    · exact intact.whole other before
  · intro one listed two listed' different sector owns owns'
    rcases more one listed with rfl | before <;> rcases more two listed' with rfl | before'
    · exact different rfl
    · exact alone two before' sector owns owns'
    · exact alone one before sector owns' owns
    · exact intact.apart one before two before' different sector owns owns'

/-- One file changes and the others do not, as long as what it has then was its own or free. -/
theorem update (intact : Intact array space files) (sound : Sound space')
    (limit : LawfulAllocator.limit space' = LawfulAllocator.limit space)
    (spreads : array.Spreads array') (known : file ∈ array')
    (kept : ∀ other ∈ files, other ≠ file → ∀ sector, array.Owns other (array.inode other) sector →
      array'.get sector = array.get sector ∧ Taken space' sector)
    (whole : array'.Whole (Taken space') file (array'.inode file))
    (alone : ∀ other ∈ files, other ≠ file → ∀ sector, array'.Owns file (array'.inode file) sector →
      ¬array.Owns other (array.inode other) sector)
    (more : ∀ other ∈ files', other = file ∨ other ∈ files) :
    Intact array' space' files' ∧ ∀ other ∈ files, other ≠ file → Same array array' other := by
  have mem : ∀ {other}, other ∈ files.filter (· ≠ file) ↔ other ∈ files ∧ other ≠ file := by
    intro other
    rw [List.mem_filter, decide_eq_true_iff]
  have others : Intact array' space' (files.filter (· ≠ file)) ∧
      ∀ other ∈ files.filter (· ≠ file), Same array array' other :=
    intact.restrict sound limit spreads (fun other listed => (mem.mp listed).1)
      fun other listed => kept other (mem.mp listed).1 (mem.mp listed).2
  obtain ⟨rest, same⟩ := others
  refine ⟨rest.add known whole ?_ ?_, fun other listed different => same other (mem.mpr ⟨listed, different⟩)⟩
  · intro other listed sector owns owns'
    exact alone other (mem.mp listed).1 (mem.mp listed).2 sector owns ((same other listed).owns_iff.mp owns')
  · intro other listed
    by_cases equal : other = file
    · exact .inl equal
    · exact .inr (mem.mpr ⟨(more other listed).resolve_left equal, equal⟩)

end Intact

/-! ## Growing one file -/

namespace Draft

/-- A length can be addressed, and there is room for it. -/
def CanGrow (array : PartialArray) (draft : Draft A) (new : Nat) : Prop :=
  dataSectors new ≤ maxFileSectors ∧ Room array draft (dataSectors new)

/-- How an attempt to lengthen a file to `new` bytes ends, with the inode it leaves in memory. -/
structure Attempted (array : PartialArray) (inode : DiskInode) (space : A) (new : Nat)
    (result : Except Error Unit) (array' : PartialArray) (inode' : DiskInode) (space' : A) : Prop where
  grown : ∃ draft m, draft.space = space' ∧ Grown array ⟨inode, space⟩ array' draft ∧
    Ready array' draft m ∧ dataSectors inode'.size ≤ m ∧ inode'.direct = draft.inode.direct ∧
    inode'.indirect = draft.inode.indirect ∧ inode'.doubleIndirect = draft.inode.doubleIndirect
  magic : inode'.magic = inode.magic
  flag : inode'.dirFlag = inode.dirFlag
  still : new ≤ inode.size → inode' = inode
  length : match result with
    | .ok () => (new ≤ inode.size ∨ CanGrow array ⟨inode, space⟩ new) ∧ inode'.size = max inode.size new
    | .error error => inode.size < new ∧ ¬CanGrow array ⟨inode, space⟩ new ∧ inode'.size = inode.size ∧
        (error = .noSpace ∨ error = .outOfRange)

/-- No attempt makes a file shorter. -/
theorem Attempted.size_le {inode inode' : DiskInode} {new : Nat} {result : Except Error Unit}
    (attempted : Attempted array inode space new result array' inode' space') : inode.size ≤ inode'.size := by
  have length := attempted.length
  cases result with
  | ok _ =>
      rw [length.2]
      exact Nat.le_max_left _ _
  | error error =>
      exact Nat.le_of_eq length.2.2.1.symm

/-- **Growing a whole file** either gives it the length, or leaves its length alone. -/
theorem grow_attempted {inode : DiskInode} {m : Nat} (ready : Ready array ⟨inode, space⟩ m)
    (covered : dataSectors inode.size ≤ m) (new : Nat) :
    (edit inode (grow new).attempt : SectorM A (Except Error Unit × DiskInode)).Ensures array space
      (fun (result, inode') array' space' => Attempted array inode space new result array' inode' space')
      fun _ _ _ => False := by
  rw [ensures_edit, SectorM.ensures_attempt]
  by_cases longer : inode.size < new
  · refine (grow_ensures ready covered longer).mono ?_ ?_
    · rintro _ array' draft' ⟨addressed, room, draft₁, grown, ready', rfl, -⟩
      obtain ⟨-, magic, flag⟩ := grown.header
      have size : ({ draft₁.inode with length := UInt32.ofNat new } : DiskInode).size = new :=
        size_of_addressed addressed
      refine ⟨⟨draft₁, _, rfl, grown, ready', ?_, rfl, rfl, rfl⟩, magic, flag,
        fun enough => absurd longer (Nat.not_lt.mpr enough), .inr ⟨addressed, room⟩, ?_⟩
      · rw [size]
        exact Nat.le_max_right _ _
      · rw [size]
        exact (Nat.max_eq_right (Nat.le_of_lt longer)).symm
    · rintro failure array' draft' ⟨grown, ⟨m', more, ready'⟩, why⟩
      obtain ⟨length, magic, flag⟩ := grown.header
      have size : draft'.inode.size = inode.size := congrArg UInt32.toNat length
      have still : ∃ draft m, draft.space = draft'.space ∧ Grown array ⟨inode, space⟩ array' draft ∧
          Ready array' draft m ∧ dataSectors draft'.inode.size ≤ m ∧
          draft'.inode.direct = draft.inode.direct ∧ draft'.inode.indirect = draft.inode.indirect ∧
          draft'.inode.doubleIndirect = draft.inode.doubleIndirect := by
        refine ⟨draft', m', rfl, grown, ready', ?_, rfl, rfl, rfl⟩
        rw [size]
        exact Nat.le_trans covered more
      have some_growth : new ≤ inode.size → draft'.inode = inode := fun enough => absurd longer (Nat.not_lt.mpr enough)
      rcases why with ⟨rfl, beyond, -, -⟩ | ⟨rfl, -, short⟩
      · exact ⟨still, magic, flag, some_growth, longer, fun can => Nat.lt_irrefl _ (Nat.lt_of_lt_of_le beyond can.1),
          size, .inr rfl⟩
      · exact ⟨still, magic, flag, some_growth, longer, fun can => short can.2, size, .inl rfl⟩
  · refine grow_of_le (Nat.le_of_not_lt longer) ?_
    refine ⟨⟨⟨inode, space⟩, m, rfl, .refl ready rfl rfl fun _ => Iff.rfl, ready, covered, rfl, rfl, rfl⟩,
      rfl, rfl, fun _ => rfl, .inl (Nat.le_of_not_lt longer), ?_⟩
    exact (Nat.max_eq_left (Nat.le_of_not_lt longer)).symm

end Draft

/-- What storing an inode after an attempt to lengthen its file does to all files. -/
structure Stored (array : PartialArray) (space : A) (files : List SectorId) (file : SectorId)
    (inode : DiskInode) (array' : PartialArray) (space' : A) : Prop where
  spreads : array.Spreads array'
  bytes : array'.byteAt (array'.inode file) = array.byteAt inode
  flag : (array'.inode file).dirFlag = inode.dirFlag
  others : ∀ other ∈ files, other ≠ file → Same array array' other
  taken : ∀ sector, Taken space' sector ↔
    Taken space sector ∨ array'.Owns file (array'.inode file) sector
  owned : ∀ sector, array'.Owns file (array'.inode file) sector →
    array.Owns file inode sector ∨ ¬Taken space sector
  intact : ∀ files', (∀ other ∈ files', other = file ∨ other ∈ files) → Intact array' space' files'
  spared : ∀ sector, ¬Taken space' sector → array'.get sector = array.get sector

/-- A file that is apart from all others stays so when it is lengthened and stored. -/
theorem Intact.stored (intact : Intact array space files) {inode inode' : DiskInode}
    (whole : array.Whole (Taken space) file inode)
    (alone : ∀ other ∈ files, other ≠ file → ∀ sector, array.Owns file inode sector →
      ¬array.Owns other (array.inode other) sector)
    {new : Nat} {result : Except Error Unit}
    (attempted : Draft.Attempted array inode space new result array' inode' space') :
    array'.Has file ∧ (array'.set file inode'.encode).inode file = inode' ∧
      Stored array space files file inode (array'.set file inode'.encode) space' := by
  obtain ⟨m, mapped, -⟩ := whole.mapped
  have ready := whole.ready intact.sound (Nat.le_of_eq intact.limit) mapped
  obtain ⟨draft, m', rfl, grown, ready', covered, direct, indirect, doubleIndirect⟩ := attempted.grown
  have has : array'.Has file := grown.spreads.has.mpr whole.has
  have spreads : array.Spreads (array'.set file inode'.encode) := grown.spreads.trans (.set has)
  have kept : ∀ sector, Taken space sector → Taken draft.space sector :=
    fun sector taken => (grown.taken sector).mpr (.inl taken)
  obtain ⟨whole', held, bytes⟩ := whole.stored ready grown ready' direct indirect doubleIndirect
    attempted.magic covered attempted.size_le
  have stored := PartialArray.inode_set_self has inode'
  have owned : ∀ sector, (array'.set file inode'.encode).Owns file inode' sector →
      array.Owns file inode sector ∨ ¬Taken space sector := by
    intro sector owns
    exact grown.owns ((PartialArray.owns_congr held).mp owns)
  have frame : ∀ other ∈ files, other ≠ file → ∀ sector, array.Owns other (array.inode other) sector →
      (array'.set file inode'.encode).get sector = array.get sector ∧ Taken draft.space sector := by
    intro other listed different sector owns
    have taken := intact.taken_of_owns listed owns
    have apart : ∀ mine, array.Owns file inode mine → mine ≠ sector :=
      fun mine owned same => alone other listed different mine owned (same ▸ owns)
    refine ⟨?_, kept sector taken⟩
    rw [PartialArray.get_set_ne has (Ne.symm (apart file (.inl rfl)))]
    exact grown.frame sector taken fun spot _ holds => apart _ (.inr ⟨spot, holds, rfl⟩)
  have all : ∀ files', (∀ other ∈ files', other = file ∨ other ∈ files) →
      Intact (array'.set file inode'.encode) draft.space files' ∧
        ∀ other ∈ files, other ≠ file → Same array (array'.set file inode'.encode) other := by
    intro files' more
    refine intact.update ready'.sound grown.limit spreads (PartialArray.mem_set_self has) frame ?_ ?_ more
    · rw [stored]
      exact whole'
    · rw [stored]
      intro other listed different sector owns owns'
      rcases owned sector owns with before | free
      · exact alone other listed different sector before owns'
      · exact free (intact.taken_of_owns listed owns')
  refine ⟨has, stored, spreads, ?_, ?_, (all files fun _ listed => .inr listed).2, ?_, ?_,
    fun files' more => (all files' more).1, ?_⟩
  · rw [stored]
    exact bytes
  · rw [stored]
    exact attempted.flag
  · intro sector
    rw [stored, grown.taken, PartialArray.owns_congr held]
    refine ⟨Or.imp_right .inr, ?_⟩
    rintro (before | rfl | owns)
    · exact .inl before
    · exact .inl whole.taken
    · exact .inr owns
  · rw [stored]
    exact owned
  · intro sector free
    have different : sector ≠ file := fun same => free (by rw [same]; exact kept file whole.taken)
    rw [PartialArray.get_set_ne has different]
    exact grown.spared sector free

namespace DiskInode

/-- **Lengthening** the file of a stored inode. -/
theorem lengthen_ensures (intact : Intact array space files) (listed : file ∈ files) {length : Nat}
    (longer : (array.inode file).size < length) :
    ((array.inode file).lengthen file length : SectorM A DiskInode).Ensures array space
      (fun inode' array' space' => inode' = array'.inode file ∧
        Stored array space files file (array.inode file) array' space' ∧
        ((Draft.CanGrow array ⟨array.inode file, space⟩ length ∧ inode'.size = length) ∨
          (¬Draft.CanGrow array ⟨array.inode file, space⟩ length ∧
            inode'.size = (array.inode file).size)))
      fun _ _ _ => False := by
  have whole := intact.whole file listed
  obtain ⟨m, mapped, covered⟩ := whole.mapped
  unfold lengthen
  rw [SectorM.ensures_bind]
  refine (Draft.grow_attempted (whole.ready intact.sound (Nat.le_of_eq intact.limit) mapped) covered
    length).mono ?_ fun _ _ _ failed => failed
  rintro ⟨result, inode'⟩ array' space' attempted
  obtain ⟨has, stored, all⟩ := intact.stored whole
    (fun other there different => intact.apart file listed other there (Ne.symm different)) attempted
  have length := attempted.length
  cases result with
  | ok _ =>
      obtain ⟨can, size⟩ := length
      simp only [SectorM.ensures_bind, ensures_store, SectorM.ensures_pure]
      refine ⟨has, stored.symm, all, .inl ⟨can.resolve_left (Nat.not_le.mpr longer), ?_⟩⟩
      rw [size]
      exact Nat.max_eq_right (Nat.le_of_lt longer)
  | error error =>
      obtain ⟨-, cannot, size, -⟩ := length
      simp only [SectorM.ensures_bind, SectorM.ensures_emit, ensures_store, SectorM.ensures_pure]
      exact ⟨has, stored.symm, all, .inr ⟨cannot, size⟩⟩

/-- **Making** a file of zeros on a sector that is taken and that no file owns. -/
theorem create_ensures (intact : Intact array space files) (has : array.Has file)
    (taken : Taken space file)
    (alone : ∀ other ∈ files, ¬array.Owns other (array.inode other) file) (length : Nat) (isDir : Bool) :
    (create file length isDir : SectorM A Unit).Ensures array space
      (fun _ array' space' => Stored array space files file (.empty isDir) array' space' ∧
        (array'.inode file).size = length ∧ (length = 0 → array'.inode file = .empty isDir))
      fun failure array' space' => Stored array space files file (.empty isDir) array' space' ∧
        (failure = .reported .noSpace ∨ failure = .reported .outOfRange) ∧
        0 < length ∧ ¬Draft.CanGrow array ⟨.empty isDir, space⟩ length := by
  have whole := Whole.empty has taken isDir
  obtain ⟨m, mapped, covered⟩ := whole.mapped
  have own : ∀ sector, array.Owns file (.empty isDir) sector → sector = file := by
    rintro sector (same | ⟨spot, holds, -⟩)
    · exact same
    · exact absurd holds (PartialArray.not_holds_empty array isDir spot)
  unfold create
  rw [SectorM.ensures_bind]
  refine (Draft.grow_attempted (whole.ready intact.sound (Nat.le_of_eq intact.limit) mapped) covered
    length).mono ?_ fun _ _ _ failed => failed.elim
  rintro ⟨result, inode'⟩ array' space' attempted
  obtain ⟨has, stored, all⟩ := intact.stored whole
    (fun other there _ sector owns => own sector owns ▸ alone other there) attempted
  have ended := attempted.length
  cases result with
  | ok _ =>
      simp only [SectorM.ensures_bind, SectorM.ensures_emit, ensures_store]
      refine ⟨has, all, ?_, ?_⟩
      · rw [stored, ended.2]
        exact Nat.max_eq_right (Nat.zero_le _)
      · intro nothing
        rw [stored]
        exact attempted.still (Nat.le_of_eq nothing)
  | error error =>
      simp only [SectorM.ensures_bind, SectorM.ensures_emit, ensures_store, SectorM.ensures_report]
      obtain ⟨longer, cannot, -, why⟩ := ended
      refine ⟨has, all, ?_, longer, cannot⟩
      rcases why with rfl | rfl
      · exact .inl rfl
      · exact .inr rfl

/-- A new file takes its data sectors and the index blocks above them. -/
theorem create_spends (intact : Intact array space files) (has : array.Has file) (taken : Taken space file)
    (length : Nat) (isDir : Bool) :
    (create file length isDir : SectorM A Unit).Ensures array space
      (fun _ _ space' => left space = left space' + totalSectors length) fun _ _ _ => True := by
  have whole := Whole.empty has taken isDir
  have mapped := PartialArray.prefix_empty array isDir
  have ready := whole.ready intact.sound (Nat.le_of_eq intact.limit) mapped
  have none : array.blocks (.empty isDir) 0 = 0 := by
    rw [PartialArray.blocks, if_neg (Nat.not_lt_zero _), if_neg (PartialArray.not_holds_empty array isDir _)]
    rfl
  unfold create
  rw [SectorM.ensures_bind, Draft.ensures_edit, SectorM.ensures_attempt]
  rcases Nat.eq_zero_or_pos length with rfl | longer
  · refine Draft.grow_of_le (Nat.le_refl 0) ?_
    simp only [SectorM.ensures_bind, SectorM.ensures_emit, ensures_store]
    exact ⟨has, rfl⟩
  have data : 0 < dataSectors length := by
    have size : sectorSize = 512 := rfl
    rw [dataSectors, size]
    omega
  refine (Draft.grow_ensures ready (show dataSectors 0 ≤ 0 by decide) longer).mono ?_ ?_
  · rintro _ array' draft' ⟨-, -, draft₁, grown, -, rfl, -, spent⟩
    simp only [SectorM.ensures_bind, SectorM.ensures_emit, ensures_store]
    have spent := (spent data).2
    rw [none] at spent
    exact ⟨grown.spreads.has.mpr has, spent⟩
  · rintro failure array' draft' ⟨grown, -, why⟩
    have has' := grown.spreads.has.mpr has
    rcases why with ⟨rfl, -⟩ | ⟨rfl, -⟩ <;>
      simp only [SectorM.ensures_bind, SectorM.ensures_emit, SectorM.ensures_report, ensures_store] <;>
      exact ⟨has', trivial⟩

end DiskInode

/-! ## Patching and reclaiming one file -/

/-- A patch of one file's bytes, within its length, leaves all files as they are but for it. -/
theorem Intact.patched (intact : Intact array space files) (listed : file ∈ files) {offset : Nat} {patch : Bytes}
    (patched : DiskInode.Patched array (array.inode file) offset patch array')
    (fits : patch.size ≤ (array.inode file).size - offset) :
    Intact array' space files ∧ array'.inode file = array.inode file ∧
      array'.held (array.inode file) = array.held (array.inode file) ∧
      ∀ other ∈ files, other ≠ file → Same array array' other := by
  have whole := intact.whole file listed
  have held := patched.held whole.tidy
  have stored : array'.inode file = array.inode file := by
    rw [PartialArray.inode, patched.frame file fun place holds => whole.own _ holds, PartialArray.inode]
  obtain ⟨m, mapped, covered⟩ := whole.mapped
  have holds : ∀ spot, array'.Holds (array.inode file) spot ↔ array.Holds (array.inode file) spot :=
    fun spot => PartialArray.holds_congr (congrFun held spot)
  have whole' : array'.Whole (Taken space) file (array.inode file) := by
    refine ⟨patched.spreads.has.mpr whole.has, whole.taken, whole.valid,
      whole.tidy.congr held patched.spreads, ?_, ⟨m, mapped.congr held, covered⟩, ?_⟩
    · intro spot here
      rw [held]
      exact whole.own spot ((holds spot).mp here)
    · intro i past
      rw [patched.bytes, if_neg (by omega)]
      exact whole.zeros i past
  have all : Intact array' space files ∧ ∀ other ∈ files, other ≠ file → Same array array' other := by
    refine intact.update intact.sound rfl patched.spreads (patched.spreads.mem (intact.known file listed)) ?_
      (by rw [stored]; exact whole') ?_ fun other there => .inr there
    · intro other there different sector owns
      refine ⟨patched.frame sector fun place here same => ?_, intact.taken_of_owns there owns⟩
      exact intact.apart file listed other there (Ne.symm different) sector (.inr ⟨_, here, same⟩) owns
    · intro other there different sector owns
      rw [stored] at owns
      exact intact.apart file listed other there (Ne.symm different) sector
        ((PartialArray.owns_congr held).mp owns)
  exact ⟨all.1, stored, held, all.2⟩

namespace DiskInode

/-- Loading the inode of a file finds it. -/
theorem ensures_ofOpen {σ : Type} {s : σ} (parted : Parted array space files) (listed : file ∈ files)
    {good : DiskInode → PartialArray → σ → Prop} {bad : Failure → PartialArray → σ → Prop} :
    (ofOpen file : SectorM σ DiskInode).Ensures array s good bad ↔ good (array.inode file) array s := by
  rw [ofOpen, SectorM.ensures_bind, ensures_load, SectorM.ensures_bind, SectorM.ensures_require,
    if_pos (parted.whole file listed).valid, SectorM.ensures_pure]
  exact and_iff_right (parted.known file listed)

/-- **Reclaiming** a file frees exactly the sectors it owns. -/
theorem reclaim_ensures (parted : Parted array space files) (listed : file ∈ files) (files' : List SectorId)
    (less : ∀ other ∈ files', other ∈ files ∧ other ≠ file) :
    (reclaim file : SectorM A Unit).Ensures array space
      (fun _ array' space' => array' = array ∧ Parted array space' files' ∧
        (Sound space → file.isAllocated = true → Sound space') ∧
        ∀ sector, Taken space' sector ↔ Taken space sector ∧
          ¬array.Owns file (array.inode file) sector)
      fun _ _ _ => False := by
  have whole := parted.whole file listed
  obtain ⟨m, mapped, -⟩ := whole.mapped
  unfold reclaim
  rw [SectorM.ensures_bind, ensures_ofOpen parted listed, SectorM.ensures_bind]
  refine (freeSectors_ensures ⟨whole.tidy, parted.limit⟩ mapped).mono ?_ fun _ _ _ failed => failed
  rintro _ array₁ space₁ ⟨rfl, sound, limit, freed⟩
  have taken : Taken space₁ file := (freed file).mpr ⟨whole.taken, whole.own⟩
  have inside : file.index < LawfulAllocator.limit space₁ := by
    rw [limit, parted.limit]
    exact whole.has
  rw [SectorM.ensures_bind, releaseOne, SectorM.ensures_perform]
  refine (LawfulAllocator.release taken inside).mono ?_ fun _ _ failed => failed
  rintro _ space₂ ⟨sound', limit', released⟩
  have gone : ∀ sector, Taken space₂ sector ↔ Taken space sector ∧
      ¬array₁.Owns file (array₁.inode file) sector := by
    intro sector
    rw [released, freed]
    constructor
    · rintro ⟨different, before, apart⟩
      refine ⟨before, ?_⟩
      rintro (same | ⟨spot, holds, same⟩)
      · exact different same
      · exact apart spot holds same
    · rintro ⟨before, apart⟩
      exact ⟨fun same => apart (.inl same), before, fun spot holds same => apart (.inr ⟨spot, holds, same⟩)⟩
  rw [SectorM.ensures_emit]
  refine ⟨rfl, ?_, fun before => sound' (sound before), gone⟩
  refine (parted.restrict (limit'.trans limit) (.refl _) (fun other there => (less other there).1) ?_).1
  intro other there sector owns
  obtain ⟨before, different⟩ := less other there
  exact ⟨rfl, (gone sector).mpr ⟨parted.taken_of_owns before owns,
    fun mine => parted.apart file listed other before (Ne.symm different) sector mine owns⟩⟩

end DiskInode

end InodeVolume
