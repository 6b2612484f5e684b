import InodeVolume.Proofs.Files.InUse
import InodeVolume.Proofs.Space.Lawful

/-!
# The first sector of a file

A file that has no sectors is given one. Unlike what is known of growth in general, it is told here
which sector that is and what is written where, and nothing is asked of the free map but that it has a
clear bit. So this covers a free map that hands out sector 0, which no block map can hold.

* **growing** — `Draft.grow_first`, and what making and lengthening a file come to;
* **writing** — `Files.write_first`: where the sector is 0 the file is longer and nothing is written.
-/

namespace InodeVolume

variable {array : PartialArray} {space : FreeMap} {inode : DiskInode} {file : SectorId} {k new : Nat}

/-! ## Growing -/

theorem FreeMap.allocate_first (found : space.firstClear? = some k) :
    (FreeMap.allocate 1).Ensures space (fun given after => given = some (.ofNat k) ∧ after = space.mark k)
      fun _ _ => False := by
  unfold FreeMap.allocate
  refine .bind (Action.ensures_require.mpr ?_)
  rw [if_pos (by decide)]
  refine .bind (Action.ensures_get.mpr ?_)
  have single : space.firstFit? 1 = space.firstClear? := rfl
  rw [single, found]
  refine .bind (Action.ensures_modify.mpr (.bind (Action.ensures_emit.mpr ?_)))
  exact Action.ensures_pure.mpr ⟨rfl, rfl⟩

namespace DiskInode

theorem lookup_first {σ : Type} :
    (inode.lookup (.direct 0) : SectorM σ SectorId) = pure (array.find inode (.direct 0)) := by
  rw [lookup, dif_pos (by decide), PartialArray.find, Vector.getElem?_eq_getElem (by decide), Option.getD_some]

/-- The inode with a first sector, and with a length. -/
def withFirst (inode : DiskInode) (k length : Nat) : DiskInode :=
  { inode with direct := inode.direct.set 0 (.ofNat k) (by decide), length := UInt32.ofNat length }

theorem find_withFirst : array.find (inode.withFirst k new) (.direct 0) = .ofNat k := by
  have low : 0 < directCount := by decide
  show ((inode.direct.set 0 (SectorId.ofNat k) low)[0]?).getD .unmapped = _
  rw [PartialArray.getD_set _ low, if_pos rfl]

theorem size_withFirst (small : new ≤ sectorSize) : (inode.withFirst k new).size = new := by
  have size : sectorSize = 512 := rfl
  show (UInt32.ofNat new).toNat = new
  rw [UInt32.toNat_ofNat']
  exact Nat.mod_eq_of_lt (by omega)

end DiskInode

namespace Draft

theorem dataSectors_first (some_byte : 0 < new) (small : new ≤ sectorSize) : dataSectors new = 1 := by
  have size : sectorSize = 512 := rfl
  rw [size] at small
  rw [dataSectors, size]
  omega

/-- A file without sectors gets the lowest one that is free. -/
theorem grow_first (none : inode.size = 0) (absent : ¬array.Holds inode (.data (.direct 0)))
    (some_byte : 0 < new) (small : new ≤ sectorSize) (found : space.firstClear? = some k)
    (has : array.Has (.ofNat k)) :
    (grow new : SectorM (Draft FreeMap) Unit).Ensures array ⟨inode, space⟩
      (fun _ array' draft' => array' = array.set (.ofNat k) zeroSector ∧
        draft' = ⟨inode.withFirst k new, space.mark k⟩)
      fun _ _ _ => False := by
  have data := dataSectors_first some_byte small
  have place : locate (0 * sectorSize) = .direct 0 := by decide
  have absent : ¬(array.find inode (.direct 0)).isAllocated = true := absent
  unfold grow
  rw [SectorM.ensures_bind, SectorM.ensures_get]
  dsimp only
  rw [none, data, SectorM.ensures_ite, if_neg (by omega), SectorM.ensures_ite, if_neg (by decide)]
  -- there is one turn, for logical sector 0
  show SectorM.Ensures (List.forM [0] (extend 0 new) >>= fun _ => _) _ _ _ _
  rw [SectorM.ensures_bind, SectorM.ensures_forM_cons]
  unfold extend
  rw [SectorM.ensures_bind, SectorM.ensures_get, place, DiskInode.lookup_first, SectorM.ensures_bind, SectorM.ensures_pure,
    SectorM.ensures_ite, if_neg absent, SectorM.ensures_bind, request, SectorM.ensures_perform, onSpace,
    Action.ensures_within]
  refine (show Action.Ensures (FreeMap.allocate 1) space _ _ from FreeMap.allocate_first found).mono ?_
    fun _ _ failed => failed.elim
  rintro _ _ ⟨rfl, rfl⟩
  dsimp only
  rw [SectorM.ensures_bind, SectorM.ensures_attempt, register, registerDirect, dif_pos (by decide), change,
    SectorM.ensures_modify, SectorM.ensures_writeAt]
  refine ⟨zeroSector.fits_whole, PartialArray.takes_block.mpr has, ?_⟩
  rw [Block.splice_whole, SectorM.ensures_forM_nil, SectorM.ensures_bind, SectorM.ensures_emit, change,
    SectorM.ensures_modify]
  exact ⟨rfl, rfl⟩

end Draft

namespace DiskInode

theorem create_empty (has : array.Has file) (isDir : Bool) :
    (create file 0 isDir : SectorM FreeMap Unit).Ensures array space
      (fun _ array' space' => array' = array.set file (empty isDir).encode ∧ space' = space)
      fun _ _ _ => False := by
  unfold create
  rw [SectorM.ensures_bind, Draft.ensures_edit, SectorM.ensures_attempt]
  refine Draft.grow_of_le (Nat.le_refl 0) ?_
  simp only [SectorM.ensures_bind, SectorM.ensures_emit, ensures_store]
  exact ⟨has, trivial, trivial⟩

/-- A new file of no more than one sector. -/
theorem create_first (has : array.Has file) (some_byte : 0 < new) (small : new ≤ sectorSize)
    (found : space.firstClear? = some k) (hasFirst : array.Has (.ofNat k)) (isDir : Bool) :
    (create file new isDir : SectorM FreeMap Unit).Ensures array space
      (fun _ array' space' => array' = (array.set (.ofNat k) zeroSector).set file
        ((empty isDir).withFirst k new).encode ∧ space' = space.mark k)
      fun _ _ _ => False := by
  unfold create
  rw [SectorM.ensures_bind, Draft.ensures_edit, SectorM.ensures_attempt]
  refine (Draft.grow_first rfl (PartialArray.not_holds_empty array isDir _) some_byte small found
    hasFirst).mono ?_ fun _ _ _ failed => failed.elim
  rintro _ _ _ ⟨rfl, rfl⟩
  simp only [SectorM.ensures_bind, SectorM.ensures_emit, ensures_store]
  exact ⟨PartialArray.has_set.mpr has, trivial, trivial⟩

theorem lengthen_first (has : array.Has file) (none : inode.size = 0)
    (absent : ¬array.Holds inode (.data (.direct 0))) (some_byte : 0 < new) (small : new ≤ sectorSize)
    (found : space.firstClear? = some k) (hasFirst : array.Has (.ofNat k)) :
    (inode.lengthen file new : SectorM FreeMap DiskInode).Ensures array space
      (fun inode' array' space' => inode' = inode.withFirst k new ∧
        array' = (array.set (.ofNat k) zeroSector).set file (inode.withFirst k new).encode ∧ space' = space.mark k)
      fun _ _ _ => False := by
  unfold lengthen
  rw [SectorM.ensures_bind, Draft.ensures_edit, SectorM.ensures_attempt]
  refine (Draft.grow_first none absent some_byte small found hasFirst).mono ?_ fun _ _ _ failed => failed.elim
  rintro _ _ _ ⟨rfl, rfl⟩
  simp only [SectorM.ensures_bind, ensures_store, SectorM.ensures_pure]
  exact ⟨PartialArray.has_set.mpr has, trivial, trivial, trivial⟩

/-! ## Reading and writing -/

variable {σ : Type} {s : σ} {source : Bytes}

/-- What is read of the first sector of a file. -/
theorem read_first {wanted : Nat} (holds : array.Holds inode (.data (.direct 0)))
    (known : array.find inode (.direct 0) ∈ array) (some_byte : 0 < wanted) (small : wanted ≤ sectorSize)
    (there : wanted ≤ inode.size) :
    (inode.read 0 wanted : SectorM σ Bytes).Ensures array s
      (fun bytes array' s' => array' = array ∧ s' = s ∧
        bytes = Bytes.slice (array.get (array.find inode (.direct 0))).bytes 0 wanted)
      fun _ _ _ => False := by
  have holds : (array.find inode (.direct 0)).isAllocated = true := holds
  have place : locate 0 = .direct 0 := by decide
  have start : 0 % sectorSize = 0 := rfl
  have all : pieceLength inode.size 0 wanted = wanted := by
    rw [pieceLength, start]
    omega
  unfold read
  rw [readFrom, dif_neg (by omega), dif_pos (by omega), place, lookup_first, SectorM.ensures_bind, SectorM.ensures_pure,
    SectorM.ensures_ite, if_pos holds]
  dsimp only
  rw [start, SectorM.ensures_bind, SectorM.ensures_readAt]
  refine ⟨by omega, known, ?_⟩
  rw [readFrom, dif_pos (by omega), SectorM.ensures_pure, ByteArray.empty_append]
  refine ⟨rfl, rfl, ?_⟩
  show Bytes.slice _ 0 (pieceLength inode.size 0 wanted) = _
  rw [all]

/-- Nothing is written to a file that lacks its first sector. -/
theorem write_absent (absent : ¬array.Holds inode (.data (.direct 0))) :
    (inode.write source 0 : SectorM σ Nat).Ensures array s (fun n array' s' => n = 0 ∧ array' = array ∧ s' = s)
      fun _ _ _ => False := by
  have absent : ¬(array.find inode (.direct 0)).isAllocated = true := absent
  have place : locate 0 = .direct 0 := by decide
  unfold write
  rw [writeFrom]
  split
  · exact SectorM.ensures_pure.mpr ⟨rfl, rfl, rfl⟩
  split
  · rw [place, lookup_first, SectorM.ensures_bind, SectorM.ensures_pure, SectorM.ensures_ite,
      if_neg absent]
    exact SectorM.ensures_pure.mpr ⟨rfl, rfl, rfl⟩
  · exact SectorM.ensures_pure.mpr ⟨rfl, rfl, rfl⟩

/-- What is written to a file of one sector goes to that sector. -/
theorem write_first (holds : array.Holds inode (.data (.direct 0))) (known : array.find inode (.direct 0) ∈ array)
    (some_byte : 0 < source.size) (small : source.size ≤ sectorSize) (exact_size : inode.size = source.size) :
    (inode.write source 0 : SectorM σ Nat).Ensures array s
      (fun n array' s' => n = source.size ∧ s' = s ∧ ∃ fits, array' = array.set (array.find inode (.direct 0))
        ((array.get (array.find inode (.direct 0))).splice 0 source fits))
      fun _ _ _ => False := by
  have holds : (array.find inode (.direct 0)).isAllocated = true := holds
  have place : locate 0 = .direct 0 := by decide
  have start : 0 % sectorSize = 0 := rfl
  have all : pieceLength source.size 0 (source.size - 0) = source.size := by
    rw [pieceLength, start]
    omega
  unfold write
  rw [writeFrom, dif_neg (by omega), dif_pos (by omega), place, lookup_first,
    SectorM.ensures_bind, SectorM.ensures_pure, SectorM.ensures_ite, if_pos holds]
  dsimp only
  rw [exact_size, all, start, SectorM.ensures_bind, SectorM.ensures_writeAt, Bytes.slice_all]
  refine ⟨by omega, .inl known, ?_⟩
  rw [writeFrom, dif_pos (by omega)]
  exact SectorM.ensures_pure.mpr ⟨Nat.zero_add _, rfl, _, rfl⟩

end DiskInode

namespace Files

variable {files : Files FreeMap} {ref : InodeRef} {source : Bytes}

/-- The array after a file got its first sector. -/
def withFirst (array : PartialArray) (file : SectorId) (k length : Nat) : PartialArray :=
  (array.set (.ofNat k) zeroSector).set file ((array.inode file).withFirst k length).encode

/-- A file without sectors that someone has open and that can have sector `k` next. -/
structure Bare (array : PartialArray) (files : Files FreeMap) (ref : InodeRef) (file : SectorId) (k : Nat) : Prop where
  there : (files.table.inode ref).sector = file
  allowed : (files.table.inode ref).denyCount = 0
  known : file ∈ array
  valid : (array.inode file).isValid = true
  none : (array.inode file).size = 0
  absent : ¬array.Holds (array.inode file) (.data (.direct 0))
  found : files.space.firstClear? = some k
  has : array.Has (.ofNat k)

/-- The first write to a file lengthens it, and goes on with what it has then. -/
theorem Bare.write_ensures (bare : Bare array files ref file k) (some_byte : 0 < source.size)
    (small : source.size ≤ sectorSize) {good : Nat → PartialArray → Files FreeMap → Prop}
    {bad : Failure → PartialArray → Files FreeMap → Prop}
    (next : (((array.inode file).withFirst k source.size).write source 0 : SectorM (Files FreeMap) Nat).Ensures
      (withFirst array file k source.size) ⟨files.table, files.space.mark k⟩ good bad) :
    (write ref source 0 : SectorM (Files FreeMap) Nat).Ensures array files good bad := by
  have size : sectorSize = 512 := rfl
  have proceeds : ¬(decide ((files.table.inode ref).denyCount > 0) || decide (source.size = 0)) = true := by
    rw [bare.allowed, decide_eq_false (Nat.lt_irrefl 0), Bool.false_or, decide_eq_true_iff]
    exact Nat.ne_of_gt some_byte
  unfold write
  rw [SectorM.ensures_bind, ensures_inode, SectorM.ensures_ite, if_neg proceeds]
  dsimp only
  rw [SectorM.ensures_ite, if_neg (by rw [wordLimit]; omega), SectorM.ensures_bind, bare.there, DiskInode.ofOpen,
    SectorM.ensures_bind, DiskInode.ensures_load]
  refine ⟨bare.known, ?_⟩
  rw [SectorM.ensures_bind, SectorM.ensures_require, if_pos bare.valid, SectorM.ensures_pure, SectorM.ensures_ite,
    bare.none, if_pos (by omega), SectorM.ensures_bind, ensures_inSpace, Nat.zero_add]
  refine (DiskInode.lengthen_first (PartialArray.has_of_mem bare.known) bare.none bare.absent some_byte small
    bare.found bare.has).mono ?_ fun _ _ _ failed => failed.elim
  rintro _ _ _ ⟨rfl, rfl, rfl⟩
  exact next

/-- Such a file can be lengthened. -/
theorem Bare.grow_ensures (bare : Bare array files ref file k) (some_byte : 0 < new) (small : new ≤ sectorSize) :
    (inSpace (Draft.edit (array.inode file) (Draft.grow new)) :
      SectorM (Files FreeMap) (Unit × DiskInode)).Ensures array files (fun _ _ _ => True) fun _ _ _ => False := by
  rw [ensures_inSpace, Draft.ensures_edit]
  exact (Draft.grow_first bare.none bare.absent some_byte small bare.found bare.has).mono (fun _ _ _ _ => trivial)
    fun _ _ _ failed => failed

/-- **The first write** to a file. The file gets the lowest sector that is free, and what is written goes
there. -/
theorem Bare.write_first (bare : Bare array files ref file k) (some_byte : 0 < source.size)
    (small : source.size ≤ sectorSize) (allocated : (SectorId.ofNat k).isAllocated = true) :
    (write ref source 0 : SectorM (Files FreeMap) Nat).Ensures array files
      (fun n array' files' => n = source.size ∧ files' = ⟨files.table, files.space.mark k⟩ ∧ ∃ fits, array' =
        (withFirst array file k source.size).set (.ofNat k)
          (((withFirst array file k source.size).get (.ofNat k)).splice 0 source fits))
      fun _ _ _ => False := by
  have first : (withFirst array file k source.size).find ((array.inode file).withFirst k source.size) (.direct 0) =
      .ofNat k := DiskInode.find_withFirst
  have hasFile : (array.set (.ofNat k) zeroSector).Has file :=
    PartialArray.has_set.mpr (PartialArray.has_of_mem bare.known)
  have inside : SectorId.ofNat k ∈ withFirst array file k source.size :=
    PartialArray.mem_set_of_mem hasFile (PartialArray.mem_set_self bare.has)
  refine bare.write_ensures some_byte small ?_
  rw [← first] at allocated inside
  refine (DiskInode.write_first allocated inside some_byte small (DiskInode.size_withFirst small)).mono ?_
    fun _ _ _ failed => failed
  rw [first]
  rintro n array' _ ⟨rfl, rfl, written⟩
  exact ⟨rfl, rfl, written⟩

/-- A first write that gets sector 0 lengthens the file and writes nothing. -/
theorem Bare.write_lost (bare : Bare array files ref file 0) (some_byte : 0 < source.size)
    (small : source.size ≤ sectorSize) :
    (write ref source 0 : SectorM (Files FreeMap) Nat).Ensures array files
      (fun n array' files' => n = 0 ∧ array' = withFirst array file 0 source.size ∧
        files' = ⟨files.table, files.space.mark 0⟩)
      fun _ _ _ => False := by
  have first : (withFirst array file 0 source.size).find ((array.inode file).withFirst 0 source.size) (.direct 0) =
      .ofNat 0 := DiskInode.find_withFirst
  refine bare.write_ensures some_byte small (DiskInode.write_absent ?_)
  rw [PartialArray.Holds, PartialArray.held, first]
  decide

end Files

end InodeVolume
