import InodeVolume.Proofs.Files.First
import InodeVolume.Proofs.Volume.Reachable

/-!
# Volumes whose free map has lost its file

Nothing keeps callers from removing the file of the free map. Its inode is on sector 0, which is free then
and is the first to be handed out again, although no block map can hold it.

* **removing** — `removeMap_ensures`: sector 0 is the lowest that is free;
* **opening** — `openRoot_bare`: the root directory is a file that gets sector 0 next;
* **storing** — `storeFreeMap_refused`: nothing is stored once sector 0 holds no inode.
-/

namespace InodeVolume

namespace Volume

variable {array : PartialArray} {volume : Volume}

open LawfulAllocator (Taken)

/-- What callers know of a new volume from which they removed the free map's file. -/
def unmappedLedger : Ledger := ⟨[rootSector], [], [], []⟩

/-- A volume without the free map's file, on which nobody has anything open. -/
structure Unmapped (array : PartialArray) (volume : Volume) : Prop where
  tended : Tended array volume unmappedLedger
  found : volume.space.firstClear? = some 0
  root : array.inode rootSector = .empty true

theorem removed_freeMap : initialLedger.removed freeMapSector = unmappedLedger := by
  unfold Ledger.removed
  rw [if_neg (by simp [initialLedger])]
  rfl

/-- Removing the free map's file frees sector 0. -/
theorem removeMap_ensures (healthy : Healthy array volume initialLedger)
    (root : array.inode rootSector = .empty true) :
    (remove freeMapSector).Ensures array volume (fun _ array' volume' => array' = array ∧ Unmapped array volume')
      fun _ _ _ => False := by
  refine (remove_tended healthy.sane.tended healthy.live.1 fun doomed => absurd doomed healthy.live.2).mono ?_
    fun _ _ _ failed => Ledger.not_crowded_of_nobody rfl failed.2.1
  rintro _ array volume' ⟨rfl, tended, removed⟩
  rw [removed_freeMap] at tended
  refine ⟨rfl, tended, FreeMap.firstClear?_eq ?_ fun j low => absurd low (Nat.not_lt_zero j), root⟩
  have free : ¬Taken volume'.space freeMapSector := fun taken =>
    ((removed.last (by simp [initialLedger]) freeMapSector).mp taken).2 (.inl rfl)
  exact Bool.eq_false_iff.mpr free

/-- The root directory of such a volume can have sector 0 next. -/
theorem openRoot_bare (unmapped : Unmapped array volume) :
    openRoot.Ensures array volume
      (fun ref array' volume' => array' = array ∧ Tended array volume' (unmappedLedger.opened ⟨rootSector, ref⟩) ∧
        Files.Bare array volume' ref rootSector 0)
      fun _ _ _ => False := by
  have tended := unmapped.tended
  have here : rootSector ∈ unmappedLedger.files := List.mem_cons_self
  refine (tended.openAt_ensures here fun doomed => by cases doomed).mono ?_
    fun _ _ _ failed => Ledger.not_crowded_of_nobody rfl failed.2.1
  rintro ref array volume' ⟨rfl, space, opened⟩
  have whole := tended.parted.whole rootSector here
  have minds := opened.kept.minds ⟨rootSector, ref⟩ List.mem_cons_self
  have some_sector : array.Has (.ofNat 0) :=
    Nat.lt_of_le_of_lt (Nat.zero_le rootSector.index) whole.has
  refine ⟨rfl, opened, minds.sector, minds.free (fun denied => by cases denied), tended.parted.known rootSector here,
    whole.valid, ?_, ?_, ?_, some_sector⟩
  · rw [unmapped.root]
    rfl
  · rw [unmapped.root]
    exact PartialArray.not_holds_empty array true _
  · rw [space]
    exact unmapped.found

theorem isValid_zeroSector : (DiskInode.decode zeroSector).isValid = false := by decide +kernel

/-- After the first write to the root directory there is no inode on sector 0. -/
theorem isValid_withFirst {new : Nat} (known : rootSector ∈ array) (some_sector : array.Has freeMapSector) :
    ((Files.withFirst array rootSector 0 new).inode freeMapSector).isValid = false := by
  have has : (array.set freeMapSector zeroSector).Has rootSector :=
    PartialArray.has_set.mpr (PartialArray.has_of_mem known)
  have apart : freeMapSector ≠ rootSector := by decide
  have zero : SectorId.ofNat 0 = freeMapSector := rfl
  rw [PartialArray.inode, Files.withFirst, zero, PartialArray.get_set_ne has apart,
    PartialArray.get_set_self some_sector]
  exact isValid_zeroSector

/-- The free map cannot be stored where sector 0 holds no inode. -/
theorem storeFreeMap_refused (unlisted : volume.table.find? freeMapSector = none) (known : freeMapSector ∈ array)
    (broken : (array.inode freeMapSector).isValid = false) :
    storeFreeMap.Ensures array volume (fun _ _ _ => False)
      fun failure array' _ => failure = .reported (.badMagic freeMapSector) ∧ array' = array := by
  unfold storeFreeMap Files.openAt
  rw [SectorM.ensures_bind, Files.ensures_inTable, InodeTable.openAt, SectorM.ensures_bind, SectorM.ensures_get]
  dsimp only
  rw [unlisted]
  dsimp only
  rw [SectorM.ensures_bind, DiskInode.ensures_load]
  refine ⟨known, ?_⟩
  rw [SectorM.ensures_ite, if_neg (by rw [broken]; decide), SectorM.ensures_bind, SectorM.ensures_emit,
    SectorM.ensures_report]
  exact ⟨rfl, rfl⟩

/-- So it cannot be stored once the root directory was given sector 0. -/
theorem storeFreeMap_lost {ref : InodeRef} (tended : Tended array volume (unmappedLedger.opened ⟨rootSector, ref⟩))
    (bare : Files.Bare array volume ref rootSector 0) (new : Nat) (space : FreeMap) :
    storeFreeMap.Ensures (Files.withFirst array rootSector 0 new) ⟨volume.table, space⟩ (fun _ _ _ => False)
      fun failure array' _ => failure = .reported (.badMagic freeMapSector) ∧
        array' = Files.withFirst array rootSector 0 new := by
  have unlisted : volume.table.find? freeMapSector = none := by
    cases found : volume.table.find? freeMapSector with
    | none => rfl
    | some other =>
        have holder := (tended.kept.listed ⟨freeMapSector, other⟩).mp found
        have there : Holder.mk freeMapSector other ∈ [Holder.mk rootSector ref] := holder
        cases List.mem_singleton.mp there
  have hasRoot : (array.set (.ofNat 0) zeroSector).Has rootSector :=
    PartialArray.has_set.mpr (PartialArray.has_of_mem bare.known)
  have known : freeMapSector ∈ Files.withFirst array rootSector 0 new :=
    PartialArray.mem_set_of_mem hasRoot (PartialArray.mem_set_self bare.has)
  exact storeFreeMap_refused unlisted known (isValid_withFirst bare.known bare.has)

end Volume

end InodeVolume
