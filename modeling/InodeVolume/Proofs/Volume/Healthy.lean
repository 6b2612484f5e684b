import InodeVolume.Mount
import InodeVolume.Proofs.Device.Lawful
import InodeVolume.Proofs.Files.InUse
import InodeVolume.Proofs.Space.Lawful

/-!
# Volumes in use

A volume is `Healthy` when its files are in use as its ledger says, and the file of the free map is
there and long enough for the free map. What a volume does keeps it healthy.

* **the free map's file** — `storeFreeMap_ensures`: storing the free map takes no sectors, since the
  file has its length already, so the map that is stored is the map there is;
* **files** — making, closing and removing a file.
-/

namespace InodeVolume

namespace Ledger

variable {ledger : Ledger} {sector : SectorId} {ref : InodeRef}

/-- A file was removed: it is gone, unless someone has it open. -/
def removed (sector : SectorId) (ledger : Ledger) : Ledger :=
  if ∃ holder ∈ ledger.holders, holder.sector = sector then ledger.doom sector else ledger.dropped sector

/-- To open a file, to mark it and to close it is to remove it. -/
theorem closed_doom_opened (same : ∀ holder ∈ ledger.holders, holder.sector = sector → holder = ⟨sector, ref⟩) :
    ((ledger.opened ⟨sector, ref⟩).doom sector).closed ⟨sector, ref⟩ = ledger.removed sector := by
  have left : (((ledger.opened ⟨sector, ref⟩).doom sector).holders.erase ⟨sector, ref⟩) = ledger.holders :=
    List.erase_cons_head _ _
  have doomed : sector ∈ ((ledger.opened ⟨sector, ref⟩).doom sector).doomed := List.mem_cons_self
  unfold removed
  by_cases others : ∃ holder ∈ ledger.holders, holder.sector = sector
  · have still : ⟨sector, ref⟩ ∈ ledger.holders := by
      obtain ⟨holder, listed, here⟩ := others
      rw [← same holder listed here]
      exact listed
    rw [if_pos others, closed_of_open (by rw [left]; exact still), left]
    rfl
  · have last : ⟨sector, ref⟩ ∉ ledger.holders := fun listed => others ⟨_, listed, rfl⟩
    rw [if_neg others, closed_of_doomed (by rw [left]; exact last) doomed, left]
    simp [dropped, doom, opened]

theorem mem_files_removed {file : SectorId} (different : file ≠ sector) :
    file ∈ (ledger.removed sector).files ↔ file ∈ ledger.files := by
  unfold removed
  split
  · exact Iff.rfl
  · simp [different]

theorem mem_doomed_removed {file : SectorId} (different : file ≠ sector) :
    file ∈ (ledger.removed sector).doomed ↔ file ∈ ledger.doomed := by
  unfold removed
  split
  · exact List.mem_cons.trans (or_iff_right different)
  · simp [different]

theorem mem_files_closed {holder : Holder} {file : SectorId} (different : file ≠ holder.sector) :
    file ∈ (ledger.closed holder).files ↔ file ∈ ledger.files := by
  unfold closed
  dsimp only
  split
  · simp [different]
  · exact Iff.rfl

end Ledger

namespace Volume

variable {array array' : PartialArray} {volume volume' : Volume} {ledger : Ledger} {holder : Holder}
  {sector : SectorId}

open LawfulAllocator (Sound limit Taken left)
open PartialArray (Same)

/-- What is free holds what it held, or an inode whose file could not be made. -/
def Spared (array array' : PartialArray) (space : FreeMap) : Prop :=
  ∀ sector, ¬Taken space sector → array'.get sector = array.get sector ∨ (array'.inode sector).isValid = true

theorem Spared.of_frame {space : FreeMap} (spared : ∀ sector, ¬Taken space sector → array'.get sector = array.get sector) :
    Spared array array' space := fun sector free => .inl (spared sector free)

theorem Spared.refl {space : FreeMap} : Spared array array space := .of_frame fun _ _ => rfl

/-! ## The invariant -/

/-- Files are in use as the ledger says, and that of the free map is there and has room for it. -/
structure Healthy (array : PartialArray) (volume : Volume) (ledger : Ledger) : Prop where
  sane : Sane array volume ledger
  live : ledger.Live freeMapSector
  length : volume.space.byteLength ≤ (array.inode freeMapSector).size

namespace Healthy

theorem sectors_eq (healthy : Healthy array volume ledger) : volume.space.sectors = array.count :=
  healthy.sane.intact.limit

/-- The sectors that are told to be free are those that the allocator has left. -/
theorem freeSectors_eq (healthy : Healthy array volume ledger) : freeSectors volume = left volume.space :=
  FreeMap.Sound.freeCount_eq healthy.sane.intact.sound

/-- A file other than the free map's is not on sector 0. -/
theorem isAllocated_of_ne (different : sector ≠ freeMapSector) : sector.isAllocated = true := by
  refine SectorId.isAllocated_iff.mpr fun zero => different ?_
  exact SectorId.index_injective zero

/-- The allocator goes on to know the device. -/
theorem byteLength_eq (healthy : Healthy array volume ledger) {files : List SectorId}
    (intact : Intact array' volume'.space files) (spreads : array.Spreads array') :
    volume'.space.byteLength = volume.space.byteLength := by
  have sectors : volume'.space.sectors = volume.space.sectors :=
    intact.limit.trans (spreads.count.trans healthy.sectors_eq.symm)
  rw [FreeMap.byteLength, FreeMap.byteLength, sectors]

/-- Files change and the free map's stays. -/
theorem of_sane (healthy : Healthy array volume ledger) {ledger' : Ledger} (sane : Sane array' volume' ledger')
    (live : ledger'.Live freeMapSector) (spreads : array.Spreads array')
    (longer : (array.inode freeMapSector).size ≤ (array'.inode freeMapSector).size) :
    Healthy array' volume' ledger' := by
  refine ⟨sane, live, Nat.le_trans (Nat.le_of_eq ?_) (Nat.le_trans healthy.length longer)⟩
  exact healthy.byteLength_eq sane.intact spreads

/-- The table changes, and nothing else. -/
theorem of_table (healthy : Healthy array volume ledger) {ledger' : Ledger} (sane : Sane array volume' ledger')
    (live : ledger'.Live freeMapSector) : Healthy array volume' ledger' :=
  healthy.of_sane sane live (.refl _) (Nat.le_refl _)

/-- Sectors that are free need not be known. -/
theorem only (healthy : Healthy array volume ledger) : Healthy (array.only volume.space.marked) volume ledger := by
  have sane := healthy.sane
  have kept : ∀ file ∈ ledger.files, ∀ sector, array.Owns file (array.inode file) sector →
      (array.only volume.space.marked).get sector = array.get sector ∧
        (sector ∈ array → sector ∈ array.only volume.space.marked) ∧ Taken volume.space sector := by
    intro file listed sector owns
    have taken := sane.intact.taken_of_owns listed owns
    exact ⟨PartialArray.get_only taken, PartialArray.mem_only taken, taken⟩
  obtain ⟨parted, same⟩ := sane.intact.toParted.carry rfl PartialArray.count_only (fun _ listed => listed) kept
  refine ⟨⟨⟨parted, sane.intact.sound⟩, sane.kept, sane.held⟩, healthy.live, ?_⟩
  rw [(same freeMapSector healthy.live.1).inode]
  exact healthy.length

end Healthy

/-! ## The free map's file -/

/-- The end of storing the free map takes back the one holder, whatever became of the write. -/
theorem endStore_ensures (healthy : Healthy array volume ledger) {ref : InodeRef}
    (sane : Sane array' volume' (ledger.opened ⟨freeMapSector, ref⟩)) (spreads : array.Spreads array')
    (same : array'.inode freeMapSector = array.inode freeMapSector) (n total : Nat) :
    SectorM.Ensures (do
        Files.close ref
        SectorM.require (n = total) .sameLength : SectorM Volume Unit) array' volume'
      (fun _ array'' after => array'' = array' ∧ Healthy array' after ledger ∧ after.space = volume'.space ∧
        n = total)
      fun failure array'' after => failure = .fault (.broken .sameLength) ∧ array'' = array' ∧
        Healthy array' after ledger ∧ n ≠ total := by
  have spared : freeMapSector ∉ (ledger.opened ⟨freeMapSector, ref⟩).doomed := healthy.live.2
  rw [SectorM.ensures_bind]
  refine (Files.close_ensures sane List.mem_cons_self fun doomed => absurd doomed spared).mono ?_
    fun _ _ _ failed => failed.elim
  rintro _ array' after ⟨rfl, sane', closed⟩
  have space : after.space = volume'.space := closed.other (.inr spared)
  rw [Ledger.closed_opened healthy.live.2] at sane'
  have healthy' := healthy.of_sane sane' healthy.live spreads (Nat.le_of_eq (by rw [same]))
  rw [SectorM.ensures_require]
  by_cases whole : n = total
  · rw [if_pos (decide_eq_true whole)]
    exact ⟨rfl, healthy', space, whole⟩
  · rw [if_neg (by rw [decide_eq_false whole]; exact Bool.false_ne_true)]
    exact ⟨rfl, rfl, healthy', whole⟩

/-- How storing the free map can fail: no more holders of its file can be counted, or writing to it was
denied. -/
def MapRefused (ledger : Ledger) (failure : Failure) : Prop :=
  (failure = .fault .overflow ∧ ledger.Crowded freeMapSector) ∨
    (failure = .fault (.broken .sameLength) ∧ freeMapSector ∈ ledger.denied)

theorem not_mapRefused {failure : Failure} (quiet : ¬ledger.Crowded freeMapSector)
    (free : freeMapSector ∉ ledger.denied) : ¬MapRefused ledger failure :=
  fun refused => refused.elim (fun full => quiet full.2) fun denied => free denied.2

/-- **Storing the free map** writes all its bytes, and takes and frees no sector, unless its file is crowded or
someone had writing to it denied. -/
theorem storeFreeMap_ensures (healthy : Healthy array volume ledger) :
    storeFreeMap.Ensures array volume
      (fun _ array' volume' => Healthy array' volume' ledger ∧ volume'.space = volume.space ∧
        array.Spreads array' ∧ array'.inode freeMapSector = array.inode freeMapSector ∧
        array'.held (array.inode freeMapSector) = array.held (array.inode freeMapSector) ∧
        Bytes.slice (array'.contents (array.inode freeMapSector)) 0 volume.space.byteLength =
          volume.space.toBlock.bytes ∧
        (∀ other ∈ ledger.files, other ≠ freeMapSector → Same array array' other) ∧
        ∀ sector, ¬Taken volume.space sector → array'.get sector = array.get sector)
      fun failure array' volume' => MapRefused ledger failure ∧ array' = array ∧ Healthy array volume' ledger := by
  have full : volume.space.toBlock.bytes.size = volume.space.byteLength := Block.size_bytes _
  have fit : volume.space.toBlock.bytes.size ≤ (array.inode freeMapSector).size := by
    rw [full]
    exact healthy.length
  have small : volume.space.toBlock.bytes.size < 2 ^ 32 :=
    Nat.lt_of_le_of_lt fit (array.inode freeMapSector).length.toNat_lt
  unfold storeFreeMap
  rw [SectorM.ensures_bind]
  refine (Files.openAt_ensures healthy.sane healthy.live).mono ?_ ?_
  swap
  · rintro failure array volume ⟨rfl, crowded, rfl, rfl⟩
    exact ⟨.inl ⟨rfl, crowded⟩, rfl, healthy⟩
  rintro ref array volume₁ ⟨rfl, space, sane⟩
  have minds := sane.kept.minds ⟨freeMapSector, ref⟩ List.mem_cons_self
  rw [SectorM.ensures_bind, SectorM.ensures_get, space]
  dsimp only
  rw [SectorM.ensures_bind]
  refine (Files.write_ensures sane List.mem_cons_self volume.space.toBlock.bytes 0).mono ?_
    fun _ _ _ failed => failed.elim
  intro n array₂ volume₂ outcome
  split at outcome
  · -- nothing is written where writing was denied, or to a file of no bytes
    rename_i refused
    obtain ⟨rfl, rfl, rfl⟩ := outcome
    refine (endStore_ensures healthy sane (.refl _) rfl 0 _).mono ?_ ?_
    · rintro _ array' volume' ⟨rfl, healthy', space', empty⟩
      have nothing : volume.space.toBlock.bytes = .empty := ByteArray.size_eq_zero_iff.mp empty.symm
      refine ⟨healthy', space'.trans space, .refl _, rfl, rfl, ?_, fun _ _ _ => .refl _ _, fun _ _ => rfl⟩
      have zero : volume.space.byteLength = 0 := by rw [← full, nothing, ByteArray.size_empty]
      rw [nothing, zero]
      exact ByteArray.extract_same
    · rintro failure array' volume' ⟨rfl, rfl, healthy', short⟩
      refine ⟨.inr ⟨rfl, ?_⟩, rfl, healthy'⟩
      by_contra free
      have denials : (volume₂.table.inode ref).denyCount = 0 := minds.free free
      rcases refused with denied | empty | long
      · rw [denials] at denied
        omega
      · exact short empty.symm
      · rw [wordLimit] at long
        omega
  · obtain ⟨table, wrote⟩ := outcome
    have wrote : Files.Wrote array volume₁.space ledger.files freeMapSector _ 0 n array₂ volume₂.space := wrote
    obtain ⟨space₂, same, held⟩ := wrote.within (by omega)
    obtain ⟨amount, laid⟩ := wrote.whole (by rw [same]; omega)
    rw [same, full] at laid
    refine (endStore_ensures healthy (wrote.sane sane table) wrote.spreads same n _).mono ?_ ?_
    · rintro _ array' volume' ⟨rfl, healthy', space', -⟩
      have still : volume₂.space = volume.space := space₂.trans space
      exact ⟨healthy', space'.trans still, wrote.spreads, same, held, laid, wrote.others, still ▸ wrote.spared⟩
    · rintro failure array' volume' ⟨-, -, -, short⟩
      exact absurd amount short

/-- The free map is not stored where its file is crowded. -/
theorem storeFreeMap_crowded (healthy : Healthy array volume ledger) (crowded : ledger.Crowded freeMapSector) :
    storeFreeMap.Ensures array volume (fun _ _ _ => False)
      fun failure array' volume' => failure = .fault .overflow ∧ array' = array ∧ volume' = volume := by
  refine SectorM.ensures_bind.mpr ?_
  exact (healthy.sane.tended.openAt_crowded healthy.live.1 (fun doomed => absurd doomed healthy.live.2) crowded).mono
    (fun _ _ _ opened => opened.elim) fun _ _ _ failed => failed

/-! ## Files -/

section Creating

open LawfulAllocator (Gave Refused)

variable {space₁ space' : FreeMap} {isDir : Bool} (healthy : Healthy array volume ledger)
  (gave : Gave volume.space sector space₁)
  (stored : Stored array space₁ ledger.files sector (.empty isDir) array' space')

include healthy gave

/-- No file has a sector that was free. -/
theorem not_owns_of_gave {other : SectorId} (listed : other ∈ ledger.files) :
    ¬array.Owns other (array.inode other) sector :=
  fun owns => gave.free (healthy.sane.intact.taken_of_owns listed owns)

include stored

/-- A file that is stored on such a sector leaves all others as they are. -/
theorem same_of_stored : ∀ other ∈ ledger.files, Same array array' other := by
  intro other listed
  refine stored.others other listed fun same => ?_
  exact not_owns_of_gave healthy gave listed (.inl same.symm)

/-- A file that was stored is one more. -/
theorem Healthy.created : Healthy array' ⟨volume.table, space'⟩ (ledger.created sector) := by
  refine healthy.of_sane ⟨stored.intact _ fun other there => List.mem_cons.mp there, ?_, ?_⟩
    ⟨List.mem_cons_of_mem _ healthy.live.1, healthy.live.2⟩ stored.spreads ?_
  · exact ⟨healthy.sane.kept.listed, healthy.sane.kept.known, fun holder there =>
      healthy.sane.kept.minds_of_ne there rfl Iff.rfl id⟩
  · exact fun holder there => List.mem_cons_of_mem _ (healthy.sane.held holder there)
  · rw [(same_of_stored healthy gave stored freeMapSector healthy.live.1).inode]

/-- A file that was stored and is given up again leaves its inode behind, on a sector that is free. -/
theorem giveUp_ensures (error : Error) : (do
      SectorM.perform (Files.onSpace (FreeMap.release sector 1))
      SectorM.report error : SectorM Volume SectorId).Ensures array' ⟨volume.table, space'⟩ (fun _ _ _ => False)
      fun failure array'' after => failure = .reported error ∧ array'' = array' ∧ Healthy array' after ledger ∧
        Spared array array' after.space := by
  have same := same_of_stored healthy gave stored
  have intact' : Intact array' space' ledger.files := stored.intact _ fun other there => .inr there
  have alone := stored.intact [sector] fun other there => .inl (List.mem_singleton.mp there)
  have whole := alone.whole sector (List.mem_singleton.mpr rfl)
  have inside : sector.index < limit space' := Nat.lt_of_lt_of_eq whole.has alone.limit.symm
  rw [SectorM.ensures_bind, Files.ensures_onSpace]
  refine (show Action.Ensures (FreeMap.release sector 1) space' _ _ from
    LawfulAllocator.release whole.taken inside).mono ?_ fun _ _ failed => failed.elim
  rintro _ after ⟨sound, limit, freed⟩
  refine SectorM.ensures_report.mpr ⟨rfl, rfl, healthy.of_sane ⟨?_, healthy.sane.kept, healthy.sane.held⟩ healthy.live
    stored.spreads (by rw [(same _ healthy.live.1).inode]), fun mine free => ?_⟩
  · refine intact'.respace (sound intact'.sound gave.allocated) limit fun other listed mine owns taken => ?_
    refine (freed mine).mpr ⟨?_, taken⟩
    rintro rfl
    exact not_owns_of_gave healthy gave listed ((same other listed).owns_iff.mp owns)
  · by_cases here : mine = sector
    · rw [here]
      exact .inr whole.valid
    · exact .inl (stored.spared mine fun taken => free ((freed mine).mpr ⟨here, taken⟩))

end Creating

/-- **Making a file** takes a sector that no file had, or leaves all files as they are. -/
theorem create_ensures (healthy : Healthy array volume ledger) (length : Nat) (isDir : Bool) :
    (create length isDir).Ensures array volume
      (fun sector array' volume' => sector ∉ ledger.files ∧ Healthy array' volume' (ledger.created sector) ∧
        (array'.inode sector).size = length ∧ (array'.inode sector).isDir = isDir ∧
        (length = 0 → array'.inode sector = .empty isDir) ∧
        (∀ i, array'.byteAt (array'.inode sector) i = 0) ∧ (∀ other ∈ ledger.files, Same array array' other) ∧
        ¬Taken volume.space sector ∧ (∀ mine, Taken volume'.space mine ↔
          Taken volume.space mine ∨ array'.Owns sector (array'.inode sector) mine) ∧
        Spared array array' volume'.space)
      fun failure array' volume' => (failure = .reported .noSpace ∨ failure = .reported .outOfRange) ∧
        Healthy array' volume' ledger ∧ (∀ other ∈ ledger.files, Same array array' other) ∧
        Spared array array' volume'.space ∧
        (length = 0 → failure = .reported .noSpace ∧ array' = array ∧ left volume.space = 0 ∧
          ∀ mine, Taken volume'.space mine ↔ Taken volume.space mine) := by
  have intact := healthy.sane.intact
  unfold create
  rw [SectorM.ensures_bind, Files.ensures_onSpace]
  refine (show Action.Ensures (FreeMap.allocate 1) volume.space _ _ from
    LawfulAllocator.allocate_ensures intact.sound).mono ?_ fun _ _ failed => failed.elim
  intro given space₁ answer
  cases given with
  | none =>
      have refused : LawfulAllocator.Refused volume.space space₁ := answer
      rw [SectorM.ensures_report]
      have kept : Intact array space₁ ledger.files :=
        intact.respace refused.sound refused.limit fun _ _ sector _ taken => (refused.taken sector).mpr taken
      exact ⟨.inl rfl, healthy.of_table ⟨kept, healthy.sane.kept, healthy.sane.held⟩ healthy.live,
        fun _ _ => .refl _ _, .refl, fun _ => ⟨rfl, rfl, refused.spent, refused.taken⟩⟩
  | some sector =>
      have gave : LawfulAllocator.Gave volume.space sector space₁ := answer
      have new : ∀ other ∈ ledger.files, ¬array.Owns other (array.inode other) sector :=
        fun other listed => not_owns_of_gave healthy gave listed
      have intact₁ : Intact array space₁ ledger.files :=
        intact.respace gave.sound gave.limit fun _ _ mine _ taken => (gave.taken mine).mpr (.inr taken)
      have has : array.Has sector := Nat.lt_of_lt_of_eq gave.inside intact.limit
      have taken : Taken space₁ sector := (gave.taken sector).mpr (.inl rfl)
      dsimp only
      rw [SectorM.ensures_bind, SectorM.ensures_attempt, Files.ensures_inSpace]
      refine (DiskInode.create_ensures intact₁ has taken new length isDir).mono ?_ ?_
      · rintro _ array' space' ⟨stored, size, empty⟩
        refine SectorM.ensures_pure.mpr ⟨fun listed => new sector listed (.inl rfl), healthy.created gave stored, size, ?_,
          empty, ?_, same_of_stored healthy gave stored, gave.free, ?_, .of_frame stored.spared⟩
        · rw [DiskInode.isDir, stored.flag]
          cases isDir <;> rfl
        · intro i
          rw [stored.bytes]
          exact PartialArray.byteAt_empty array isDir i
        · intro mine
          rw [stored.taken, gave.taken]
          refine ⟨?_, Or.imp_left .inr⟩
          rintro ((rfl | before) | owns)
          · exact .inr (.inl rfl)
          · exact .inl before
          · exact .inr owns
      · rintro failure array' space' ⟨stored, why, some_length, -⟩
        have same := same_of_stored healthy gave stored
        have longer : length ≠ 0 := Nat.ne_of_gt some_length
        rcases why with rfl | rfl
        · refine (giveUp_ensures healthy gave stored .noSpace).mono (fun _ _ _ impossible => impossible.elim) ?_
          rintro _ _ after ⟨rfl, rfl, healthy', spared⟩
          exact ⟨.inl rfl, healthy', same, spared, fun none => absurd none longer⟩
        · refine (giveUp_ensures healthy gave stored .outOfRange).mono (fun _ _ _ impossible => impossible.elim) ?_
          rintro _ _ after ⟨rfl, rfl, healthy', spared⟩
          exact ⟨.inr rfl, healthy', same, spared, fun none => absurd none longer⟩

/-- Closing keeps a volume healthy. -/
theorem close_ensures (healthy : Healthy array volume ledger) (here : holder ∈ ledger.holders) :
    (Files.close holder.ref : SectorM Volume Unit).Ensures array volume
      (fun _ array' volume' => array' = array ∧ Healthy array volume' (ledger.closed holder) ∧
        Closed array volume.space ledger holder volume'.space)
      fun _ _ _ => False := by
  have spared : holder.sector ∈ ledger.doomed → holder.sector ≠ freeMapSector :=
    fun doomed same => healthy.live.2 (same ▸ doomed)
  refine (Files.close_ensures healthy.sane here fun doomed =>
    Healthy.isAllocated_of_ne (spared doomed)).mono ?_ fun _ _ _ failed => failed
  rintro _ array' volume' ⟨rfl, sane, closed⟩
  refine ⟨rfl, healthy.of_table sane ?_, closed⟩
  by_cases same : freeMapSector = holder.sector
  · have kept : holder.sector ∉ ledger.doomed := fun doomed => spared doomed same.symm
    rw [Ledger.closed_of_not_doomed kept]
    exact healthy.live
  · exact ⟨(Ledger.mem_files_closed same).mpr healthy.live.1,
      fun doomed => healthy.live.2 ((Ledger.mem_doomed_closed same).mp doomed)⟩

/-- What removing a file does to the free map: it gives back exactly what the file owns, unless someone has
the file open. -/
structure Removed (array : PartialArray) (space : FreeMap) (ledger : Ledger) (sector : SectorId)
    (space' : FreeMap) : Prop where
  last : (∀ holder ∈ ledger.holders, holder.sector ≠ sector) → ∀ mine,
    Taken space' mine ↔ Taken space mine ∧ ¬array.Owns sector (array.inode sector) mine
  other : (∃ holder ∈ ledger.holders, holder.sector = sector) → space' = space
  sound : Sound space → sector.isAllocated = true → Sound space'

/-- **Removing a file** frees what it owns, at once or when the last who has it open closes it. A file that is
crowded is not removed. -/
theorem remove_tended (tended : Tended array volume ledger) (listed : sector ∈ ledger.files)
    (attended : sector ∈ ledger.doomed → ∃ holder ∈ ledger.holders, holder.sector = sector) :
    (remove sector).Ensures array volume
      (fun _ array' volume' => array' = array ∧ Tended array volume' (ledger.removed sector) ∧
        Removed array volume.space ledger sector volume'.space)
      fun failure array' volume' => failure = .fault .overflow ∧ ledger.Crowded sector ∧
        array' = array ∧ volume' = volume := by
  unfold remove
  rw [SectorM.ensures_bind]
  refine (tended.openAt_ensures listed attended).mono ?_ fun _ _ _ failed => failed
  rintro ref array volume₁ ⟨rfl, space₁, tended₁⟩
  rw [SectorM.ensures_bind]
  refine (tended₁.remove_ensures List.mem_cons_self).mono ?_ fun _ _ _ failed => failed.elim
  rintro _ array volume₂ ⟨rfl, space₂, tended₂⟩
  have only : ∀ holder ∈ ledger.holders, holder.sector = sector → holder = ⟨sector, ref⟩ :=
    fun holder there same => tended₁.kept.eq_of_sector (List.mem_cons_of_mem _ there) List.mem_cons_self same
  refine (tended₂.close_ensures List.mem_cons_self).mono ?_ fun _ _ _ failed => failed.elim
  rintro _ array volume' ⟨rfl, tended', closed⟩
  have after : ((ledger.opened ⟨sector, ref⟩).doom sector).closed ⟨sector, ref⟩ = ledger.removed sector :=
    Ledger.closed_doom_opened only
  have rest : ((ledger.opened ⟨sector, ref⟩).doom sector).holders.erase ⟨sector, ref⟩ = ledger.holders :=
    List.erase_cons_head _ _
  rw [space₂, space₁] at closed
  refine ⟨rfl, after ▸ tended', ?_, ?_, fun sound nonzero => closed.sound sound fun _ => nonzero⟩
  · intro nobody mine
    refine closed.last ?_ List.mem_cons_self mine
    rw [rest]
    exact fun there => nobody _ there rfl
  · rintro ⟨holder, there, same⟩
    refine closed.other (.inl ?_)
    rw [rest, ← only holder there same]
    exact there

theorem remove_ensures (healthy : Healthy array volume ledger) (live : ledger.Live sector)
    (different : sector ≠ freeMapSector) :
    (remove sector).Ensures array volume
      (fun _ array' volume' => array' = array ∧ Healthy array volume' (ledger.removed sector) ∧
        Removed array volume.space ledger sector volume'.space)
      fun failure array' volume' => failure = .fault .overflow ∧ ledger.Crowded sector ∧
        array' = array ∧ volume' = volume := by
  refine (remove_tended healthy.sane.tended live.1 fun doomed => absurd doomed live.2).mono ?_
    fun _ _ _ failed => failed
  rintro _ array volume' ⟨rfl, tended, removed⟩
  have sound := removed.sound healthy.sane.intact.sound (Healthy.isAllocated_of_ne different)
  refine ⟨rfl, healthy.of_table (tended.sane sound) ⟨?_, ?_⟩, removed⟩
  · exact (Ledger.mem_files_removed (Ne.symm different)).mpr healthy.live.1
  · exact fun doomed => healthy.live.2 ((Ledger.mem_doomed_removed (Ne.symm different)).mp doomed)

end Volume

end InodeVolume
