import InodeVolume.Proofs.BlockMap.AnyMap
import InodeVolume.Proofs.Volume.SmallMap

/-!
# Files on sectors that may hold anything

What an operation on files may do where block maps lead anywhere: past the end, to one sector twice, or
nowhere.

* **opening and closing** — an inode that nobody has open is listed if its magic is right;
* **reading** — `readFrom_mayEnd`: the bytes that are read are those of the file (`Follows`), and nothing
  is changed;
* **writing back** — `writeFrom_still`: writing the bytes of a file to it changes nothing.
-/

namespace InodeVolume

/-! ## Parts of a state -/

namespace Files

variable {A α : Type} {still : Prop} {array : PartialArray} {files : Files A}
  {bad : Failure → PartialArray → Files A → Prop}

theorem mayEnd_inTable {computation : SectorM InodeTable α} {good : α → PartialArray → Files A → Prop} :
    (inTable computation).MayEnd still array files good bad ↔
      computation.MayEnd still array files.table (fun a array table => good a array ⟨table, files.space⟩)
        fun failure array table => bad failure array ⟨table, files.space⟩ :=
  SectorM.mayEnd_hoist (fun files => (files.table, fun table => ⟨table, files.space⟩))
    (fun table => (⟨table, files.space⟩ : Files A)) (fun _ => rfl) fun _ => rfl

theorem mayEnd_inSpace {computation : SectorM A α} {good : α → PartialArray → Files A → Prop} :
    (inSpace computation).MayEnd still array files good bad ↔
      computation.MayEnd still array files.space (fun a array space => good a array ⟨files.table, space⟩)
        fun failure array space => bad failure array ⟨files.table, space⟩ :=
  SectorM.mayEnd_hoist (fun files => (files.space, fun space => ⟨files.table, space⟩))
    (fun space => (⟨files.table, space⟩ : Files A)) (fun _ => rfl) fun _ => rfl

theorem mayEnd_onTable {act : Action InodeTable α} {good : α → PartialArray → Files A → Prop} :
    (SectorM.perform (onTable act)).MayEnd still array files good bad ↔
      act.Ensures files.table (fun a table => good a array ⟨table, files.space⟩)
        fun failure table => bad failure array ⟨table, files.space⟩ := by
  rw [SectorM.mayEnd_perform, onTable, Action.ensures_within]

theorem mayEnd_onSpace {act : Action A α} {good : α → PartialArray → Files A → Prop} :
    (SectorM.perform (onSpace act)).MayEnd still array files good bad ↔
      act.Ensures files.space (fun a space => good a array ⟨files.table, space⟩)
        fun failure space => bad failure array ⟨files.table, space⟩ := by
  rw [SectorM.mayEnd_perform, onSpace, Action.ensures_within]

theorem mayEnd_inode {ref : InodeRef} {good : OpenInode → PartialArray → Files A → Prop} :
    (inode ref : SectorM (Files A) OpenInode).MayEnd still array files good bad ↔
      good (files.table.inode ref) array files := by
  rw [inode, SectorM.mayEnd_bind, SectorM.mayEnd_get, SectorM.mayEnd_pure]

end Files

/-! ## Opening and closing -/

namespace Files

variable {A : Type} {still : Prop} {array : PartialArray} {table : InodeTable} {space : A} {sector : SectorId}

/-- An inode that nobody has open is opened if its sector holds one. -/
theorem openAt_mayEnd (absent : table.find? sector = none) :
    (openAt sector : SectorM (Files A) InodeRef).MayEnd still array ⟨table, space⟩
      (fun ref array' files' => array' = array ∧ ref = (table.insert sector).1 ∧ files' = ⟨(table.insert sector).2, space⟩ ∧
        array.Has sector ∧ (array.inode sector).isValid = true)
      fun failure array' _ => array' = array ∧
        ((∃ why, failure = .fault why) ∨ (array.inode sector).isValid = false ∧ failure = .reported (.badMagic sector)) := by
  rw [openAt, mayEnd_inTable, InodeTable.openAt, SectorM.mayEnd_bind, SectorM.mayEnd_get]
  dsimp only
  rw [absent]
  dsimp only
  rw [SectorM.mayEnd_bind, DiskInode.mayEnd_load]
  refine ⟨fun has => ?_, fun why => ⟨rfl, .inl ⟨why, rfl⟩⟩⟩
  rw [SectorM.mayEnd_ite]
  split
  · rename_i valid
    rw [SectorM.mayEnd_bind, SectorM.mayEnd_modifyGet, SectorM.mayEnd_bind, SectorM.mayEnd_emit, SectorM.mayEnd_pure]
    exact ⟨rfl, rfl, rfl, has, valid⟩
  · rename_i invalid
    rw [SectorM.mayEnd_bind, SectorM.mayEnd_emit, SectorM.mayEnd_report]
    exact ⟨rfl, .inr ⟨by simpa using invalid, rfl⟩⟩

/-- Closing it takes it off the list again. -/
theorem close_mayEnd [Allocator A] :
    (close (table.insert sector).1 : SectorM (Files A) Unit).MayEnd still array ⟨(table.insert sector).2, space⟩
      (fun _ array' files' => array' = array ∧ files' = ⟨table.visited sector, space⟩) fun _ _ _ => False := by
  unfold close
  rw [SectorM.mayEnd_bind, mayEnd_onTable]
  refine InodeTable.leave_insert.mono ?_ fun _ _ failed => failed
  rintro _ table' ⟨rfl, rfl⟩
  dsimp only
  rw [SectorM.mayEnd_bind, mayEnd_onTable]
  refine InodeTable.withdraw_ensures.mono ?_ fun _ _ failed => failed
  rintro _ _ rfl
  rw [SectorM.mayEnd_ite, if_neg Bool.false_ne_true, SectorM.mayEnd_pure]
  exact ⟨rfl, rfl⟩

end Files

/-! ## Reading -/

/-- The bytes are those of the file from `start` on, all of them mapped and within its length. -/
structure Follows (array : PartialArray) (inode : DiskInode) (bytes : Bytes) (start : Nat) : Prop where
  inside : bytes.size ≠ 0 → start + bytes.size ≤ inode.size
  mapped : ∀ i, i < bytes.size → array.Holds inode (.data (locate (start + i)))
  same : ∀ i, i < bytes.size → bytes.byte i = array.byteAt inode (start + i)

namespace Follows

variable {array : PartialArray} {inode : DiskInode} {taken : Bytes} {start length : Nat}

theorem empty : Follows array inode .empty start :=
  ⟨fun some_byte => absurd rfl some_byte, fun i low => absurd low (Nat.not_lt_zero i), fun i low => absurd low (Nat.not_lt_zero i)⟩

/-- A piece of the sector where the file goes on follows. -/
theorem append (follows : Follows array inode taken start)
    (holds : array.Holds inode (.data (locate (start + taken.size))))
    (fits : (start + taken.size) % sectorSize + length ≤ sectorSize) (inside : start + taken.size + length ≤ inode.size) :
    Follows array inode (taken ++ ((array.get (array.held inode (.data (locate (start + taken.size))))).slice
      ((start + taken.size) % sectorSize) length fits).bytes) start := by
  have size : (taken ++ ((array.get (array.held inode (.data (locate (start + taken.size))))).slice
      ((start + taken.size) % sectorSize) length fits).bytes).size = taken.size + length := by
    rw [ByteArray.size_append, Block.size_bytes]
  have place : ∀ i, taken.size ≤ i → i < taken.size + length →
      locate (start + i) = locate (start + taken.size) ∧
        (start + i) % sectorSize = (start + taken.size) % sectorSize + (i - taken.size) := by
    intro i past low
    obtain ⟨sector, offset⟩ := DiskInode.piece_place fits (show i - taken.size < length by omega)
    rw [show start + i = start + taken.size + (i - taken.size) by omega]
    exact ⟨locate_congr sector, offset⟩
  refine ⟨fun _ => by rw [size]; omega, fun i low => ?_, fun i low => ?_⟩
  · rw [size] at low
    by_cases early : i < taken.size
    · exact follows.mapped i early
    · rw [(place i (by omega) low).1]
      exact holds
  · rw [size] at low
    rw [Bytes.byte_append]
    split
    · rename_i early
      exact follows.same i early
    · obtain ⟨here, offset⟩ := place i (by omega) low
      rw [Block.slice, Bytes.byte_slice, if_pos (by omega), PartialArray.byteAt, here, if_pos holds, offset]

end Follows

namespace DiskInode

variable {σ : Type} {still : Prop} {array : PartialArray} {s : σ} {inode : DiskInode}

/-- **Reading** gives bytes of the file, or ends with a fault. -/
theorem readFrom_mayEnd (taken : Bytes) (start wanted : Nat) (follows : Follows array inode taken start) :
    (inode.readFrom taken (start + taken.size) wanted : SectorM σ Bytes).MayEnd still array s
      (fun bytes array' s' => array' = array ∧ s' = s ∧ Follows array inode bytes start ∧ bytes.size ≤ taken.size + wanted)
      (Unchanged array) := by
  induction wanted using Nat.strongRecOn generalizing taken with
  | ind wanted ih =>
    rw [readFrom]
    split
    · exact ⟨rfl, rfl, follows, Nat.le_add_right _ _⟩
    rename_i some_wanted
    split
    · rename_i inside
      obtain ⟨short, fits, ends⟩ := pieceLength_spec inode.size (start + taken.size) wanted
      have positive := pieceLength_pos some_wanted inside
      generalize pieceLength inode.size (start + taken.size) wanted = length at *
      rw [SectorM.mayEnd_bind]
      refine MayEnd.lookup (inTables_locate _) ?_ unchanged
      rw [SectorM.mayEnd_ite]
      split
      · rename_i holds
        dsimp only
        rw [SectorM.mayEnd_bind, SectorM.mayEnd_readAt]
        refine ⟨fun fits has => ?_, unchanged⟩
        have further := follows.append holds fits (by omega)
        have size : (taken ++ ((array.get (array.held inode (.data (locate (start + taken.size))))).slice
            ((start + taken.size) % sectorSize) length fits).bytes).size = taken.size + length := by
          rw [ByteArray.size_append, Block.size_bytes]
        have rest := ih (wanted - length) (by omega) _ further
        rw [size, ← Nat.add_assoc] at rest
        refine rest.mono ?_ fun _ _ _ failed => failed
        rintro bytes array' s' ⟨same, same', follows', bound⟩
        exact ⟨same, same', follows', by omega⟩
      · exact ⟨rfl, rfl, follows, Nat.le_add_right _ _⟩
    · exact ⟨rfl, rfl, follows, Nat.le_add_right _ _⟩

theorem read_mayEnd (offset wanted : Nat) :
    (inode.read offset wanted : SectorM σ Bytes).MayEnd still array s
      (fun bytes array' s' => array' = array ∧ s' = s ∧ Follows array inode bytes offset) (Unchanged array) := by
  refine (readFrom_mayEnd .empty offset wanted .empty).mono ?_ fun _ _ _ failed => failed
  rintro bytes array' s' ⟨same, same', follows, -⟩
  exact ⟨same, same', follows⟩

end DiskInode

/-! ## Writing back -/

/-- Laying over a block what it holds there leaves it as it is. -/
theorem Block.splice_same {n offset : Nat} {block : Block n} {patch : Bytes} (fits : offset + patch.size ≤ n)
    (same : ∀ i, i < patch.size → patch.byte i = block.bytes.byte (offset + i)) :
    block.splice offset patch fits = block := by
  apply Block.ext
  have fits' : offset + patch.size ≤ block.bytes.size := by
    rw [block.size_bytes]
    exact fits
  refine Bytes.ext_byte (Bytes.size_splice _ fits') fun i _ => ?_
  rw [Block.splice, Bytes.byte_splice fits']
  split
  · rename_i within
    rw [same _ (by omega), show offset + (i - offset) = i by omega]
  · rfl

namespace DiskInode

variable {σ : Type} {still : Prop} {array : PartialArray} {s : σ} {inode : DiskInode} {source : Bytes}

/-- **Writing back** what a file holds changes nothing, also where its sectors are shared or not all there. -/
theorem writeFrom_still (total : ∀ sector, array.Has sector → sector ∈ array) (follows : Follows array inode source 0)
    (done : Nat) :
    (inode.writeFrom source done done : SectorM σ Nat).MayEnd still array s
      (fun _ array' s' => array' = array ∧ s' = s) (Unchanged array) := by
  induction left : source.size - done using Nat.strongRecOn generalizing done with
  | ind left ih =>
    subst left
    rw [writeFrom]
    split
    · exact ⟨rfl, rfl⟩
    rename_i some_left
    split
    · rename_i inside
      obtain ⟨short, fits, ends⟩ := pieceLength_spec inode.size done (source.size - done)
      have positive := pieceLength_pos (show source.size - done ≠ 0 by omega) inside
      generalize pieceLength inode.size done (source.size - done) = length at *
      rw [SectorM.mayEnd_bind]
      refine MayEnd.lookup (inTables_locate _) ?_ unchanged
      rw [SectorM.mayEnd_ite]
      split
      · rename_i holds
        dsimp only
        rw [SectorM.mayEnd_bind, SectorM.mayEnd_writeAt]
        refine ⟨fun fits' has => ?_, unchanged⟩
        have size : (Bytes.slice source done length).size = length := Bytes.size_slice _ (by omega)
        have same : (array.get (array.find inode (locate done))).splice (done % sectorSize)
            (Bytes.slice source done length) fits' = array.get (array.find inode (locate done)) := by
          refine Block.splice_same fits' fun i low => ?_
          rw [size] at low
          obtain ⟨sector, place⟩ := piece_place fits low
          have here := follows.same (done + i) (by omega)
          rw [Nat.zero_add, PartialArray.byteAt, locate_congr sector, place] at here
          rw [Bytes.byte_slice, if_pos low, here]
          exact if_pos holds
        refine ⟨fun _ => same, ?_⟩
        rw [same, PartialArray.set_get_self (total _ has)]
        exact ih _ (by omega) (done + length) rfl
      · exact ⟨rfl, rfl⟩
    · exact ⟨rfl, rfl⟩

end DiskInode

end InodeVolume
