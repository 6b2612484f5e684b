import Mathlib.Order.Bounds.Defs
import InodeVolume.Proofs.Cache.Lawful
import InodeVolume.Proofs.Checked
import InodeVolume.Proofs.Contents
import InodeVolume.Proofs.MayEnd

/-!
# Reading inodes that may hold anything

Inodes are read from devices that nobody vouches for. The length of such an inode may lie behind the last
place of its block map, and the map may have holes, name a sector twice or lead through index blocks that
name themselves. Reading is safe with any of them, and it is known how far it gets.

* **words** — `readChecked` is the walk with a check on every sum and difference, and
  `readChecked_eq` says that it is the walk;
* **reach** — `Meets` tells which sectors a walk comes to, and `Longest` what it gathers: all bytes up to the
  first that has no sector;
* **reading** — `readInto_exact`: if the sectors that it comes to are on the device, reading ends, fills the
  front of the buffer with the longest run there is, and changes nothing.
-/

namespace InodeVolume

namespace DiskInode

/-! ## Words -/

section Words

variable {σ : Type}

/-- `readFrom` with a check on each of its sums and differences. The buffer has `room` bytes, and `taken` is
what has been read. -/
def readChecked (inode : DiskInode) (room : Nat) (taken : Bytes) (offset : Nat) : SectorM σ Bytes :=
  if _ : taken.size < room then
    if _ : offset < inode.size then
      match Checked.locate? offset with
      | none => SectorM.fault .overflow
      | some place => do
        let sector ← inode.lookup place
        if sector.isAllocated then
          match _ : Checked.pieceLength? inode.size offset room taken.size with
          | none => SectorM.fault .overflow
          | some length => do
            let piece ← SectorM.readAt sector (offset % sectorSize) length
            match Checked.add? taken.size length, Checked.add? offset length with
            | some _, some next => inode.readChecked room (taken ++ piece.bytes) next
            | _, _ => SectorM.fault .overflow
        else pure taken
    else pure taken
  else pure taken
termination_by room - taken.size
decreasing_by
  rename_i begun inside told
  rw [Checked.pieceLength?_eq inside (Nat.le_of_lt begun)] at told
  obtain rfl := Option.some.inj told
  have positive := pieceLength_pos (show room - taken.size ≠ 0 by omega) inside
  rw [ByteArray.size_append, piece.size_bytes]
  omega

/-- None of the checks fails, so the walk with checks is the walk. -/
theorem readChecked_eq (inode : DiskInode) {room : Nat} (small : room < wordLimit) (taken : Bytes) (offset : Nat) :
    inode.readChecked room taken offset = (inode.readFrom taken offset (room - taken.size) : SectorM σ Bytes) := by
  induction left : room - taken.size using Nat.strongRecOn generalizing taken offset with
  | ind left ih =>
    subst left
    rw [readChecked, readFrom]
    by_cases begun : taken.size < room
    · rw [dif_pos begun, dif_neg (show ¬room - taken.size = 0 by omega)]
      by_cases inside : offset < inode.size
      · rw [dif_pos inside, dif_pos inside, Checked.locate?_eq]
        have word : inode.size < 4294967296 := inode.length.toNat_lt
        have limit : wordLimit = 18446744073709551616 := by decide
        have positive := pieceLength_pos (show room - taken.size ≠ 0 by omega) inside
        obtain ⟨short, -, ends⟩ := pieceLength_spec inode.size offset (room - taken.size)
        refine congrArg (inode.lookup (locate offset) >>= ·) (funext fun sector => ?_)
        refine ite_congr rfl (fun _ => ?_) fun _ => rfl
        split
        · rename_i told
          rw [Checked.pieceLength?_eq inside (Nat.le_of_lt begun)] at told
          cases told
        · rename_i length told
          rw [Checked.pieceLength?_eq inside (Nat.le_of_lt begun)] at told
          obtain rfl := Option.some.inj told
          refine congrArg (SectorM.readAt sector (offset % sectorSize) _ >>= ·) (funext fun piece => ?_)
          have joined : room - (taken ++ piece.bytes).size =
              room - taken.size - pieceLength inode.size offset (room - taken.size) := by
            rw [ByteArray.size_append, piece.size_bytes]
            omega
          rw [Checked.add?_eq (by omega), Checked.add?_eq (by omega)]
          exact ih _ (by omega) _ _ joined
      · rw [dif_neg inside, dif_neg inside]
    · rw [dif_neg begun, dif_pos (show room - taken.size = 0 by omega)]

end Words

end DiskInode

/-! ## How far reading gets -/

namespace PartialArray

variable {array : PartialArray} {inode : DiskInode} {offset wanted i : Nat}

/-- Byte `i` of a file lies within the three tiers, in a logical sector that is mapped. -/
def Mapped (array : PartialArray) (inode : DiskInode) (i : Nat) : Prop :=
  i / sectorSize < maxFileSectors ∧ array.Holds inode (.data (locate i))

/-- Reading `wanted` bytes from `offset` on comes to a sector: it leads to a byte of the range, or holds it, and
all bytes before are mapped. -/
def Meets (array : PartialArray) (inode : DiskInode) (offset wanted : Nat) (sector : SectorId) : Prop :=
  ∃ i, offset ≤ i ∧ i < offset + wanted ∧ i < inode.size ∧ (∀ j, offset ≤ j → j < i → array.Mapped inode j) ∧
    ∃ spot, (spot = .data (locate i) ∨ spot.OnPath (locate i)) ∧ array.Holds inode spot ∧
      array.held inode spot = sector

/-- The bytes of a file from `offset` on, `wanted` of them or up to the first that is not there. -/
structure Longest (array : PartialArray) (inode : DiskInode) (offset wanted : Nat) (bytes : Bytes) : Prop where
  short : bytes.size ≤ min wanted (inode.size - offset)
  mapped : ∀ i < bytes.size, array.Mapped inode (offset + i)
  stops : bytes.size < min wanted (inode.size - offset) → ¬array.Mapped inode (offset + bytes.size)
  bytes : ∀ i < bytes.size, bytes.byte i = array.byteAt inode (offset + i)

/-- What is mapped is within the tiers. -/
theorem mapped_iff : array.Mapped inode i ↔ array.Holds inode (.data (locate i)) := by
  constructor
  · intro mapped
    exact mapped.2
  · intro holds
    refine ⟨?_, holds⟩
    by_contra past
    have there : locate i = .outOfRange := Location.ofSectorIndex_of_ge (Nat.le_of_not_lt past)
    exact (inTables_of_holds holds).2 there

theorem mapped_congr {j : Nat} (same : i / sectorSize = j / sectorSize) :
    array.Mapped inode i ↔ array.Mapped inode j := by
  rw [mapped_iff, mapped_iff, locate_congr same]

/-- Whatever leads to the first byte is met. -/
theorem meets_first {spot : Spot} (some_wanted : wanted ≠ 0) (inside : offset < inode.size)
    (leads : spot = .data (locate offset) ∨ spot.OnPath (locate offset)) (holds : array.Holds inode spot) :
    array.Meets inode offset wanted (array.held inode spot) :=
  ⟨offset, Nat.le_refl _, by omega, inside, fun j _ _ => by omega, spot, leads, holds, rfl⟩

/-- What is met from a later byte on is met from an earlier one, where all bytes between them are mapped. -/
theorem Meets.later {length : Nat} {sector : SectorId} (short : length ≤ wanted)
    (mapped : ∀ i < length, array.Mapped inode (offset + i))
    (meets : array.Meets inode (offset + length) (wanted - length) sector) : array.Meets inode offset wanted sector := by
  obtain ⟨i, after, before, within, mapped', leads⟩ := meets
  refine ⟨i, by omega, by omega, within, fun j past low => ?_, leads⟩
  by_cases early : j < offset + length
  · have here := mapped (j - offset) (by omega)
    rwa [Nat.add_sub_cancel' past] at here
  · exact mapped' j (by omega) low

namespace Longest

variable {bytes rest : Bytes}

/-- Nothing is wanted, or nothing is there. -/
theorem nothing (stopped : offset < inode.size → wanted ≠ 0 → ¬array.Mapped inode offset) :
    array.Longest inode offset wanted .empty := by
  have size : (ByteArray.empty : Bytes).size = 0 := rfl
  refine ⟨by omega, fun i low => absurd low (by omega), fun more => ?_, fun i low => absurd low (by omega)⟩
  rw [size, Nat.add_zero]
  exact stopped (by omega) (by omega)

/-- A piece of one sector, and what is read after it. -/
theorem join (short : bytes.size ≤ min wanted (inode.size - offset))
    (mapped : ∀ i < bytes.size, array.Mapped inode (offset + i))
    (same : ∀ i < bytes.size, bytes.byte i = array.byteAt inode (offset + i))
    (further : array.Longest inode (offset + bytes.size) (wanted - bytes.size) rest) :
    array.Longest inode offset wanted (bytes ++ rest) := by
  obtain ⟨short', mapped', stops', same'⟩ := further
  have size : (bytes ++ rest).size = bytes.size + rest.size := ByteArray.size_append
  refine ⟨by omega, fun i low => ?_, fun more => ?_, fun i low => ?_⟩
  · by_cases early : i < bytes.size
    · exact mapped i early
    · have later := mapped' (i - bytes.size) (by omega)
      rwa [show offset + bytes.size + (i - bytes.size) = offset + i by omega] at later
  · rw [size, ← Nat.add_assoc]
    exact stops' (by omega)
  · rw [Bytes.byte_append]
    split
    · rename_i early
      exact same i early
    · rename_i late
      rw [same' (i - bytes.size) (by omega), show offset + bytes.size + (i - bytes.size) = offset + i by omega]

/-- No longer run of the file is mapped. -/
theorem isGreatest (longest : array.Longest inode offset wanted bytes) :
    IsGreatest {n | n ≤ min wanted (inode.size - offset) ∧ ∀ i < n, array.Mapped inode (offset + i)} bytes.size := by
  refine ⟨⟨longest.short, longest.mapped⟩, ?_⟩
  intro n ⟨short, mapped⟩
  by_contra longer
  exact longest.stops (by omega) (mapped bytes.size (by omega))

end Longest

end PartialArray

/-! ## Reading -/

namespace DiskInode

section Walk

variable {σ : Type} {array : PartialArray} {s : σ} {inode : DiskInode}

/-- **The walk** gathers the longest run of bytes that are there. -/
theorem readFrom_longest {offset wanted : Nat} (met : ∀ sector, array.Meets inode offset wanted sector → sector ∈ array)
    (taken : Bytes) :
    (inode.readFrom taken offset wanted : SectorM σ Bytes).Ensures array s
      (fun bytes array' s' => array' = array ∧ s' = s ∧
        ∃ more, bytes = taken ++ more ∧ array.Longest inode offset wanted more)
      fun _ _ _ => False := by
  have finished : ∀ {wanted : Nat} {offset : Nat} {taken : Bytes},
      (offset < inode.size → wanted ≠ 0 → ¬array.Mapped inode offset) →
      (pure taken : SectorM σ Bytes).Ensures array s
        (fun bytes array' s' => array' = array ∧ s' = s ∧
          ∃ more, bytes = taken ++ more ∧ array.Longest inode offset wanted more)
        fun _ _ _ => False := by
    intro wanted offset taken stopped
    exact SectorM.ensures_pure.mpr ⟨rfl, rfl, .empty, ByteArray.append_empty.symm, .nothing stopped⟩
  induction wanted using Nat.strongRecOn generalizing taken offset with
  | ind wanted ih =>
    rw [readFrom]
    split
    · rename_i nothing
      exact finished fun _ some_wanted => absurd nothing some_wanted
    rename_i some_wanted
    split
    · rename_i inside
      have onWay : ∀ spot, spot.OnPath (locate offset) → array.Holds inode spot → array.held inode spot ∈ array :=
        fun _ onPath holds => met _ (PartialArray.meets_first some_wanted inside (.inr onPath) holds)
      rw [SectorM.ensures_bind, lookup_ensures_of_onPath (inTables_locate offset) onWay, SectorM.ensures_ite]
      split
      · rename_i holds
        have holds : array.Holds inode (.data (locate offset)) := holds
        obtain ⟨short, fits, ends⟩ := pieceLength_spec inode.size offset wanted
        have positive := pieceLength_pos some_wanted inside
        generalize pieceLength inode.size offset wanted = length at *
        dsimp only
        rw [SectorM.ensures_bind, SectorM.ensures_readAt]
        refine ⟨fits, met _ (PartialArray.meets_first some_wanted inside (.inl rfl) holds), ?_⟩
        have whole := slice_sector holds fits (by omega)
        have size := ((array.get (array.held inode (.data (locate offset)))).slice (offset % sectorSize) length fits).size_bytes
        rw [PartialArray.held] at whole size
        generalize ((array.get (array.find inode (locate offset))).slice (offset % sectorSize) length fits).bytes = piece
          at whole size ⊢
        have mapped : ∀ i < length, array.Mapped inode (offset + i) := by
          intro i low
          exact (PartialArray.mapped_congr (piece_place fits low).1).mpr (PartialArray.mapped_iff.mpr holds)
        have same : ∀ i < length, piece.byte i = array.byteAt inode (offset + i) := by
          intro i low
          rw [whole, Bytes.byte_slice, if_pos low, PartialArray.byte_contents, if_pos (by omega)]
        have further : ∀ sector, array.Meets inode (offset + length) (wanted - length) sector → sector ∈ array :=
          fun sector meets => met sector (meets.later short mapped)
        refine (ih (wanted - length) (by omega) further _).mono ?_ fun _ _ _ failed => failed
        intro bytes array' s' walked
        obtain ⟨unchanged, unchanged', more, read, longest⟩ := walked
        refine ⟨unchanged, unchanged', piece ++ more, by rw [read, ByteArray.append_assoc], ?_⟩
        subst size
        exact .join (by omega) mapped same longest
      · rename_i missing
        exact finished fun _ _ mapped => missing (PartialArray.mapped_iff.mp mapped)
    · rename_i past
      exact finished fun inside => absurd inside past

end Walk

section Stores

open LawfulStore (Shows)

variable {S σ : Type} [SectorStore S] [LawfulStore S] {store : S} {whole : SectorArray} {s : σ} {inode : DiskInode}
  {buffer : Bytes} {offset : Nat}

/-- Reading into a buffer from `offset` on has put `n` bytes in its front, the longest run there is, and left
the rest of it. -/
structure ReadExactly (whole : SectorArray) (inode : DiskInode) (buffer : Bytes) (offset : Nat) (n : Nat)
    (filled : Bytes) : Prop where
  longest : IsGreatest {n | n ≤ min buffer.size (inode.size - offset) ∧
    ∀ i < n, (PartialArray.ofWhole whole).Mapped inode (offset + i)} n
  size : filled.size = buffer.size
  front : ∀ i < n, filled.byte i =
    (whole.get ((PartialArray.ofWhole whole).find inode (locate (offset + i)))).bytes.byte ((offset + i) % sectorSize)
  rest : ∀ i, n ≤ i → filled.byte i = buffer.byte i

/-- **Reading** an inode that may hold anything, into a buffer of any length from any offset on: if the sectors
that it comes to are on the device, it ends with no sum and no difference out of its word, has read the longest
run of bytes that are mapped, and leaves what all sectors hold. -/
theorem readInto_exact (shown : Shows store whole) (small : buffer.size < wordLimit)
    (met : ∀ sector, (PartialArray.ofWhole whole).Meets inode offset buffer.size sector → sector ∈ whole) :
    inode.readChecked buffer.size .empty offset = (inode.read offset buffer.size : SectorM σ Bytes) ∧
    (inode.readInto buffer offset : SectorM σ (Nat × Bytes)).run.Ensures (store, s)
      (fun told after => ReadExactly whole inode buffer offset told.1 told.2 ∧ Shows after.1 whole ∧ after.2 = s)
      fun _ _ => False := by
  refine ⟨readChecked_eq inode small .empty offset, ?_⟩
  have ensured : (inode.readInto buffer offset : SectorM σ (Nat × Bytes)).Ensures (.ofWhole whole) s
      (fun told array after => array = .ofWhole whole ∧ ReadExactly whole inode buffer offset told.1 told.2 ∧ after = s)
      fun _ _ _ => False := by
    rw [readInto, SectorM.ensures_bind]
    refine (readFrom_longest (fun sector meets => PartialArray.mem_ofWhole.mpr (met sector meets)) .empty).mono ?_
      fun _ _ _ failed => failed
    intro bytes array after walked
    obtain ⟨unchanged, unchanged', more, read, longest⟩ := walked
    rw [ByteArray.empty_append] at read
    subst read
    have fits : 0 + bytes.size ≤ buffer.size := by
      have := longest.short
      omega
    refine SectorM.ensures_pure.mpr ⟨unchanged, ⟨longest.isGreatest, Bytes.size_splice _ fits, ?_, ?_⟩, unchanged'⟩
    · intro i low
      have holds := PartialArray.mapped_iff.mp (longest.mapped i low)
      rw [Bytes.byte_splice fits, if_pos ⟨Nat.zero_le i, by omega⟩, Nat.sub_zero, longest.bytes i low,
        PartialArray.byteAt, if_pos holds, PartialArray.get_ofWhole]
      rfl
    · intro i past
      rw [Bytes.byte_splice fits, if_neg (by omega)]
  refine (ensured.run_to shown).mono ?_ fun _ _ never => never
  intro told after ended
  obtain ⟨shown', exactly, kept⟩ := ended
  exact ⟨exactly, shown', kept⟩

theorem indexCount_pos : 0 < indexCount := by decide

/-- A block that names its own sector, number 5, and no other. -/
def loopedBlock : IndexBlock := IndexBlock.empty.set 0 (.ofNat 5) indexCount_pos

/-- A device of six sectors with that block in the last of them. -/
def loopedDisk : RamDisk :=
  ⟨(SectorArray.set ⟨Array.replicate 6 Block.zero⟩ (.ofNat 5) loopedBlock.encode).sectors, 0, 0⟩

/-- An inode of the greatest length there is. Its direct entries all name sector 2, and its index block is the
one that names itself. -/
def looped : DiskInode where
  length := 0xffffffff
  magic := 0
  dirFlag := 7
  direct := Vector.replicate directCount (.ofNat 2)
  indirect := .ofNat 5
  doubleIndirect := .unmapped

/-- All that this inode leads to are sectors 2 and 5. -/
theorem held_looped {spot : Spot} (holds : (PartialArray.ofWhole ⟨loopedDisk.sectors⟩).Holds looped spot) :
    (PartialArray.ofWhole ⟨loopedDisk.sectors⟩).held looped spot = .ofNat 2 ∨
      (PartialArray.ofWhole ⟨loopedDisk.sectors⟩).held looped spot = .ofNat 5 := by
  have has : (PartialArray.ofWhole ⟨Array.replicate 6 Block.zero⟩).Has (.ofNat 5) :=
    PartialArray.has_ofWhole.mpr (show 5 < (Array.replicate 6 (Block.zero : Sector)).size by simp)
  have block : (PartialArray.ofWhole ⟨loopedDisk.sectors⟩).block (.ofNat 5) = loopedBlock := by
    rw [show (⟨loopedDisk.sectors⟩ : SectorArray) = .set ⟨Array.replicate 6 Block.zero⟩ (.ofNat 5) loopedBlock.encode from rfl,
      ← PartialArray.ofWhole_set, PartialArray.block_set_self has]
  generalize PartialArray.ofWhole ⟨loopedDisk.sectors⟩ = array at block holds ⊢
  have entries : ∀ i, array.entry (.ofNat 5) i = if i = 0 then .ofNat 5 else .unmapped := by
    intro i
    rw [PartialArray.entry_of_allocated (by decide), block, loopedBlock, Vector.getElem?_set]
    by_cases first : i = 0
    · simp [first]
    · rw [if_neg (Ne.symm first), if_neg first, IndexBlock.empty, Vector.getElem?_replicate]
      split <;> rfl
  cases spot with
  | data place =>
      cases place with
      | direct i =>
          left
          have there : i < directCount := (PartialArray.inTables_of_holds holds).1
          show (Vector.replicate directCount (SectorId.ofNat 2))[i]?.getD .unmapped = _
          rw [Vector.getElem?_replicate, if_pos there, Option.getD_some]
      | indirect i =>
          right
          have there : (array.entry (.ofNat 5) i).isAllocated = true := holds
          show array.entry (.ofNat 5) i = _
          rw [entries] at there ⊢
          split at there
          · rename_i first
            rw [if_pos first]
          · cases there
      | doubleIndirect q i => cases holds
      | outOfRange => cases holds
  | single => exact .inr rfl
  | outer | inner q => cases holds

/-- It is read from the middle of its last direct sector on. The bytes of the block that names itself are the last
that are there. -/
theorem readInto_exact_looped :
    ((Bytes.fill 238 2000).size < wordLimit ∧ ∀ sector, (PartialArray.ofWhole ⟨loopedDisk.sectors⟩).Meets looped 62564
      (Bytes.fill 238 2000).size sector → sector ∈ (⟨loopedDisk.sectors⟩ : SectorArray)) ∧
    looped.readChecked (Bytes.fill 238 2000).size .empty 62564 =
      (looped.read 62564 (Bytes.fill 238 2000).size : SectorM Unit Bytes) ∧
    (looped.readInto (Bytes.fill 238 2000) 62564 : SectorM Unit (Nat × Bytes)).run.Ensures
      ((⟨loopedDisk, .empty 2 (by decide)⟩ : CachedDisk RamDisk 2), ())
      (fun told after => ReadExactly ⟨loopedDisk.sectors⟩ looped (Bytes.fill 238 2000) 62564 told.1 told.2 ∧
        Shows after.1 ⟨loopedDisk.sectors⟩ ∧ after.2 = ())
      fun _ _ => False := by
  have small : (Bytes.fill 238 2000).size < wordLimit := by
    rw [Bytes.size_fill]
    decide
  have shown : Shows (⟨loopedDisk, .empty 2 (by decide)⟩ : CachedDisk RamDisk 2) ⟨loopedDisk.sectors⟩ :=
    CachedDisk.Shows.fresh trivial (by decide)
  have met : ∀ sector, (PartialArray.ofWhole ⟨loopedDisk.sectors⟩).Meets looped 62564 (Bytes.fill 238 2000).size sector →
      sector ∈ (⟨loopedDisk.sectors⟩ : SectorArray) := by
    intro sector ⟨_, _, _, _, _, spot, _, holds, held⟩
    have size : loopedDisk.sectors.size = 6 := by simp [loopedDisk, SectorArray.set]
    subst held
    rw [SectorArray.mem_iff, SectorArray.count, size]
    rcases held_looped holds with same | same <;> rw [same] <;> decide
  exact ⟨⟨small, met⟩, readInto_exact shown small met⟩

end Stores

end DiskInode

end InodeVolume
