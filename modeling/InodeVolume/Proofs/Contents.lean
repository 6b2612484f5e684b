import InodeVolume.Contents
import InodeVolume.Proofs.BlockMap.Grow

/-!
# The bytes of a file

The bytes of a file form a byte string of the file's length, `array.contents inode`. Reading gives
a part of it and writing replaces one, wherever the pieces of the range lie on the tiers of the
block map.

* **bytes** — `Bytes.byte` is a byte string as a function, zero past the end;
* **files** — `array.byteAt inode` is a file as such a function, with zeros where nothing is mapped;
* **walks** — `readFrom_ensures` and `writeFrom_ensures`, by induction on what is left of the range.
-/

namespace InodeVolume

/-! ## Byte strings as functions -/

namespace Bytes

variable {a b : Bytes}

/-- Byte `i`, zero past the end. -/
def byte (b : Bytes) (i : Nat) : UInt8 := if inside : i < b.size then b[i] else 0

theorem byte_of_lt {i : Nat} (inside : i < b.size) : b.byte i = b[i] := dif_pos inside

theorem byte_of_ge {i : Nat} (past : b.size ≤ i) : b.byte i = 0 := dif_neg (Nat.not_lt.mpr past)

/-- Byte strings of one length are equal when all their bytes are. -/
theorem ext_byte (size : a.size = b.size) (same : ∀ i, i < a.size → a.byte i = b.byte i) : a = b := by
  apply ByteArray.ext_getElem size
  intro i inside inside'
  have here := same i inside
  rw [byte_of_lt inside, byte_of_lt inside'] at here
  exact here

theorem byte_append (i : Nat) :
    byte (a ++ b) i = if i < a.size then a.byte i else b.byte (i - a.size) := by
  by_cases low : i < a.size
  · have inside : i < (a ++ b).size := by
      rw [ByteArray.size_append]
      omega
    rw [byte_of_lt inside, if_pos low, byte_of_lt low, ByteArray.getElem_append_left low]
  · rw [if_neg low]
    by_cases inside : i < (a ++ b).size
    · have inside' : i - a.size < b.size := by
        rw [ByteArray.size_append] at inside
        omega
      rw [byte_of_lt inside, byte_of_lt inside', ByteArray.getElem_append_right (by omega)]
    · have past : b.size ≤ i - a.size := by
        rw [ByteArray.size_append] at inside
        omega
      rw [byte_of_ge (Nat.not_lt.mp inside), byte_of_ge past]

@[simp] theorem byte_fill (value : UInt8) (n i : Nat) :
    (fill value n).byte i = if i < n then value else 0 := by
  by_cases low : i < n
  · rw [byte_of_lt (by rw [size_fill]; exact low), if_pos low]
    simp [fill, ByteArray.getElem_eq_getElem_data]
  · rw [byte_of_ge (by rw [size_fill]; omega), if_neg low]

/-- A slice holds what is there of the range. -/
theorem size_slice_eq (b : Bytes) (start length : Nat) :
    (slice b start length).size = min length (b.size - start) := by
  rw [slice, ByteArray.size_extract]
  omega

theorem byte_slice (b : Bytes) (start length i : Nat) :
    (slice b start length).byte i = if i < length then b.byte (start + i) else 0 := by
  have size := size_slice_eq b start length
  by_cases inside : i < (slice b start length).size
  · rw [byte_of_lt inside, if_pos (by omega), byte_of_lt (by omega), getElem_slice]
  · rw [byte_of_ge (by omega)]
    split
    · rw [byte_of_ge (by omega)]
    · rfl

/-- Two ranges that meet are one range. -/
theorem slice_append_slice {start n k : Nat} (inside : start + n ≤ b.size) :
    slice b start n ++ slice b (start + n) k = slice b start (n + k) := by
  have first := size_slice_eq b start n
  apply ext_byte
  · rw [ByteArray.size_append, first, size_slice_eq, size_slice_eq]
    omega
  · intro i _
    rw [byte_append, byte_slice, byte_slice, byte_slice, first]
    by_cases low : i < n
    · rw [if_pos (by omega), if_pos low, if_pos (by omega)]
    · rw [if_neg (by omega)]
      have place : start + n + (i - min n (b.size - start)) = start + i := by omega
      rw [place]
      by_cases high : i < n + k
      · rw [if_pos (by omega), if_pos high]
      · rw [if_neg (by omega), if_neg high]

theorem slice_of_ge {start length : Nat} (past : b.size ≤ start) : slice b start length = .empty := by
  apply ext_byte
  · rw [size_slice_eq, ByteArray.size_empty]
    omega
  · intro i inside
    rw [size_slice_eq] at inside
    omega

theorem slice_zero (b : Bytes) (start : Nat) : slice b start 0 = .empty := by
  apply ext_byte
  · rw [size_slice_eq, ByteArray.size_empty]
    omega
  · intro i inside
    rw [size_slice_eq] at inside
    omega

theorem slice_all (b : Bytes) : slice b 0 b.size = b := by
  rw [slice, Nat.zero_add, ByteArray.extract_zero_size]

theorem byte_splice {start : Nat} (fits : start + a.size ≤ b.size) (i : Nat) :
    (splice b start a).byte i =
      if start ≤ i ∧ i < start + a.size then a.byte (i - start) else b.byte i := by
  have size := size_splice b fits
  by_cases inside : i < b.size
  · rw [byte_of_lt (by omega), getElem_splice b fits (by omega) inside]
    split
    · exact (byte_of_lt _).symm
    · exact (byte_of_lt inside).symm
  · rw [byte_of_ge (by omega), if_neg (by omega), byte_of_ge (by omega)]

/-- What was laid over a byte string is there. -/
theorem slice_splice {start : Nat} (fits : start + a.size ≤ b.size) : slice (splice b start a) start a.size = a := by
  have size := size_splice b fits
  apply ext_byte
  · rw [size_slice_eq]
    omega
  · intro i inside
    rw [size_slice_eq] at inside
    rw [byte_slice, if_pos (by omega), byte_splice fits, if_pos (by omega), Nat.add_sub_cancel_left]

end Bytes

/-! ## Files as functions -/

/-- Bytes of one logical sector have one place. -/
theorem locate_congr {i j : Nat} (same : i / sectorSize = j / sectorSize) : locate i = locate j := by
  rw [locate, locate, same]

theorem inTables_locate (offset : Nat) : (locate offset).InTables := Location.inTables_ofSectorIndex _

theorem dataSectors_covers {i length m : Nat} (inside : i < length) (covered : dataSectors length ≤ m) :
    i / sectorSize < m := by
  have size : sectorSize = 512 := rfl
  rw [dataSectors, size] at covered
  rw [size]
  omega

namespace PartialArray

variable {array array' : PartialArray} {inode inode' : DiskInode} {i : Nat}

/-- Byte `i` of a file, zero where nothing is mapped. -/
def byteAt (array : PartialArray) (inode : DiskInode) (i : Nat) : UInt8 :=
  if array.Holds inode (.data (locate i)) then
    (array.get (array.held inode (.data (locate i)))).bytes.byte (i % sectorSize)
  else 0

/-- The bytes of a file. -/
def contents (array : PartialArray) (inode : DiskInode) : Bytes :=
  ⟨Array.ofFn fun i : Fin inode.size => array.byteAt inode i⟩

@[simp] theorem size_contents : (array.contents inode).size = inode.size := by
  simp [contents, ByteArray.size]

theorem byte_contents (i : Nat) :
    (array.contents inode).byte i = if i < inode.size then array.byteAt inode i else 0 := by
  by_cases inside : i < inode.size
  · rw [Bytes.byte_of_lt (by rw [size_contents]; exact inside), if_pos inside]
    simp [contents, ByteArray.getElem_eq_getElem_data]
  · rw [Bytes.byte_of_ge (by rw [size_contents]; omega), if_neg inside]

/-- Where the block map leads is where the bytes are. -/
theorem byteAt_of_held (held : array'.held inode' = array.held inode) (i : Nat) :
    array'.byteAt inode' i =
      if array.Holds inode (.data (locate i)) then
        (array'.get (array.held inode (.data (locate i)))).bytes.byte (i % sectorSize)
      else 0 := by
  have there : array'.Holds inode' (.data (locate i)) ↔ array.Holds inode (.data (locate i)) :=
    holds_congr (congrFun held _)
  rw [byteAt, held]
  exact ite_cond_congr (propext there)

/-- Bytes depend on where the block map leads and on the data there. -/
theorem byteAt_congr (held : array'.held inode' = array.held inode)
    (same : ∀ place, array.Holds inode (.data place) →
      array'.get (array.held inode (.data place)) = array.get (array.held inode (.data place))) :
    array'.byteAt inode' = array.byteAt inode := by
  funext i
  rw [byteAt_of_held held, byteAt]
  split
  · rename_i holds
    rw [same _ holds]
  · rfl

end PartialArray

/-! ## Walks -/

namespace DiskInode

variable {σ : Type} {array : PartialArray} {s : σ} {inode : DiskInode} {Taken : SectorId → Prop}
  {m offset : Nat}

/-- The places of a piece are in one sector. -/
theorem pieceLength_spec (size offset wanted : Nat) :
    pieceLength size offset wanted ≤ wanted ∧
      offset % sectorSize + pieceLength size offset wanted ≤ sectorSize ∧
      offset + pieceLength size offset wanted ≤ max offset size := by
  have low := Nat.mod_lt offset (show 0 < sectorSize by decide)
  simp only [pieceLength]
  omega

theorem piece_place {i length : Nat} (fits : offset % sectorSize + length ≤ sectorSize) (low : i < length) :
    (offset + i) / sectorSize = offset / sectorSize ∧
      (offset + i) % sectorSize = offset % sectorSize + i := by
  have size : sectorSize = 512 := rfl
  rw [size] at fits ⊢
  omega

/-- What a sector holds from a byte of the file on is what the file holds from there on. -/
theorem slice_sector (holds : array.Holds inode (.data (locate offset))) {length : Nat}
    (fits : offset % sectorSize + length ≤ sectorSize) (inside : offset + length ≤ inode.size) :
    ((array.get (array.held inode (.data (locate offset)))).slice (offset % sectorSize) length fits).bytes =
      Bytes.slice (array.contents inode) offset length := by
  apply Bytes.ext_byte
  · rw [Block.size_bytes, Bytes.size_slice_eq, PartialArray.size_contents]
    omega
  · intro i low
    rw [Block.size_bytes] at low
    obtain ⟨sector, place⟩ := piece_place fits low
    have there : locate (offset + i) = locate offset := locate_congr sector
    rw [Block.slice, Bytes.byte_slice, Bytes.byte_slice, if_pos low, if_pos low, PartialArray.byte_contents,
      if_pos (by omega), PartialArray.byteAt, there, if_pos holds, place]

/-- **Reading** gives the bytes of the file that are in the range, and changes nothing. -/
theorem readFrom_ensures (tidy : array.Tidy inode Taken) (mapped : array.Prefix inode m)
    (covered : dataSectors inode.size ≤ m) (taken : Bytes) (offset wanted : Nat) :
    (inode.readFrom taken offset wanted : SectorM σ Bytes).Ensures array s
      (fun bytes array' s' => array' = array ∧ s' = s ∧
        bytes = taken ++ Bytes.slice (array.contents inode) offset wanted)
      fun _ _ _ => False := by
  induction wanted using Nat.strongRecOn generalizing taken offset with
  | ind wanted ih =>
    rw [readFrom]
    split
    · rename_i nothing
      rw [nothing, Bytes.slice_zero, ByteArray.append_empty]
      exact SectorM.ensures_pure.mpr ⟨rfl, rfl, rfl⟩
    rename_i some_wanted
    split
    · rename_i inside
      have holds : array.Holds inode (.data (locate offset)) :=
        (mapped.data _).mpr (dataSectors_covers inside covered)
      obtain ⟨short, fits, ends⟩ := pieceLength_spec inode.size offset wanted
      have positive := pieceLength_pos some_wanted inside
      generalize pieceLength inode.size offset wanted = length at *
      have whole : length + (wanted - length) = wanted := by omega
      rw [SectorM.ensures_bind, lookup_ensures (inTables_locate offset) fun spot _ => tidy.inside spot,
        SectorM.ensures_ite, if_pos (show (array.find inode (locate offset)).isAllocated = true from holds)]
      dsimp only
      rw [SectorM.ensures_bind, SectorM.ensures_readAt]
      refine ⟨fits, tidy.inside _ holds, ?_⟩
      refine (ih _ (by omega) _ _).mono ?_ fun _ _ _ failed => failed
      rintro bytes array' s' ⟨rfl, rfl, rfl⟩
      refine ⟨rfl, rfl, ?_⟩
      have piece := slice_sector holds fits (by omega)
      rw [PartialArray.held] at piece
      rw [piece, ByteArray.append_assoc, Bytes.slice_append_slice, whole]
      rw [PartialArray.size_contents]
      omega
    · rename_i past
      rw [Bytes.slice_of_ge (by rw [PartialArray.size_contents]; omega), ByteArray.append_empty]
      exact SectorM.ensures_pure.mpr ⟨rfl, rfl, rfl⟩

/-- A patch was laid over the bytes of a file from `offset` on, and nothing else was changed. -/
structure Patched (array : PartialArray) (inode : DiskInode) (offset : Nat) (patch : Bytes)
    (array' : PartialArray) : Prop where
  spreads : array.Spreads array'
  frame : ∀ sector, (∀ place, array.Holds inode (.data place) →
    array.held inode (.data place) ≠ sector) → array'.get sector = array.get sector
  bytes : ∀ i, array'.byteAt inode i =
    if offset ≤ i ∧ i < offset + patch.size then patch.byte (i - offset) else array.byteAt inode i

namespace Patched

variable {array' array'' : PartialArray} {patch patch' : Bytes}

/-- The block map is not part of what is patched. -/
theorem held (tidy : array.Tidy inode Taken) (patched : Patched array inode offset patch array') :
    array'.held inode = array.held inode := by
  refine PartialArray.held_congr fun spot index holds => patched.frame _ fun place there same => ?_
  rw [← tidy.apart (.data place) spot there same] at index
  exact index

/-- Nothing was laid over the file. -/
theorem nothing : Patched array inode offset .empty array := by
  refine ⟨.refl _, fun _ _ => rfl, fun i => ?_⟩
  rw [ByteArray.size_empty, if_neg (by omega)]

/-- Patches that meet are one patch. -/
theorem trans (tidy : array.Tidy inode Taken) (first : Patched array inode offset patch array')
    (second : Patched array' inode (offset + patch.size) patch' array'') :
    Patched array inode offset (patch ++ patch') array'' := by
  have same := first.held tidy
  refine ⟨first.spreads.trans second.spreads, ?_, ?_⟩
  · intro sector off
    refine (second.frame sector fun place holds => ?_).trans (first.frame sector off)
    have before : array.Holds inode (.data place) :=
      (PartialArray.holds_congr (congrFun same _)).mp holds
    rw [same]
    exact off place before
  · intro i
    rw [second.bytes, first.bytes, ByteArray.size_append, Bytes.byte_append]
    by_cases low : offset ≤ i
    · by_cases early : i < offset + patch.size
      · rw [if_neg (by omega), if_pos ⟨low, early⟩, if_pos (by omega), if_pos (by omega)]
      · rw [if_neg (by omega : ¬(offset ≤ i ∧ i < offset + patch.size)),
          if_neg (by omega : ¬i - offset < patch.size)]
        have place : i - (offset + patch.size) = i - offset - patch.size := by omega
        rw [place]
        by_cases late : i < offset + patch.size + patch'.size
        · rw [if_pos (by omega), if_pos (by omega)]
        · rw [if_neg (by omega), if_neg (by omega)]
    · rw [if_neg (by omega), if_neg (by omega), if_neg (by omega)]

/-- A patch within one sector. -/
theorem piece (tidy : array.Tidy inode Taken) (mapped : array.Prefix inode m)
    (holds : array.Holds inode (.data (locate offset)))
    (fits : offset % sectorSize + patch.size ≤ sectorSize) :
    Patched array inode offset patch
      (array.set (array.held inode (.data (locate offset)))
        ((array.get (array.held inode (.data (locate offset)))).splice (offset % sectorSize) patch fits)) := by
  have has := PartialArray.has_of_mem (tidy.inside _ holds)
  have size : sectorSize = 512 := rfl
  refine ⟨.set has, ?_, ?_⟩
  · intro sector off
    exact PartialArray.get_set_ne has (Ne.symm (off _ holds))
  · intro i
    have same : (array.set (array.held inode (.data (locate offset)))
        ((array.get (array.held inode (.data (locate offset)))).splice (offset % sectorSize) patch fits)).held
          inode = array.held inode := by
      refine PartialArray.held_congr fun spot index there => PartialArray.get_set_ne has fun equal => ?_
      rw [tidy.apart spot _ there equal] at index
      exact index
    rw [PartialArray.byteAt_of_held same]
    by_cases there : array.Holds inode (.data (locate i))
    · rw [if_pos there]
      by_cases here : i / sectorSize = offset / sectorSize
      · have place : locate i = locate offset := locate_congr here
        have covered : offset % sectorSize ≤ i % sectorSize ∧ i % sectorSize < offset % sectorSize + patch.size ↔
            offset ≤ i ∧ i < offset + patch.size := by
          rw [size] at here fits ⊢
          omega
        rw [place, PartialArray.get_set_self has, Block.splice,
          Bytes.byte_splice (by rw [Block.size_bytes]; exact fits)]
        by_cases within : offset ≤ i ∧ i < offset + patch.size
        · have amount : i % sectorSize - offset % sectorSize = i - offset := by
            rw [size] at here ⊢
            omega
          rw [if_pos (covered.mpr within), if_pos within, amount]
        · rw [if_neg (fun h => within (covered.mp h)), if_neg within, PartialArray.byteAt, place,
            if_pos holds]
      · have apart : array.held inode (.data (locate i)) ≠ array.held inode (.data (locate offset)) := by
          intro equal
          have place := tidy.apart _ _ there equal
          have low := (mapped.data _).mp there
          have low' := (mapped.data _).mp holds
          exact here (Location.ofSectorIndex_injective (Nat.lt_of_lt_of_le low mapped.bound)
            (Nat.lt_of_lt_of_le low' mapped.bound) (Spot.data.inj place))
        have outside : ¬(offset ≤ i ∧ i < offset + patch.size) := by
          rw [size] at here fits
          omega
        rw [PartialArray.get_set_ne has apart, if_neg outside, PartialArray.byteAt, if_pos there]
    · have outside : ¬(offset ≤ i ∧ i < offset + patch.size) := by
        intro within
        have here : i / sectorSize = offset / sectorSize := by
          rw [size] at fits ⊢
          omega
        rw [locate_congr here] at there
        exact there holds
      rw [if_neg there, if_neg outside, PartialArray.byteAt, if_neg there]

end Patched

/-- **Writing** lays the bytes over the file, as far as the file reaches. -/
theorem writeFrom_ensures (tidy : array.Tidy inode Taken) (mapped : array.Prefix inode m)
    (covered : dataSectors inode.size ≤ m) (source : Bytes) (done offset : Nat) :
    (inode.writeFrom source done offset : SectorM σ Nat).Ensures array s
      (fun n array' s' => s' = s ∧ n = done + (Bytes.slice source done (inode.size - offset)).size ∧
        Patched array inode offset (Bytes.slice source done (inode.size - offset)) array')
      fun _ _ _ => False := by
  induction left : source.size - done using Nat.strongRecOn generalizing array done offset with
  | ind left ih =>
    subst left
    rw [writeFrom]
    split
    · rename_i nothing
      rw [Bytes.slice_of_ge nothing]
      exact SectorM.ensures_pure.mpr ⟨rfl, rfl, .nothing⟩
    rename_i some_left
    split
    · rename_i inside
      have holds : array.Holds inode (.data (locate offset)) :=
        (mapped.data _).mpr (dataSectors_covers inside covered)
      obtain ⟨short, fits, ends⟩ := pieceLength_spec inode.size offset (source.size - done)
      have positive := pieceLength_pos (show source.size - done ≠ 0 by omega) inside
      generalize pieceLength inode.size offset (source.size - done) = length at *
      have size : (Bytes.slice source done length).size = length := Bytes.size_slice _ (by omega)
      have fits' : offset % sectorSize + (Bytes.slice source done length).size ≤ sectorSize := by
        rw [size]
        exact fits
      have piece := Patched.piece tidy mapped holds fits'
      have same := piece.held tidy
      rw [SectorM.ensures_bind, lookup_ensures (inTables_locate offset) fun spot _ => tidy.inside spot,
        SectorM.ensures_ite, if_pos (show (array.find inode (locate offset)).isAllocated = true from holds)]
      dsimp only
      rw [SectorM.ensures_bind, SectorM.ensures_writeAt]
      refine ⟨fits', .inl (tidy.inside _ holds), ?_⟩
      refine (ih _ ?_ (tidy.congr same piece.spreads) (mapped.congr same) (done + length) (offset + length)
        rfl).mono ?_ fun _ _ _ failed => failed
      · omega
      · rintro n array' s' ⟨rfl, count, patched⟩
        have whole : length + (inode.size - (offset + length)) = inode.size - offset := by omega
        have joined : Bytes.slice source done length ++
            Bytes.slice source (done + length) (inode.size - (offset + length)) =
              Bytes.slice source done (length + (inode.size - (offset + length))) :=
          Bytes.slice_append_slice (by omega)
        rw [whole] at joined
        refine ⟨rfl, ?_, ?_⟩
        · rw [count, ← joined, ByteArray.size_append, size]
          omega
        · rw [← joined]
          refine piece.trans tidy ?_
          rw [size]
          exact patched
    · rename_i past
      have nothing : inode.size - offset = 0 := by omega
      rw [nothing, Bytes.slice_zero]
      exact SectorM.ensures_pure.mpr ⟨rfl, rfl, .nothing⟩

end DiskInode

end InodeVolume
