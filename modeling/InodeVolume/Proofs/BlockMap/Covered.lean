import InodeVolume.Proofs.BlockMap.Raised

/-!
# Growth covers a file with zeros

What callers see of a growth that succeeds, told by the answers they get: by look-ups, by `byteToSector`
and by reading.

* **answers** — `Answers` says that a computation ends with one value whatever the log holds;
* **an inode's own** — `Raised.answers_lookup`, `Raised.answers_read`: what an inode that was raised answers;
* **growth** — `Reached.covers`: the longer file has a sector of its own for each of its logical sectors, and
  reads as the bytes it had, followed by zeros.
-/

namespace InodeVolume

namespace Draft

open LawfulStore (Shows)

/-! ## Answers -/

section Answers

variable {S σ α : Type} [SectorStore S] {computation : SectorM σ α} {world : S × σ} {a b : α}

/-- A computation over a store ends with a value. -/
def Answers (computation : SectorM σ α) (world : S × σ) (a : α) : Prop :=
  computation.run.Ensures world (fun answer _ => answer = a) fun _ _ => False

/-- There is one answer only. -/
theorem Answers.unique (first : Answers computation world a) (second : Answers computation world b) : a = b := by
  obtain ⟨answer, after, log, ended, rfl⟩ := Action.Ensures.ends first #[]
  have here := second #[]
  rw [ended] at here
  exact here

/-- What is ensured over the array that a store shows is answered over the store. -/
theorem Answers.of_ensures [LawfulStore S] {store : S} {whole : SectorArray} {s : σ} (shown : Shows store whole)
    (ensured : computation.Ensures (.ofWhole whole) s (fun answer _ _ => answer = a) fun _ _ _ => False) :
    Answers computation (store, s) a := by
  refine (ensured.run shown).mono ?_ ?_
  · rintro answer after ⟨-, -, same⟩
    exact same
  · rintro failure after ⟨-, -, failed⟩
    exact failed

end Answers

/-! ## An inode's own -/

section Own

variable {A : Type} [Allocator A] [LawfulAllocator A] {array array' : PartialArray} {draft draft' : Draft A}
  {origin : A} {m m' new : Nat} {σ : Type} {s : σ}

/-- A byte of the file has a sector. -/
theorem Raised.holds (raised : Raised origin array draft m) {offset : Nat} (inside : offset < draft.inode.size) :
    array.Holds draft.inode (.data (locate offset)) :=
  (raised.ready.mapped.data _).mpr (dataSectors_covers inside raised.covered)

theorem Raised.answers_lookup (raised : Raised origin array draft m) (offset : Nat) :
    (draft.inode.lookup (locate offset) : SectorM σ SectorId).Ensures array s
      (fun sector _ _ => sector = array.find draft.inode (locate offset)) fun _ _ _ => False :=
  (DiskInode.lookup_ensures (inTables_locate offset) raised.ready.fit.inside).mpr rfl

theorem Raised.answers_byteToSector (raised : Raised origin array draft m) {offset : Nat}
    (inside : offset < draft.inode.size) :
    (draft.inode.byteToSector offset : SectorM σ SectorId).Ensures array s
      (fun sector _ _ => sector = array.find draft.inode (locate offset)) fun _ _ _ => False := by
  rw [DiskInode.byteToSector, if_pos inside]
  exact raised.answers_lookup offset

theorem Raised.answers_entry (raised : Raised origin array draft m)
    (outer : draft.inode.doubleIndirect.isAllocated = true) {q : Nat} (low : q < indexCount) :
    (IndexBlock.entry draft.inode.doubleIndirect q : SectorM σ SectorId).Ensures array s
      (fun sector _ _ => sector = array.entry draft.inode.doubleIndirect q) fun _ _ _ => False :=
  (IndexBlock.ensures_entry low (raised.ready.tidy.inside .outer outer) outer).mpr rfl

theorem Raised.answers_read (raised : Raised origin array draft m) (offset wanted : Nat) :
    (draft.inode.read offset wanted : SectorM σ Bytes).Ensures array s
      (fun bytes _ _ => bytes = Bytes.slice (array.contents draft.inode) offset wanted) fun _ _ _ => False := by
  refine (DiskInode.readFrom_ensures raised.ready.tidy raised.ready.mapped raised.covered .empty offset wanted).mono
    ?_ fun _ _ _ failed => failed
  rintro bytes _ _ ⟨-, -, rfl⟩
  exact ByteArray.empty_append

/-- The bytes of a file that is longer are those it had, and zeros. -/
theorem Lengthened.contents (lengthened : Lengthened array draft array' draft' new)
    (raised : Raised origin array draft m) (longer : draft.inode.size ≤ new) :
    array'.contents draft'.inode =
      array.contents draft.inode ++ Bytes.fill 0 (new - draft.inode.size) := by
  apply Bytes.ext_byte
  · rw [PartialArray.size_contents, lengthened.size, ByteArray.size_append, PartialArray.size_contents,
      Bytes.size_fill]
    omega
  · intro i inside
    rw [PartialArray.size_contents] at inside
    rw [PartialArray.byte_contents, if_pos inside, lengthened.bytes, Bytes.byte_append, PartialArray.size_contents]
    split
    · rename_i low
      rw [PartialArray.byte_contents, if_pos low]
    · rename_i past
      rw [raised.zeros i (Nat.not_lt.mp past), Bytes.byte_fill]
      exact (ite_self _).symm

end Own

/-! ## Growth -/

section Growth

variable {S : Type} [SectorStore S] {before after : S × Draft FreeMap} {new : Nat} {contents : Bytes}
  {sector : Nat → SectorId}

/-- The file that held `contents` before is `new` bytes long afterwards, and has byte `offset` in
`sector offset`. -/
structure Covers (before after : S × Draft FreeMap) (new : Nat) (contents : Bytes) (sector : Nat → SectorId) :
    Prop where
  held : contents.size = before.2.inode.size ∧ ∀ offset wanted,
    Answers (before.2.inode.read offset wanted : SectorM (Draft FreeMap) Bytes) before
      (Bytes.slice contents offset wanted)
  size : after.2.inode.size = new
  mapped : ∀ offset < new, (sector offset).isAllocated = true ∧
    Answers (after.2.inode.byteToSector offset : SectorM (Draft FreeMap) SectorId) after (sector offset)
  apart : ∀ offset other, offset < new → other < new → offset / sectorSize ≠ other / sectorSize →
    sector offset ≠ sector other
  /-- No data is in an index block: neither in those that the inode names, nor in those that the outer one
  names. -/
  data : ∀ offset < new, sector offset ≠ after.2.inode.indirect ∧ sector offset ≠ after.2.inode.doubleIndirect ∧
    (after.2.inode.doubleIndirect.isAllocated = true → ∀ q < indexCount, ∀ inner,
      Answers (IndexBlock.entry after.2.inode.doubleIndirect q : SectorM (Draft FreeMap) SectorId) after inner →
        sector offset ≠ inner)
  reads : ∀ offset wanted, Answers (after.2.inode.read offset wanted : SectorM (Draft FreeMap) Bytes) after
    (Bytes.slice (contents ++ Bytes.fill 0 (new - before.2.inode.size)) offset wanted)
  /-- Also what a failed growth has mapped past the end stays where it is. -/
  stays : ∀ offset there, there.isAllocated = true →
    Answers (before.2.inode.lookup (locate offset) : SectorM (Draft FreeMap) SectorId) before there →
    Answers (after.2.inode.lookup (locate offset) : SectorM (Draft FreeMap) SectorId) after there

variable [LawfulStore S] {store : S} {whole : SectorArray} {isDir : Bool} {map : FreeMap}

/-- **A growth that succeeds covers the file with sectors of its own, and fills it up with zeros.** -/
theorem Reached.covers (shown : Shows store whole) (sound : map.Sound) (sectors : map.sectors = whole.count)
    (reached : Reached (store, ⟨.empty isDir, map⟩) before) (longer : before.2.inode.size < new)
    {log log' : Array Event}
    (grown : (Draft.grow new : SectorM (Draft FreeMap) Unit).run.run ⟨before, log⟩ = .ok () ⟨after, log'⟩) :
    ∃ contents sector, Covers before after new contents sector := by
  obtain ⟨whole₁, m, shown₁, raised⟩ := reached.raised shown sound sectors
  have ran := ((raised.lengthen_ensures longer).run shown₁) log
  rw [grown] at ran
  obtain ⟨whole₂, shown₂, ⟨m', raised'⟩, lengthened⟩ := ran
  have size := lengthened.size
  have holds : ∀ offset < new, (PartialArray.ofWhole whole₂).Holds after.2.inode (.data (locate offset)) :=
    fun offset inside => raised'.holds (Nat.lt_of_lt_of_eq inside size.symm)
  have apart := raised'.ready.tidy.apart
  refine ⟨(PartialArray.ofWhole whole₁).contents before.2.inode,
    fun offset => (PartialArray.ofWhole whole₂).find after.2.inode (locate offset), ?_⟩
  refine ⟨⟨PartialArray.size_contents, fun offset wanted => .of_ensures shown₁ (raised.answers_read offset wanted)⟩,
    size, fun offset inside => ⟨holds offset inside, ?_⟩, fun offset other inside inside' different same => ?_,
    fun offset inside => ?_, fun offset wanted => ?_, fun offset there allocated was => ?_⟩
  · exact .of_ensures shown₂ (raised'.answers_byteToSector (Nat.lt_of_lt_of_eq inside size.symm))
  · -- two bytes in one sector are at one place, so they are of one logical sector
    have place := apart (.data (locate offset)) (.data (locate other)) (holds offset inside) same
    have low := (raised'.ready.mapped.data _).mp (holds offset inside)
    have low' := (raised'.ready.mapped.data _).mp (holds other inside')
    exact different (Location.ofSectorIndex_injective (Nat.lt_of_lt_of_le low raised'.ready.mapped.bound)
      (Nat.lt_of_lt_of_le low' raised'.ready.mapped.bound) (Spot.data.inj place))
  · have own : ∀ spot : Spot, spot.IsIndex →
        (PartialArray.ofWhole whole₂).find after.2.inode (locate offset) ≠
          (PartialArray.ofWhole whole₂).held after.2.inode spot := by
      intro spot index same
      have clash := apart (.data (locate offset)) spot (holds offset inside) same
      rw [← clash] at index
      exact index
    refine ⟨own .single trivial, own .outer trivial, fun outer q low inner answers => ?_⟩
    rw [answers.unique (.of_ensures shown₂ (raised'.answers_entry outer low))]
    exact own (.inner q) trivial
  · rw [← lengthened.contents raised (Nat.le_of_lt longer)]
    exact .of_ensures shown₂ (raised'.answers_read offset wanted)
  · have found := was.unique (.of_ensures shown₁ (raised.answers_lookup offset))
    rw [found] at allocated ⊢
    have kept : (PartialArray.ofWhole whole₂).find after.2.inode (locate offset) =
        (PartialArray.ofWhole whole₁).find before.2.inode (locate offset) :=
      lengthened.kept (.data (locate offset)) allocated
    rw [← kept]
    exact .of_ensures shown₂ (raised'.answers_lookup offset)

/-- Two of the three free sectors are enough for 600 bytes. -/
theorem covers_newborn : ∃ after log contents sector,
    (Draft.grow 600 : SectorM (Draft FreeMap) Unit).run.run
      ⟨((⟨.zeroed 4, .empty 1 (by decide)⟩ : CachedDisk RamDisk 1), newborn 4), #[]⟩ = .ok () ⟨after, log⟩ ∧
    Covers ((⟨.zeroed 4, .empty 1 (by decide)⟩ : CachedDisk RamDisk 1), newborn 4) after 600 contents sector := by
  have sound := sound_newborn (show 0 < 4 by decide) (by decide)
  have sectors := sectors_newborn (show 0 < 4 by decide) (by decide)
  have shown : Shows (⟨.zeroed 4, .empty 1 (by decide)⟩ : CachedDisk RamDisk 1) ⟨(RamDisk.zeroed 4).sectors⟩ :=
    CachedDisk.Shows.fresh trivial (by decide)
  have raised := raised_newborn (show 0 < 4 by decide) (by decide)
  have room := room_newborn (show 0 < 4 by decide) (by decide) (show 0 < dataSectors 600 by decide) (by decide)
  obtain ⟨after, log, grown⟩ := raised.exists_grown shown (show 0 < 600 by decide) (by decide) room #[]
  obtain ⟨contents, sector, covers⟩ := Reached.covers shown sound sectors .start (show 0 < 600 by decide) grown
  exact ⟨after, log, contents, sector, grown, covers⟩

end Growth

end Draft

end InodeVolume
