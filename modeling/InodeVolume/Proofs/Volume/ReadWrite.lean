import InodeVolume.Proofs.Volume.Unmapped

/-!
# Files are byte strings

To callers a file is a byte string, `world.contents file`. Reading copies a part of it, and writing
lays bytes over a part of it, after zeros were added where the file was too short.

* **growth** — `World.growth` is how growing a file would end, and `Sane.growth_spec` when it succeeds;
* **one call** — `Sane.reads` and `Sane.writes`;
* **every world** — `Reachable.readWrite`.
-/

namespace InodeVolume

namespace Bytes

variable {b : Bytes}

/-- A byte string with zeros added up to a length. -/
def padTo (b : Bytes) (length : Nat) : Bytes := b ++ fill 0 (length - b.size)

theorem size_padTo (length : Nat) : (padTo b length).size = max b.size length := by
  rw [padTo, ByteArray.size_append, size_fill]
  omega

/-- The zeros are those that were past the end before. -/
theorem byte_padTo (length i : Nat) : (padTo b length).byte i = b.byte i := by
  rw [padTo, byte_append]
  split
  · rfl
  · rename_i past
    rw [byte_fill, byte_of_ge (Nat.not_lt.mp past)]
    split <;> rfl

theorem splice_empty (start : Nat) : splice b start .empty = b := by
  rw [splice_eq_append, ByteArray.size_empty, ByteArray.append_empty, Nat.add_zero,
    ByteArray.extract_append_extract]
  simp

end Bytes

namespace World

variable {D : Type} [BlockDevice D] [LawfulDevice D] {world : World D} {holder : Holder}

open Volume (Call Discipline initialLedger)
open LawfulAllocator (Taken)

/-! ## Growth -/

/-- Bytes in a file. -/
def length (world : World D) (file : SectorId) : Nat := (world.sectors.inode file).size

/-- The bytes of a file. -/
def contents (world : World D) (file : SectorId) : Bytes :=
  world.sectors.contents (world.sectors.inode file)

@[simp] theorem size_contents (file : SectorId) : (world.contents file).size = world.length file :=
  PartialArray.size_contents

/-- How growing a file would end. -/
def growth (world : World D) (file : SectorId) (length : Nat) (log : Array Event) : Except Failure Unit :=
  match world.run (Files.inSpace (Draft.edit (world.sectors.inode file) (Draft.grow length))) log with
  | .ok _ _ => .ok ()
  | .error failure _ => .error failure

/-- Growing a file succeeds where it is long enough already, and where the length can be addressed and
there is room for it. -/
theorem Sane.growth_spec (sane : world.Sane) {file : SectorId} (listed : file ∈ world.ledger.files)
    (length : Nat) (log : Array Event) :
    match world.growth file length log with
    | .ok () => length ≤ world.length file ∨
        Draft.CanGrow world.sectors ⟨world.sectors.inode file, world.mount.files.space⟩ length
    | .error failure => (failure = .reported .noSpace ∨ failure = .reported .outOfRange) ∧
        world.length file < length ∧
        ¬Draft.CanGrow world.sectors ⟨world.sectors.inode file, world.mount.files.space⟩ length := by
  have intact := sane.healthy.sane.intact
  have whole := intact.whole file listed
  obtain ⟨m, mapped, covered⟩ := whole.mapped
  have ready := whole.ready intact.sound (Nat.le_of_eq intact.limit) mapped
  have ensured : (Files.inSpace (Draft.edit (world.sectors.inode file) (Draft.grow length)) :
      SectorM Volume (Unit × DiskInode)).Ensures world.sectors world.mount.files
      (fun _ _ _ => length ≤ world.length file ∨
        Draft.CanGrow world.sectors ⟨world.sectors.inode file, world.mount.files.space⟩ length)
      fun failure _ _ => (failure = .reported .noSpace ∨ failure = .reported .outOfRange) ∧
        world.length file < length ∧
        ¬Draft.CanGrow world.sectors ⟨world.sectors.inode file, world.mount.files.space⟩ length := by
    rw [Files.ensures_inSpace, Draft.ensures_edit]
    by_cases longer : world.length file < length
    · refine (Draft.grow_ensures ready covered longer).mono ?_ ?_
      · rintro _ array' draft' ⟨addressed, room, -⟩
        exact .inr ⟨addressed, room⟩
      · rintro failure array' draft' ⟨-, -, ⟨rfl, beyond, -⟩ | ⟨rfl, -, short⟩⟩
        · exact ⟨.inr rfl, longer, fun can => Nat.lt_irrefl _ (Nat.lt_of_lt_of_le beyond can.1)⟩
        · exact ⟨.inl rfl, longer, fun can => short can.2⟩
    · exact Draft.grow_of_le (Nat.le_of_not_lt longer) (.inl (Nat.le_of_not_lt longer))
  have ran := Mount.run_ensures ensured sane.shown log
  revert ran
  unfold growth World.run
  cases (Mount.run (Files.inSpace (Draft.edit (world.sectors.inode file) (Draft.grow length)))).run
      ⟨(world.device, world.mount), log⟩ with
  | ok a ended => exact fun ⟨_, _, can⟩ => can
  | error failure ended => exact fun ⟨_, _, cannot⟩ => cannot

/-! ## One call -/

/-- What a read gives: how many bytes are there of the range, none past the end, and the buffer with those
bytes in front and the rest of it as it was. -/
structure HasRead (world : World D) (file : SectorId) (buffer : Bytes) (offset n : Nat) (after : Bytes) :
    Prop where
  amount : n = min buffer.size (world.length file - offset)
  bytes : after = Bytes.slice (world.contents file) offset n ++ Bytes.slice buffer n (buffer.size - n)

/-- Reading gives what is there of a range, and changes nothing. -/
theorem Sane.reads (sane : world.Sane) (here : holder ∈ world.ledger.holders) (buffer : Bytes) (offset : Nat)
    (log : Array Event) :
    ∃ n after device mount log',
      world.run (Files.readInto holder.ref buffer offset) log = .ok (n, after) ⟨(device, mount), log'⟩ ∧
      world.HasRead holder.sector buffer offset n after ∧ mount.files = world.mount.files ∧
      mount.sectors device = world.sectors := by
  obtain ⟨⟨n, after⟩, device, mount, log', array, ended, shown, same, files, amount, bytes⟩ :=
    Mount.run_ends (Files.readInto_ensures sane.healthy.sane here buffer offset) sane.shown log
  have amount : n = min buffer.size (world.length holder.sector - offset) := amount
  have size : (Bytes.slice (world.contents holder.sector) offset buffer.size).size = n := by
    rw [Bytes.size_slice_eq, size_contents, amount]
  have there : Bytes.slice (world.contents holder.sector) offset buffer.size =
      Bytes.slice (world.contents holder.sector) offset n := by
    apply Bytes.ext_byte
    · rw [size, Bytes.size_slice_eq, size_contents]
      omega
    · intro i inside
      rw [Bytes.byte_slice, Bytes.byte_slice, if_pos (by omega), if_pos (by omega)]
  refine ⟨n, after, device, mount, log', ended, ⟨amount, ?_⟩, files, (Mount.sectors_eq shown).trans same⟩
  have total : n + (buffer.size - n) = buffer.size := by omega
  have bytes : after = Bytes.splice buffer 0 (Bytes.slice (world.contents holder.sector) offset buffer.size) :=
    bytes
  rw [bytes, Bytes.splice_eq_append, size, there, Nat.zero_add, ByteArray.extract_same, ByteArray.empty_append]
  show _ = _ ++ buffer.extract n (n + (buffer.size - n))
  rw [total]

/-- What a write does to its file. Nothing is written while writing is denied, where there is nothing to
write, and past the last offset; else the file grows if it must and can, with zeros, and what is written
is laid over it. A file that cannot grow gets what lies below its end. -/
def HasWritten (world : World D) (holder : Holder) (source : Bytes) (offset : Nat) (log : Array Event) (n : Nat)
    (after : World D) : Prop :=
  if 0 < (world.mount.files.table.inode holder.ref).denyCount ∨ source.size = 0 ∨
      wordLimit ≤ offset + source.size then
    n = 0 ∧ after.sectors = world.sectors ∧ after.mount.files = world.mount.files
  else match world.growth holder.sector (offset + source.size) log with
    | .ok () => n = source.size ∧
      after.length holder.sector = max (world.length holder.sector) (offset + source.size) ∧
      after.contents holder.sector =
        Bytes.splice (Bytes.padTo (world.contents holder.sector) (offset + source.size)) offset source
    | .error failure => (failure = .reported .noSpace ∨ failure = .reported .outOfRange) ∧
      n = min source.size (world.length holder.sector - offset) ∧
      after.length holder.sector = world.length holder.sector ∧
      after.contents holder.sector =
        Bytes.splice (world.contents holder.sector) offset (Bytes.slice source 0 n)

/-- After a write every byte of the file is a byte of the source or what it was. -/
theorem byte_of_wrote {array : PartialArray} {space : FreeMap} {file : SectorId} {source : Bytes} {offset n : Nat}
    (sane : world.Sane) (listed : file ∈ world.ledger.files)
    (wrote : Files.Wrote world.sectors world.mount.files.space world.ledger.files file source offset n array space)
    (i : Nat) :
    (array.contents (array.inode file)).byte i =
      if offset ≤ i ∧ i < offset + n then source.byte (i - offset) else (world.contents file).byte i := by
  have before : (world.contents file).byte i = world.sectors.byteAt (world.sectors.inode file) i :=
    (sane.healthy.sane.intact.whole file listed).byte_contents i
  rw [(wrote.intact.whole file listed).byte_contents, wrote.bytes, before]

section Laid

variable {before after source : Bytes} {offset n : Nat}

/-- Bytes that have room for the whole source have it laid over what they were, with zeros between. -/
theorem eq_splice_padTo (size : after.size = max before.size (offset + source.size))
    (bytes : ∀ i, after.byte i =
      if offset ≤ i ∧ i < offset + source.size then source.byte (i - offset) else before.byte i) :
    after = Bytes.splice (Bytes.padTo before (offset + source.size)) offset source := by
  have padded : (Bytes.padTo before (offset + source.size)).size = after.size := by rw [Bytes.size_padTo, size]
  have fits : offset + source.size ≤ (Bytes.padTo before (offset + source.size)).size := by omega
  apply Bytes.ext_byte
  · rw [← padded]
    exact (Bytes.size_splice _ fits).symm
  · intro i _
    rw [bytes]
    exact ((Bytes.byte_splice fits i).trans (by rw [Bytes.byte_padTo])).symm

/-- Bytes that are as many as they were have as much of the source laid over them as lies below their end. -/
theorem eq_splice_slice (size : after.size = before.size) (amount : n = min source.size (before.size - offset))
    (bytes : ∀ i, after.byte i = if offset ≤ i ∧ i < offset + n then source.byte (i - offset) else before.byte i) :
    after = Bytes.splice before offset (Bytes.slice source 0 n) := by
  have part : (Bytes.slice source 0 n).size = n := by
    rw [Bytes.size_slice_eq]
    omega
  by_cases inside : offset ≤ before.size
  · have fits : offset + (Bytes.slice source 0 n).size ≤ before.size := by omega
    apply Bytes.ext_byte
    · rw [size]
      exact (Bytes.size_splice _ fits).symm
    · intro i _
      rw [bytes]
      refine Eq.trans ?_ (Bytes.byte_splice fits i).symm
      rw [part]
      split
      · rw [Bytes.byte_slice, Nat.zero_add, if_pos (by omega)]
      · rfl
  · -- nothing of the source lies below the end
    obtain rfl : n = 0 := by omega
    rw [Bytes.slice_zero, Bytes.splice_empty]
    refine Bytes.ext_byte size ?_
    intro i _
    rw [bytes, if_neg (by omega)]

end Laid

/-- Writing lays bytes over the file, and touches no other. -/
theorem Sane.writes (sane : world.Sane) (here : holder ∈ world.ledger.holders) (source : Bytes) (offset : Nat)
    (log : Array Event) :
    ∃ n device mount log',
      world.run (Files.write holder.ref source offset) log = .ok n ⟨(device, mount), log'⟩ ∧
      world.HasWritten holder source offset log n ⟨device, mount, world.ledger⟩ ∧
      ∀ other ∈ world.ledger.files, other ≠ holder.sector →
        (⟨device, mount, world.ledger⟩ : World D).contents other = world.contents other := by
  have listed := sane.healthy.sane.held holder here
  obtain ⟨n, device, mount, log', whole, ended, shown, outcome⟩ :=
    Mount.run_ends (Files.write_ensures sane.healthy.sane here source offset) sane.shown log
  have same : (⟨device, mount, world.ledger⟩ : World D).sectors = .ofWhole whole := Mount.sectors_eq shown
  generalize PartialArray.ofWhole whole = array at same outcome
  refine ⟨n, device, mount, log', ended, ?_⟩
  unfold HasWritten length contents
  rw [same]
  split at outcome
  · rename_i refused
    obtain ⟨rfl, unchanged, files⟩ := outcome
    rw [if_pos refused, unchanged]
    exact ⟨⟨rfl, rfl, files⟩, fun _ _ _ => rfl⟩
  rename_i accepted
  obtain ⟨-, wrote⟩ := outcome
  have bytes := byte_of_wrote sane listed wrote
  have amount := wrote.amount
  rw [if_neg accepted]
  refine ⟨?_, fun other there different => (wrote.others other there different).contents⟩
  have grows := sane.growth_spec listed (offset + source.size) log
  revert grows
  cases world.growth holder.sector (offset + source.size) log with
  | ok u =>
      intro can
      -- the file has room for the whole source
      have longer : (array.inode holder.sector).size =
          max (world.sectors.inode holder.sector).size (offset + source.size) := by
        rcases wrote.size with ⟨size, -⟩ | ⟨-, short, cannot⟩
        · exact size
        · exact (can.elim (fun enough => Nat.not_lt.mpr enough short) cannot).elim
      obtain rfl : n = source.size := by omega
      refine ⟨rfl, longer, eq_splice_padTo ?_ bytes⟩
      rw [PartialArray.size_contents, PartialArray.size_contents, longer]
  | error failure =>
      rintro ⟨why, short, cannot⟩
      have still : (array.inode holder.sector).size = (world.sectors.inode holder.sector).size := by
        rcases wrote.size with ⟨-, enough | can⟩ | ⟨size, -⟩
        · exact absurd short (Nat.not_lt.mpr enough)
        · exact absurd can cannot
        · exact size
      rw [still] at amount
      refine ⟨why, amount, still, eq_splice_slice ?_ ?_ bytes⟩
      · rw [PartialArray.size_contents, PartialArray.size_contents, still]
      · rw [PartialArray.size_contents, amount]

/-! ## Every world -/

/-- Files are byte strings to callers who have them open. -/
structure ReadWrite (world : World D) : Prop where
  reads : ∀ holder ∈ world.ledger.holders, ∀ buffer offset log, ∃ n after device mount log',
    world.run (Files.readInto holder.ref buffer offset) log = .ok (n, after) ⟨(device, mount), log'⟩ ∧
    world.HasRead holder.sector buffer offset n after ∧ mount.files = world.mount.files ∧
    mount.sectors device = world.sectors
  writes : ∀ holder ∈ world.ledger.holders, ∀ source offset log,
    ∃ n device mount log',
      world.run (Files.write holder.ref source offset) log = .ok n ⟨(device, mount), log'⟩ ∧
      world.HasWritten holder source offset log n ⟨device, mount, world.ledger⟩ ∧
      ∀ other ∈ world.ledger.files, other ≠ holder.sector →
        (⟨device, mount, world.ledger⟩ : World D).contents other = world.contents other
  /-- Growing to a length that a file has already succeeds. -/
  fits : ∀ file ∈ world.ledger.files, ∀ length ≤ world.length file, ∀ log,
    world.growth file length log = .ok ()

/-- **Files are byte strings**, in every world that callers can reach who do not remove the free map's
file. -/
theorem Reachable.readWrite (reached : world.Reachable .lenient) : world.ReadWrite := by
  have sane := reached.sane lenient_keeps
  refine ⟨fun holder here => sane.reads here, fun holder here => sane.writes here, ?_⟩
  intro file listed length enough log
  have grows := sane.growth_spec listed length log
  cases ended : world.growth file length log with
  | ok u => rfl
  | error failure =>
      rw [ended] at grows
      exact absurd grows.2.1 (Nat.not_lt.mpr enough)

/-- The root directory of a volume of eight sectors is open. -/
theorem readWrite_opened : ∃ mount device log,
    (Volume.format 2).run ⟨RamDisk.zeroed 8, #[]⟩ = .ok mount ⟨device, log⟩ ∧
      ((⟨device, mount, initialLedger⟩ : World RamDisk).after .openRoot #[]).Reachable .lenient ∧
      ((⟨device, mount, initialLedger⟩ : World RamDisk).after .openRoot #[]).ReadWrite := by
  obtain ⟨mount, device, log, formatted, start⟩ := exists_reachable .lenient
  have live : initialLedger.Live rootSector := by decide
  have reached : ((⟨device, mount, initialLedger⟩ : World RamDisk).after .openRoot #[]).Reachable .lenient :=
    .call start .openRoot live #[]
  exact ⟨mount, device, log, formatted, reached, reached.readWrite⟩

/-- Where the free map's file is removed a file may grow by sector 0. It can be lengthened then, and yet
nothing is written to it. -/
theorem not_readWrite_unmapped : ∃ mount device log,
    (Volume.format 2).run ⟨RamDisk.zeroed 8, #[]⟩ = .ok mount ⟨device, log⟩ ∧
      (((⟨device, mount, initialLedger⟩ : World RamDisk).after (.remove freeMapSector) #[]).after
        .openRoot #[]).Reachable .heedless ∧
      ¬(((⟨device, mount, initialLedger⟩ : World RamDisk).after (.remove freeMapSector) #[]).after
        .openRoot #[]).ReadWrite := by
  obtain ⟨mount, device, log, formatted, start⟩ := exists_reachable .heedless
  have made := Volume.format_ensures (show LawfulDevice.Sound (RamDisk.zeroed 8) from trivial) 2 hostMemory #[]
  rw [formatted] at made
  obtain ⟨-, -, array, shown, healthy, root, -⟩ := made
  obtain ⟨_, device₁, mount₁, log₁, array₁, ended₁, shown₁, same₁, unmapped⟩ :=
    Mount.run_ends (Volume.removeMap_ensures healthy root) shown #[]
  have first : (⟨device, mount, initialLedger⟩ : World RamDisk).after (.remove freeMapSector) #[] =
      ⟨device₁, mount₁, initialLedger.removed freeMapSector⟩ := World.after_eq ended₁
  rw [← same₁] at unmapped
  obtain ⟨ref, device₂, mount₂, log₂, array₂, ended₂, shown₂, same₂, -, bare⟩ :=
    Mount.run_ends (Volume.openRoot_bare unmapped) shown₁ #[]
  have second : (⟨device₁, mount₁, initialLedger.removed freeMapSector⟩ : World RamDisk).after .openRoot #[] =
      ⟨device₂, mount₂, (initialLedger.removed freeMapSector).opened ⟨rootSector, ref⟩⟩ := World.after_eq ended₂
  rw [← same₂] at bare
  refine ⟨mount, device, log, formatted, ?_, ?_⟩
  · refine .call (.call start (.remove freeMapSector)
      ⟨(show initialLedger.Live freeMapSector by decide), trivial⟩ #[]) .openRoot ?_ #[]
    rw [first]
    show (initialLedger.removed freeMapSector).Live rootSector
    rw [Volume.removed_freeMap]
    decide
  intro readWrite
  rw [first, second] at readWrite
  obtain ⟨source, one⟩ : ∃ source : Bytes, source.size = 1 := ⟨Bytes.fill 0x41 1, Bytes.size_fill _ _⟩
  have some_byte : 0 < source.size := Nat.lt_of_lt_of_eq Nat.one_pos one.symm
  have small : source.size ≤ sectorSize := Nat.le_trans (Nat.le_of_eq one) (by decide)
  -- nothing is written
  obtain ⟨n, device₃, mount₃, log₃, array₃, ended₃, -, none, -⟩ :=
    Mount.run_ends (bare.write_lost some_byte small) shown₂ #[]
  obtain ⟨n', device₄, mount₄, log₄, ended₄, written, -⟩ :=
    readWrite.writes ⟨rootSector, ref⟩ List.mem_cons_self source 0 #[]
  obtain rfl : n' = n := by
    have ended₄ : (Mount.run (Files.write ref source 0)).run ⟨(device₂, mount₂), #[]⟩ = _ := ended₄
    rw [ended₃] at ended₄
    injection ended₄ with same
    exact same.symm
  -- and yet the file can be lengthened
  obtain ⟨_, device₅, mount₅, log₅, array₅, ended₅, -⟩ :=
    Mount.run_ends (bare.grow_ensures some_byte small) shown₂ #[]
  have grows : (⟨device₂, mount₂, (initialLedger.removed freeMapSector).opened ⟨rootSector, ref⟩⟩ :
      World RamDisk).growth rootSector (0 + source.size) #[] = .ok () := by
    unfold growth World.run World.sectors
    rw [Mount.sectors_eq shown₂, Nat.zero_add, ended₅]
  have proceeds : ¬(0 < (mount₂.files.table.inode ref).denyCount ∨ source.size = 0 ∨
      wordLimit ≤ 0 + source.size) := by
    rw [bare.allowed, one, wordLimit]
    omega
  unfold HasWritten at written
  rw [if_neg proceeds, grows, none, one] at written
  exact absurd written.1 Nat.zero_ne_one

end World

end InodeVolume
