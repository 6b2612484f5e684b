import Mathlib.Algebra.BigOperators.Fin
import InodeVolume.Proofs.Cache.Eviction
import InodeVolume.Proofs.Layout.Stored
import InodeVolume.Proofs.MayEnd

/-!
# Where the fields of inodes and index blocks stand

Inodes and index blocks are the words of a sector, each with its lowest byte first.

* **words** — `Words.value` reads a word off the bytes of a sector;
* **fields** — `DiskInode.StandsIn` and `IndexBlock.StandsIn` say which word is which field, and each sector says so
  of exactly one inode and of exactly one block;
* **stores** — `Transfers`: what is stored is loaded again, and what was loaded is stored over itself. `EntryAgrees`:
  one entry that is read alone is that of the whole block. `fields_exact` has all of it over any store.
-/

namespace InodeVolume

/-! ## Words -/

/-- Word `i` of a sector: its four bytes, the lowest first. -/
def Words.value (sector : Sector) (i : Fin indexCount) : Nat :=
  ∑ j : Fin 4, (sector.get ⟨4 * i + j, by
    have := i.isLt
    simp only [sectorSize, indexCount] at *
    omega⟩).toNat * 256 ^ j.val

theorem Words.value_eq (sector : Sector) (i : Fin indexCount) : value sector i = ((decode sector).get i).toNat := by
  show _ = (decode sector)[i.val].toNat
  simp only [decode, Vector.getElem_ofFn]
  rw [toNat_ofBytes, value, Fin.sum_univ_four]
  simp [Block.get_slice, wordSize]

/-! ## Fields -/

/-- The fields of an inode are the words of a sector in this order, the direct entries from word 3 on. -/
structure DiskInode.StandsIn (inode : DiskInode) (sector : Sector) : Prop where
  length : Words.value sector ⟨0, by decide⟩ = inode.length.toNat
  magic : Words.value sector ⟨1, by decide⟩ = inode.magic.toNat
  dirFlag : Words.value sector ⟨2, by decide⟩ = inode.dirFlag.toNat
  direct : ∀ i : Fin directCount, Words.value sector (directWord i) = inode.direct[i].raw.toNat
  indirect : Words.value sector ⟨126, by decide⟩ = inode.indirect.raw.toNat
  doubleIndirect : Words.value sector ⟨127, by decide⟩ = inode.doubleIndirect.raw.toNat

/-- The entries of an index block are the words of a sector. -/
def IndexBlock.StandsIn (block : IndexBlock) (sector : Sector) : Prop :=
  ∀ i : Fin indexCount, Words.value sector i = block[i].raw.toNat

theorem DiskInode.standsIn_iff {inode : DiskInode} {sector : Sector} : inode.StandsIn sector ↔ decode sector = inode := by
  constructor
  · intro stands
    obtain ⟨length, magic, dirFlag, direct, indirect, doubleIndirect⟩ := inode
    have word : ∀ {i : Fin indexCount} {field : UInt32}, Words.value sector i = field.toNat →
        (Words.decode sector).get i = field := fun same => UInt32.toNat_inj.mp ((Words.value_eq sector _).symm.trans same)
    have entries : (Vector.ofFn fun i => ⟨(Words.decode sector).get (directWord i)⟩) = direct := by
      apply Vector.ext
      intro i inside
      rw [Vector.getElem_ofFn, word (stands.direct ⟨i, inside⟩)]
      rfl
    rw [decode, ofWords, word stands.length, word stands.magic, word stands.dirFlag, word stands.indirect,
      word stands.doubleIndirect, entries]
  · intro same
    subst same
    have entry : ∀ i : Fin directCount, (decode sector).direct[i].raw = (Words.decode sector).get (directWord i) := by
      intro i
      simp [decode, ofWords]
    exact ⟨Words.value_eq _ _, Words.value_eq _ _, Words.value_eq _ _,
      fun i => (Words.value_eq _ _).trans (congrArg UInt32.toNat (entry i).symm), Words.value_eq _ _, Words.value_eq _ _⟩

theorem IndexBlock.standsIn_iff {block : IndexBlock} {sector : Sector} : block.StandsIn sector ↔ decode sector = block := by
  have entry : ∀ i : Fin indexCount, Words.value sector i = (decode sector)[i].raw.toNat := by
    intro i
    rw [Words.value_eq]
    simp only [decode, Fin.getElem_fin, Vector.getElem_map]
    rfl
  constructor
  · intro stands
    apply Vector.ext
    intro i inside
    have same := (entry ⟨i, inside⟩).symm.trans (stands ⟨i, inside⟩)
    exact congrArg SectorId.mk (UInt32.toNat_inj.mp same)
  · intro same i
    subst same
    exact entry i

/-! ## Stores -/

section Stores

open LawfulStore (Shows)

variable {S σ T : Type} [SectorStore S] [LawfulStore S] {store : S} {s : σ} {whole : SectorArray} {sector : SectorId}

/-- Values are carried to a sector and back: what is stored stands in that sector and is loaded again, and what is
loaded stood there and is stored over itself. -/
structure Transfers (stands : T → Sector → Prop) (load : SectorM σ T) (save : T → SectorM σ Unit) (store : S) (s : σ)
    (whole : SectorArray) (sector : SectorId) : Prop where
  stored : ∀ value, (do save value; load : SectorM σ T).run.Ensures (store, s)
    (fun loaded after => loaded = value ∧
      (∃ data, stands value data ∧ Shows after.1 (whole.set sector data)) ∧ after.2 = s)
    fun _ _ => False
  loaded : (do let value ← load; save value; return value : SectorM σ T).run.Ensures (store, s)
    (fun value after => stands value (whole.get sector) ∧ Shows after.1 whole ∧ after.2 = s) fun _ _ => False

/-- Values are carried so wherever they and the contents of sectors are known from one another. -/
theorem transfers_of_inverse {stands : T → Sector → Prop} {encode : T → Sector} {decode : Sector → T}
    (decode_encode : ∀ value, decode (encode value) = value) (encode_decode : ∀ data, encode (decode data) = data)
    (stands_iff : ∀ {value data}, stands value data ↔ decode data = value) (shown : Shows store whole)
    (inside : sector ∈ whole) :
    Transfers stands (return decode (← SectorM.readAt sector 0 sectorSize))
      (fun value => SectorM.writeAt sector 0 (encode value).bytes) store s whole sector where
  stored := by
    intro value
    have ensured : (do SectorM.writeAt sector 0 (encode value).bytes
                       return decode (← SectorM.readAt sector 0 sectorSize) : SectorM σ T).Ensures (.ofWhole whole) s
        (fun loaded array after => array = .ofWhole (whole.set sector (encode value)) ∧ loaded = value ∧ after = s)
        fun _ _ _ => False := by
      have has : (PartialArray.ofWhole whole).Has sector := PartialArray.has_ofWhole.mpr inside
      rw [SectorM.ensures_bind, SectorM.ensures_writeAt, PartialArray.takes_block]
      refine ⟨Block.fits_whole _, has, ?_⟩
      rw [Block.splice_whole, SectorM.ensures_bind, SectorM.ensures_readAt]
      refine ⟨Nat.le_of_eq (Nat.zero_add _), PartialArray.mem_set_self has, SectorM.ensures_pure.mpr ?_⟩
      rw [Block.slice_whole, PartialArray.get_set_self has, decode_encode]
      exact ⟨PartialArray.ofWhole_set, rfl, rfl⟩
    refine (ensured.run_to shown).mono ?_ fun _ _ never => never
    intro loaded after ⟨shown', same, kept⟩
    exact ⟨same, ⟨encode value, stands_iff.mpr (decode_encode value), shown'⟩, kept⟩
  loaded := by
    have ensured : (do let value : T := decode (← SectorM.readAt sector 0 sectorSize)
                       SectorM.writeAt sector 0 (encode value).bytes
                       return value : SectorM σ T).Ensures (.ofWhole whole) s
        (fun value array after => array = .ofWhole whole ∧ value = decode (whole.get sector) ∧ after = s)
        fun _ _ _ => False := by
      have known : sector ∈ PartialArray.ofWhole whole := PartialArray.mem_ofWhole.mpr inside
      rw [SectorM.ensures_bind, SectorM.ensures_readAt]
      refine ⟨Nat.le_of_eq (Nat.zero_add _), known, ?_⟩
      rw [Block.slice_whole, SectorM.ensures_bind, SectorM.ensures_writeAt, PartialArray.takes_block]
      refine ⟨Block.fits_whole _, PartialArray.has_ofWhole.mpr inside, SectorM.ensures_pure.mpr ?_⟩
      rw [Block.splice_whole, encode_decode, PartialArray.set_get_self known, PartialArray.get_ofWhole]
      exact ⟨rfl, rfl, rfl⟩
    refine (ensured.run_to shown).mono ?_ fun _ _ never => never
    intro value after ⟨shown', same, kept⟩
    exact ⟨stands_iff.mpr same.symm, shown', kept⟩

/-- An entry of an index block is the same whether it is read alone or with the block. Where one was replaced it is
the new one, and all others are the old ones. -/
structure EntryAgrees (store : S) (s : σ) (whole : SectorArray) (sector : SectorId) : Prop where
  read : ∀ i < indexCount,
    (do let told ← IndexBlock.entry sector i
        let block ← IndexBlock.load sector
        return (told, block) : SectorM σ (SectorId × IndexBlock)).run.Ensures (store, s)
      (fun (told, block) after => block.fetch i = .ok told ∧ Shows after.1 whole ∧ after.2 = s) fun _ _ => False
  replaced : ∀ i < indexCount, ∀ new, ∀ j < indexCount,
    (do let old ← IndexBlock.load sector
        let block ← SectorM.perform (Action.ofExcept (old.replace i new))
        block.store sector
        let told ← IndexBlock.entry sector j
        return (old, told) : SectorM σ (IndexBlock × SectorId)).run.Ensures (store, s)
      (fun (old, told) after => (if j = i then .ok new else old.fetch j) = .ok told ∧ after.2 = s) fun _ _ => False

theorem entryAgrees (shown : Shows store whole) (inside : sector ∈ whole) : EntryAgrees store s whole sector where
  read := by
    intro i low
    have known : sector ∈ PartialArray.ofWhole whole := PartialArray.mem_ofWhole.mpr inside
    have ensured : (do let told ← IndexBlock.entry sector i
                       let block ← IndexBlock.load sector
                       return (told, block) : SectorM σ (SectorId × IndexBlock)).Ensures (.ofWhole whole) s
        (fun (told, block) array after => array = .ofWhole whole ∧ block.fetch i = .ok told ∧ after = s)
        fun _ _ _ => False := by
      rw [SectorM.ensures_bind, IndexBlock.ensures_entry_of_lt low known, SectorM.ensures_bind, IndexBlock.ensures_load]
      exact ⟨known, SectorM.ensures_pure.mpr ⟨rfl, dif_pos low, rfl⟩⟩
    refine (ensured.run_to shown).mono ?_ fun _ _ never => never
    intro told after ⟨shown', agrees, kept⟩
    exact ⟨agrees, shown', kept⟩
  replaced := by
    intro i low new j low'
    have known : sector ∈ PartialArray.ofWhole whole := PartialArray.mem_ofWhole.mpr inside
    have has : (PartialArray.ofWhole whole).Has sector := PartialArray.has_ofWhole.mpr inside
    have ensured : (do let old ← IndexBlock.load sector
                       let block ← SectorM.perform (Action.ofExcept (old.replace i new))
                       block.store sector
                       let told ← IndexBlock.entry sector j
                       return (old, told) : SectorM σ (IndexBlock × SectorId)).Ensures (.ofWhole whole) s
        (fun (old, told) _ after => (if j = i then .ok new else old.fetch j) = .ok told ∧ after = s)
        fun _ _ _ => False := by
      rw [SectorM.ensures_bind, IndexBlock.ensures_load]
      refine ⟨known, ?_⟩
      generalize (PartialArray.ofWhole whole).block sector = old
      rw [SectorM.ensures_bind, SectorM.ensures_perform, Action.ensures_ofExcept, IndexBlock.replace, dif_pos low]
      dsimp only
      rw [SectorM.ensures_bind, IndexBlock.ensures_store]
      refine ⟨has, ?_⟩
      rw [SectorM.ensures_bind, IndexBlock.ensures_entry_of_lt low' (PartialArray.mem_set_self has),
        PartialArray.block_set_self has]
      refine SectorM.ensures_pure.mpr ⟨?_, rfl⟩
      rw [Vector.getElem_set]
      by_cases same : j = i
      · rw [if_pos same, if_pos same.symm]
      · rw [if_neg same, if_neg (Ne.symm same)]
        exact dif_pos low'
    exact (ensured.run shown).mono (fun _ _ ⟨_, _, done⟩ => done) fun _ _ ⟨_, _, never⟩ => never

/-- **Inodes and index blocks in any sector** of any store are loaded as they were stored and stored as they were
loaded, word for word, and single entries of a block are those of the whole block. -/
theorem fields_exact (shown : Shows store whole) (inside : sector ∈ whole) :
    Transfers DiskInode.StandsIn (DiskInode.load sector) (fun inode => inode.store sector) store s whole sector ∧
    Transfers IndexBlock.StandsIn (IndexBlock.load sector) (fun block => block.store sector) store s whole sector ∧
    EntryAgrees store s whole sector :=
  ⟨transfers_of_inverse DiskInode.decode_encode DiskInode.encode_decode DiskInode.standsIn_iff shown inside,
    transfers_of_inverse IndexBlock.decode_encode IndexBlock.encode_decode IndexBlock.standsIn_iff shown inside,
    entryAgrees shown inside⟩

/-- A sector that was written before, through a cache of two slots. -/
theorem fields_exact_poked : ∃ (array : SectorArray) (disk : CachedDisk RamDisk 2),
    Shows disk array ∧ .ofNat 1 ∈ array ∧ CachedDisk.firstByte array (.ofNat 1) = 7 ∧
    Transfers DiskInode.StandsIn (DiskInode.load (.ofNat 1)) (fun inode => inode.store (.ofNat 1)) disk () array
      (.ofNat 1) ∧
    Transfers IndexBlock.StandsIn (IndexBlock.load (.ofNat 1)) (fun block => block.store (.ofNat 1)) disk () array
      (.ofNat 1) ∧
    EntryAgrees disk () array (.ofNat 1) := by
  obtain ⟨array, disk, reached, -, -, written⟩ := CachedDisk.exists_pair
  have shown : Shows disk array := reached.shows trivial
  have inside : .ofNat 1 ∈ array := CachedDisk.mem_of_count (reached.count.trans Array.size_replicate) (by decide)
  exact ⟨array, disk, shown, inside, written, fields_exact shown inside⟩

end Stores

end InodeVolume
