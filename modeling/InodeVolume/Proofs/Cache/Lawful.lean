import InodeVolume.Proofs.Cache.Shows

/-!
# A cached disk keeps what is written to it

Each operation of the cache leaves the array that the disk shows as it is, or changes it as the
same request would change the array itself, through any number of evictions.

* **bringing a sector in** — `flush`, `makeRoom` and `resident` leave the array;
* **reading and writing** — `readInto` gives the array's bytes and `writeFrom` changes them;
* **writing back** — after `sync` and `shutdown` the device is the array. A sync leaves every
  sector where it is, a shutdown leaves no copies.
-/

namespace InodeVolume

namespace CachedDisk

variable {D : Type} {n : Nat} {disk : CachedDisk D n} {array : SectorArray} {sector : SectorId}

/-! ## Ranges -/

theorem requireWithin_ensures {offset length : Nat} (fits : offset + length ≤ sectorSize)
    {good : Unit → CachedDisk D n → Prop} {bad : Failure → CachedDisk D n → Prop}
    (next : good () disk) : (requireWithin offset length).Ensures disk good bad := by
  have small : offset + length < wordLimit := Nat.lt_of_le_of_lt fits (by decide)
  refine .bind (Action.ensures_checkedAdd.mpr ?_)
  rw [if_pos small]
  refine Action.ensures_require.mpr ?_
  rw [if_pos (decide_eq_true fits)]
  exact next

theorem requireInside_ensures {start length size : Nat} (fits : start + length ≤ size)
    (small : size < wordLimit) {good : Unit → CachedDisk D n → Prop}
    {bad : Failure → CachedDisk D n → Prop} (next : good () disk) :
    (requireInside start length size).Ensures disk good bad := by
  refine .bind (Action.ensures_checkedAdd.mpr ?_)
  rw [if_pos (Nat.lt_of_le_of_lt fits small), if_pos fits]
  exact Action.ensures_pure.mpr next

variable [BlockDevice D] [LawfulDevice D]

open LawfulDevice (Sound sectors)

/-! ## Bringing a sector in -/

/-- A copy is written back to its sector. -/
theorem writeBack_ensures (shown : disk.Shows array) {i : Fin n} {entry : Entry}
    (held : disk.cache.copy i = some entry.unmarked) :
    (onDevice (BlockDevice.writeSector entry.sector.index entry.data.bytes) : Action (CachedDisk D n) Unit).Ensures disk
      (fun _ after => after.cache = disk.cache ∧ after.Shows array ∧ after.Backed array i) fun _ _ => False := by
  have inside : entry.sector ∈ sectors disk.device := shown.mem_device_iff.mpr (shown.held i entry.unmarked held).1
  refine Action.ensures_within.mpr ((LawfulDevice.write shown.sound inside entry.data).mono ?_ fun _ _ failed => failed)
  rintro _ device ⟨sound, written⟩
  exact ⟨rfl, shown.writeBack held sound written⟩

/-- Writing a slot back and emptying it leaves the array, and touches no other slot. -/
theorem flush_ensures (shown : disk.Shows array) (i : Fin n) :
    (flush i).Ensures disk
      (fun _ after => after.Shows array ∧
        ∀ j, after.cache.copy j = if j = i then none else disk.cache.copy j)
      fun _ _ => False := by
  have cleared : ∀ {device : D}, (⟨device, disk.cache⟩ : CachedDisk D n).Shows array →
      (⟨device, disk.cache⟩ : CachedDisk D n).Backed array i →
      (onCache (modify (·.clear i)) : Action (CachedDisk D n) PUnit).Ensures ⟨device, disk.cache⟩
        (fun _ after => after.Shows array ∧
          ∀ j, after.cache.copy j = if j = i then none else disk.cache.copy j)
        fun _ _ => False := by
    intro device shown backed
    refine Action.ensures_within.mpr (Action.ensures_modify.mpr ⟨?_, Cache.copy_clear _ i⟩)
    refine shown.settle backed ?_ ?_
    · intro j apart
      rw [Cache.copy_clear, if_neg apart]
    · intro entry held
      rw [Cache.copy_clear, if_pos rfl] at held
      cases held
  unfold flush slot
  refine .bind (.bind (Action.ensures_get.mpr (Action.ensures_pure.mpr ?_)))
  cases here : disk.cache.slots[i] with
  | none =>
      refine cleared shown ?_
      intro entry held
      rw [Cache.copy, here] at held
      cases held
  | some entry =>
      have held := Cache.copy_of_slot here
      cases dirty : entry.dirty with
      | false =>
          simp only [dirty]
          exact cleared shown (shown.backed_of_clean held dirty)
      | true =>
          simp only [dirty]
          refine .bind ((writeBack_ensures shown held).mono ?_ fun _ _ failed => failed)
          rintro _ ⟨device, cache⟩ ⟨rfl, shown, backed⟩
          exact cleared shown backed

/-- Room is an empty slot, and nothing that was not there before is in the others. -/
theorem makeRoom_ensures (shown : disk.Shows array) (newcomer : SectorId) :
    (makeRoom newcomer).Ensures disk
      (fun i after => after.Shows array ∧ after.cache.copy i = none ∧
        ∀ j entry, after.cache.copy j = some entry → disk.cache.copy j = some entry)
      fun _ _ => False := by
  unfold makeRoom
  refine .bind (Action.ensures_get.mpr ?_)
  cases vacancy : disk.cache.vacant? with
  | some i => exact Action.ensures_pure.mpr ⟨shown, Cache.copy_of_vacant? vacancy, fun _ _ held => held⟩
  | none =>
      have copies := Cache.copy_victim disk.cache
      have kept : (⟨disk.device, disk.cache.victim.2⟩ : CachedDisk D n).Shows array :=
        shown.congr rfl copies
      unfold slot
      refine .bind (Action.ensures_within.mpr (Action.ensures_modifyGet.mpr ?_))
      refine .bind (.bind (Action.ensures_get.mpr (Action.ensures_pure.mpr ?_)))
      refine .bind (Action.ensures_emit.mpr (.bind ?_))
      refine (flush_ensures kept disk.cache.victim.1).mono ?_ fun _ _ failed => failed
      rintro _ after ⟨shown, emptied⟩
      refine Action.ensures_pure.mpr ⟨shown, by rw [emptied, if_pos rfl], ?_⟩
      intro j entry held
      rw [emptied] at held
      split at held
      · cases held
      · exact (congrFun copies j).symm.trans held

/-- A sector that was brought in has its copy in the slot that is given. -/
theorem resident_ensures (shown : disk.Shows array) (inside : sector ∈ array) :
    (resident sector).Ensures disk
      (fun found after => after.Shows array ∧
        after.cache.copy found.1 = some found.2.unmarked ∧ found.2.sector = sector)
      fun _ _ => False := by
  unfold resident
  refine .bind (Action.ensures_get.mpr ?_)
  cases found : disk.cache.find? sector with
  | some place =>
      obtain ⟨i, entry⟩ := place
      obtain ⟨held, same⟩ := Cache.copy_of_find? found
      exact .bind (Action.ensures_emit.mpr (Action.ensures_pure.mpr ⟨shown, held, same⟩))
  | none =>
      refine .bind (Action.ensures_emit.mpr (.bind ?_))
      refine (makeRoom_ensures shown sector).mono ?_ fun _ _ failed => failed
      rintro i ⟨device, cache⟩ ⟨room, vacant, remaining⟩
      have absent : ∀ j entry, cache.copy j = some entry → entry.sector ≠ sector :=
        fun j entry held => Cache.ne_of_find?_eq_none found (remaining j entry held)
      refine .bind (Action.ensures_within.mpr ?_)
      refine (LawfulDevice.read room.sound (room.mem_device_iff.mpr inside)).mono ?_ fun _ _ failed => failed
      rintro data after ⟨rfl, sound, same⟩
      have current : (sectors device).get sector = array.get sector := by
        rcases room.behind sector.index with equal | ⟨j, entry, held, -, place⟩
        · simp only [SectorArray.get, Array.getD_eq_getD_getElem?, equal]
        · exact absurd (SectorId.index_injective place) (absent j entry held)
      have room : (⟨after, cache⟩ : CachedDisk D n).Shows array := by
        obtain ⟨-, count, held, apart, behind⟩ := room
        rw [← same] at count behind
        exact ⟨sound, count, held, apart, behind⟩
      refine .bind (Action.ensures_within.mpr (Action.ensures_modify.mpr ?_))
      refine Action.ensures_pure.mpr ⟨room.bringIn vacant inside absent ⟨rfl, current⟩, ?_, rfl⟩
      show (cache.put i _).copy i = _
      rw [Cache.copy_put, if_pos rfl]

/-! ## Reading and writing -/

/-- A read lays the array's bytes into the buffer, and leaves the rest of the buffer. -/
theorem readInto_ensures (shown : disk.Shows array) (inside : sector ∈ array)
    {buffer : Bytes} {start length offset : Nat} (fits : offset + length ≤ sectorSize)
    (room : start + length ≤ buffer.size) (small : buffer.size < wordLimit) :
    (readInto sector buffer start length offset).Ensures disk
      (fun bytes after =>
        bytes = Bytes.splice buffer start ((array.get sector).slice offset length fits).bytes ∧
          after.Shows array)
      fun _ _ => False := by
  refine .bind (requireWithin_ensures fits (.bind ?_))
  refine (resident_ensures shown inside).mono ?_ fun _ _ failed => failed
  rintro ⟨i, entry⟩ ⟨device, cache⟩ ⟨shown, held, rfl⟩
  refine .bind (requireInside_ensures room small ?_)
  refine .bind (Action.ensures_within.mpr (Action.ensures_modify.mpr (Action.ensures_pure.mpr ?_)))
  have copied : entry.data = array.get entry.sector := (shown.held i entry.unmarked held).2
  have unmarked : { entry with accessed := true }.unmarked = entry.unmarked := rfl
  refine ⟨by rw [← copied]; rfl, shown.congr rfl (Cache.copy_put_self ?_)⟩
  rw [held, unmarked]

/-- A write changes the array as it says. -/
theorem writeFrom_ensures (shown : disk.Shows array) (inside : sector ∈ array)
    {buffer : Bytes} {start length offset : Nat} (room : start + length ≤ buffer.size)
    (small : buffer.size < wordLimit)
    (fits : offset + (Bytes.slice buffer start length).size ≤ sectorSize) :
    (writeFrom sector buffer start length offset).Ensures disk
      (fun _ after => after.Shows (array.set sector
        ((array.get sector).splice offset (Bytes.slice buffer start length) fits)))
      fun _ _ => False := by
  have fits' : offset + length ≤ sectorSize := by
    rw [Bytes.size_slice _ room] at fits
    exact fits
  refine .bind (requireWithin_ensures fits' (.bind ?_))
  refine (resident_ensures shown inside).mono ?_ fun _ _ failed => failed
  rintro ⟨i, entry⟩ ⟨device, cache⟩ ⟨shown, held, rfl⟩
  refine .bind (requireInside_ensures room small ?_)
  simp only [dif_pos fits]
  refine Action.ensures_within.mpr (Action.ensures_modify.mpr ?_)
  have copied : entry.data = array.get entry.sector := (shown.held i entry.unmarked held).2
  rw [← copied]
  exact shown.overwrite held

/-! ## Writing back -/

/-- A slot that was cleaned holds the same copy, now not dirty. -/
theorem clean_ensures (shown : disk.Shows array) (i : Fin n) :
    (clean i).Ensures disk
      (fun _ after => after.Shows array ∧
        (∀ j, j ≠ i → after.cache.copy j = disk.cache.copy j) ∧
        after.cache.copy i = (disk.cache.copy i).map fun entry => { entry with dirty := false })
      fun _ _ => False := by
  unfold clean slot
  refine .bind (.bind (Action.ensures_get.mpr (Action.ensures_pure.mpr ?_)))
  cases here : disk.cache.slots[i] with
  | none =>
      refine Action.ensures_pure.mpr ⟨shown, fun _ _ => rfl, ?_⟩
      rw [Cache.copy, here]
      rfl
  | some entry =>
      have held := Cache.copy_of_slot here
      cases dirty : entry.dirty with
      | false =>
          simp only [dirty]
          refine Action.ensures_pure.mpr ⟨shown, fun _ _ => rfl, ?_⟩
          rw [held, Option.map_some, ← dirty]
          rfl
      | true =>
          simp only [dirty]
          refine .bind ((writeBack_ensures shown held).mono ?_ fun _ _ failed => failed)
          rintro _ ⟨device, cache⟩ ⟨rfl, shown, backed⟩
          have others : ∀ j, j ≠ i →
              (disk.cache.put i { entry with dirty := false }).copy j = disk.cache.copy j := by
            intro j apart
            rw [Cache.copy_put, if_neg apart]
          refine Action.ensures_within.mpr (Action.ensures_modify.mpr ⟨?_, others, ?_⟩)
          · refine shown.settle backed others ?_
            intro cleaned there
            rw [Cache.copy_put, if_pos rfl] at there
            obtain rfl := Option.some.inj there
            exact ⟨rfl, entry.unmarked, held, rfl, rfl⟩
          · show (disk.cache.put i _).copy i = _
            rw [Cache.copy_put, if_pos rfl, held]
            rfl

/-- After a sync the device is the array, and every copy is where it was. -/
theorem sync_ensures (shown : disk.Shows array) :
    (sync : Action (CachedDisk D n) Unit).Ensures disk
      (fun _ after => after.Shows array ∧ sectors after.device = array ∧
        ∀ i, after.cache.copy i = (disk.cache.copy i).map fun entry => { entry with dirty := false })
      fun _ _ => False := by
  let cleaned (i : Fin n) : Option Entry :=
    (disk.cache.copy i).map fun entry => { entry with dirty := false }
  let holds (rest : List (Fin n)) (after : CachedDisk D n) : Prop :=
    after.Shows array ∧ ∀ i, after.cache.copy i = cleaned i ∨
      (i ∈ rest ∧ after.cache.copy i = disk.cache.copy i)
  refine (Action.Ensures.forM holds ?_ ?_).mono ?_ fun _ _ failed => failed
  · rintro i rest before ⟨shown, copies⟩
    refine (clean_ensures shown i).mono ?_ fun _ _ failed => failed
    rintro _ after ⟨shown, others, here⟩
    refine ⟨shown, ?_⟩
    intro j
    by_cases same : j = i
    · subst same
      left
      rw [here]
      rcases copies j with done | ⟨-, kept⟩
      · rw [done, Option.map_map]
        rfl
      · rw [kept]
    · rw [others j same]
      rcases copies j with done | ⟨listed, kept⟩
      · exact .inl done
      · exact .inr ⟨(List.mem_cons.mp listed).resolve_left same, kept⟩
  · exact ⟨shown, fun i => .inr ⟨List.mem_finRange i, rfl⟩⟩
  · rintro _ after ⟨shown, copies⟩
    have settled : ∀ i, after.cache.copy i = cleaned i := by
      intro i
      rcases copies i with done | ⟨listed, -⟩
      · exact done
      · cases listed
    refine ⟨shown, shown.device_eq ?_, settled⟩
    intro i entry held
    obtain ⟨kept, -, rfl⟩ := Option.map_eq_some_iff.mp ((settled i).symm.trans held)
    rfl

/-- After a shutdown the device is the array, and no copies are left. -/
theorem shutdown_ensures (shown : disk.Shows array) :
    (shutdown : Action (CachedDisk D n) Unit).Ensures disk
      (fun _ after => after.Shows array ∧ sectors after.device = array ∧
        ∀ i, after.cache.copy i = none)
      fun _ _ => False := by
  let holds (rest : List (Fin n)) (after : CachedDisk D n) : Prop :=
    after.Shows array ∧ ∀ i, i ∉ rest → after.cache.copy i = none
  refine .bind ((Action.Ensures.forM holds ?_ ?_).mono ?_ fun _ _ failed => failed)
  · rintro i rest before ⟨shown, emptied⟩
    refine (flush_ensures shown i).mono ?_ fun _ _ failed => failed
    rintro _ after ⟨shown, copies⟩
    refine ⟨shown, ?_⟩
    intro j unlisted
    rw [copies]
    split
    · rfl
    · rename_i apart
      exact emptied j (List.not_mem_cons_of_ne_of_not_mem apart unlisted)
  · exact ⟨shown, fun i unlisted => absurd (List.mem_finRange i) unlisted⟩
  · rintro _ after ⟨shown, emptied⟩
    have vacant : ∀ i, after.cache.copy i = none := fun i => emptied i (by simp)
    refine Action.ensures_within.mpr (Action.ensures_modify.mpr ?_)
    refine ⟨shown.congr rfl rfl, shown.device_eq ?_, vacant⟩
    intro i entry held
    rw [vacant i] at held
    cases held

/-! ## As a store -/

variable {disk : CachedDisk D n} {array : SectorArray} {sector : SectorId}

theorem store_read {offset length : Nat} (shown : disk.Shows array) (fits : offset + length ≤ sectorSize)
    (inside : sector ∈ array) :
    (SectorStore.read sector offset length).Ensures disk
      (fun block after => block = (array.get sector).slice offset length fits ∧ after.Shows array) fun _ _ => False := by
  have small : length < wordLimit := Nat.lt_of_le_of_lt (by omega : length ≤ sectorSize) (by decide)
  refine .bind ((readInto_ensures shown inside fits (by simp) (by simpa using small)).mono ?_
    fun _ _ failed => failed)
  rintro bytes after ⟨rfl, shown⟩
  have whole : Bytes.splice (Bytes.fill 0 length) 0
      ((array.get sector).slice offset length fits).bytes =
      ((array.get sector).slice offset length fits).bytes := by
    rw [Bytes.splice_eq_append, Block.size_bytes, Bytes.size_fill]
    simp
  rw [whole, Block.ofBytes?_bytes]
  exact Action.ensures_pure.mpr ⟨rfl, shown⟩

theorem store_write {offset : Nat} {bytes : Bytes} (shown : disk.Shows array) (fits : offset + bytes.size ≤ sectorSize)
    (inside : sector ∈ array) :
    (SectorStore.write sector offset bytes).Ensures disk
      (fun _ after => after.Shows (array.set sector ((array.get sector).splice offset bytes fits))) fun _ _ => False := by
  have small : bytes.size < wordLimit :=
    Nat.lt_of_le_of_lt (by omega : bytes.size ≤ sectorSize) (by decide)
  have whole : Bytes.slice bytes 0 bytes.size = bytes := by
    simp [Bytes.slice]
  have room : 0 + bytes.size ≤ bytes.size := by omega
  have ensured := writeFrom_ensures shown inside room small (by rw [whole]; exact fits)
  simp only [whole] at ensured
  exact ensured

theorem store_sync (shown : disk.Shows array) :
    (SectorStore.sync : Action (CachedDisk D n) Unit).Ensures disk (fun _ after => after.Shows array) fun _ _ => False :=
  (sync_ensures shown).mono (fun _ _ done => done.1) fun _ _ failed => failed

theorem store_shutdown (shown : disk.Shows array) :
    (SectorStore.shutdown : Action (CachedDisk D n) Unit).Ensures disk (fun _ after => after.Shows array)
      fun _ _ => False :=
  (shutdown_ensures shown).mono (fun _ _ done => done.1) fun _ _ failed => failed

instance : LawfulStore (CachedDisk D n) where
  Shows := Shows
  read := store_read
  write := store_write
  sync := store_sync
  shutdown := store_shutdown

end CachedDisk

end InodeVolume
