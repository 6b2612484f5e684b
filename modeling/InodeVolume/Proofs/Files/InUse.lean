import InodeVolume.Proofs.Files.Intact
import InodeVolume.Proofs.Files.Table

/-!
# Files in use

`Sane` joins the two invariants: all files are intact, and the table of open inodes agrees with what
callers hold. Each operation on files keeps it.

* **parts** — a computation on the table or on the allocator leaves the other alone;
* **holders** — `openAt_ensures` and `close_ensures`, which reclaims a doomed file at the last close;
* **bytes** — `read_ensures` and `write_ensures`, with what a write does to its file and to no other.
-/

namespace InodeVolume

variable {A : Type} {array array' : PartialArray} {space space' : A} {table : InodeTable}
  {ledger : Ledger} {holder : Holder} {sector : SectorId}

/-! ## Parts of the state -/

namespace Files

variable {α : Type} {files : Files A}

theorem ensures_inTable {computation : SectorM InodeTable α} {good : α → PartialArray → Files A → Prop}
    {bad : Failure → PartialArray → Files A → Prop} :
    (inTable computation).Ensures array files good bad ↔
      computation.Ensures array files.table (fun a array table => good a array ⟨table, files.space⟩)
        fun failure array table => bad failure array ⟨table, files.space⟩ := by
  exact SectorM.ensures_hoist (fun files => (files.table, fun table => ⟨table, files.space⟩))
    (fun table => (⟨table, files.space⟩ : Files A)) (fun _ => rfl) fun _ => rfl

theorem ensures_inSpace {computation : SectorM A α} {good : α → PartialArray → Files A → Prop}
    {bad : Failure → PartialArray → Files A → Prop} :
    (inSpace computation).Ensures array files good bad ↔
      computation.Ensures array files.space (fun a array space => good a array ⟨files.table, space⟩)
        fun failure array space => bad failure array ⟨files.table, space⟩ := by
  exact SectorM.ensures_hoist (fun files => (files.space, fun space => ⟨files.table, space⟩))
    (fun space => (⟨files.table, space⟩ : Files A)) (fun _ => rfl) fun _ => rfl

theorem ensures_onTable {act : Action InodeTable α} {good : α → PartialArray → Files A → Prop}
    {bad : Failure → PartialArray → Files A → Prop} :
    (SectorM.perform (onTable act)).Ensures array files good bad ↔
      act.Ensures files.table (fun a table => good a array ⟨table, files.space⟩)
        fun failure table => bad failure array ⟨table, files.space⟩ := by
  rw [SectorM.ensures_perform, onTable, Action.ensures_within]

theorem ensures_onSpace {act : Action A α} {good : α → PartialArray → Files A → Prop}
    {bad : Failure → PartialArray → Files A → Prop} :
    (SectorM.perform (onSpace act)).Ensures array files good bad ↔
      act.Ensures files.space (fun a space => good a array ⟨files.table, space⟩)
        fun failure space => bad failure array ⟨files.table, space⟩ := by
  rw [SectorM.ensures_perform, onSpace, Action.ensures_within]

theorem ensures_inode {ref : InodeRef} {good : OpenInode → PartialArray → Files A → Prop}
    {bad : Failure → PartialArray → Files A → Prop} :
    (inode ref : SectorM (Files A) OpenInode).Ensures array files good bad ↔
      good (files.table.inode ref) array files := by
  rw [inode, SectorM.ensures_bind, SectorM.ensures_get, SectorM.ensures_pure]

end Files

/-! ## The invariant -/

section Invariant

variable [Allocator A] [LawfulAllocator A] {files files' : Files A}

open LawfulAllocator (Sound limit Taken)
open PartialArray (Same)

/-- No two files have a sector in common, and the open ones are those of the ledger. -/
structure Tended (array : PartialArray) (files : Files A) (ledger : Ledger) : Prop where
  parted : Parted array files.space ledger.files
  kept : Kept files.table ledger
  held : ∀ holder ∈ ledger.holders, holder.sector ∈ ledger.files

/-- All files are intact, and the open ones are those of the ledger. -/
structure Sane (array : PartialArray) (files : Files A) (ledger : Ledger) : Prop where
  intact : Intact array files.space ledger.files
  kept : Kept files.table ledger
  held : ∀ holder ∈ ledger.holders, holder.sector ∈ ledger.files

theorem Sane.tended (sane : Sane array files ledger) : Tended array files ledger :=
  ⟨sane.intact.toParted, sane.kept, sane.held⟩

theorem Tended.sane (tended : Tended array files ledger) (sound : Sound files.space) : Sane array files ledger :=
  ⟨⟨tended.parted, sound⟩, tended.kept, tended.held⟩

/-- The sector that the table has for a holder is the holder's. -/
theorem Sane.sector_eq (sane : Sane array files ledger) (here : holder ∈ ledger.holders) :
    (files.table.inode holder.ref).sector = holder.sector := (sane.kept.minds holder here).sector

/-! ## Holders -/

namespace Tended

theorem opened (tended : Tended array files ledger) (listed : holder.sector ∈ ledger.files)
    {table : InodeTable} (kept : Kept table (ledger.opened holder)) :
    Tended array ⟨table, files.space⟩ (ledger.opened holder) := by
  refine ⟨tended.parted, kept, ?_⟩
  intro other there
  rcases List.mem_cons.mp there with rfl | before
  · exact listed
  · exact tended.held other before

/-- A file can be opened that is not crowded, and a doomed one as long as it is open. -/
theorem openAt_ensures (tended : Tended array files ledger) (listed : sector ∈ ledger.files)
    (attended : sector ∈ ledger.doomed → ∃ holder ∈ ledger.holders, holder.sector = sector) :
    (Files.openAt sector : SectorM (Files A) InodeRef).Ensures array files
      (fun ref array' files' => array' = array ∧ files'.space = files.space ∧
        Tended array files' (ledger.opened ⟨sector, ref⟩))
      fun failure array' files' => failure = .fault .overflow ∧ ledger.Crowded sector ∧
        array' = array ∧ files' = files := by
  unfold Files.openAt
  rw [Files.ensures_inTable]
  refine (InodeTable.openAt_ensures tended.kept (tended.parted.known sector listed)
    (tended.parted.whole sector listed).valid attended).mono ?_ ?_
  · rintro ref array table ⟨rfl, kept⟩
    exact ⟨rfl, rfl, tended.opened listed kept⟩
  · rintro failure array table ⟨rfl, crowded, rfl, rfl⟩
    exact ⟨rfl, crowded, rfl, rfl⟩

/-- A crowded file is not opened. -/
theorem openAt_crowded (tended : Tended array files ledger) (listed : sector ∈ ledger.files)
    (attended : sector ∈ ledger.doomed → ∃ holder ∈ ledger.holders, holder.sector = sector)
    (crowded : ledger.Crowded sector) :
    (Files.openAt sector : SectorM (Files A) InodeRef).Ensures array files (fun _ _ _ => False)
      fun failure array' files' => failure = .fault .overflow ∧ array' = array ∧ files' = files := by
  refine (tended.openAt_ensures listed attended).mono ?_ fun _ _ _ failed => ⟨failed.1, failed.2.2⟩
  rintro ref array' files' ⟨-, -, opened⟩
  exact opened.kept.not_opened_crowded crowded

/-- An open file can be opened once more that is not crowded. -/
theorem reopen_ensures (tended : Tended array files ledger) (here : holder ∈ ledger.holders) :
    (Files.reopen holder.ref : SectorM (Files A) Unit).Ensures array files
      (fun _ array' files' => array' = array ∧ files'.space = files.space ∧
        Tended array files' (ledger.opened holder))
      fun failure array' files' => failure = .fault .overflow ∧ ledger.Crowded holder.sector ∧
        array' = array ∧ files' = files := by
  unfold Files.reopen
  rw [Files.ensures_onTable]
  refine (InodeTable.reopen_ensures tended.kept here).mono ?_ ?_
  · exact fun _ _ kept => ⟨rfl, rfl, tended.opened (tended.held holder here) kept⟩
  · rintro failure table ⟨rfl, crowded, rfl⟩
    exact ⟨rfl, crowded, rfl, rfl⟩

theorem reopen_crowded (tended : Tended array files ledger) (here : holder ∈ ledger.holders)
    (crowded : ledger.Crowded holder.sector) :
    (Files.reopen holder.ref : SectorM (Files A) Unit).Ensures array files (fun _ _ _ => False)
      fun failure array' files' => failure = .fault .overflow ∧ array' = array ∧ files' = files := by
  refine (tended.reopen_ensures here).mono ?_ fun _ _ _ failed => ⟨failed.1, failed.2.2⟩
  rintro _ array' files' ⟨-, -, opened⟩
  exact opened.kept.not_opened_crowded crowded

/-- An open file can be marked for removal. -/
theorem remove_ensures (tended : Tended array files ledger) (here : holder ∈ ledger.holders) :
    (SectorM.perform (Files.onTable (InodeTable.remove holder.ref)) :
        SectorM (Files A) Unit).Ensures array files
      (fun _ array' files' => array' = array ∧ files'.space = files.space ∧
        Tended array files' (ledger.doom holder.sector))
      fun _ _ _ => False := by
  rw [Files.ensures_onTable, InodeTable.remove, Action.ensures_modify]
  exact ⟨rfl, rfl, tended.parted, tended.kept.remove here, tended.held⟩

end Tended

/-- What closing does to the allocator: the last close of a doomed file gives back exactly what the file
owns, and any other close gives nothing back. -/
structure Closed (array : PartialArray) (space : A) (ledger : Ledger) (holder : Holder) (space' : A) : Prop where
  last : holder ∉ ledger.holders.erase holder → holder.sector ∈ ledger.doomed → ∀ sector,
    Taken space' sector ↔ Taken space sector ∧ ¬array.Owns holder.sector (array.inode holder.sector) sector
  other : holder ∈ ledger.holders.erase holder ∨ holder.sector ∉ ledger.doomed → space' = space
  sound : Sound space → (holder.sector ∈ ledger.doomed → holder.sector.isAllocated = true) → Sound space'

namespace Files

/-- Closing a file that is not doomed touches nothing but the table. -/
theorem close_spared {B : Type} [Allocator B] {files : Files B} (kept : Kept files.table ledger)
    (here : holder ∈ ledger.holders) (spared : holder.sector ∉ ledger.doomed) :
    (close holder.ref : SectorM (Files B) Unit).Ensures array files
      (fun _ array' files' => array' = array ∧ files'.space = files.space ∧
        Kept files'.table (ledger.closed holder))
      fun _ _ _ => False := by
  unfold close
  rw [SectorM.ensures_bind, ensures_onTable]
  refine (InodeTable.leave_ensures kept here).mono ?_ fun _ _ failed => failed
  intro last table answer
  cases last with
  | none => exact SectorM.ensures_pure.mpr ⟨rfl, rfl, answer.2⟩
  | some inode =>
      obtain ⟨-, sector, removed, kept'⟩ := answer
      dsimp only
      rw [SectorM.ensures_bind, ensures_onTable, InodeTable.withdraw]
      refine .bind (Action.ensures_modify.mpr (Action.ensures_emit.mpr ?_))
      rw [sector, removed, SectorM.ensures_ite,
        if_neg (by rw [decide_eq_false spared]; exact Bool.false_ne_true)]
      exact SectorM.ensures_pure.mpr ⟨rfl, rfl, kept'⟩

end Files

/-- **Closing.** The last close of a doomed file frees its sectors; any other close touches nothing
but the table. -/
theorem Tended.close_ensures (tended : Tended array files ledger) (here : holder ∈ ledger.holders) :
    (Files.close holder.ref : SectorM (Files A) Unit).Ensures array files
      (fun _ array' files' => array' = array ∧ Tended array files' (ledger.closed holder) ∧
        Closed array files.space ledger holder files'.space)
      fun _ _ _ => False := by
  have still : ∀ other ∈ ledger.holders.erase holder, other.sector ∈ ledger.files :=
    fun other there => tended.held other (List.mem_of_mem_erase there)
  by_cases spared : holder.sector ∉ ledger.doomed
  · refine (Files.close_spared tended.kept here spared).mono ?_ fun _ _ _ failed => failed
    rintro _ array ⟨table, _⟩ ⟨rfl, rfl, kept⟩
    rw [Ledger.closed_of_not_doomed spared] at kept ⊢
    exact ⟨rfl, ⟨tended.parted, kept, still⟩, fun _ doomed => absurd doomed spared, fun _ => rfl,
      fun sound _ => sound⟩
  have doomed : holder.sector ∈ ledger.doomed := not_not.mp spared
  unfold Files.close
  rw [SectorM.ensures_bind, Files.ensures_onTable]
  refine (InodeTable.leave_ensures tended.kept here).mono ?_ fun _ _ failed => failed
  intro last table answer
  cases last with
  | none =>
      obtain ⟨more, kept⟩ := answer
      rw [Ledger.closed_of_open more] at kept ⊢
      exact SectorM.ensures_pure.mpr ⟨rfl, ⟨tended.parted, kept, still⟩, fun gone => absurd more gone,
        fun _ => rfl, fun sound _ => sound⟩
  | some inode =>
      -- the file goes with its last holder
      obtain ⟨gone, sector, removed, kept⟩ := answer
      have closed := Ledger.closed_of_doomed gone doomed
      dsimp only
      rw [SectorM.ensures_bind, Files.ensures_onTable, InodeTable.withdraw]
      refine .bind (Action.ensures_modify.mpr (Action.ensures_emit.mpr ?_))
      rw [sector, removed, SectorM.ensures_ite, if_pos (decide_eq_true doomed), Files.ensures_inSpace]
      refine (DiskInode.reclaim_ensures tended.parted (tended.held holder here)
        (ledger.closed holder).files ?_).mono ?_ fun _ _ _ failed => failed
      · intro other there
        rw [closed] at there
        exact Ledger.mem_files_dropped.mp there
      · rintro _ array' space' ⟨rfl, parted, sound, freed⟩
        refine ⟨rfl, ⟨parted, kept, ?_⟩, fun _ _ => freed, ?_, fun before nonzero => sound before (nonzero doomed)⟩
        · intro other there
          rw [Ledger.holders_closed] at there
          have before := List.mem_of_mem_erase there
          rw [closed, Ledger.mem_files_dropped]
          exact ⟨tended.held other before,
            fun same => gone (tended.kept.eq_of_sector before here same ▸ there)⟩
        · rintro (more | spared)
          · exact absurd more gone
          · exact absurd doomed spared

namespace Files

/-- A live file can be opened that is not crowded. -/
theorem openAt_ensures (sane : Sane array files ledger) (live : ledger.Live sector) :
    (openAt sector : SectorM (Files A) InodeRef).Ensures array files
      (fun ref array' files' => array' = array ∧ files'.space = files.space ∧
        Sane array files' (ledger.opened ⟨sector, ref⟩))
      fun failure array' files' => failure = .fault .overflow ∧ ledger.Crowded sector ∧
        array' = array ∧ files' = files := by
  refine (sane.tended.openAt_ensures live.1 fun doomed => absurd doomed live.2).mono ?_ fun _ _ _ failed => failed
  rintro ref array ⟨table, _⟩ ⟨rfl, rfl, tended⟩
  exact ⟨rfl, rfl, tended.sane sane.intact.sound⟩

/-- An open file can be opened once more that is not crowded. -/
theorem reopen_ensures (sane : Sane array files ledger) (here : holder ∈ ledger.holders) :
    (reopen holder.ref : SectorM (Files A) Unit).Ensures array files
      (fun _ array' files' => array' = array ∧ files'.space = files.space ∧
        Sane array files' (ledger.opened holder))
      fun failure array' files' => failure = .fault .overflow ∧ ledger.Crowded holder.sector ∧
        array' = array ∧ files' = files := by
  refine (sane.tended.reopen_ensures here).mono ?_ fun _ _ _ failed => failed
  rintro _ array ⟨table, _⟩ ⟨rfl, rfl, tended⟩
  exact ⟨rfl, rfl, tended.sane sane.intact.sound⟩

/-- Closing keeps files in use, as long as sector 0 is not given back. -/
theorem close_ensures (sane : Sane array files ledger) (here : holder ∈ ledger.holders)
    (nonzero : holder.sector ∈ ledger.doomed → holder.sector.isAllocated = true) :
    (close holder.ref : SectorM (Files A) Unit).Ensures array files
      (fun _ array' files' => array' = array ∧ Sane array files' (ledger.closed holder) ∧
        Closed array files.space ledger holder files'.space)
      fun _ _ _ => False := by
  refine (sane.tended.close_ensures here).mono ?_ fun _ _ _ failed => failed
  rintro _ array files' ⟨rfl, tended, closed⟩
  exact ⟨rfl, tended.sane (closed.sound sane.intact.sound nonzero), closed⟩

/-! ## Marks -/

/-- An open file can be marked for removal. -/
theorem remove_ensures (sane : Sane array files ledger) (here : holder ∈ ledger.holders) :
    (SectorM.perform (onTable (InodeTable.remove holder.ref)) : SectorM (Files A) Unit).Ensures array files
      (fun _ array' files' => array' = array ∧ files'.space = files.space ∧
        Sane array files' (ledger.doom holder.sector))
      fun _ _ _ => False := by
  refine (sane.tended.remove_ensures here).mono ?_ fun _ _ _ failed => failed
  rintro _ array ⟨table, _⟩ ⟨rfl, rfl, tended⟩
  exact ⟨rfl, rfl, tended.sane sane.intact.sound⟩

/-- Denying faults where there are more denials than holders, and counts the denial all the same as
long as the counter can tell it. -/
theorem denyWrite_ensures (sane : Sane array files ledger) (here : holder ∈ ledger.holders) :
    (SectorM.perform (onTable (InodeTable.denyWrite holder.ref)) : SectorM (Files A) Unit).Ensures array files
      (fun _ array' files' => array' = array ∧ files'.space = files.space ∧
        Sane array files' (ledger.deny holder.sector))
      fun failure array' files' => (failure = .fault (.broken .denialsCovered) ∨ failure = .fault .overflow) ∧
        array' = array ∧ files'.space = files.space ∧ Sane array files' (ledger.deny holder.sector) := by
  have after : ∀ denials, Sane array ⟨files.table.update holder.ref fun inode => { inode with denials },
      files.space⟩ (ledger.deny holder.sector) :=
    fun denials => ⟨sane.intact, sane.kept.deny here denials, sane.held⟩
  rw [ensures_onTable, InodeTable.denyWrite]
  refine .bind (Action.ensures_get.mpr (.bind (Action.ensures_checkedNext.mpr ?_)))
  split
  · refine .bind (Action.ensures_modify.mpr (.bind (Action.ensures_get.mpr (Action.ensures_require.mpr ?_))))
    split
    · exact ⟨rfl, rfl, after _⟩
    · exact ⟨.inl rfl, rfl, rfl, after _⟩
  · exact ⟨.inr rfl, rfl, rfl, sane.intact, sane.kept.denied holder.sector, sane.held⟩

/-- Allowing faults where nothing was denied, or where a fault was passed over before. -/
theorem allowWrite_ensures (sane : Sane array files ledger) (here : holder ∈ ledger.holders) :
    (SectorM.perform (onTable (InodeTable.allowWrite holder.ref)) : SectorM (Files A) Unit).Ensures array files
      (fun _ array' files' => array' = array ∧ files'.space = files.space ∧ Sane array files' ledger)
      fun failure array' files' => (failure = .fault (.broken .someDenial) ∨
        failure = .fault (.broken .denialsCovered)) ∧ array' = array ∧ files' = files := by
  rw [ensures_onTable, InodeTable.allowWrite]
  refine .bind (Action.ensures_get.mpr (.bind (Action.ensures_require.mpr ?_)))
  split
  · rename_i some_denial
    refine .bind (Action.ensures_require.mpr ?_)
    split
    · exact Action.ensures_modify.mpr
        ⟨rfl, rfl, sane.intact, sane.kept.allow here (of_decide_eq_true some_denial), sane.held⟩
    · exact ⟨.inr rfl, rfl, rfl⟩
  · exact ⟨.inl rfl, rfl, rfl⟩

/-! ## Bytes -/

/-- What is told of an open file is what its inode says. -/
theorem stat_ensures (sane : Sane array files ledger) (here : holder ∈ ledger.holders) :
    (stat holder.ref : SectorM (Files A) Stat).Ensures array files
      (fun told array' files' => array' = array ∧ files' = files ∧
        told = (array.inode holder.sector).stat holder.sector)
      fun _ _ _ => False := by
  unfold stat
  rw [SectorM.ensures_bind, ensures_inode, sane.sector_eq here, SectorM.ensures_bind,
    DiskInode.ensures_ofOpen sane.intact.toParted (sane.held holder here), SectorM.ensures_pure]
  exact ⟨rfl, rfl, rfl⟩

/-- **Reading** a file gives the bytes that are there of the range, and changes nothing. -/
theorem read_ensures {B : Type} {files : Files B} {list : List SectorId} (intact : Intact array space list)
    (listed : sector ∈ list) {ref : InodeRef} (there : (files.table.inode ref).sector = sector)
    (offset wanted : Nat) :
    (read ref offset wanted : SectorM (Files B) Bytes).Ensures array files
      (fun bytes array' files' => array' = array ∧ files' = files ∧
        bytes = Bytes.slice (array.contents (array.inode sector)) offset wanted)
      fun _ _ _ => False := by
  have whole := intact.whole sector listed
  obtain ⟨m, mapped, covered⟩ := whole.mapped
  unfold read
  rw [SectorM.ensures_bind, ensures_inode, there, SectorM.ensures_bind, DiskInode.ensures_ofOpen intact.toParted listed,
    DiskInode.read]
  refine (DiskInode.readFrom_ensures whole.tidy mapped covered .empty offset wanted).mono ?_
    fun _ _ _ failed => failed
  rintro bytes array' files' ⟨rfl, rfl, rfl⟩
  exact ⟨rfl, rfl, ByteArray.empty_append⟩

/-- Reading into a buffer gives how many bytes were there, and leaves the rest of the buffer alone. -/
theorem readInto_ensures (sane : Sane array files ledger) (here : holder ∈ ledger.holders) (buffer : Bytes)
    (offset : Nat) :
    (readInto holder.ref buffer offset : SectorM (Files A) (Nat × Bytes)).Ensures array files
      (fun (n, after) array' files' => array' = array ∧ files' = files ∧
        n = min buffer.size ((array.inode holder.sector).size - offset) ∧
        after = Bytes.splice buffer 0
          (Bytes.slice (array.contents (array.inode holder.sector)) offset buffer.size))
      fun _ _ _ => False := by
  have whole := sane.intact.whole holder.sector (sane.held holder here)
  obtain ⟨m, mapped, covered⟩ := whole.mapped
  unfold readInto
  rw [SectorM.ensures_bind, ensures_inode, sane.sector_eq here, SectorM.ensures_bind,
    DiskInode.ensures_ofOpen sane.intact.toParted (sane.held holder here), DiskInode.readInto, SectorM.ensures_bind,
    DiskInode.read]
  refine (DiskInode.readFrom_ensures whole.tidy mapped covered .empty offset buffer.size).mono ?_
    fun _ _ _ failed => failed
  rintro bytes array' files' ⟨rfl, rfl, rfl⟩
  rw [SectorM.ensures_pure, ByteArray.empty_append, Bytes.size_slice_eq, PartialArray.size_contents]
  exact ⟨rfl, rfl, rfl, rfl⟩

/-- What a write that is carried out does: the file gets the length if it can, the bytes that lie
within it are replaced, and no other file is touched. -/
structure Wrote (array : PartialArray) (space : A) (files : List SectorId) (file : SectorId)
    (source : Bytes) (offset n : Nat) (array' : PartialArray) (space' : A) : Prop where
  spreads : array.Spreads array'
  intact : Intact array' space' files
  others : ∀ other ∈ files, other ≠ file → Same array array' other
  flag : (array'.inode file).dirFlag = (array.inode file).dirFlag
  size : (((array'.inode file).size = max (array.inode file).size (offset + source.size)) ∧
      (offset + source.size ≤ (array.inode file).size ∨
        Draft.CanGrow array ⟨array.inode file, space⟩ (offset + source.size))) ∨
    ((array'.inode file).size = (array.inode file).size ∧
      (array.inode file).size < offset + source.size ∧
      ¬Draft.CanGrow array ⟨array.inode file, space⟩ (offset + source.size))
  taken : ∀ sector, Taken space' sector ↔
    Taken space sector ∨ array'.Owns file (array'.inode file) sector
  amount : n = min source.size ((array'.inode file).size - offset)
  bytes : ∀ i, array'.byteAt (array'.inode file) i =
    if offset ≤ i ∧ i < offset + n then source.byte (i - offset) else array.byteAt (array.inode file) i
  within : offset + source.size ≤ (array.inode file).size → space' = space ∧
    array'.inode file = array.inode file ∧ array'.held (array.inode file) = array.held (array.inode file)
  spared : ∀ sector, ¬Taken space' sector → array'.get sector = array.get sector

/-- No file is shorter after a write. -/
theorem Wrote.length_le {files : List SectorId} {file other : SectorId} {source : Bytes} {offset n : Nat}
    (wrote : Wrote array space files file source offset n array' space') (listed : other ∈ files) :
    (array.inode other).size ≤ (array'.inode other).size := by
  by_cases same : other = file
  · subst same
    rcases wrote.size with ⟨longer, -⟩ | ⟨still, -⟩
    · rw [longer]
      exact Nat.le_max_left _ _
    · exact Nat.le_of_eq still.symm
  · exact Nat.le_of_eq (by rw [(wrote.others other listed same).inode])

/-- A write that fits into the file lays down the whole source. -/
theorem Wrote.whole {files : List SectorId} {file : SectorId} {source : Bytes} {offset n : Nat}
    (wrote : Wrote array space files file source offset n array' space')
    (room : offset + source.size ≤ (array'.inode file).size) :
    n = source.size ∧ Bytes.slice (array'.contents (array'.inode file)) offset source.size = source := by
  obtain rfl : n = source.size := by
    have amount := wrote.amount
    omega
  refine ⟨rfl, Bytes.ext_byte ?_ fun i inside => ?_⟩
  · rw [Bytes.size_slice_eq, PartialArray.size_contents]
    omega
  · rw [Bytes.size_slice_eq, PartialArray.size_contents] at inside
    rw [Bytes.byte_slice, if_pos (by omega), PartialArray.byte_contents, if_pos (by omega), wrote.bytes,
      if_pos (by omega), Nat.add_sub_cancel_left]

/-- What writing within a file does. It takes no sector. -/
structure Overwrote (array : PartialArray) (space : A) (files : List SectorId) (file : SectorId) (source : Bytes)
    (offset n : Nat) (array' : PartialArray) : Prop where
  amount : n = min source.size ((array.inode file).size - offset)
  spreads : array.Spreads array'
  intact : Intact array' space files
  inode : array'.inode file = array.inode file
  held : array'.held (array.inode file) = array.held (array.inode file)
  others : ∀ other ∈ files, other ≠ file → Same array array' other
  bytes : ∀ i, array'.byteAt (array.inode file) i =
    if offset ≤ i ∧ i < offset + n then source.byte (i - offset) else array.byteAt (array.inode file) i
  spared : ∀ sector, ¬Taken space sector → array'.get sector = array.get sector

/-- Writing within a file that may have grown before. -/
theorem patch_ensures {σ : Type} {s : σ} {file : SectorId} {list : List SectorId} (intact : Intact array space list)
    (listed : file ∈ list) (source : Bytes) (offset : Nat) :
    ((array.inode file).write source offset : SectorM σ Nat).Ensures array s
      (fun n array' s' => s' = s ∧ Overwrote array space list file source offset n array') fun _ _ _ => False := by
  have whole := intact.whole file listed
  obtain ⟨m, mapped, covered⟩ := whole.mapped
  unfold DiskInode.write
  refine (DiskInode.writeFrom_ensures whole.tidy mapped covered source 0 offset).mono ?_ fun _ _ _ failed => failed
  rintro n array' s' ⟨rfl, rfl, patched⟩
  have amount := Bytes.size_slice_eq source 0 ((array.inode file).size - offset)
  obtain ⟨intact', stored, held, others⟩ := intact.patched listed patched (by omega)
  refine ⟨rfl, by omega, patched.spreads, intact', stored, held, others, ?_, ?_⟩
  · intro i
    rw [patched.bytes, Nat.zero_add]
    split
    · rename_i covered
      rw [Bytes.byte_slice, Nat.zero_add, if_pos (by omega)]
    · rfl
  · intro sector free
    refine patched.frame sector fun place holds same => free ?_
    exact whole.taken_of_owns (.inr ⟨_, holds, same⟩)

section Overwriting

variable {list : List SectorId} {file : SectorId} {source : Bytes} {offset n : Nat} {grown : PartialArray}

/-- Writing within a file is a write. -/
theorem Overwrote.wrote (overwrote : Overwrote array space list file source offset n array') (intact : Intact array space list)
    (listed : file ∈ list) (within : offset + source.size ≤ (array.inode file).size) :
    Wrote array space list file source offset n array' space := by
  have same := overwrote.inode
  refine ⟨overwrote.spreads, overwrote.intact, overwrote.others, by rw [same], ?_, ?_, ?_, ?_,
    fun _ => ⟨rfl, same, overwrote.held⟩, overwrote.spared⟩
  · rw [same, Nat.max_eq_left within]
    exact .inl ⟨rfl, .inl within⟩
  · intro sector
    rw [same, PartialArray.owns_congr overwrote.held]
    exact (or_iff_left_of_imp (intact.taken_of_owns listed)).symm
  · rw [same]
    exact overwrote.amount
  · rw [same]
    exact overwrote.bytes

/-- Writing after an attempt to lengthen the file is a write. -/
theorem Overwrote.wrote_longer (overwrote : Overwrote grown space' list file source offset n array')
    (stored : Stored array space list file (array.inode file) grown space')
    (longer : (array.inode file).size < offset + source.size)
    (outcome : (Draft.CanGrow array ⟨array.inode file, space⟩ (offset + source.size) ∧
        (grown.inode file).size = offset + source.size) ∨
      (¬Draft.CanGrow array ⟨array.inode file, space⟩ (offset + source.size) ∧
        (grown.inode file).size = (array.inode file).size)) :
    Wrote array space list file source offset n array' space' := by
  have same := overwrote.inode
  refine ⟨stored.spreads.trans overwrote.spreads, overwrote.intact, ?_, ?_, ?_, ?_, ?_, ?_,
    fun within => absurd longer (Nat.not_lt.mpr within), ?_⟩
  · exact fun other there different =>
      (stored.others other there different).trans (overwrote.others other there different)
  · rw [same]
    exact stored.flag
  · rw [same]
    rcases outcome with ⟨can, size⟩ | ⟨cannot, size⟩
    · refine .inl ⟨?_, .inr can⟩
      rw [size, Nat.max_eq_right (Nat.le_of_lt longer)]
    · exact .inr ⟨size, longer, cannot⟩
  · intro sector
    rw [same, PartialArray.owns_congr overwrote.held]
    exact stored.taken sector
  · rw [same]
    exact overwrote.amount
  · intro i
    rw [same, overwrote.bytes, stored.bytes]
  · exact fun sector free => (overwrote.spared sector free).trans (stored.spared sector free)

end Overwriting

variable {files' : Files A}

/-- **Writing** to an open file. Where it is refused nothing changes. -/
theorem write_ensures (sane : Sane array files ledger) (here : holder ∈ ledger.holders) (source : Bytes)
    (offset : Nat) :
    (write holder.ref source offset : SectorM (Files A) Nat).Ensures array files
      (fun n array' files' =>
        if 0 < (files.table.inode holder.ref).denyCount ∨ source.size = 0 ∨
            wordLimit ≤ offset + source.size then
          n = 0 ∧ array' = array ∧ files' = files
        else files'.table = files.table ∧
          Wrote array files.space ledger.files holder.sector source offset n array' files'.space)
      fun _ _ _ => False := by
  have listed := sane.held holder here
  unfold write
  rw [SectorM.ensures_bind, ensures_inode, SectorM.ensures_ite]
  split
  · rename_i refused
    have refused : 0 < (files.table.inode holder.ref).denyCount ∨ source.size = 0 := by simpa using refused
    rw [SectorM.ensures_pure, if_pos (refused.imp_right .inl)]
    exact ⟨rfl, rfl, rfl⟩
  rename_i allowed
  have allowed : ¬(0 < (files.table.inode holder.ref).denyCount ∨ source.size = 0) := by simpa using allowed
  dsimp only
  rw [SectorM.ensures_ite]
  split
  · rename_i past
    rw [SectorM.ensures_bind, SectorM.ensures_emit, SectorM.ensures_pure, if_pos (.inr (.inr past))]
    exact ⟨rfl, rfl, rfl⟩
  rename_i short
  have proceeds : ¬(0 < (files.table.inode holder.ref).denyCount ∨ source.size = 0 ∨
      wordLimit ≤ offset + source.size) := by
    rintro (denied | nothing | past)
    · exact allowed (.inl denied)
    · exact allowed (.inr nothing)
    · exact short past
  simp only [if_neg proceeds]
  rw [sane.sector_eq here, SectorM.ensures_bind, DiskInode.ensures_ofOpen sane.intact.toParted listed,
    SectorM.ensures_ite]
  split
  · rename_i longer
    rw [SectorM.ensures_bind, ensures_inSpace]
    refine (DiskInode.lengthen_ensures sane.intact listed longer).mono ?_ fun _ _ _ failed => failed
    rintro inode' array₁ space₁ ⟨rfl, stored, outcome⟩
    have intact := stored.intact ledger.files fun _ there => .inr there
    refine (patch_ensures intact listed source offset).mono ?_ fun _ _ _ failed => failed
    rintro n array' files' ⟨rfl, overwrote⟩
    exact ⟨rfl, overwrote.wrote_longer stored longer outcome⟩
  · rename_i within
    rw [SectorM.ensures_bind, SectorM.ensures_pure]
    refine (patch_ensures sane.intact listed source offset).mono ?_ fun _ _ _ failed => failed
    rintro n array' files' ⟨rfl, overwrote⟩
    exact ⟨rfl, overwrote.wrote sane.intact listed (Nat.le_of_not_lt within)⟩

/-- Files that are written to stay in use. -/
theorem Wrote.sane (sane : Sane array files ledger) {file : SectorId} {source : Bytes} {offset n : Nat}
    (wrote : Wrote array files.space ledger.files file source offset n array' files'.space)
    (table : files'.table = files.table) : Sane array' files' ledger :=
  ⟨wrote.intact, by rw [table]; exact sane.kept, sane.held⟩

end Files

end Invariant

end InodeVolume
