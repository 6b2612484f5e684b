import InodeVolume.Proofs.Volume.AnyContents
import InodeVolume.Proofs.Volume.Requests

/-!
# Invariants that requests keep on any device

An invariant of the sectors and their allocator is kept by all requests that have no file reclaimed,
whatever the sectors hold, if growing files and storing their inodes keep it (`Upkeep`). Where an inode is
to be removed at its last close it may be reclaimed, so nothing is told of volumes that have one.

* **open inodes** — `InodeTable.Spares`: none is to be removed;
* **files** — each operation keeps what `Upkeep` keeps;
* **requests** — `Request.perform_upholds`.
-/

namespace InodeVolume

/-- What work on files relies on of an invariant: growing them keeps it, and so does storing an inode. -/
structure Upkeep {A : Type} [Allocator A] (invariant : PartialArray → A → Prop) (Given : SectorId → Prop) : Prop
    extends Tending invariant Given where
  store {array : PartialArray} {space : A} {sector : SectorId} {inode : DiskInode} : inode.isValid = true →
    array.Has sector → invariant array space → invariant (array.set sector inode.encode) space

/-! ## Open inodes -/

namespace InodeTable

variable {table : InodeTable} {sector : SectorId} {ref : InodeRef} {f : OpenInode → OpenInode}

/-- No inode is to be removed at its last close. -/
def Spares (table : InodeTable) : Prop := ∀ ref, (table.inode ref).removed = false

theorem spares_visited (sector : SectorId) : (empty.visited sector).Spares := by
  rintro ⟨index⟩
  rw [inode, visited, erase, update, insert, empty, Array.getElem?_modify]
  cases index <;> rfl

theorem Spares.insert (spares : table.Spares) : (table.insert sector).2.Spares := by
  intro ref
  by_cases last : ref.index = table.inodes.size
  · simp [InodeTable.insert, inode, last]
  · have others : (table.insert sector).2.inode ref = table.inode ref := by
      simp [InodeTable.insert, inode, Array.getElem?_push, last]
    rw [others]
    exact spares ref

theorem Spares.update (spares : table.Spares) (same : ∀ inode, (f inode).removed = inode.removed) :
    (table.update ref f).Spares := by
  intro other
  have here := spares other
  rw [inode] at here ⊢
  rw [InodeTable.update, Array.getElem?_modify]
  split
  · cases held : table.inodes[other.index]? with
    | none => rfl
    | some inode =>
        rw [held] at here
        exact (same inode).trans here
  · exact here

theorem reopen_spares (spares : table.Spares) :
    (reopen ref).Ensures table (fun _ table' => table'.Spares) fun failure _ => ∃ why, failure = .fault why := by
  refine .bind (Action.ensures_get.mpr (.bind (Action.ensures_checkedNext.mpr ?_)))
  split
  · exact Action.ensures_modify.mpr (spares.update fun _ => rfl)
  · exact ⟨_, rfl⟩

end InodeTable

namespace DiskInode

variable {A : Type} [Allocator A] {invariant : PartialArray → A → Prop} {Given : SectorId → Prop} {sector : SectorId}

/-- Making a file keeps the invariant, whether or not it gets its sectors. -/
theorem create_upholds (upkeep : Upkeep invariant Given) {length : Nat} {isDir : Bool} :
    (create sector length isDir : SectorM A Unit).Upholds invariant True := by
  intro array space here
  have kept : Draft.Kept invariant inodeMagic array ⟨empty isDir, space⟩ := ⟨here, rfl⟩
  have stored : ∀ (inode : DiskInode) (last : SectorM A Unit) {array : PartialArray} {space : A},
      inode.magic = inodeMagic → last.Upholds invariant True → invariant array space →
      (inode.store sector >>= fun _ => last).MayEnd False array space (fun _ => invariant)
        fun failure array space => (∃ why, failure = .fault why) ∨ True ∧ invariant array space := by
    intro inode last array space magic upholds here
    have valid : inode.isValid = true := beq_iff_eq.mpr magic
    rw [SectorM.mayEnd_bind, mayEnd_store]
    exact ⟨fun has => ⟨False.elim, upholds _ _ (upkeep.store valid has here)⟩, fun why => .inl ⟨why, rfl⟩⟩
  have grown : (Draft.grow length : SectorM (Draft A) Unit).attempt.Upholds (Draft.Kept invariant inodeMagic) False :=
    .attempt (Draft.grow_upholds upkeep.toTending)
  unfold create
  rw [SectorM.mayEnd_bind, Draft.mayEnd_edit]
  refine (grown array _ kept).mono ?_ ?_
  · rintro result array' draft' ⟨here', magic⟩
    cases result with
    | ok _ => exact stored _ _ magic .emit here'
    | error error => exact stored _ _ magic (.bind .emit fun _ => .report trivial) here'
  · rintro failure array' draft' (fault | ⟨never, -⟩)
    · exact .inl fault
    · exact never.elim

end DiskInode

/-! ## Files -/

namespace Files

variable {A : Type} {invariant : PartialArray → A → Prop} {Given : SectorId → Prop} {reports : Prop}
  {ref : InodeRef} {sector : SectorId} {α : Type}

/-- The invariant holds, and no inode is to be removed. -/
def Upheld (invariant : PartialArray → A → Prop) (array : PartialArray) (files : Files A) : Prop :=
  invariant array files.space ∧ files.table.Spares

theorem inSpace_upholds {computation : SectorM A α} (upholds : computation.Upholds invariant reports) :
    (inSpace computation).Upholds (Upheld invariant) reports := by
  rintro array ⟨table, space⟩ ⟨here, spares⟩
  rw [mayEnd_inSpace]
  exact (upholds array space here).mono (fun _ _ _ kept => ⟨kept, spares⟩)
    fun _ _ _ failed => failed.imp_right (And.imp_right fun kept => ⟨kept, spares⟩)

theorem onTable_upholds {act : Action InodeTable α} (keeps : ∀ table : InodeTable, table.Spares →
      act.Ensures table (fun _ table' => table'.Spares) fun failure _ => ∃ why, failure = .fault why) :
    (SectorM.perform (onTable act) : SectorM (Files A) α).Upholds (Upheld invariant) reports := by
  rintro array ⟨table, space⟩ ⟨here, spares⟩
  rw [mayEnd_onTable]
  exact (keeps table spares).mono (fun _ _ kept => ⟨here, kept⟩) fun _ _ failed => .inl failed

theorem openAt_upholds : (openAt sector : SectorM (Files A) InodeRef).Upholds (Upheld invariant) True := by
  rintro array ⟨table, space⟩ ⟨here, spares⟩
  rw [openAt, mayEnd_inTable, InodeTable.openAt, SectorM.mayEnd_bind, SectorM.mayEnd_get]
  dsimp only
  split
  · rw [SectorM.mayEnd_bind, SectorM.mayEnd_perform]
    exact (InodeTable.reopen_spares spares).mono (fun _ _ kept => ⟨here, kept⟩) fun _ _ failed => .inl failed
  · rw [SectorM.mayEnd_bind, DiskInode.mayEnd_load]
    refine ⟨fun _ => ?_, fun why => .inl ⟨why, rfl⟩⟩
    rw [SectorM.mayEnd_ite]
    split
    · rw [SectorM.mayEnd_bind, SectorM.mayEnd_modifyGet, SectorM.mayEnd_bind, SectorM.mayEnd_emit]
      exact ⟨here, spares.insert⟩
    · rw [SectorM.mayEnd_bind, SectorM.mayEnd_emit, SectorM.mayEnd_report]
      exact .inr ⟨trivial, here, spares⟩

theorem reopen_upholds : (reopen ref : SectorM (Files A) Unit).Upholds (Upheld invariant) reports :=
  onTable_upholds fun _ spares => InodeTable.reopen_spares spares

/-- Closing a file that is not to be removed reclaims nothing. -/
theorem close_upholds [Allocator A] : (close ref : SectorM (Files A) Unit).Upholds (Upheld invariant) reports := by
  rintro array ⟨table, space⟩ ⟨here, spares⟩
  have left : (InodeTable.leave ref).Ensures table
      (fun last table' => table'.Spares ∧ ∀ inode, last = some inode → inode.removed = false)
      fun failure _ => ∃ why, failure = .fault why := by
    unfold InodeTable.leave
    refine .bind (Action.ensures_get.mpr (.bind (Action.ensures_require.mpr ?_)))
    split
    · refine .bind (Action.ensures_modify.mpr (Action.ensures_pure.mpr ⟨spares.update fun _ => rfl, ?_⟩))
      intro inode told
      split at told <;> cases told
      exact spares ref
    · exact ⟨_, rfl⟩
  unfold close
  rw [SectorM.mayEnd_bind, mayEnd_onTable]
  refine left.mono ?_ fun _ _ failed => .inl failed
  rintro last table' ⟨spares', told⟩
  cases last with
  | none => exact ⟨here, spares'⟩
  | some inode =>
      dsimp only
      rw [SectorM.mayEnd_bind, mayEnd_onTable]
      refine InodeTable.withdraw_ensures.mono ?_ fun _ _ failed => failed.elim
      rintro _ _ rfl
      rw [SectorM.mayEnd_ite, if_neg (by rw [told inode rfl]; exact Bool.false_ne_true), SectorM.mayEnd_pure]
      exact ⟨here, spares'⟩

/-- What is asked of the inode of an open file. -/
theorem ofOpen_upholds {next : DiskInode → SectorM (Files A) α}
    (rest : ∀ inode : DiskInode, inode.isValid = true → (next inode).Upholds (Upheld invariant) reports) :
    (DiskInode.ofOpen sector >>= next : SectorM (Files A) α).Upholds (Upheld invariant) reports := by
  intro array files here
  rw [SectorM.mayEnd_bind]
  exact DiskInode.MayEnd.ofOpen (fun _ valid => rest _ valid array files here) fun why => .inl ⟨why, rfl⟩

theorem inode_upholds {next : OpenInode → SectorM (Files A) α}
    (rest : ∀ inode, (next inode).Upholds (Upheld invariant) reports) :
    (Files.inode ref >>= next : SectorM (Files A) α).Upholds (Upheld invariant) reports := by
  intro array files here
  rw [SectorM.mayEnd_bind, mayEnd_inode]
  exact rest _ array files here

theorem readInto_upholds {buffer : Bytes} {offset : Nat} :
    (readInto ref buffer offset : SectorM (Files A) (Nat × Bytes)).Upholds (Upheld invariant) reports := by
  refine inode_upholds fun opened => ofOpen_upholds fun inode _ array files here => ?_
  unfold DiskInode.readInto
  rw [SectorM.mayEnd_bind]
  refine (DiskInode.read_mayEnd offset buffer.size).mono ?_ fun _ _ _ failed => .inl failed.1
  rintro bytes _ _ ⟨rfl, rfl, -⟩
  exact here

theorem stat_upholds : (stat ref : SectorM (Files A) Stat).Upholds (Upheld invariant) reports :=
  inode_upholds fun _ => ofOpen_upholds fun _ _ => .pure

/-- Writing does not touch the table, and ends badly with a fault only. -/
theorem write_mayEnd [Allocator A] (upkeep : Upkeep invariant Given) {source : Bytes} {offset : Nat} {array : PartialArray}
    {files : Files A} (here : invariant array files.space) :
    (write ref source offset : SectorM (Files A) Nat).MayEnd False array files
      (fun _ array' files' => invariant array' files'.space ∧ files'.table = files.table)
      fun failure _ _ => ∃ why, failure = .fault why := by
  have written : ∀ (inode : DiskInode) {array : PartialArray} {space : A}, invariant array space →
      (inode.write source offset : SectorM (Files A) Nat).MayEnd False array ⟨files.table, space⟩
        (fun _ array' files' => invariant array' files'.space ∧ files'.table = files.table)
        fun failure _ _ => ∃ why, failure = .fault why := by
    intro inode array space here
    have upholds : (inode.write source offset : SectorM (Files A) Nat).Upholds
        (fun array' files' => invariant array' files'.space ∧ files'.table = files.table) False :=
      DiskInode.writeFrom_upholds fun held has here => ⟨upkeep.write (.inl held) has here.1, here.2⟩
    exact (upholds array ⟨files.table, space⟩ ⟨here, rfl⟩).mono (fun _ _ _ done => done)
      fun _ _ _ failed => failed.resolve_right fun never => never.1
  unfold write
  rw [SectorM.mayEnd_bind, mayEnd_inode, SectorM.mayEnd_ite]
  split
  · exact ⟨here, rfl⟩
  dsimp only
  rw [SectorM.mayEnd_ite]
  split
  · rw [SectorM.mayEnd_bind, SectorM.mayEnd_emit]
    exact ⟨here, rfl⟩
  rw [SectorM.mayEnd_bind]
  refine DiskInode.MayEnd.ofOpen (fun _ valid => ?_) fun why => ⟨why, rfl⟩
  rw [SectorM.mayEnd_ite]
  split
  · have lengthened : (DiskInode.lengthen _ (files.table.inode ref).sector (offset + source.size) : SectorM A DiskInode).Upholds invariant False :=
      DiskInode.lengthen_upholds upkeep.toTending valid upkeep.store
    rw [SectorM.mayEnd_bind, mayEnd_inSpace]
    exact (lengthened array files.space here).mono (fun inode _ _ kept => written inode kept)
      fun _ _ _ failed => failed.resolve_right fun never => never.1
  · exact written _ here

theorem write_upholds [Allocator A] (upkeep : Upkeep invariant Given) {source : Bytes} {offset : Nat} :
    (write ref source offset : SectorM (Files A) Nat).Upholds (Upheld invariant) reports := by
  rintro array files ⟨here, spares⟩
  refine (write_mayEnd upkeep here).mono ?_ fun _ _ _ failed => .inl failed
  rintro _ array' files' ⟨kept, table⟩
  exact ⟨kept, by rw [table]; exact spares⟩

end Files

/-! ## Requests -/

namespace Volume

variable {invariant : PartialArray → FreeMap → Prop} {Given : SectorId → Prop}

open Files (Upheld)

/-- A file that was made is on a sector that was given. -/
theorem create_mayEnd (upkeep : Upkeep invariant Given) {length : Nat} {isDir : Bool} {array : PartialArray}
    {volume : Volume} (here : Upheld invariant array volume) :
    (create length isDir).MayEnd False array volume
      (fun sector array' volume' => Given sector ∧ Upheld invariant array' volume')
      fun failure array' volume' => (∃ why, failure = .fault why) ∨ True ∧ Upheld invariant array' volume' := by
  unfold create
  rw [SectorM.mayEnd_bind, Files.mayEnd_onSpace]
  have allocated : (FreeMap.allocate 1).Ensures volume.space _ _ := upkeep.allocate here.1
  refine allocated.mono ?_ fun _ _ failed => .inl failed
  rintro given space ⟨kept, told⟩
  cases given with
  | none => exact SectorM.mayEnd_report.mpr (.inr ⟨trivial, kept, here.2⟩)
  | some sector =>
      dsimp only
      rw [SectorM.mayEnd_bind, SectorM.mayEnd_attempt]
      refine (Files.inSpace_upholds (DiskInode.create_upholds upkeep) array ⟨volume.table, space⟩ ⟨kept, here.2⟩).mono ?_ ?_
      · rintro _ array' volume' kept'
        exact ⟨told sector rfl, kept'⟩
      · rintro failure array' volume' failed
        cases failure with
        | fault why => exact .inl ⟨why, rfl⟩
        | reported error =>
            rcases failed with ⟨_, impossible⟩ | ⟨-, kept', spares⟩
            · cases impossible
            dsimp only
            rw [SectorM.mayEnd_bind, Files.mayEnd_onSpace]
            have released : (FreeMap.release sector 1).Ensures volume'.space _ _ := upkeep.release (told sector rfl) kept'
            refine released.mono ?_ fun _ _ failed => .inl failed
            exact fun _ _ kept'' => SectorM.mayEnd_report.mpr (.inr ⟨trivial, kept'', spares⟩)

theorem storeFreeMap_upholds (upkeep : Upkeep invariant Given) : storeFreeMap.Upholds (Upheld invariant) True :=
  .bind Files.openAt_upholds fun _ => .bind .get fun _ => .bind (Files.write_upholds upkeep) fun _ =>
    .bind Files.close_upholds fun _ => .require

namespace Request

/-- A request that has no file reclaimed. -/
def Retains : Request → Prop
  | call (.remove _) | call (.discard _) => False
  | call _ | freeSectors | shutdown => True

/-- **Requests** that have no file reclaimed keep the invariant, whatever the device holds. -/
theorem perform_upholds (upkeep : Upkeep invariant Given) (request : Request) (retains : request.Retains) :
    request.perform.Upholds (Upheld invariant) True := by
  have settled : ∀ {computation : SectorM Volume Unit}, (∀ array volume, Upheld invariant array volume →
      computation.MayEnd False array volume (fun _ => Upheld invariant) fun failure array volume =>
        (∃ why, failure = .fault why) ∨ True ∧ Upheld invariant array volume) →
      (storeFreeMap >>= fun _ => computation).Upholds (Upheld invariant) True :=
    fun last => .bind (storeFreeMap_upholds upkeep) fun _ => last
  cases request with
  | freeSectors => exact .bind .get fun _ => .pure
  | shutdown =>
      refine settled (SectorM.Upholds.bind .get fun volume => ?_)
      have ended : (SectorM.shutdownStore >>= fun _ => SectorM.emit .shutDown : SectorM Volume Unit).Upholds
          (Upheld invariant) True := .bind (fun _ _ here => here) fun _ => .emit
      dsimp only
      split
      · exact .bind .emit fun _ => ended
      · exact ended
  | call asked =>
      cases asked with
      | create length isDir =>
          intro array volume here
          exact (create_mayEnd upkeep here).mono (fun _ _ _ done => done.2) fun _ _ _ failed => failed
      | openAt sector => exact Files.openAt_upholds
      | openRoot => exact Files.openAt_upholds
      | reopen holder => exact Files.reopen_upholds
      | close holder => exact Files.close_upholds
      | read holder buffer offset => exact Files.readInto_upholds
      | write holder source offset => exact Files.write_upholds upkeep
      | stat holder => exact Files.stat_upholds
      | denyWrite holder =>
          refine Files.onTable_upholds fun table spares => ?_
          unfold InodeTable.denyWrite
          refine .bind (Action.ensures_get.mpr (.bind (Action.ensures_checkedNext.mpr ?_)))
          split
          · refine .bind (Action.ensures_modify.mpr (.bind (Action.ensures_get.mpr (Action.ensures_require.mpr ?_))))
            split
            · exact spares.update fun _ => rfl
            · exact ⟨_, rfl⟩
          · exact ⟨_, rfl⟩
      | allowWrite holder =>
          refine Files.onTable_upholds fun table spares => ?_
          unfold InodeTable.allowWrite
          refine .bind (Action.ensures_get.mpr (.bind (Action.ensures_require.mpr ?_)))
          split
          · refine .bind (Action.ensures_require.mpr ?_)
            split
            · exact Action.ensures_modify.mpr (spares.update fun _ => rfl)
            · exact ⟨_, rfl⟩
          · exact ⟨_, rfl⟩
      | discard holder => exact retains.elim
      | remove sector => exact retains.elim
      | sync => exact settled fun _ _ here => here

end Request

end Volume

end InodeVolume
