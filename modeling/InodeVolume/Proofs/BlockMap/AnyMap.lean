import InodeVolume.Proofs.Contents
import InodeVolume.Proofs.MayEnd

/-!
# Growing and freeing block maps that may lead anywhere

Growing a file and writing to it keep every invariant that allocating keeps, and writing to sectors that
were allocated: `Tending` says what that takes of an invariant. Nothing is asked of the block map, which
may lead past the end or to the sectors of other files. Freeing changes no sector.
-/

namespace InodeVolume

/-! ## Invariants of the sectors and their allocator -/

/-- What growing a file relies on of an invariant: that it is kept by allocating and by writing to sectors
that are mapped or were `Given`, and by releasing the latter. -/
structure Tending {A : Type} [Allocator A] (invariant : PartialArray → A → Prop) (Given : SectorId → Prop) : Prop where
  allocate {array : PartialArray} {space : A} : invariant array space →
    (Allocator.allocate 1).Ensures space (fun given after => invariant array after ∧ ∀ sector, given = some sector → Given sector)
      fun failure _ => ∃ why, failure = .fault why
  release {array : PartialArray} {space : A} {sector : SectorId} : Given sector → invariant array space →
    (Allocator.release sector 1).Ensures space (fun _ after => invariant array after)
      fun failure _ => ∃ why, failure = .fault why
  write {array : PartialArray} {space : A} {sector : SectorId} {data : Sector} : sector.isAllocated = true ∨ Given sector →
    array.Has sector → invariant array space → invariant (array.set sector data) space

namespace Draft

variable {A α : Type}

/-- Work on a draft of an inode is work on the draft. -/
@[simp] theorem mayEnd_edit {still : Prop} {array : PartialArray} {inode : DiskInode} {space : A}
    {computation : SectorM (Draft A) α} {good : α × DiskInode → PartialArray → A → Prop}
    {bad : Failure → PartialArray → A → Prop} :
    (edit inode computation).MayEnd still array space good bad ↔
      computation.MayEnd still array ⟨inode, space⟩ (fun a array draft => good (a, draft.inode) array draft.space)
        fun failure array draft => bad failure array draft.space := by
  induction computation generalizing array inode space with
  | done a => exact Iff.rfl
  | act step next ih =>
      apply forall_congr'
      intro log
      simp only [Action.run]
      cases step ⟨⟨inode, space⟩, log⟩ with
      | ok b after => exact ih b
      | error failure after => exact Iff.rfl
  | read sector offset length next ih =>
      exact and_congr_left' (forall_congr' fun fits => forall_congr' fun has => ih _)
  | write sector offset bytes next ih =>
      exact and_congr_left' (forall_congr' fun fits => forall_congr' fun has => and_congr_right' (ih ()))
  | sync next ih => exact ih ()
  | shutdown next ih => exact ih ()

variable [Allocator A] {invariant : PartialArray → A → Prop} {Given : SectorId → Prop} {magic : UInt32} {reports : Prop}

/-- The invariant holds, and the draft is of an inode with this magic number. -/
def Kept (invariant : PartialArray → A → Prop) (magic : UInt32) (array : PartialArray) (draft : Draft A) : Prop :=
  invariant array draft.space ∧ draft.inode.magic = magic

/-- The invariant holds after, or the computation has ended with a fault. -/
def Ended (invariant : PartialArray → A → Prop) (magic : UInt32) (reports : Prop) (failure : Failure)
    (array : PartialArray) (draft : Draft A) : Prop :=
  (∃ why, failure = .fault why) ∨ reports ∧ Kept invariant magic array draft

omit [Allocator A] in
theorem ended {array : PartialArray} {draft : Draft A} (why : Fault) :
    Ended invariant magic reports (.fault why) array draft := .inl ⟨why, rfl⟩

section Growing

variable (tending : Tending invariant Given) {array : PartialArray} {draft : Draft A} {sector : SectorId}

include tending

theorem request_mayEnd (kept : Kept invariant magic array draft) :
    (request : SectorM (Draft A) (Option SectorId)).MayEnd False array draft
      (fun given array' draft' => Kept invariant magic array' draft' ∧ draft'.inode = draft.inode ∧
        ∀ sector, given = some sector → Given sector) (Ended invariant magic reports) := by
  unfold request
  rw [SectorM.mayEnd_perform, onSpace, Action.ensures_within]
  refine (tending.allocate kept.1).mono ?_ fun _ _ failed => .inl failed
  rintro given space ⟨here, told⟩
  exact ⟨⟨here, kept.2⟩, rfl, told⟩

theorem take_mayEnd (kept : Kept invariant magic array draft) :
    (take : SectorM (Draft A) SectorId).MayEnd False array draft
      (fun sector array' draft' => Kept invariant magic array' draft' ∧ draft'.inode = draft.inode ∧ Given sector)
      (Ended invariant magic True) := by
  unfold take
  rw [SectorM.mayEnd_bind]
  refine (request_mayEnd tending kept).mono ?_ fun _ _ _ failed => failed
  rintro given array' draft' ⟨kept', same, told⟩
  cases given with
  | none => exact SectorM.mayEnd_report.mpr (.inr ⟨trivial, kept'⟩)
  | some sector => exact ⟨kept', same, told sector rfl⟩

theorem giveBack_upholds (given : Given sector) :
    (giveBack sector : SectorM (Draft A) Unit).Upholds (Kept invariant magic) reports := by
  intro array draft kept
  unfold giveBack
  rw [SectorM.mayEnd_perform, onSpace, Action.ensures_within]
  exact (tending.release given kept.1).mono (fun _ _ here => ⟨here, kept.2⟩) fun _ _ failed => .inl failed

omit tending [Allocator A] in
theorem change_upholds {f : DiskInode → DiskInode} (same : ∀ inode, (f inode).magic = inode.magic) :
    (change f : SectorM (Draft A) Unit).Upholds (Kept invariant magic) reports := by
  rintro array ⟨inode, space⟩ kept
  exact SectorM.mayEnd_modify.mpr ⟨kept.1, (same inode).trans kept.2⟩

omit tending [Allocator A] in
theorem replace_mayEnd {block : IndexBlock} {index : Nat} :
    (SectorM.perform (Action.ofExcept (block.replace index sector)) : SectorM (Draft A) IndexBlock).MayEnd False array draft
      (fun _ array' draft' => array' = array ∧ draft' = draft) (Ended invariant magic reports) := by
  rw [SectorM.mayEnd_perform, Action.ensures_ofExcept]
  unfold IndexBlock.replace
  split <;> rename_i told <;> split at told <;> cases told
  · exact ⟨rfl, rfl⟩
  · exact .inl ⟨_, rfl⟩

theorem store_mayEnd {block : IndexBlock} (held : sector.isAllocated = true ∨ Given sector)
    (kept : Kept invariant magic array draft) :
    (block.store sector : SectorM (Draft A) Unit).MayEnd False array draft
      (fun _ array' draft' => Kept invariant magic array' draft' ∧ draft' = draft) (Ended invariant magic reports) := by
  rw [IndexBlock.mayEnd_store]
  exact ⟨fun has => ⟨False.elim, ⟨tending.write held has kept.1, kept.2⟩, rfl⟩, fun why => ended why⟩

theorem registerIndirect_upholds {index : Nat} :
    (registerIndirect sector index : SectorM (Draft A) Unit).Upholds (Kept invariant magic) True := by
  intro array draft kept
  have entered : ∀ (block : IndexBlock) {array : PartialArray} {draft : Draft A}, Kept invariant magic array draft →
      draft.inode.indirect.isAllocated = true ∨ Given draft.inode.indirect →
      (do
        let block ← SectorM.perform (Action.ofExcept (block.replace index sector))
        block.store (← get).inode.indirect : SectorM (Draft A) Unit).MayEnd False array draft
        (fun _ => Kept invariant magic) (Ended invariant magic True) := by
    intro block array draft kept held
    rw [SectorM.mayEnd_bind]
    refine replace_mayEnd.mono ?_ fun _ _ _ failed => failed
    rintro block _ _ ⟨rfl, rfl⟩
    rw [SectorM.mayEnd_bind, SectorM.mayEnd_get]
    exact (store_mayEnd tending held kept).mono (fun _ _ _ done => done.1) fun _ _ _ failed => failed
  unfold registerIndirect
  rw [SectorM.mayEnd_bind, SectorM.mayEnd_get]
  dsimp only
  rw [SectorM.mayEnd_ite]
  split
  · rename_i held
    rw [SectorM.mayEnd_bind, IndexBlock.mayEnd_load]
    exact ⟨fun _ => entered _ kept (.inl held), fun why => ended why⟩
  · rw [SectorM.mayEnd_bind]
    refine (take_mayEnd tending kept).mono ?_ fun _ _ _ failed => failed
    rintro fresh array' ⟨inode, space⟩ ⟨kept', -, given⟩
    rw [SectorM.mayEnd_bind, change, SectorM.mayEnd_modify]
    exact entered _ ⟨kept'.1, kept'.2⟩ (.inr given)

theorem outerBlock_mayEnd (kept : Kept invariant magic array draft) :
    (outerBlock : SectorM (Draft A) IndexBlock).MayEnd False array draft
      (fun _ array' draft' => Kept invariant magic array' draft' ∧
        (draft'.inode.doubleIndirect.isAllocated = true ∨ Given draft'.inode.doubleIndirect)) (Ended invariant magic True) := by
  unfold outerBlock
  rw [SectorM.mayEnd_bind, SectorM.mayEnd_get]
  dsimp only
  rw [SectorM.mayEnd_ite]
  split
  · rename_i held
    rw [IndexBlock.mayEnd_load]
    exact ⟨fun _ => ⟨kept, .inl held⟩, fun why => ended why⟩
  · rw [SectorM.mayEnd_bind]
    refine (take_mayEnd tending kept).mono ?_ fun _ _ _ failed => failed
    rintro fresh array' ⟨inode, space⟩ ⟨kept', -, given⟩
    rw [SectorM.mayEnd_bind, change, SectorM.mayEnd_modify, SectorM.mayEnd_bind]
    have changed : Kept invariant magic array' ⟨{ inode with doubleIndirect := fresh }, space⟩ := ⟨kept'.1, kept'.2⟩
    refine (store_mayEnd tending (.inr given) changed).mono ?_ fun _ _ _ failed => failed
    rintro _ array'' _ ⟨stored, rfl⟩
    exact ⟨stored, .inr given⟩

theorem registerDouble_upholds {outer inner : Nat} :
    (registerDouble sector outer inner : SectorM (Draft A) Unit).Upholds (Kept invariant magic) True := by
  intro array draft kept
  have entered : ∀ (outer : IndexBlock) (found : SectorId) (block : IndexBlock) {array : PartialArray} {draft : Draft A},
      Kept invariant magic array draft → draft.inode.doubleIndirect.isAllocated = true ∨ Given draft.inode.doubleIndirect →
      found.isAllocated = true ∨ Given found →
      (do
        let block ← SectorM.perform (Action.ofExcept (block.replace inner sector))
        outer.store (← get).inode.doubleIndirect
        block.store found : SectorM (Draft A) Unit).MayEnd False array draft
        (fun _ => Kept invariant magic) (Ended invariant magic True) := by
    intro outer found block array draft kept heldOuter heldInner
    rw [SectorM.mayEnd_bind]
    refine replace_mayEnd.mono ?_ fun _ _ _ failed => failed
    rintro block _ _ ⟨rfl, rfl⟩
    rw [SectorM.mayEnd_bind, SectorM.mayEnd_get, SectorM.mayEnd_bind]
    refine (store_mayEnd tending heldOuter kept).mono ?_ fun _ _ _ failed => failed
    rintro _ array' _ ⟨kept', rfl⟩
    exact (store_mayEnd tending heldInner kept').mono (fun _ _ _ done => done.1) fun _ _ _ failed => failed
  unfold registerDouble
  rw [SectorM.mayEnd_bind]
  refine (outerBlock_mayEnd tending kept).mono ?_ fun _ _ _ failed => failed
  rintro block array' draft' ⟨kept', held⟩
  rw [SectorM.mayEnd_bind, SectorM.mayEnd_perform, Action.ensures_ofExcept]
  split
  · rename_i inner _
    rw [SectorM.mayEnd_ite]
    split
    · rename_i allocated
      rw [SectorM.mayEnd_bind, IndexBlock.mayEnd_load]
      refine ⟨fun _ => ?_, fun why => ended why⟩
      rw [SectorM.mayEnd_bind, SectorM.mayEnd_pure]
      exact entered _ _ _ kept' held (.inl allocated)
    · rw [SectorM.mayEnd_bind]
      refine (take_mayEnd tending kept').mono ?_ fun _ _ _ failed => failed
      rintro fresh array'' draft'' ⟨kept'', same, given⟩
      rw [SectorM.mayEnd_bind]
      refine replace_mayEnd.mono ?_ fun _ _ _ failed => failed
      rintro block _ _ ⟨rfl, rfl⟩
      rw [SectorM.mayEnd_bind, SectorM.mayEnd_pure]
      exact entered _ _ _ kept'' (same ▸ held) (.inr given)
  · rename_i failure told
    unfold IndexBlock.fetch at told
    split at told <;> cases told
    exact ended _

theorem register_upholds {place : Location} :
    (register sector place : SectorM (Draft A) Unit).Upholds (Kept invariant magic) True := by
  cases place with
  | direct index =>
      show SectorM.Upholds _ _ (registerDirect sector index)
      unfold registerDirect
      split
      · exact change_upholds fun _ => rfl
      · exact .fault
  | indirect index => exact registerIndirect_upholds tending
  | doubleIndirect outer inner => exact registerDouble_upholds tending
  | outOfRange => exact .report trivial

theorem extend_upholds {old new index : Nat} :
    (extend old new index : SectorM (Draft A) Unit).Upholds (Kept invariant magic) True := by
  intro array draft kept
  unfold extend
  rw [SectorM.mayEnd_bind, SectorM.mayEnd_get, SectorM.mayEnd_bind]
  refine DiskInode.MayEnd.lookup (inTables_locate _) ?_ fun why => ended why
  rw [SectorM.mayEnd_ite]
  split
  · exact kept
  rw [SectorM.mayEnd_bind]
  refine (request_mayEnd tending kept).mono ?_ fun _ _ _ failed => failed
  rintro given array' draft' ⟨kept', -, told⟩
  cases given with
  | none => exact SectorM.mayEnd_bind.mpr (SectorM.mayEnd_emit.mpr (SectorM.mayEnd_report.mpr (.inr ⟨trivial, kept'⟩)))
  | some sector =>
      have given := told sector rfl
      rw [SectorM.mayEnd_bind]
      refine (SectorM.Upholds.attempt (register_upholds tending) array' draft' kept').mono ?_ fun _ _ _ failed => failed
      rintro result array'' draft'' kept''
      cases result with
      | ok _ => exact ⟨fun _ has => ⟨False.elim, tending.write (.inr given) has kept''.1, kept''.2⟩, fun why => ended why⟩
      | error error =>
          exact SectorM.Upholds.bind (giveBack_upholds tending given) (fun _ => .bind .emit fun _ => .report trivial)
            array'' draft'' kept''

/-- **Growing** keeps the invariant and the magic number, also where it fails half-way. -/
theorem grow_upholds {new : Nat} : (grow new : SectorM (Draft A) Unit).Upholds (Kept invariant magic) True := by
  have grown : ∀ old, (do
      (List.range' (dataSectors old) (dataSectors new - dataSectors old)).forM (extend old new)
      SectorM.emit (.grew old new)
      change fun inode => { inode with length := UInt32.ofNat new } :
        SectorM (Draft A) Unit).Upholds (Kept invariant magic) True :=
    fun _ => .bind (.forM fun _ => extend_upholds tending) fun _ => .bind .emit fun _ => change_upholds fun _ => rfl
  refine .bind .get fun draft => ?_
  exact .ite (fun _ => .pure) fun _ => .ite (fun _ => .bind .emit fun _ => .bind (.report trivial) fun _ => grown _)
    fun _ => grown _

end Growing

end Draft

namespace DiskInode

variable {A : Type} [Allocator A] {invariant : PartialArray → A → Prop} {Given : SectorId → Prop} {inode : DiskInode}
  {sector : SectorId} {reports : Prop}

section Freeing

variable {still : Prop} {array : PartialArray} {space : A} {kept : A → Prop}
  (releasing : ∀ {space : A} {sector : SectorId}, kept space → (Allocator.release sector 1).Ensures space (fun _ => kept)
    fun failure _ => ∃ why, failure = .fault why)

include releasing

theorem releaseOne_mayEnd (here : kept space) :
    (releaseOne sector : SectorM A Unit).MayEnd still array space (fun _ array' space' => array' = array ∧ kept space')
      (Unchanged array) :=
  (releasing here).mono (fun _ _ there => ⟨rfl, there⟩) fun _ _ failed => ⟨failed, rfl⟩

theorem releaseAll_mayEnd {list : List SectorId} (here : kept space) :
    (list.forM releaseOne : SectorM A PUnit).MayEnd still array space
      (fun _ array' space' => array' = array ∧ kept space') (Unchanged array) := by
  refine SectorM.MayEnd.forM ?_ ⟨rfl, here⟩
  rintro sector array' space' ⟨rfl, there⟩
  exact releaseOne_mayEnd releasing there

theorem freeBlock_mayEnd (here : kept space) :
    (freeBlock sector : SectorM A Unit).MayEnd still array space (fun _ array' space' => array' = array ∧ kept space')
      (Unchanged array) := by
  unfold freeBlock
  rw [SectorM.mayEnd_bind, IndexBlock.mayEnd_load]
  refine ⟨fun _ => ?_, unchanged⟩
  rw [SectorM.mayEnd_bind]
  refine (releaseAll_mayEnd releasing here).mono ?_ fun _ _ _ failed => failed
  rintro _ _ space' ⟨rfl, there⟩
  exact releaseOne_mayEnd releasing there

/-- **Freeing** the sectors of a file changes none of them, whatever its block map leads to. -/
theorem freeSectors_mayEnd (here : kept space) :
    (inode.freeSectors : SectorM A Unit).MayEnd still array space (fun _ array' space' => array' = array ∧ kept space')
      (Unchanged array) := by
  have outermost : ∀ {space : A}, kept space → (do
      if inode.doubleIndirect.isAllocated then
        let outer ← IndexBlock.load inode.doubleIndirect
        outer.allocated.forM freeBlock
        releaseOne inode.doubleIndirect : SectorM A Unit).MayEnd still array space
      (fun _ array' space' => array' = array ∧ kept space') (Unchanged array) := by
    intro space here
    rw [SectorM.mayEnd_ite]
    split
    · rw [SectorM.mayEnd_bind, IndexBlock.mayEnd_load]
      refine ⟨fun _ => ?_, unchanged⟩
      rw [SectorM.mayEnd_bind]
      have freed : ((array.block inode.doubleIndirect).allocated.forM freeBlock : SectorM A PUnit).MayEnd still array space
          (fun _ array' space' => array' = array ∧ kept space') (Unchanged array) := by
        refine SectorM.MayEnd.forM ?_ ⟨rfl, here⟩
        rintro sector array' space' ⟨rfl, there⟩
        exact freeBlock_mayEnd releasing there
      refine freed.mono ?_ fun _ _ _ failed => failed
      rintro _ _ space' ⟨rfl, there⟩
      exact releaseOne_mayEnd releasing there
    · exact ⟨rfl, here⟩
  unfold freeSectors
  rw [SectorM.mayEnd_bind]
  refine (releaseAll_mayEnd releasing here).mono ?_ fun _ _ _ failed => failed
  rintro _ _ space' ⟨rfl, there⟩
  rw [SectorM.mayEnd_ite]
  split
  · rw [SectorM.mayEnd_bind]
    refine (freeBlock_mayEnd releasing there).mono ?_ fun _ _ _ failed => failed
    rintro _ _ space'' ⟨rfl, there'⟩
    exact outermost there'
  · exact outermost there

/-- Reclaiming a file releases its own sector last. -/
theorem reclaim_mayEnd {gone : A → Prop} (last : ∀ {space : A}, kept space → (Allocator.release sector 1).Ensures space
      (fun _ => gone) fun failure _ => ∃ why, failure = .fault why) (here : kept space) :
    (reclaim sector : SectorM A Unit).MayEnd still array space (fun _ array' space' => array' = array ∧ gone space')
      (Unchanged array) := by
  unfold reclaim
  rw [SectorM.mayEnd_bind]
  refine MayEnd.ofOpen (fun _ _ => ?_) unchanged
  rw [SectorM.mayEnd_bind]
  refine (freeSectors_mayEnd releasing here).mono ?_ fun _ _ _ failed => failed
  rintro _ _ space' ⟨rfl, there⟩
  rw [SectorM.mayEnd_bind]
  refine (last there).mono ?_ fun _ _ failed => ⟨failed, rfl⟩
  exact fun _ _ there' => SectorM.mayEnd_emit.mpr ⟨rfl, there'⟩

end Freeing

/-- Lengthening a file keeps the invariant, where storing its inode does. -/
theorem lengthen_upholds (tending : Tending invariant Given) (valid : inode.isValid = true) {length : Nat}
    (storing : ∀ {array : PartialArray} {space : A} {inode : DiskInode}, inode.isValid = true → array.Has sector →
      invariant array space → invariant (array.set sector inode.encode) space) :
    (inode.lengthen sector length : SectorM A DiskInode).Upholds invariant reports := by
  intro array space here
  have kept : Draft.Kept invariant inode.magic array ⟨inode, space⟩ := ⟨here, rfl⟩
  have stored : ∀ (inode' : DiskInode) {array : PartialArray} {space : A}, inode'.magic = inode.magic →
      invariant array space → (do
        inode'.store sector
        return inode' : SectorM A DiskInode).MayEnd False array space (fun _ => invariant)
        fun failure array space => (∃ why, failure = .fault why) ∨ reports ∧ invariant array space := by
    intro inode' array space same here
    rw [SectorM.mayEnd_bind, mayEnd_store]
    refine ⟨fun has => ⟨False.elim, storing ?_ has here⟩, fun why => .inl ⟨why, rfl⟩⟩
    rw [isValid, same]
    exact valid
  have grown : (Draft.grow length : SectorM (Draft A) Unit).attempt.Upholds (Draft.Kept invariant inode.magic) False :=
    .attempt (Draft.grow_upholds tending)
  unfold lengthen
  rw [SectorM.mayEnd_bind, Draft.mayEnd_edit]
  refine (grown array _ kept).mono ?_ ?_
  · rintro result array' draft' ⟨here', same⟩
    cases result with
    | ok _ => exact stored _ same here'
    | error error => exact SectorM.mayEnd_bind.mpr (SectorM.mayEnd_emit.mpr (stored _ same here'))
  · rintro failure array' draft' (fault | ⟨never, -⟩)
    · exact .inl fault
    · exact never.elim

/-- Writing to the sectors of a file keeps the invariant. -/
theorem writeFrom_upholds {σ : Type} {invariant : PartialArray → σ → Prop} (writing : ∀ {array : PartialArray} {s : σ}
      {sector : SectorId} {data : Sector}, sector.isAllocated = true → array.Has sector → invariant array s →
      invariant (array.set sector data) s) {source : Bytes} {done offset : Nat} :
    (inode.writeFrom source done offset : SectorM σ Nat).Upholds invariant reports := by
  intro array s here
  induction left : source.size - done using Nat.strongRecOn generalizing array done offset with
  | ind left ih =>
    subst left
    rw [writeFrom]
    split
    · exact here
    rename_i some_left
    split
    · rename_i inside
      have positive := pieceLength_pos (show source.size - done ≠ 0 by omega) inside
      rw [SectorM.mayEnd_bind]
      refine MayEnd.lookup (inTables_locate _) ?_ fun why => .inl ⟨why, rfl⟩
      rw [SectorM.mayEnd_ite]
      split
      · rename_i held
        dsimp only
        rw [SectorM.mayEnd_bind, SectorM.mayEnd_writeAt]
        refine ⟨fun _ has => ⟨False.elim, ih _ ?_ _ (writing held has here) rfl⟩, fun why => .inl ⟨why, rfl⟩⟩
        have short : pieceLength inode.size offset (source.size - done) ≤ source.size - done :=
          Nat.le_trans (Nat.min_le_left _ _) (Nat.min_le_left _ _)
        omega
      · exact here
    · exact here

end DiskInode

end InodeVolume
