import InodeVolume.Proofs.Blind
import InodeVolume.Proofs.Volume.Calls

/-!
# Nothing that a volume does depends on the log

Every function between the store and the callers of a volume is `Blind`, from the free map up to
formatting and mounting. Of what callers can ask for, only syncing and shutting down touch the store
otherwise than by reading and writing.
-/

namespace InodeVolume

variable {closing : Prop} {σ A α : Type}

/-! ## The free map and the table -/

namespace FreeMap

variable {sector : SectorId} {count bit : Nat}

theorem blind_requireBit : (requireBit bit).Blind := .bind .get fun _ => .ite .pure (.fault nofun)

theorem blind_reserve : (reserve sector).Blind :=
  .bind blind_requireBit fun _ => .bind .get fun _ => .bind .require fun _ => .modify

theorem blind_allocate : (allocate count).Blind := by
  refine .bind .require fun _ => .bind .get fun map => ?_
  split
  · exact .pure
  · exact .bind .modify fun _ => .bind .emit fun _ => .pure

theorem blind_releaseFrom : (releaseFrom count bit).Blind := by
  induction count generalizing bit with
  | zero => exact .pure
  | succ count ih =>
      exact .bind blind_requireBit fun _ => .bind .get fun _ => .bind .require fun _ => .bind .modify fun _ => ih

theorem blind_release : (release sector count).Blind :=
  .bind .checkedAdd fun _ => .bind blind_releaseFrom fun _ => .emit

theorem blind_load {bytes : Bytes} : (load bytes).Blind := by
  refine .bind .get fun map => ?_
  dsimp only
  split
  · exact .set
  · exact .fault nofun

end FreeMap

namespace InodeTable

variable {ref : InodeRef} {sector : SectorId}

theorem blind_reopen : (reopen ref).Blind := .bind .get fun _ => .bind .checkedNext fun _ => .modify

theorem blind_leave : (leave ref).Blind :=
  .bind .get fun _ => .bind .require fun _ => .bind .modify fun _ => .pure

theorem blind_withdraw : (withdraw sector).Blind := .bind .modify fun _ => .emit

theorem blind_remove : (remove ref).Blind := .modify

theorem blind_denyWrite : (denyWrite ref).Blind :=
  .bind .get fun _ => .bind .checkedNext fun _ => .bind .modify fun _ => .bind .get fun _ => .require

theorem blind_allowWrite : (allowWrite ref).Blind :=
  .bind .get fun _ => .bind .require fun _ => .bind .require fun _ => .modify

end InodeTable

/-! ## Inodes and index blocks -/

namespace IndexBlock

variable {sector : SectorId} {block : IndexBlock} {index : Nat}

theorem blind_fetch : (Action.ofExcept (block.fetch index) : Action σ SectorId).Blind := by
  unfold fetch
  split
  · exact .pure
  · exact .fault nofun

theorem blind_replace : (Action.ofExcept (block.replace index sector) : Action σ IndexBlock).Blind := by
  unfold replace
  split
  · exact .pure
  · exact .fault nofun

theorem blind_load : (load sector : SectorM σ IndexBlock).Blind closing := .bind .readAt fun _ => .pure

theorem blind_store : (block.store sector : SectorM σ Unit).Blind closing := .writeAt

theorem blind_entry : (entry sector index : SectorM σ SectorId).Blind closing :=
  .bind (.perform .checkedMul) fun _ => .bind .readAt fun _ => .pure

end IndexBlock

namespace DiskInode

variable {inode : DiskInode} {sector : SectorId}

theorem blind_load : (load sector : SectorM σ DiskInode).Blind closing := .bind .readAt fun _ => .pure

theorem blind_store : (inode.store sector : SectorM σ Unit).Blind closing := .writeAt

theorem blind_ofOpen : (ofOpen sector : SectorM σ DiskInode).Blind closing :=
  .bind blind_load fun _ => .bind .require fun _ => .pure

theorem blind_lookup {place : Location} : (inode.lookup place : SectorM σ SectorId).Blind closing := by
  cases place with
  | direct index => exact .dite (fun _ => .pure) fun _ => .fault nofun
  | indirect index => exact .ite IndexBlock.blind_entry .pure
  | doubleIndirect outer inner =>
      exact .ite (.bind IndexBlock.blind_entry fun _ => .ite IndexBlock.blind_entry .pure) .pure
  | outOfRange => exact .pure

theorem blind_readFrom {taken : Bytes} {offset wanted : Nat} :
    (inode.readFrom taken offset wanted : SectorM σ Bytes).Blind closing := by
  fun_induction readFrom (σ := σ) inode taken offset wanted with
  | case1 => exact .pure
  | case2 taken offset wanted _ _ ih =>
      exact .bind blind_lookup fun _ => .ite (.bind .readAt fun piece => ih piece) .pure
  | case3 => exact .pure

theorem blind_read {offset wanted : Nat} : (inode.read offset wanted : SectorM σ Bytes).Blind closing :=
  blind_readFrom

theorem blind_readInto {buffer : Bytes} {offset : Nat} :
    (inode.readInto buffer offset : SectorM σ (Nat × Bytes)).Blind closing :=
  .bind blind_read fun _ => .pure

theorem blind_writeFrom {source : Bytes} {done offset : Nat} :
    (inode.writeFrom source done offset : SectorM σ Nat).Blind closing := by
  fun_induction writeFrom (σ := σ) inode source done offset with
  | case1 => exact .pure
  | case2 done offset _ _ ih =>
      exact .bind blind_lookup fun _ => .ite (.bind .writeAt fun _ => ih) .pure
  | case3 => exact .pure

theorem blind_write {source : Bytes} {offset : Nat} :
    (inode.write source offset : SectorM σ Nat).Blind closing := blind_writeFrom

end DiskInode

/-! ## Growing and freeing -/

namespace Draft

variable {sector : SectorId}

theorem blind_onSpace {act : Action A α} (blind : act.Blind) : (onSpace act).Blind := .within blind

theorem blind_change {f : DiskInode → DiskInode} : (change f : SectorM (Draft A) Unit).Blind closing := .modify

theorem blind_request : (request : SectorM (Draft FreeMap) (Option SectorId)).Blind closing :=
  .perform (blind_onSpace FreeMap.blind_allocate)

theorem blind_take : (take : SectorM (Draft FreeMap) SectorId).Blind closing := by
  refine .bind blind_request fun given => ?_
  cases given with
  | some sector => exact .pure
  | none => exact .report

theorem blind_giveBack : (giveBack sector : SectorM (Draft FreeMap) Unit).Blind closing :=
  .perform (blind_onSpace FreeMap.blind_release)

theorem blind_registerDirect {index : Nat} :
    (registerDirect sector index : SectorM (Draft FreeMap) Unit).Blind closing :=
  .dite (fun _ => blind_change) fun _ => .fault nofun

theorem blind_registerIndirect {index : Nat} :
    (registerIndirect sector index : SectorM (Draft FreeMap) Unit).Blind closing := by
  refine .bind .get fun draft => ?_
  have entered : ∀ block : IndexBlock, (do
      let block ← SectorM.perform (Action.ofExcept (block.replace index sector))
      block.store (← get).inode.indirect : SectorM (Draft FreeMap) Unit).Blind closing :=
    fun block => .bind (.perform IndexBlock.blind_replace) fun _ => .bind .get fun _ => IndexBlock.blind_store
  exact .ite (.bind IndexBlock.blind_load entered) (.bind blind_take fun _ => .bind blind_change fun _ => entered _)

theorem blind_outerBlock : (outerBlock : SectorM (Draft FreeMap) IndexBlock).Blind closing :=
  .bind .get fun _ => .ite IndexBlock.blind_load
    (.bind blind_take fun _ => .bind blind_change fun _ => .bind IndexBlock.blind_store fun _ => .pure)

theorem blind_registerDouble {outer inner : Nat} :
    (registerDouble sector outer inner : SectorM (Draft FreeMap) Unit).Blind closing := by
  refine .bind blind_outerBlock fun block => .bind (.perform IndexBlock.blind_fetch) fun held => ?_
  have entered : ∀ found : IndexBlock × SectorId × IndexBlock, (do
      let inner ← SectorM.perform (Action.ofExcept (found.2.2.replace inner sector))
      found.1.store (← get).inode.doubleIndirect
      inner.store found.2.1 : SectorM (Draft FreeMap) Unit).Blind closing :=
    fun _ => .bind (.perform IndexBlock.blind_replace) fun _ => .bind .get fun _ =>
      .bind IndexBlock.blind_store fun _ => IndexBlock.blind_store
  exact .ite (.bind IndexBlock.blind_load fun _ => .bind .pure entered)
    (.bind blind_take fun _ => .bind (.perform IndexBlock.blind_replace) fun _ => .bind .pure entered)

theorem blind_register {place : Location} :
    (register sector place : SectorM (Draft FreeMap) Unit).Blind closing := by
  cases place with
  | direct index => exact blind_registerDirect
  | indirect index => exact blind_registerIndirect
  | doubleIndirect outer inner => exact blind_registerDouble
  | outOfRange => exact .report

theorem blind_extend {old new index : Nat} :
    (extend old new index : SectorM (Draft FreeMap) Unit).Blind closing := by
  refine .bind .get fun draft => .bind DiskInode.blind_lookup fun _ => .ite .pure (.bind blind_request fun given => ?_)
  cases given with
  | none => exact .bind .emit fun _ => .report
  | some sector =>
      refine .bind (.attempt blind_register) fun result => ?_
      cases result with
      | ok _ => exact .writeAt
      | error error => exact .bind blind_giveBack fun _ => .bind .emit fun _ => .report

theorem blind_grow {new : Nat} : (grow new : SectorM (Draft FreeMap) Unit).Blind closing := by
  have grown : ∀ old, (do
      (List.range' (dataSectors old) (dataSectors new - dataSectors old)).forM (extend old new)
      SectorM.emit (.grew old new)
      change fun inode => { inode with length := UInt32.ofNat new } :
        SectorM (Draft FreeMap) Unit).Blind closing :=
    fun _ => .bind (.forM fun _ => blind_extend) fun _ => .bind .emit fun _ => blind_change
  exact .bind .get fun _ => .ite .pure (.ite (.bind .emit fun _ => .bind .report fun _ => grown _) (grown _))

theorem blind_edit {inode : DiskInode} {computation : SectorM (Draft A) α} (blind : computation.Blind closing) :
    (edit inode computation).Blind closing := by
  induction blind generalizing inode with
  | done a => exact .done _
  | @act β step next here _ ih =>
      refine .act (fun space => ?_) fun b => ih b.1
      obtain ⟨told, after, same, own⟩ := here ⟨inode, space⟩
      -- the step of the draft, with the inode taken out of its state
      cases told with
      | ok b =>
          refine ⟨.ok (b, after.inode), after.space, fun log => ?_, nofun⟩
          have ran := same log
          unfold Action.result Action.run at ran ⊢
          cases ended : step ⟨⟨inode, space⟩, log⟩ with
          | ok told world =>
              rw [ended] at ran
              cases ran
              simp only [ended]
          | error failure world =>
              rw [ended] at ran
              cases ran
      | error failure =>
          refine ⟨.error failure, after.space, fun log => ?_, own.error⟩
          have ran := same log
          unfold Action.result Action.run at ran ⊢
          cases ended : step ⟨⟨inode, space⟩, log⟩ with
          | ok told world =>
              rw [ended] at ran
              cases ran
          | error told world =>
              rw [ended] at ran
              cases ran
              simp only [ended]
  | read _ ih => exact .read fun block => ih block
  | write _ ih => exact .write ih
  | sync closes _ ih => exact .sync closes ih
  | shutdown closes _ ih => exact .shutdown closes ih

end Draft

namespace DiskInode

variable {inode : DiskInode} {sector : SectorId}

theorem blind_releaseOne : (releaseOne sector : SectorM FreeMap Unit).Blind closing :=
  .perform FreeMap.blind_release

theorem blind_freeBlock : (freeBlock sector : SectorM FreeMap Unit).Blind closing :=
  .bind IndexBlock.blind_load fun _ => .bind (.forM fun _ => blind_releaseOne) fun _ => blind_releaseOne

theorem blind_freeSectors : (inode.freeSectors : SectorM FreeMap Unit).Blind closing := by
  have last : (do
      if inode.doubleIndirect.isAllocated then
        let outer ← IndexBlock.load inode.doubleIndirect
        outer.allocated.forM freeBlock
        releaseOne inode.doubleIndirect : SectorM FreeMap Unit).Blind closing :=
    .ite (.bind IndexBlock.blind_load fun _ => .bind (.forM fun _ => blind_freeBlock) fun _ => blind_releaseOne) .pure
  exact .bind (.forM fun _ => blind_releaseOne) fun _ => .ite (.bind blind_freeBlock fun _ => last) last

theorem blind_create {length : Nat} {isDir : Bool} :
    (create sector length isDir : SectorM FreeMap Unit).Blind closing := by
  refine .bind (Draft.blind_edit (.attempt Draft.blind_grow)) fun ⟨result, inode⟩ => .bind blind_store fun _ => ?_
  cases result with
  | ok _ => exact .emit
  | error error => exact .bind .emit fun _ => .report

theorem blind_lengthen {length : Nat} :
    (inode.lengthen sector length : SectorM FreeMap DiskInode).Blind closing := by
  refine .bind (Draft.blind_edit (.attempt Draft.blind_grow)) fun ⟨result, inode⟩ => ?_
  cases result with
  | ok _ => exact .bind blind_store fun _ => .pure
  | error error => exact .bind .emit fun _ => .bind blind_store fun _ => .pure

theorem blind_reclaim : (reclaim sector : SectorM FreeMap Unit).Blind closing :=
  .bind blind_ofOpen fun _ => .bind blind_freeSectors fun _ => .bind blind_releaseOne fun _ => .emit

end DiskInode

/-! ## Open files -/

namespace Files

variable {ref : InodeRef} {sector : SectorId}

theorem blind_inTable {computation : SectorM InodeTable α} (blind : computation.Blind closing) :
    (inTable computation : SectorM (Files A) α).Blind closing := .hoist (fun _ => .within) blind

theorem blind_inSpace {computation : SectorM A α} (blind : computation.Blind closing) :
    (inSpace computation : SectorM (Files A) α).Blind closing := .hoist (fun _ => .within) blind

theorem blind_inode : (inode ref : SectorM (Files A) OpenInode).Blind closing := .bind .get fun _ => .pure

theorem blind_openAt : (openAt sector : SectorM (Files A) InodeRef).Blind closing := by
  refine blind_inTable (.bind .get fun table => ?_)
  split
  · exact .bind (.perform InodeTable.blind_reopen) fun _ => .pure
  · exact .bind DiskInode.blind_load fun _ => .ite (.bind .modifyGet fun _ => .bind .emit fun _ => .pure)
      (.bind .emit fun _ => .report)

theorem blind_reopen : (reopen ref : SectorM (Files A) Unit).Blind closing :=
  .perform (.within InodeTable.blind_reopen)

theorem blind_read {offset wanted : Nat} : (read ref offset wanted : SectorM (Files A) Bytes).Blind closing :=
  .bind blind_inode fun _ => .bind DiskInode.blind_ofOpen fun _ => DiskInode.blind_read

theorem blind_readInto {buffer : Bytes} {offset : Nat} :
    (readInto ref buffer offset : SectorM (Files A) (Nat × Bytes)).Blind closing :=
  .bind blind_inode fun _ => .bind DiskInode.blind_ofOpen fun _ => DiskInode.blind_readInto

theorem blind_stat : (stat ref : SectorM (Files A) Stat).Blind closing :=
  .bind blind_inode fun _ => .bind DiskInode.blind_ofOpen fun _ => .pure

theorem blind_write {source : Bytes} {offset : Nat} :
    (write ref source offset : SectorM (Files FreeMap) Nat).Blind closing := by
  refine .bind blind_inode fun opened => ?_
  have wrote : ∀ finish, (do
      let inode ← DiskInode.ofOpen opened.sector
      let inode ←
        if finish > inode.size then inSpace (inode.lengthen opened.sector finish) else pure inode
      inode.write source offset : SectorM (Files FreeMap) Nat).Blind closing :=
    fun _ => .bind DiskInode.blind_ofOpen fun _ =>
      .ite (.bind (blind_inSpace DiskInode.blind_lengthen) fun _ => DiskInode.blind_write)
        (.bind .pure fun _ => DiskInode.blind_write)
  exact .ite .pure (.ite (.bind .emit fun _ => .pure) (wrote _))

theorem blind_close : (close ref : SectorM (Files FreeMap) Unit).Blind closing := by
  refine .bind (.perform (.within InodeTable.blind_leave)) fun last => ?_
  cases last with
  | none => exact .pure
  | some inode =>
      exact .bind (.perform (.within InodeTable.blind_withdraw)) fun _ =>
        .ite (blind_inSpace DiskInode.blind_reclaim) .pure

end Files

/-! ## Volumes -/

namespace Volume

variable {sector : SectorId}

theorem blind_storeFreeMap : storeFreeMap.Blind closing :=
  .bind Files.blind_openAt fun _ => .bind .get fun _ => .bind Files.blind_write fun _ =>
    .bind Files.blind_close fun _ => .require

theorem blind_sync (closes : closing) : sync.Blind closing := .bind blind_storeFreeMap fun _ => .syncStore closes

theorem blind_shutdown (closes : closing) : shutdown.Blind closing :=
  .bind blind_storeFreeMap fun _ => .bind .get fun _ =>
    .ite (.bind .emit fun _ => .bind (.shutdownStore closes) fun _ => .emit)
      (.bind (.shutdownStore closes) fun _ => .emit)

theorem blind_layOut (closes : closing) : layOut.Blind closing :=
  .bind (.perform (.within FreeMap.blind_reserve)) fun _ => .bind (.perform (.within FreeMap.blind_reserve)) fun _ =>
    .bind .get fun _ => .bind (Files.blind_inSpace DiskInode.blind_create) fun _ =>
      .bind (Files.blind_inSpace DiskInode.blind_create) fun _ => .bind (blind_sync closes) fun _ =>
        .bind .get fun _ => .emit

theorem blind_restore : restore.Blind closing := by
  have taken : ∀ bytes : Bytes, (do
      SectorM.perform (Files.onSpace (FreeMap.load bytes))
      SectorM.emit (.mounted (← get).freeSectors) : SectorM Volume Unit).Blind closing :=
    fun _ => .bind (.perform (.within FreeMap.blind_load)) fun _ => .bind .get fun _ => .emit
  exact .bind Files.blind_openAt fun _ => .bind .get fun _ => .bind Files.blind_read fun _ =>
    .bind Files.blind_close fun _ => .ite (.bind .emit fun _ => .bind .report fun _ => taken _) (taken _)

theorem blind_create {length : Nat} {isDir : Bool} : (create length isDir).Blind closing := by
  refine .bind (.perform (.within FreeMap.blind_allocate)) fun given => ?_
  cases given with
  | none => exact .report
  | some sector =>
      refine .bind (.attempt (Files.blind_inSpace DiskInode.blind_create)) fun result => ?_
      cases result with
      | ok _ => exact .pure
      | error error => exact .bind (.perform (.within FreeMap.blind_release)) fun _ => .report

theorem blind_remove : (remove sector).Blind closing :=
  .bind Files.blind_openAt fun _ => .bind (.perform (.within InodeTable.blind_remove)) fun _ => Files.blind_close

/-- No call looks at the log. -/
theorem Call.blind_perform (closes : closing) (call : Call α) : call.perform.Blind closing := by
  cases call with
  | create length isDir => exact blind_create
  | openAt sector => exact Files.blind_openAt
  | openRoot => exact Files.blind_openAt
  | reopen holder => exact Files.blind_reopen
  | close holder => exact Files.blind_close
  | read holder buffer offset => exact Files.blind_readInto
  | write holder source offset => exact Files.blind_write
  | stat holder => exact Files.blind_stat
  | denyWrite holder => exact .perform (.within InodeTable.blind_denyWrite)
  | allowWrite holder => exact .perform (.within InodeTable.blind_allowWrite)
  | discard holder => exact .perform (.within InodeTable.blind_remove)
  | remove sector => exact blind_remove
  | sync => exact blind_sync closes

end Volume

end InodeVolume
