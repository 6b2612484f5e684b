import InodeVolume.Proofs.BlockMap.InSteps
import InodeVolume.Proofs.Files.Table

/-!
# Volumes that differ in who denies writing

How often writing to an open file is denied is looked at by those who deny and allow, and by those who
write. Everything else goes the same way whatever these counts are. `Redenied first second` relates tables
that differ in them alone: `first` says how often each inode is denied in the one table, `second` in the other.

* **tables** — the changes that a call makes to a table keep the relation;
* **inodes** — reading and writing one inode does not look at the state at all;
* **calls** — every call but denying and allowing runs alike over two such volumes. Writing to a file does
  where it is denied in both or in neither (`alike_write`), and so does storing the free map
  (`storeFreeMap_joined`).
-/

namespace InodeVolume

variable {first second : InodeRef → UInt32}

/-! ## Tables -/

namespace InodeTable

variable {table table' : InodeTable} {ref other : InodeRef} {sector : SectorId} {f : OpenInode → OpenInode}

theorem inode_of_unknown (unknown : table.inodes.size ≤ ref.index) : table.inode ref = default := by
  simp [inode, unknown]

/-- As `inode_update`, also for a number that was never given out: that one cannot be changed. -/
theorem inode_update_if : (table.update ref f).inode other =
    if other = ref ∧ ref.index < table.inodes.size then f (table.inode other) else table.inode other := by
  rcases Nat.lt_or_ge ref.index table.inodes.size with known | unknown
  · rw [inode_update known]
    by_cases same : other = ref
    · rw [if_pos same, if_pos ⟨same, known⟩, same]
    · rw [if_neg same, if_neg fun changed => same changed.1]
  · rw [if_neg fun changed => Nat.not_lt.mpr unknown changed.2]
    simp only [inode, update, Array.getElem?_modify]
    by_cases same : ref.index = other.index
    · rw [if_pos same, ← same, Array.getElem?_eq_none unknown]
      rfl
    · rw [if_neg same]

theorem inode_insert : (table.insert sector).2.inode other =
    if other = (table.insert sector).1 then ⟨sector, 1, 0, false⟩ else table.inode other := by
  by_cases new : other = (table.insert sector).1
  · rw [if_pos new, new, inode_insert_self]
  · have apart : other.index ≠ table.inodes.size := fun same => new (congrArg InodeRef.mk same)
    rw [if_neg new]
    simp [insert, inode, Array.getElem?_push, apart]

theorem result_reopen (table : InodeTable) (log : Array Event) : (reopen ref).result table log =
    if (table.inode ref).openCount + 1 < UInt32.size then
      (.ok (), table.update ref fun inode => { inode with opens := (table.inode ref).opens + 1 })
    else (.error (.fault .overflow), table) := by
  show Action.result (Action.checkedNext (table.inode ref).opens >>= fun opens =>
    modify (update ref fun inode => { inode with opens })) table log = _
  unfold Action.checkedNext
  by_cases room : (table.inode ref).openCount + 1 < UInt32.size
  · rw [if_pos room, if_pos (show (table.inode ref).opens.toNat + 1 < _ from room)]
    rfl
  · rw [if_neg room, if_neg (show ¬(table.inode ref).opens.toNat + 1 < _ from room)]
    rfl

theorem result_leave (table : InodeTable) (log : Array Event) : (leave ref).result table log =
    if 0 < (table.inode ref).openCount then
      (.ok (if (table.inode ref).openCount > 1 then none else some (table.inode ref)),
        table.update ref fun inode => { inode with opens := inode.opens - 1 })
    else (.error (.fault (.broken (.closedOnce (table.inode ref).sector))), table) := by
  show Action.result (Action.require (decide (0 < (table.inode ref).openCount)) _ >>= fun _ => modify _ >>= fun _ =>
    pure _) table log = _
  by_cases here : 0 < (table.inode ref).openCount
  · rw [if_pos here, decide_eq_true here]
    rfl
  · rw [if_neg here, decide_eq_false here]
    rfl

/-- Tables that differ in the counts of denials alone. -/
structure Redenied (first second : InodeRef → UInt32) (table table' : InodeTable) : Prop where
  size : table'.inodes.size = table.inodes.size
  listed : table'.listed = table.listed
  inode : ∀ ref, table'.inode ref = { table.inode ref with denials := second ref }
  count : ∀ ref, (table.inode ref).denials = first ref

namespace Redenied

theorem refl (table : InodeTable) : Redenied (fun ref => (table.inode ref).denials)
    (fun ref => (table.inode ref).denials) table table :=
  ⟨rfl, rfl, fun _ => rfl, fun _ => rfl⟩

theorem find? (same : Redenied first second table table') : table'.find? sector = table.find? sector := by
  rw [InodeTable.find?, InodeTable.find?, same.listed]

theorem count' (same : Redenied first second table table') (ref : InodeRef) :
    (table'.inode ref).denials = second ref := by
  rw [same.inode]

theorem opens (same : Redenied first second table table') (ref : InodeRef) :
    (table'.inode ref).opens = (table.inode ref).opens := by
  rw [same.inode]

theorem openCount (same : Redenied first second table table') (ref : InodeRef) :
    (table'.inode ref).openCount = (table.inode ref).openCount :=
  congrArg UInt32.toNat (same.opens ref)

/-- Nobody has denied writing to an inode that is not there. -/
theorem none_of_unknown (same : Redenied first second table table') (unknown : table.inodes.size ≤ ref.index) :
    first ref = 0 ∧ second ref = 0 := by
  have unknown' : table'.inodes.size ≤ ref.index := same.size.trans_le unknown
  constructor
  · rw [← same.count, inode_of_unknown unknown]
    rfl
  · rw [← same.count', inode_of_unknown unknown']
    rfl

/-- A change that neither looks at the count of denials nor changes it. -/
theorem update (same : Redenied first second table table')
    (commutes : ∀ (inode : OpenInode) denials, f { inode with denials } = { f inode with denials }) :
    Redenied first second (table.update ref f) (table'.update ref f) := by
  have keeps : ∀ inode : OpenInode, (f inode).denials = inode.denials := by
    intro inode
    have same : f inode = { f inode with denials := inode.denials } := commutes inode inode.denials
    rw [same]
  refine ⟨by simp [same.size], same.listed, ?_, ?_⟩
  · intro other
    rw [inode_update_if, inode_update_if, same.size]
    split
    · rw [same.inode, commutes]
    · rw [same.inode]
  · intro other
    rw [inode_update_if]
    split
    · rw [keeps, same.count]
    · rw [same.count]

/-- The count of one inode changes in the first table alone. -/
theorem recount (same : Redenied first second table table') (known : ref.index < table.inodes.size)
    (count : UInt32 → UInt32) :
    Redenied (Function.update first ref (count (first ref))) second
      (table.update ref fun inode => { inode with denials := count inode.denials }) table' := by
  refine ⟨by simp [same.size], same.listed, ?_, ?_⟩
  · intro other
    rw [inode_update known, same.inode]
    by_cases changed : other = ref
    · rw [if_pos changed, changed]
    · rw [if_neg changed]
  · intro other
    rw [inode_update known]
    by_cases changed : other = ref
    · rw [if_pos changed, changed, Function.update_self]
      exact congrArg count (same.count ref)
    · rw [if_neg changed, Function.update_of_ne changed, same.count]

theorem insert_fst (same : Redenied first second table table') (sector : SectorId) :
    (table'.insert sector).1 = (table.insert sector).1 :=
  congrArg InodeRef.mk same.size

/-- Nobody has denied writing to an inode that is new. -/
theorem insert (same : Redenied first second table table') :
    Redenied first second (table.insert sector).2 (table'.insert sector).2 := by
  obtain ⟨none, none'⟩ : first (table.insert sector).1 = 0 ∧ second (table.insert sector).1 = 0 :=
    same.none_of_unknown (Nat.le_refl _)
  refine ⟨?_, ?_, ?_, ?_⟩
  · simp [InodeTable.insert, same.size]
  · simp [InodeTable.insert, same.size, same.listed]
  · intro other
    rw [inode_insert, inode_insert, same.insert_fst]
    by_cases new : other = (table.insert sector).1
    · rw [if_pos new, if_pos new, new, none']
    · rw [if_neg new, if_neg new, same.inode]
  · intro other
    rw [inode_insert]
    by_cases new : other = (table.insert sector).1
    · rw [if_pos new, new, none]
    · rw [if_neg new, same.count]

theorem erase (same : Redenied first second table table') :
    Redenied first second (table.erase sector) (table'.erase sector) :=
  ⟨same.size, by simp [InodeTable.erase, same.listed], same.inode, same.count⟩

end Redenied

end InodeTable

/-! ## Inodes -/

namespace DiskInode

variable {σ : Type} {related : σ → σ → Prop} {inode : DiskInode} {sector : SectorId}

theorem alike_load : SectorM.Alike related (load sector) (load sector) := .bind .readAt fun _ => .pure

theorem alike_ofOpen : SectorM.Alike related (ofOpen sector) (ofOpen sector) :=
  .bind alike_load fun _ => .bind .require fun _ => .pure

theorem alike_readFrom {taken : Bytes} {offset wanted : Nat} :
    SectorM.Alike related (inode.readFrom taken offset wanted) (inode.readFrom taken offset wanted) := by
  fun_induction readFrom (σ := σ) inode taken offset wanted with
  | case1 => exact .pure
  | case2 taken offset wanted _ _ ih =>
      exact .bind Draft.alike_lookup fun _ => .ite (.bind .readAt fun piece => ih piece) .pure
  | case3 => exact .pure

theorem alike_readInto {buffer : Bytes} {offset : Nat} :
    SectorM.Alike related (inode.readInto buffer offset) (inode.readInto buffer offset) :=
  .bind alike_readFrom fun _ => .pure

theorem alike_write {source : Bytes} {offset : Nat} :
    SectorM.Alike related (inode.write source offset) (inode.write source offset) := by
  unfold write
  generalize 0 = done
  fun_induction writeFrom (σ := σ) inode source done offset with
  | case1 => exact .pure
  | case2 done offset _ _ ih =>
      exact .bind Draft.alike_lookup fun _ => .ite (.bind .writeAt fun _ => ih) .pure
  | case3 => exact .pure

end DiskInode

/-! ## Calls -/

namespace Volume

variable {α : Type} {volume volume' : Volume} {ref : InodeRef} {sector : SectorId}

/-- Volumes that differ in the counts of denials alone. -/
structure Redenied (first second : InodeRef → UInt32) (volume volume' : Volume) : Prop where
  table : volume.table.Redenied first second volume'.table
  space : volume'.space = volume.space

theorem alike_onSpace {act : Action FreeMap α} (blind : act.Blind) :
    SectorM.Alike (Redenied first second) (SectorM.perform (Files.onSpace act))
      (SectorM.perform (Files.onSpace act)) :=
  .within blind (fun _ _ same => same.space) fun _ _ _ same => ⟨same.table, rfl⟩

theorem alike_inSpace {computation : SectorM FreeMap α} (blind : computation.Blind False) :
    SectorM.Alike (Redenied first second) (Files.inSpace computation) (Files.inSpace computation) := by
  induction blind with
  | done a => exact .pure
  | act here _ ih => exact .bind (alike_onSpace here) ih
  | read _ ih => exact .bind .readAt ih
  | write _ ih => exact .bind .writeAt fun _ => ih
  | sync closes _ _ => exact closes.elim
  | shutdown closes _ _ => exact closes.elim

/-- A change to one inode that leaves its count of denials alone. -/
theorem alike_update {f : OpenInode → OpenInode}
    (commutes : ∀ (inode : OpenInode) denials, f { inode with denials } = { f inode with denials }) :
    SectorM.Alike (Redenied first second) (SectorM.perform (Files.onTable (modify (InodeTable.update ref f))))
      (SectorM.perform (Files.onTable (modify (InodeTable.update ref f)))) :=
  .perform fun _ _ _ _ same => ⟨rfl, same.table.update commutes, same.space⟩

/-- What follows is told of an inode whose counts of denials may differ. -/
theorem alike_inode {f g : OpenInode → SectorM Volume α}
    (rest : ∀ inode : OpenInode, SectorM.Alike (Redenied first second)
      (f { inode with denials := first ref }) (g { inode with denials := second ref })) :
    SectorM.Alike (Redenied first second) (Files.inode ref >>= f) (Files.inode ref >>= g) := by
  show SectorM.Alike _ (get >>= fun volume : Volume => f (volume.table.inode ref))
    (get >>= fun volume : Volume => g (volume.table.inode ref))
  refine .get_bind fun volume volume' same => ?_
  have here := rest (volume.table.inode ref)
  rw [← same.table.inode, ← same.table.count] at here
  exact here

/-- How many have an inode open is the same in both. -/
theorem alike_reopen : SectorM.Alike (Redenied first second) (Files.reopen ref) (Files.reopen ref) := by
  refine .perform fun volume volume' _ _ same => ?_
  rw [Files.onTable, Action.result_within, Action.result_within, InodeTable.result_reopen, InodeTable.result_reopen,
    same.table.opens, same.table.openCount]
  dsimp only
  by_cases room : (volume.table.inode ref).openCount + 1 < UInt32.size
  · rw [if_pos room, if_pos room]
    exact ⟨rfl, same.table.update fun _ _ => rfl, same.space⟩
  · rw [if_neg room, if_neg room]
    exact ⟨rfl, same⟩

theorem alike_openAt : SectorM.Alike (Redenied first second) (Files.openAt sector) (Files.openAt sector) := by
  unfold Files.openAt Files.inTable InodeTable.openAt
  rw [SectorM.hoist_bind]
  refine .perform_bind fun volume volume' _ _ same => ⟨same, ?_⟩
  -- both tables list the same inode, or none
  dsimp only
  rw [same.table.find?]
  cases volume.table.find? sector with
  | some ref => exact .bind alike_reopen fun _ => .pure
  | none =>
      dsimp only
      rw [SectorM.hoist_bind]
      refine .bind DiskInode.alike_load fun inode => ?_
      split
      · rw [SectorM.hoist_bind]
        refine .bind (.perform fun volume volume' _ _ same => ?_) fun ref => .bind .emit fun _ => .pure
        exact ⟨congrArg Except.ok (same.table.insert_fst sector).symm, same.table.insert, same.space⟩
      · exact .bind .emit fun _ => .report

theorem alike_close : SectorM.Alike (Redenied first second) (Files.close ref) (Files.close ref) := by
  refine .perform_bind fun volume volume' log log' same => ?_
  -- leaving tells the inode, and nobody asks that one how often it was denied
  rw [Files.onTable, Action.result_within, Action.result_within, InodeTable.result_leave, InodeTable.result_leave,
    same.table.openCount, same.table.inode]
  dsimp only
  by_cases opened : 0 < (volume.table.inode ref).openCount
  · rw [if_pos opened, if_pos opened]
    refine ⟨⟨same.table.update fun _ _ => rfl, same.space⟩, ?_⟩
    by_cases more : 1 < (volume.table.inode ref).openCount
    · rw [if_pos more, if_pos more]
      exact .pure
    · rw [if_neg more, if_neg more]
      refine .bind (.perform fun _ _ _ _ same => ⟨rfl, same.table.erase, same.space⟩) fun _ => ?_
      exact .ite (alike_inSpace DiskInode.blind_reclaim) .pure
  · rw [if_neg opened, if_neg opened]
    exact ⟨rfl, same⟩

theorem alike_readInto {buffer : Bytes} {offset : Nat} :
    SectorM.Alike (Redenied first second) (Files.readInto ref buffer offset) (Files.readInto ref buffer offset) :=
  alike_inode fun _ => .bind DiskInode.alike_ofOpen fun _ => DiskInode.alike_readInto

theorem alike_stat : SectorM.Alike (Redenied first second) (Files.stat ref) (Files.stat ref) :=
  alike_inode fun _ => .bind DiskInode.alike_ofOpen fun _ => .pure

/-- Writing asks whether it is denied, and no more. -/
theorem alike_write (alike : (first ref).toNat = 0 ↔ (second ref).toNat = 0) {source : Bytes} {offset : Nat} :
    SectorM.Alike (Redenied first second) (Files.write ref source offset) (Files.write ref source offset) := by
  refine alike_inode fun inode => ?_
  have denied : (decide ({ inode with denials := first ref }.denyCount > 0) || decide (source.size = 0)) =
      (decide ({ inode with denials := second ref }.denyCount > 0) || decide (source.size = 0)) := by
    simp [OpenInode.denyCount, Nat.pos_iff_ne_zero, alike]
  dsimp only
  rw [denied]
  refine .ite .pure (.ite (.bind .emit fun _ => .pure) (.bind DiskInode.alike_ofOpen fun inode => ?_))
  exact .ite (.bind (alike_inSpace DiskInode.blind_lengthen) fun _ => DiskInode.alike_write)
    (.bind .pure fun _ => DiskInode.alike_write)

theorem alike_create {length : Nat} {isDir : Bool} :
    SectorM.Alike (Redenied first second) (create length isDir) (create length isDir) := by
  refine .bind (alike_onSpace FreeMap.blind_allocate) fun given => ?_
  cases given with
  | none => exact .report
  | some sector =>
      refine .bind (.attempt (alike_inSpace DiskInode.blind_create)) fun result => ?_
      cases result with
      | ok _ => exact .pure
      | error error => exact .bind (alike_onSpace FreeMap.blind_release) fun _ => .report

theorem alike_remove : SectorM.Alike (Redenied first second) (remove sector) (remove sector) :=
  .bind alike_openAt fun _ => .bind (alike_update fun _ _ => rfl) fun _ => alike_close

/-! ### Any call but denying and allowing -/

variable {array : SectorArray} {ledger : Ledger} {rules : Discipline}

/-- Opening a live file tells the inode that is listed, or one that was never given out. -/
theorem openAt_tells {array : PartialArray} (healthy : Healthy array volume ledger) (live : ledger.Live sector) :
    (Files.openAt sector : SectorM Volume InodeRef).Ensures array volume
      (fun ref _ _ => volume.table.find? sector = some ref ∨
        (volume.table.find? sector = none ∧ volume.table.inodes.size ≤ ref.index))
      fun _ _ _ => True := by
  have inside : sector ∈ array := healthy.sane.tended.parted.known sector live.1
  have valid : (array.inode sector).isValid = true := (healthy.sane.tended.parted.whole sector live.1).valid
  unfold Files.openAt
  rw [Files.ensures_inTable, InodeTable.openAt, SectorM.ensures_bind, SectorM.ensures_get]
  cases found : volume.table.find? sector with
  | some ref =>
      have here : ⟨sector, ref⟩ ∈ ledger.holders := (healthy.sane.kept.listed ⟨sector, ref⟩).mp found
      dsimp only
      rw [SectorM.ensures_bind, SectorM.ensures_perform]
      exact (InodeTable.reopen_ensures healthy.sane.kept here).mono (fun _ _ _ => SectorM.ensures_pure.mpr (.inl rfl))
        fun _ _ _ => trivial
  | none =>
      dsimp only
      rw [SectorM.ensures_bind, DiskInode.ensures_load, SectorM.ensures_ite, if_pos valid, SectorM.ensures_bind,
        SectorM.ensures_modifyGet, SectorM.ensures_bind, SectorM.ensures_emit, SectorM.ensures_pure]
      exact ⟨inside, .inr ⟨rfl, Nat.le_refl _⟩⟩

/-- The free map is stored alike if writing to its file is denied in both volumes or in neither. -/
theorem storeFreeMap_joined (healthy : Healthy (.ofWhole array) volume ledger)
    (same : Redenied first second volume volume')
    (even : ∀ ref, volume.table.find? freeMapSector = some ref → ((first ref).toNat = 0 ↔ (second ref).toNat = 0))
    (log log' : Array Event) :
    SectorM.Joined (Redenied first second) (storeFreeMap.run.result (array, volume) log)
      (storeFreeMap.run.result (array, volume') log') := by
  refine (alike_openAt array volume volume' log log' same).bind fun ref told => ?_
  have here : (first ref).toNat = 0 ↔ (second ref).toNat = 0 := by
    have blind : (Files.openAt freeMapSector : SectorM Volume InodeRef).Blind False := Files.blind_openAt
    obtain ⟨told', _, _, _, ran, -, -, -, tells⟩ :=
      blind.twins_plain SectorArray.keeps (openAt_tells healthy healthy.live) rfl log log
    rw [ran] at told
    obtain rfl : told' = .ok ref := told
    rcases tells with listed | ⟨-, unknown⟩
    · exact even ref listed
    · obtain ⟨none, none'⟩ := same.table.none_of_unknown unknown
      rw [none, none']
  refine .get_bind fun volume volume' same => ?_
  rw [same.space]
  exact .bind (alike_write here) fun _ => .bind alike_close fun _ => .require

namespace Call

/-- Whether a call changes how often writing is denied. -/
def Redenies : Call α → Prop
  | denyWrite _ | allowWrite _ => True
  | _ => False

/-- **A call runs alike over volumes that differ in the counts of denials alone**, if the files that it
writes to are denied in both or in neither. -/
theorem joined (healthy : Healthy (.ofWhole array) volume ledger) (same : Redenied first second volume volume')
    (call : Call α) (permitted : call.Permitted rules ledger) (other : ¬call.Redenies)
    (even : ∀ file ref, call.Touches file → volume.table.find? file = some ref →
      ((first ref).toNat = 0 ↔ (second ref).toNat = 0))
    (log log' : Array Event) :
    SectorM.Joined (Redenied first second) (call.perform.run.result (array, volume) log)
      (call.perform.run.result (array, volume') log') := by
  cases call with
  | create length isDir => exact alike_create array volume volume' log log' same
  | openAt sector => exact alike_openAt array volume volume' log log' same
  | openRoot => exact alike_openAt array volume volume' log log' same
  | reopen holder => exact alike_reopen array volume volume' log log' same
  | close holder => exact alike_close array volume volume' log log' same
  | read holder buffer offset => exact alike_readInto array volume volume' log log' same
  | write holder source offset =>
      have listed := (healthy.sane.kept.listed holder).mpr permitted.1
      exact alike_write (even holder.sector holder.ref rfl listed) array volume volume' log log' same
  | stat holder => exact alike_stat array volume volume' log log' same
  | denyWrite holder => exact absurd trivial other
  | allowWrite holder => exact absurd trivial other
  | discard holder => exact alike_update (fun _ _ => rfl) array volume volume' log log' same
  | remove sector => exact alike_remove array volume volume' log log' same
  | sync =>
      have stored := storeFreeMap_joined healthy same (fun ref => even freeMapSector ref rfl) log log'
      exact stored.bind fun _ _ => .syncStore

end Call

end Volume

end InodeVolume
