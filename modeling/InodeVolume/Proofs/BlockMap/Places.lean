import InodeVolume.BlockMap
import InodeVolume.Proofs.BlockMap.Spots
import InodeVolume.Proofs.Checked
import InodeVolume.Proofs.Space.Lawful

/-!
# Offsets and places

Every byte that a block map can reach has a place in it, and every place within the tables is that of the bytes of
one logical sector.

* **accesses** — `SectorM.InBounds`: a computation asks for no range past the end of a sector, and its own actions
  hit no fault. The allocator it works with may have faults of its own;
* **tables** — `inBounds_lookup` and `inBounds_register`: at a place within the tables every access is in bounds, and
  by `Location.inTables_of_inBounds` the tables are no longer than that takes;
* **both ways** — `locate_exact`: offsets and places are known from one another, and what is located is within the
  tables.
-/

namespace InodeVolume

/-! ## Accesses -/

/-- The failure is an error that is reported, or a fault of `faulty`. -/
def Failure.Confined (faulty : Fault → Prop) : Failure → Prop
  | .reported _ => True
  | .fault why => faulty why

namespace SectorM

variable {σ α β : Type} {faulty : Fault → Prop}

/-- Each range that the computation asks for lies within a sector, and its actions hit no fault but those of
`faulty`, whatever states they work on and whatever the sectors hold. -/
def InBounds (faulty : Fault → Prop) : SectorM σ α → Prop
  | done _ => True
  | act step next =>
    ∀ s, step.Ensures s (fun b _ => (next b).InBounds faulty) fun failure _ => failure.Confined faulty
  | read _ offset length next => offset + length ≤ sectorSize ∧ ∀ block, (next block).InBounds faulty
  | write _ offset bytes next => offset + bytes.size ≤ sectorSize ∧ (next ()).InBounds faulty
  | sync next => (next ()).InBounds faulty
  | shutdown next => (next ()).InBounds faulty

namespace InBounds

theorem pure {a : α} : (pure a : SectorM σ α).InBounds faulty := trivial

theorem bind {first : SectorM σ β} {next : β → SectorM σ α} (bounded : first.InBounds faulty)
    (rest : ∀ b, (next b).InBounds faulty) : (first >>= next).InBounds faulty := by
  show (first.bind next).InBounds faulty
  induction first with
  | done b => exact rest b
  | act step next ih => exact fun s => (bounded s).mono (fun b _ here => ih b here) fun _ _ failed => failed
  | read sector offset length next ih => exact ⟨bounded.1, fun block => ih block (bounded.2 block)⟩
  | write sector offset bytes next ih => exact ⟨bounded.1, ih () bounded.2⟩
  | sync next ih => exact ih () bounded
  | shutdown next ih => exact ih () bounded

theorem perform {step : Action σ α}
    (confined : ∀ s, step.Ensures s (fun _ _ => True) fun failure _ => failure.Confined faulty) :
    (perform step).InBounds faulty := confined

/-- The rest is asked about such values only as the action gives. -/
theorem perform_bind_iff {step : Action σ β} {next : β → SectorM σ α} :
    (SectorM.perform step >>= next).InBounds faulty ↔
      ∀ s, step.Ensures s (fun b _ => (next b).InBounds faulty) fun failure _ => failure.Confined faulty := Iff.rfl

theorem ofExcept_bind {result : Except Failure β} {next : β → SectorM σ α} {b : β} (told : result = .ok b)
    (rest : (next b).InBounds faulty) : (SectorM.perform (Action.ofExcept result) >>= next).InBounds faulty := by
  subst told
  exact perform_bind_iff.mpr fun _ => Action.ensures_ofExcept.mpr rest

theorem get : (get : SectorM σ σ).InBounds faulty := perform fun _ => Action.ensures_get.mpr trivial

theorem modify {f : σ → σ} : (modify f : SectorM σ PUnit).InBounds faulty :=
  perform fun _ => Action.ensures_modify.mpr trivial

theorem report {error : Error} : (report error : SectorM σ α).InBounds faulty :=
  perform fun _ => Action.ensures_report.mpr trivial

theorem fault_iff {why : Fault} [Nonempty σ] : (fault why : SectorM σ α).InBounds faulty ↔ faulty why := by
  constructor
  · intro bounded
    obtain ⟨s⟩ := ‹Nonempty σ›
    exact Action.ensures_fault.mp (bounded s)
  · exact fun may => perform fun _ => Action.ensures_fault.mpr may

theorem readAt {sector : SectorId} {offset length : Nat} (fits : offset + length ≤ sectorSize) :
    (readAt sector offset length : SectorM σ (Block length)).InBounds faulty := ⟨fits, fun _ => trivial⟩

theorem writeAt {sector : SectorId} {offset : Nat} {bytes : Bytes} (fits : offset + bytes.size ≤ sectorSize) :
    (writeAt sector offset bytes : SectorM σ Unit).InBounds faulty := ⟨fits, trivial⟩

theorem ite {p : Prop} [Decidable p] {yes no : SectorM σ α} (first : yes.InBounds faulty)
    (second : no.InBounds faulty) : (if p then yes else no).InBounds faulty := by
  split
  · exact first
  · exact second

end InBounds

end SectorM

/-! ## Index blocks -/

namespace IndexBlock

variable {σ α : Type} {faulty : Fault → Prop} {sector : SectorId} {i : Nat}

theorem inBounds_load : (load sector : SectorM σ IndexBlock).InBounds faulty :=
  .bind (.readAt (Nat.le_of_eq (Nat.zero_add _))) fun _ => .pure

theorem inBounds_store {block : IndexBlock} : (block.store sector : SectorM σ Unit).InBounds faulty :=
  .writeAt (Block.fits_whole _)

theorem inBounds_entry (low : i < indexCount) : (entry sector i : SectorM σ SectorId).InBounds faulty := by
  refine SectorM.InBounds.perform_bind_iff.mpr fun _ => Action.ensures_checkedMul.mpr ?_
  rw [if_pos (word_lt low)]
  exact .bind (.readAt (word_fits_iff.mpr low)) fun _ => .pure

/-- An entry that is read in bounds is one of the block, and may be any word. -/
theorem lt_of_inBounds_entry {next : SectorId → SectorM Unit α}
    (bounded : (entry sector i >>= next).InBounds fun _ => False) :
    i < indexCount ∧ ∀ word, (next ⟨Words.ofBytes word⟩).InBounds fun _ => False := by
  have read := Action.ensures_checkedMul.mp (bounded ())
  split at read
  · exact ⟨word_fits_iff.mp read.1, read.2⟩
  · exact read.elim

end IndexBlock

/-! ## Looking up -/

section LookingUp

variable {σ : Type} {faulty : Fault → Prop} {place : Location}

/-- A place within the tables is looked up in bounds. -/
theorem DiskInode.inBounds_lookup (inTables : place.InTables) (inode : DiskInode) :
    (inode.lookup place : SectorM σ SectorId).InBounds faulty := by
  cases place with
  | direct i =>
      rw [lookup, dif_pos (show i < directCount from inTables)]
      exact .pure
  | indirect i => exact .ite (IndexBlock.inBounds_entry inTables) .pure
  | doubleIndirect q i =>
      refine .ite (.bind (IndexBlock.inBounds_entry inTables.1) fun block => ?_) .pure
      exact .ite (IndexBlock.inBounds_entry inTables.2) .pure
  | outOfRange => exact .pure

/-- A place that is looked up in bounds in every inode is within the tables. -/
theorem Location.inTables_of_inBounds
    (bounded : ∀ inode : DiskInode, (inode.lookup place : SectorM Unit SectorId).InBounds fun _ => False) :
    place.InTables := by
  -- where the place is on a lower tier, an inode that has the index blocks leads there
  cases place with
  | direct i =>
      by_contra past
      have faults := bounded default
      rw [DiskInode.lookup, dif_neg (show ¬i < directCount from past)] at faults
      exact SectorM.InBounds.fault_iff.mp faults
  | indirect i =>
      have read := bounded { (default : DiskInode) with indirect := .ofNat 1 }
      rw [DiskInode.lookup, if_pos (by decide), ← bind_pure (IndexBlock.entry _ _)] at read
      exact (IndexBlock.lt_of_inBounds_entry read).1
  | doubleIndirect q i =>
      have outer := bounded { (default : DiskInode) with doubleIndirect := .ofNat 1 }
      rw [DiskInode.lookup, if_pos (by decide)] at outer
      obtain ⟨lowOuter, rest⟩ := IndexBlock.lt_of_inBounds_entry outer
      have inner := rest (.ofFn fun _ => 1)
      rw [if_pos (by decide), ← bind_pure (IndexBlock.entry _ _)] at inner
      exact ⟨lowOuter, (IndexBlock.lt_of_inBounds_entry inner).1⟩
  | outOfRange => trivial

end LookingUp

/-! ## Entering a sector -/

/-- Requests for one sector hit no fault but those of `faulty`. -/
def Allocator.Confined (A : Type) [Allocator A] (faulty : Fault → Prop) : Prop :=
  ∀ space : A, (Allocator.allocate 1).Ensures space (fun _ _ => True) fun failure _ => failure.Confined faulty

theorem FreeMap.confined : Allocator.Confined FreeMap fun _ => False :=
  fun map => (allocate_cases map).mono (fun _ _ _ => trivial) fun _ _ failed => failed.elim

namespace Draft

variable {A : Type} [Allocator A] {faulty : Fault → Prop} {place : Location} {q i : Nat}

theorem inBounds_take (confined : Allocator.Confined A faulty) :
    (take : SectorM (Draft A) SectorId).InBounds faulty := by
  refine .bind (.perform fun draft => Action.ensures_within.mpr (confined draft.space)) fun given => ?_
  cases given with
  | some sector => exact .pure
  | none => exact .report

theorem inBounds_outerBlock (confined : Allocator.Confined A faulty) :
    (outerBlock : SectorM (Draft A) IndexBlock).InBounds faulty := by
  refine .bind .get fun draft => .ite IndexBlock.inBounds_load ?_
  exact .bind (inBounds_take confined) fun fresh => .bind .modify fun _ =>
    .bind IndexBlock.inBounds_store fun _ => .pure

theorem inBounds_registerIndirect (confined : Allocator.Confined A faulty) (low : i < indexCount)
    (sector : SectorId) : (registerIndirect sector i : SectorM (Draft A) Unit).InBounds faulty := by
  have enter : ∀ block : IndexBlock, (do
      let block ← SectorM.perform (Action.ofExcept (block.replace i sector))
      block.store (← get).inode.indirect : SectorM (Draft A) Unit).InBounds faulty := fun _ =>
    .ofExcept_bind (dif_pos low) (.bind .get fun _ => IndexBlock.inBounds_store)
  refine .bind .get fun draft => .ite ?_ ?_
  · exact .bind IndexBlock.inBounds_load enter
  · exact .bind (inBounds_take confined) fun fresh => .bind .modify fun _ => enter IndexBlock.empty

theorem inBounds_registerDouble (confined : Allocator.Confined A faulty) (lowOuter : q < indexCount)
    (lowInner : i < indexCount) (sector : SectorId) :
    (registerDouble sector q i : SectorM (Draft A) Unit).InBounds faulty := by
  have enter : ∀ outer inner : IndexBlock, ∀ innerSector, (do
      let inner ← SectorM.perform (Action.ofExcept (inner.replace i sector))
      outer.store (← get).inode.doubleIndirect
      inner.store innerSector : SectorM (Draft A) Unit).InBounds faulty := fun _ _ _ =>
    .ofExcept_bind (dif_pos lowInner)
      (.bind .get fun _ => .bind IndexBlock.inBounds_store fun _ => IndexBlock.inBounds_store)
  refine .bind (inBounds_outerBlock confined) fun outer => .ofExcept_bind (dif_pos lowOuter) (.ite ?_ ?_)
  · exact .bind IndexBlock.inBounds_load fun inner => enter outer inner _
  · exact .bind (inBounds_take confined) fun fresh => .ofExcept_bind (dif_pos lowOuter) (enter _ IndexBlock.empty fresh)

/-- A sector is entered in bounds at a place within the tables. -/
theorem inBounds_register (confined : Allocator.Confined A faulty) (inTables : place.InTables) (sector : SectorId) :
    (register sector place : SectorM (Draft A) Unit).InBounds faulty := by
  cases place with
  | direct i =>
      rw [register, registerDirect, dif_pos (show i < directCount from inTables)]
      exact .modify
  | indirect i => exact inBounds_registerIndirect confined inTables sector
  | doubleIndirect q i => exact inBounds_registerDouble confined inTables.1 inTables.2 sector
  | outOfRange => exact .report

end Draft

/-! ## Both ways -/

/-- The number of a place in a block map is a word. -/
theorem Location.sectorIndex_of_lt {place : Location} {k : Nat} (number : place.sectorIndex? = some k)
    (small : k < maxFileSectors) : place.sectorIndex = .ok (some k) := by
  have limit : maxFileSectors < wordLimit := by decide
  rw [sectorIndex, number]
  exact if_pos (Nat.lt_trans small limit)

/-- What is known of the place of byte `offset`: it is found without a sum or difference that is no word, it is that
of the byte's logical sector and of no other, and no access at it is out of bounds. -/
structure Located (offset : Nat) : Prop where
  words : Checked.locate? offset = some (locate offset)
  outOfRange_iff : locate offset = .outOfRange ↔ maxFileSectors ≤ offset / sectorSize
  inTables : (locate offset).InTables
  sectorIndex : (locate offset).sectorIndex =
    .ok (if offset / sectorSize < maxFileSectors then some (offset / sectorSize) else none)
  same_iff : ∀ other, locate offset = locate other ∧ locate offset ≠ .outOfRange ↔
    offset / sectorSize = other / sectorSize ∧ offset / sectorSize < maxFileSectors
  lookup : ∀ {σ : Type} (inode : DiskInode),
    (inode.lookup (locate offset) : SectorM σ SectorId).InBounds fun _ => False
  register : ∀ {A : Type} [Allocator A] {faulty : Fault → Prop}, Allocator.Confined A faulty → ∀ sector,
    (Draft.register sector (locate offset) : SectorM (Draft A) Unit).InBounds faulty

theorem located (offset : Nat) : Located offset where
  words := Checked.locate?_eq offset
  outOfRange_iff := Location.ofSectorIndex_eq_outOfRange_iff
  inTables := Location.inTables_ofSectorIndex _
  sectorIndex := by
    split
    · rename_i small
      exact Location.sectorIndex_of_lt (Location.sectorIndex?_ofSectorIndex small) small
    · rename_i past
      rw [locate, Location.ofSectorIndex_of_ge (Nat.le_of_not_lt past)]
      rfl
  same_iff := by
    intro other
    rw [locate, locate, ne_eq, Location.ofSectorIndex_eq_outOfRange_iff, Nat.not_le]
    exact and_congr_left fun small => Location.ofSectorIndex_inj small
  lookup := DiskInode.inBounds_lookup (Location.inTables_ofSectorIndex _)
  register confined := Draft.inBounds_register confined (Location.inTables_ofSectorIndex _)

/-- **Offsets and places** are known from one another: a place within the tables is that of all bytes of the logical
sector with its number, and of no others. The tables are those whose places are looked up in bounds. -/
theorem locate_exact :
    (∀ offset, Located offset) ∧
    (∀ place : Location, place.InTables → place ≠ .outOfRange → ∃ k, place.sectorIndex = .ok (some k) ∧
      ∀ r < sectorSize, k * sectorSize + r < wordLimit ∧ locate (k * sectorSize + r) = place) ∧
    ∀ place : Location, place.InTables ↔
      ∀ inode : DiskInode, (inode.lookup place : SectorM Unit SectorId).InBounds fun _ => False := by
  refine ⟨located, fun place inTables known => ?_, fun place => ⟨DiskInode.inBounds_lookup, Location.inTables_of_inBounds⟩⟩
  obtain ⟨k, number⟩ := Location.exists_sectorIndex? known
  obtain ⟨there, small⟩ := Location.ofSectorIndex_eq inTables number
  refine ⟨k, Location.sectorIndex_of_lt number small, fun r low => ⟨?_, (locate_add low).trans there⟩⟩
  calc k * sectorSize + r < (k + 1) * sectorSize := by rw [Nat.succ_mul]; omega
    _ ≤ maxFileSectors * sectorSize := Nat.mul_le_mul_right _ small
    _ < wordLimit := by decide

/-- The last place of a block map, the last byte at it, and the last offset that is a word. -/
theorem locate_exact_last :
    ((Location.doubleIndirect 127 127).InTables ∧ Location.doubleIndirect 127 127 ≠ .outOfRange ∧
      ∃ k, (Location.doubleIndirect 127 127).sectorIndex = .ok (some k) ∧
        ∀ r < sectorSize, k * sectorSize + r < wordLimit ∧
          locate (k * sectorSize + r) = .doubleIndirect 127 127) ∧
    (locate (maxFileSectors * sectorSize - 1) = .doubleIndirect 127 127 ∧ Located (maxFileSectors * sectorSize - 1) ∧
      (Draft.register (.ofNat 40) (locate (maxFileSectors * sectorSize - 1)) :
        SectorM (Draft FreeMap) Unit).InBounds fun _ => False) ∧
    (locate (wordLimit - 1) = .outOfRange ∧ Located (wordLimit - 1)) := by
  have inTables : (Location.doubleIndirect 127 127).InTables := ⟨by decide, by decide⟩
  have known : Location.doubleIndirect 127 127 ≠ .outOfRange := nofun
  have last := locate_exact.1 (maxFileSectors * sectorSize - 1)
  exact ⟨⟨inTables, known, locate_exact.2.1 _ inTables known⟩,
    ⟨by decide, last, last.register FreeMap.confined _⟩, ⟨by decide, locate_exact.1 _⟩⟩

end InodeVolume
