import InodeVolume.InodeTable
import InodeVolume.Proofs.Layout.Stored

/-!
# The table of open inodes and those who hold them

A `Ledger` is what callers know without looking inside: which files there are, which of them were
removed or have had writing denied, and who has what open. `Kept` says that the table of open inodes
agrees with a ledger.

* **ledgers** — opening, closing and removing, as they change a ledger;
* **agreement** — `Kept.change` carries it over a change of one open inode;
* **operations** — each operation of the table changes the ledger as its name says.
-/

namespace InodeVolume

/-! ## Ledgers -/

/-- An opener of a file: the sector of the inode, and the inode in memory. -/
structure Holder where
  sector : SectorId
  ref : InodeRef
deriving DecidableEq

/-- What callers did to the files of a volume. A file is removed, or *doomed*, before it is gone: it
stays until its last holder is closed. -/
structure Ledger where
  files : List SectorId
  doomed : List SectorId
  denied : List SectorId
  holders : List Holder

namespace Ledger

/-- A file is there and not removed. -/
def Live (ledger : Ledger) (sector : SectorId) : Prop := sector ∈ ledger.files ∧ sector ∉ ledger.doomed

instance (ledger : Ledger) (sector : SectorId) : Decidable (ledger.Live sector) :=
  inferInstanceAs (Decidable (_ ∧ _))

/-- One more holder. -/
def opened (holder : Holder) (ledger : Ledger) : Ledger :=
  { ledger with holders := holder :: ledger.holders }

/-- A file was made. -/
def created (sector : SectorId) (ledger : Ledger) : Ledger :=
  { ledger with files := sector :: ledger.files }

/-- A file was removed and is not gone yet. -/
def doom (sector : SectorId) (ledger : Ledger) : Ledger :=
  { ledger with doomed := sector :: ledger.doomed }

/-- Writing to a file was denied. -/
def deny (sector : SectorId) (ledger : Ledger) : Ledger :=
  { ledger with denied := sector :: ledger.denied }

/-- A file is gone. -/
def dropped (sector : SectorId) (ledger : Ledger) : Ledger :=
  { ledger with
    files := ledger.files.filter (· ≠ sector)
    doomed := ledger.doomed.filter (· ≠ sector) }

/-- One holder less. With the last one of a doomed file the file is gone. -/
def closed (holder : Holder) (ledger : Ledger) : Ledger :=
  let rest := { ledger with holders := ledger.holders.erase holder }
  if holder ∉ rest.holders ∧ holder.sector ∈ ledger.doomed then rest.dropped holder.sector else rest

variable {ledger : Ledger} {holder other : Holder} {sector : SectorId}

@[simp] theorem mem_files_dropped {file : SectorId} :
    file ∈ (ledger.dropped sector).files ↔ file ∈ ledger.files ∧ file ≠ sector := by
  simp [dropped]

@[simp] theorem mem_doomed_dropped {file : SectorId} :
    file ∈ (ledger.dropped sector).doomed ↔ file ∈ ledger.doomed ∧ file ≠ sector := by
  simp [dropped]

@[simp] theorem holders_closed : (ledger.closed holder).holders = ledger.holders.erase holder := by
  unfold closed
  dsimp only
  split <;> rfl

@[simp] theorem denied_closed : (ledger.closed holder).denied = ledger.denied := by
  unfold closed
  dsimp only
  split <;> rfl

/-- Other files are as doomed as they were. -/
theorem mem_doomed_closed {file : SectorId} (different : file ≠ holder.sector) :
    file ∈ (ledger.closed holder).doomed ↔ file ∈ ledger.doomed := by
  unfold closed
  dsimp only
  split
  · simp [different]
  · exact Iff.rfl

theorem closed_of_open (still : holder ∈ ledger.holders.erase holder) :
    ledger.closed holder = { ledger with holders := ledger.holders.erase holder } :=
  if_neg fun gone => gone.1 still

theorem closed_of_not_doomed (spared : holder.sector ∉ ledger.doomed) :
    ledger.closed holder = { ledger with holders := ledger.holders.erase holder } :=
  if_neg fun gone => spared gone.2

theorem closed_of_doomed (last : holder ∉ ledger.holders.erase holder) (doomed : holder.sector ∈ ledger.doomed) :
    ledger.closed holder =
      dropped holder.sector { ledger with holders := ledger.holders.erase holder } :=
  if_pos ⟨last, doomed⟩

/-- To open a file and to close it again is to do nothing. -/
theorem closed_opened (spared : holder.sector ∉ ledger.doomed) :
    (ledger.opened holder).closed holder = ledger := by
  rw [closed_of_not_doomed (show holder.sector ∉ (ledger.opened holder).doomed from spared), opened,
    List.erase_cons_head]

/-! ### How many hold a file -/

/-- How many hold a file. -/
def holding (ledger : Ledger) (sector : SectorId) : Nat := ledger.holders.countP (·.sector = sector)

theorem holding_pos : 0 < ledger.holding sector ↔ ∃ holder ∈ ledger.holders, holder.sector = sector := by
  simp [holding, List.countP_pos_iff]

theorem holding_eq_zero : ledger.holding sector = 0 ↔ ∀ holder ∈ ledger.holders, holder.sector ≠ sector := by
  simp [holding, List.countP_eq_zero]

@[simp] theorem holding_opened : (ledger.opened holder).holding holder.sector = ledger.holding holder.sector + 1 := by
  simp [holding, opened]

/-- A file has as many holders as the counter of an open inode can tell. -/
def Crowded (ledger : Ledger) (sector : SectorId) : Prop := UInt32.size ≤ ledger.holding sector + 1

instance (ledger : Ledger) (sector : SectorId) : Decidable (ledger.Crowded sector) :=
  inferInstanceAs (Decidable (_ ≤ _))

theorem not_crowded_of_nobody (nobody : ledger.holders = []) : ¬ledger.Crowded sector := by
  rw [Crowded, holding, nobody, List.countP_nil]
  decide

end Ledger

/-! ## The table -/

namespace InodeTable

variable {table : InodeTable} {ref other : InodeRef} {sector : SectorId} {f : OpenInode → OpenInode}

theorem inode_update (known : ref.index < table.inodes.size) :
    (table.update ref f).inode other = if other = ref then f (table.inode ref) else table.inode other := by
  simp only [inode, update, Array.getElem?_modify]
  by_cases same : other = ref
  · subst same
    simp [known]
  · have apart : ref.index ≠ other.index := by
      intro equal
      cases ref
      cases other
      exact same (congrArg InodeRef.mk equal.symm)
    rw [if_neg apart, if_neg same]

@[simp] theorem find?_update : (table.update ref f).find? sector = table.find? sector := rfl

@[simp] theorem size_update : (table.update ref f).inodes.size = table.inodes.size := by
  simp [update]

theorem find?_insert (file : SectorId) :
    (table.insert sector).2.find? file =
      if file = sector then some (table.insert sector).1 else table.find? file := by
  show List.lookup file ((sector, _) :: table.listed) = _
  rw [List.lookup_cons]
  by_cases same : file = sector
  · rw [if_pos same, beq_iff_eq.mpr same]
    rfl
  · rw [if_neg same, beq_eq_false_iff_ne.mpr same]
    rfl

theorem inode_insert_self : (table.insert sector).2.inode (table.insert sector).1 = ⟨sector, 1, 0, false⟩ := by
  simp [insert, inode]

theorem inode_insert_of_lt (known : ref.index < table.inodes.size) :
    (table.insert sector).2.inode ref = table.inode ref := by
  simp [insert, inode, Array.getElem?_push, Nat.ne_of_lt known]

theorem find?_erase (file : SectorId) :
    (table.erase sector).find? file = if file = sector then none else table.find? file := by
  simp only [find?, erase]
  induction table.listed with
  | nil => simp
  | cons entry rest ih =>
      obtain ⟨key, number⟩ := entry
      by_cases dropped : key = sector
      · subst dropped
        rw [List.filter_cons_of_neg (by simp), ih, List.lookup_cons]
        by_cases same : file = key
        · rw [if_pos same, if_pos same]
        · rw [if_neg same, if_neg same, beq_eq_false_iff_ne.mpr same]
      · rw [List.filter_cons_of_pos (by simpa using dropped), List.lookup_cons, ih, List.lookup_cons]
        by_cases same : file = key
        · subst same
          rw [beq_self_eq_true, if_neg dropped, if_neg dropped]
        · rw [beq_eq_false_iff_ne.mpr same]

@[simp] theorem inode_erase : (table.erase sector).inode ref = table.inode ref := rfl

end InodeTable

/-! ## Counters -/

/-- A counter that is not at its end counts one more. -/
theorem toNat_next {count : UInt32} (room : count.toNat + 1 < UInt32.size) : (count + 1).toNat = count.toNat + 1 := by
  rw [UInt32.toNat_add]
  exact Nat.mod_eq_of_lt room

/-- A counter that is not zero counts one less. -/
theorem toNat_previous {count : UInt32} (some_count : 0 < count.toNat) : (count - 1).toNat = count.toNat - 1 :=
  UInt32.toNat_sub_of_le _ _ (UInt32.le_iff_toNat_le.mpr some_count)

/-! ## Agreement -/

/-- What an open inode says agrees with a ledger that has a holder for it. -/
structure Minds (inode : OpenInode) (ledger : Ledger) (holder : Holder) : Prop where
  sector : inode.sector = holder.sector
  count : inode.openCount = ledger.holders.count holder
  removed : inode.removed = decide (holder.sector ∈ ledger.doomed)
  free : holder.sector ∉ ledger.denied → inode.denyCount = 0

/-- The table lists the inodes that holders are for, and each agrees with the ledger. -/
structure Kept (table : InodeTable) (ledger : Ledger) : Prop where
  listed : ∀ holder : Holder, table.find? holder.sector = some holder.ref ↔ holder ∈ ledger.holders
  known : ∀ holder ∈ ledger.holders, holder.ref.index < table.inodes.size
  minds : ∀ holder ∈ ledger.holders, Minds (table.inode holder.ref) ledger holder

namespace Kept

variable {table : InodeTable} {ledger ledger' : Ledger} {holder other : Holder}

theorem eq_of_sector (kept : Kept table ledger) (here : holder ∈ ledger.holders)
    (there : other ∈ ledger.holders) (same : holder.sector = other.sector) : holder = other := by
  have one := (kept.listed holder).mpr here
  have two := (kept.listed other).mpr there
  rw [same, two] at one
  cases holder
  cases other
  cases same
  cases one
  rfl

/-- An inode in memory is on one sector. -/
theorem eq_of_ref (kept : Kept table ledger) (here : holder ∈ ledger.holders)
    (there : other ∈ ledger.holders) (same : holder.ref = other.ref) : holder = other := by
  refine kept.eq_of_sector here there ?_
  rw [← (kept.minds holder here).sector, same, (kept.minds other there).sector]

/-- One open inode changes, and the holders are for the same inodes. -/
theorem change (kept : Kept table ledger) (here : holder ∈ ledger.holders) {f : OpenInode → OpenInode}
    (holders : ∀ other, other ∈ ledger'.holders ↔ other ∈ ledger.holders)
    (changed : Minds (f (table.inode holder.ref)) ledger' holder)
    (others : ∀ other ∈ ledger.holders, other.sector ≠ holder.sector →
      Minds (table.inode other.ref) ledger' other) :
    Kept (table.update holder.ref f) ledger' := by
  refine ⟨?_, ?_, ?_⟩
  · intro other
    rw [InodeTable.find?_update, holders]
    exact kept.listed other
  · intro other there
    rw [InodeTable.size_update]
    exact kept.known other ((holders other).mp there)
  · intro other there
    have before := (holders other).mp there
    rw [InodeTable.inode_update (kept.known holder here)]
    by_cases same : other.ref = holder.ref
    · obtain rfl := kept.eq_of_ref before here same
      rw [if_pos rfl]
      exact changed
    · rw [if_neg same]
      refine others other before fun equal => same ?_
      rw [kept.eq_of_sector before here equal]

/-- What the ledger says of other files is not looked at. -/
theorem minds_of_ne (kept : Kept table ledger) (there : other ∈ ledger.holders)
    (count : ledger'.holders.count other = ledger.holders.count other)
    (doomed : other.sector ∈ ledger'.doomed ↔ other.sector ∈ ledger.doomed)
    (denied : other.sector ∉ ledger'.denied → other.sector ∉ ledger.denied) :
    Minds (table.inode other.ref) ledger' other := by
  have minds := kept.minds other there
  refine ⟨minds.sector, minds.count.trans count.symm, ?_, fun free => minds.free (denied free)⟩
  rw [minds.removed]
  exact decide_eq_decide.mpr doomed.symm

/-! ### How many hold a file -/

/-- All handles on a sector are the same. -/
theorem holding_eq (kept : Kept table ledger) (here : holder ∈ ledger.holders) :
    ledger.holding holder.sector = ledger.holders.count holder := by
  refine List.countP_congr fun other there => ?_
  rw [decide_eq_true_iff, beq_iff_eq]
  exact ⟨kept.eq_of_sector there here, congrArg Holder.sector⟩

theorem still_iff (kept : Kept table ledger) (here : holder ∈ ledger.holders) :
    holder ∈ ledger.holders.erase holder ↔ ledger.holding holder.sector ≠ 1 := by
  have some_holder := List.count_pos_iff.mpr here
  rw [kept.holding_eq here, ← List.count_pos_iff, List.count_erase_self]
  omega

/-- No file has more holders than its counter can tell. -/
theorem holding_lt (kept : Kept table ledger) (sector : SectorId) : ledger.holding sector < UInt32.size := by
  rcases Nat.eq_zero_or_pos (ledger.holding sector) with nobody | someone
  · rw [nobody]
    decide
  · obtain ⟨holder, here, rfl⟩ := Ledger.holding_pos.mp someone
    rw [kept.holding_eq here, ← (kept.minds holder here).count]
    exact UInt32.toNat_lt_size _

/-- Nobody was let in where it was crowded. -/
theorem not_opened_crowded (kept : Kept table (ledger.opened holder)) : ¬ledger.Crowded holder.sector := by
  have below := kept.holding_lt holder.sector
  rw [Ledger.holding_opened] at below
  exact Nat.not_le.mpr below

/-! ### Operations -/

/-- One more holder on an inode that is open. -/
theorem reopen (kept : Kept table ledger) (here : holder ∈ ledger.holders) {opens : UInt32}
    (next : opens.toNat = (table.inode holder.ref).openCount + 1) :
    Kept (table.update holder.ref fun inode => { inode with opens }) (ledger.opened holder) := by
  have minds := kept.minds holder here
  refine kept.change here ?_ ⟨minds.sector, ?_, minds.removed, minds.free⟩ ?_
  · intro other
    refine List.mem_cons.trans ⟨?_, .inr⟩
    rintro (rfl | there)
    · exact here
    · exact there
  · show opens.toNat = (holder :: ledger.holders).count holder
    rw [next, List.count_cons_self, minds.count]
  · intro other there different
    refine kept.minds_of_ne there ?_ Iff.rfl id
    exact List.count_cons_of_ne fun same => different (congrArg Holder.sector same).symm

/-- A holder on an inode that was not open. -/
theorem insert (kept : Kept table ledger) {sector : SectorId} (absent : table.find? sector = none)
    (spared : sector ∉ ledger.doomed) :
    Kept (table.insert sector).2 (ledger.opened ⟨sector, (table.insert sector).1⟩) := by
  have new : ∀ ref, (⟨sector, ref⟩ : Holder) ∉ ledger.holders := by
    intro ref there
    have found := (kept.listed _).mpr there
    rw [absent] at found
    cases found
  have others : ∀ other ∈ ledger.holders, other.sector ≠ sector := by
    rintro ⟨place, ref⟩ there rfl
    exact new ref there
  have number : (table.insert sector).1.index = table.inodes.size := rfl
  have size : (table.insert sector).2.inodes.size = table.inodes.size + 1 := Array.size_push _
  refine ⟨?_, ?_, ?_⟩
  · intro other
    rw [InodeTable.find?_insert]
    refine Iff.trans ?_ List.mem_cons.symm
    by_cases same : other.sector = sector
    · rw [if_pos same]
      constructor
      · intro found
        refine .inl ?_
        cases other
        cases same
        cases found
        rfl
      · rintro (rfl | there)
        · rfl
        · exact absurd same (others other there)
    · rw [if_neg same, kept.listed]
      exact ⟨.inr, fun h => h.resolve_left fun equal => same (congrArg Holder.sector equal)⟩
  · intro other there
    rw [size]
    rcases List.mem_cons.mp there with rfl | before
    · rw [number]
      omega
    · have := kept.known other before
      omega
  · intro other there
    rcases List.mem_cons.mp there with rfl | before
    · rw [InodeTable.inode_insert_self]
      refine ⟨rfl, ?_, ?_, fun _ => rfl⟩
      · show 1 = List.count _ (_ :: ledger.holders)
        rw [List.count_cons_self, List.count_eq_zero_of_not_mem (new _)]
      · exact (decide_eq_false spared).symm
    · rw [InodeTable.inode_insert_of_lt (kept.known other before)]
      refine kept.minds_of_ne before ?_ Iff.rfl id
      exact List.count_cons_of_ne fun same => others other before (congrArg Holder.sector same).symm

/-- One holder less on an inode that stays open. -/
theorem leave (kept : Kept table ledger) (still : holder ∈ ledger.holders.erase holder) :
    Kept (table.update holder.ref fun inode => { inode with opens := inode.opens - 1 })
      (ledger.closed holder) := by
  have here := List.mem_of_mem_erase still
  have minds := kept.minds holder here
  have some_holder : 0 < (table.inode holder.ref).openCount := by
    rw [minds.count]
    exact List.count_pos_iff.mpr here
  rw [Ledger.closed_of_open still]
  refine kept.change here ?_ ⟨minds.sector, ?_, minds.removed, minds.free⟩ ?_
  · intro other
    by_cases same : other = holder
    · subst same
      exact iff_of_true still here
    · exact List.mem_erase_of_ne same
  · have fewer : ((table.inode holder.ref).opens - 1).toNat = (table.inode holder.ref).openCount - 1 :=
      toNat_previous some_holder
    rw [List.count_erase_self, ← minds.count]
    exact fewer
  · intro other there different
    refine kept.minds_of_ne there ?_ Iff.rfl id
    exact List.count_erase_of_ne fun same => different (congrArg Holder.sector same)

/-- The last holder on an inode is closed. -/
theorem withdraw (kept : Kept table ledger) (here : holder ∈ ledger.holders)
    (last : holder ∉ ledger.holders.erase holder) {f : OpenInode → OpenInode} :
    Kept ((table.update holder.ref f).erase holder.sector) (ledger.closed holder) := by
  have rest : ∀ {other}, other ∈ (ledger.closed holder).holders →
      other ∈ ledger.holders ∧ other.sector ≠ holder.sector := by
    intro other there
    rw [Ledger.holders_closed] at there
    have before := List.mem_of_mem_erase there
    exact ⟨before, fun same => last (kept.eq_of_sector before here same ▸ there)⟩
  refine ⟨?_, ?_, ?_⟩
  · intro other
    rw [InodeTable.find?_erase, InodeTable.find?_update]
    by_cases same : other.sector = holder.sector
    · rw [if_pos same]
      refine iff_of_false (fun found => by cases found) fun there => (rest there).2 same
    · rw [if_neg same, kept.listed, Ledger.holders_closed]
      exact (List.mem_erase_of_ne fun equal => same (congrArg Holder.sector equal)).symm
  · intro other there
    show other.ref.index < (table.update holder.ref f).inodes.size
    rw [InodeTable.size_update]
    exact kept.known other (rest there).1
  · intro other there
    obtain ⟨before, different⟩ := rest there
    rw [InodeTable.inode_erase, InodeTable.inode_update (kept.known holder here), if_neg]
    · refine kept.minds_of_ne before ?_ (Ledger.mem_doomed_closed different) ?_
      · rw [Ledger.holders_closed]
        exact List.count_erase_of_ne fun same => different (congrArg Holder.sector same)
      · rw [Ledger.denied_closed]
        exact id
    · exact fun same => different (congrArg Holder.sector (kept.eq_of_ref before here same))

/-- A file is marked for removal. -/
theorem remove (kept : Kept table ledger) (here : holder ∈ ledger.holders) :
    Kept (table.update holder.ref fun inode => { inode with removed := true })
      (ledger.doom holder.sector) := by
  have minds := kept.minds holder here
  refine kept.change here (fun _ => Iff.rfl) ⟨minds.sector, minds.count, ?_, minds.free⟩ ?_
  · exact (decide_eq_true List.mem_cons_self).symm
  · intro other there different
    exact kept.minds_of_ne there rfl (List.mem_cons.trans (or_iff_right different)) id

/-- A ledger may tell of more denials than there are. -/
theorem denied (kept : Kept table ledger) (sector : SectorId) : Kept table (ledger.deny sector) :=
  ⟨kept.listed, kept.known, fun _ there =>
    kept.minds_of_ne there rfl Iff.rfl fun free denied => free (List.mem_cons_of_mem _ denied)⟩

/-- Writing is denied once more. -/
theorem deny (kept : Kept table ledger) (here : holder ∈ ledger.holders) (denials : UInt32) :
    Kept (table.update holder.ref fun inode => { inode with denials }) (ledger.deny holder.sector) := by
  have minds := kept.minds holder here
  refine kept.change here (fun _ => Iff.rfl) ⟨minds.sector, minds.count, minds.removed, ?_⟩ ?_
  · exact fun free => absurd List.mem_cons_self free
  · exact fun other there _ => (kept.denied holder.sector).minds other there

/-- A denial is taken back. -/
theorem allow (kept : Kept table ledger) (here : holder ∈ ledger.holders)
    (some_denial : 0 < (table.inode holder.ref).denyCount) :
    Kept (table.update holder.ref fun inode => { inode with denials := inode.denials - 1 }) ledger := by
  have minds := kept.minds holder here
  refine kept.change here (fun _ => Iff.rfl) ⟨minds.sector, minds.count, minds.removed, ?_⟩ ?_
  · exact fun free => absurd (minds.free free) (Nat.ne_of_gt some_denial)
  · exact fun other there _ => kept.minds other there

end Kept

namespace InodeTable

variable {array : PartialArray} {table : InodeTable} {ledger : Ledger} {holder : Holder} {sector : SectorId}

/-- An inode that is open is opened once more, unless its counter is at its end. -/
theorem reopen_ensures (kept : Kept table ledger) (here : holder ∈ ledger.holders) :
    (reopen holder.ref).Ensures table (fun _ table' => Kept table' (ledger.opened holder))
      fun failure table' => failure = .fault .overflow ∧ ledger.Crowded holder.sector ∧ table' = table := by
  refine .bind (Action.ensures_get.mpr (.bind (Action.ensures_checkedNext.mpr ?_)))
  split
  · rename_i room
    exact Action.ensures_modify.mpr (kept.reopen here (toNat_next room))
  · rename_i full
    refine ⟨rfl, ?_, rfl⟩
    rw [Ledger.Crowded, kept.holding_eq here, ← (kept.minds holder here).count]
    exact Nat.le_of_not_lt full

/-- Opening finds the inode that is open on the sector, or makes one. A doomed file must be open. -/
theorem openAt_ensures (kept : Kept table ledger) (inside : sector ∈ array)
    (valid : (array.inode sector).isValid = true)
    (attended : sector ∈ ledger.doomed → ∃ holder ∈ ledger.holders, holder.sector = sector) :
    (openAt sector).Ensures array table
      (fun ref array' table' => array' = array ∧ Kept table' (ledger.opened ⟨sector, ref⟩))
      fun failure array' table' => failure = .fault .overflow ∧ ledger.Crowded sector ∧
        array' = array ∧ table' = table := by
  rw [openAt, SectorM.ensures_bind, SectorM.ensures_get]
  cases found : table.find? sector with
  | some ref =>
      have here : ⟨sector, ref⟩ ∈ ledger.holders := (kept.listed ⟨sector, ref⟩).mp found
      dsimp only
      rw [SectorM.ensures_bind, SectorM.ensures_perform]
      refine (reopen_ensures kept here).mono ?_ ?_
      · exact fun _ table' opened => SectorM.ensures_pure.mpr ⟨rfl, opened⟩
      · exact fun _ _ failed => ⟨failed.1, failed.2.1, rfl, failed.2.2⟩
  | none =>
      have spared : sector ∉ ledger.doomed := by
        intro doomed
        obtain ⟨holder, there, rfl⟩ := attended doomed
        have listed := (kept.listed holder).mpr there
        rw [found] at listed
        cases listed
      dsimp only
      rw [SectorM.ensures_bind, DiskInode.ensures_load, SectorM.ensures_ite, if_pos valid, SectorM.ensures_bind,
        SectorM.ensures_modifyGet, SectorM.ensures_bind, SectorM.ensures_emit, SectorM.ensures_pure]
      exact ⟨inside, rfl, kept.insert found spared⟩

/-- Leaving tells the last holder what is to become of the file. -/
theorem leave_ensures (kept : Kept table ledger) (here : holder ∈ ledger.holders) :
    (leave holder.ref).Ensures table
      (fun last table' => match last with
        | none => holder ∈ ledger.holders.erase holder ∧ Kept table' (ledger.closed holder)
        | some inode => holder ∉ ledger.holders.erase holder ∧ inode.sector = holder.sector ∧
            inode.removed = decide (holder.sector ∈ ledger.doomed) ∧
            Kept (table'.erase holder.sector) (ledger.closed holder))
      fun _ _ => False := by
  have minds := kept.minds holder here
  have positive : 0 < ledger.holders.count holder := List.count_pos_iff.mpr here
  unfold leave
  refine .bind (Action.ensures_get.mpr (.bind (Action.ensures_require.mpr ?_)))
  rw [if_pos (by rw [minds.count]; exact decide_eq_true positive)]
  refine .bind (Action.ensures_modify.mpr (Action.ensures_pure.mpr ?_))
  by_cases still : holder ∈ ledger.holders.erase holder
  · have more : 1 < (table.inode holder.ref).openCount := by
      have left := List.count_pos_iff.mpr still
      rw [List.count_erase_self] at left
      rw [minds.count]
      omega
    rw [if_pos more]
    exact ⟨still, kept.leave still⟩
  · have last : ¬1 < (table.inode holder.ref).openCount := by
      have left := mt List.count_pos_iff.mp still
      rw [List.count_erase_self] at left
      rw [minds.count]
      omega
    rw [if_neg last]
    exact ⟨still, minds.sector, minds.removed, kept.withdraw here still⟩

end InodeTable

end InodeVolume
