import InodeVolume.Proofs.Alike
import InodeVolume.Proofs.BlockMap.Raised
import InodeVolume.Proofs.Volume.Blind

/-!
# Growing in steps

A file that is grown to one length and then to a longer one comes to the same as a file that is grown to
the longer one at once: the same sectors in the same places, and the same free map.

* **lengths** — `Remeasured`: drafts that differ in the length of the file alone. Nothing below `grow`
  looks at it (`alike_extend`), and what `extend` is told of lengths goes to the log;
* **plain arrays** — `grow_result` tells a growth as a loop that raises the length at its end, so that
  the loops of two growths add up to that of one (`grow_split`);
* **stores** — `Reached.grow_in_steps`: so it is for an inode raised from nothing over any store.
-/

namespace InodeVolume

namespace Draft

/-! ## Lengths -/

section Lengths

/-- Drafts that differ in the length of the file alone. -/
def Remeasured (draft draft' : Draft FreeMap) : Prop :=
  ∃ length, draft' = ⟨{ draft.inode with length }, draft.space⟩

theorem Remeasured.refl (draft : Draft FreeMap) : Remeasured draft draft := ⟨draft.inode.length, rfl⟩

variable {sector : SectorId} {σ : Type} {related : σ → σ → Prop} {old new old' new' index : Nat}

theorem alike_load : SectorM.Alike related (IndexBlock.load sector) (IndexBlock.load sector) :=
  .bind .readAt fun _ => .pure

theorem alike_store {block : IndexBlock} : SectorM.Alike related (block.store sector) (block.store sector) := .writeAt

theorem alike_entry : SectorM.Alike related (IndexBlock.entry sector index) (IndexBlock.entry sector index) := by
  refine .bind ?_ fun _ => .bind .readAt fun _ => .pure
  unfold Action.checkedMul
  split
  · exact .pure
  · exact .fault

theorem alike_lookup {inode : DiskInode} {place : Location} :
    SectorM.Alike related (inode.lookup place) (inode.lookup place) := by
  cases place with
  | direct index => exact .dite (fun _ => .pure) fun _ => .fault
  | indirect index => exact .ite alike_entry .pure
  | doubleIndirect outer inner => exact .ite (.bind alike_entry fun _ => .ite alike_entry .pure) .pure
  | outOfRange => exact .pure

theorem lookup_remeasured (inode : DiskInode) (length : UInt32) (place : Location) :
    (({ inode with length } : DiskInode).lookup place : SectorM σ SectorId) = inode.lookup place := by
  cases place <;> rfl

theorem alike_change {f : DiskInode → DiskInode}
    (commutes : ∀ (inode : DiskInode) length, f { inode with length } = { f inode with length }) :
    SectorM.Alike Remeasured (change f) (change f) := by
  refine .modify ?_
  rintro draft _ ⟨length, rfl⟩
  refine ⟨length, ?_⟩
  show (⟨f { draft.inode with length }, draft.space⟩ : Draft FreeMap) = _
  rw [commutes]

theorem alike_onSpace {α : Type} {act : Action FreeMap α} (blind : act.Blind) :
    SectorM.Alike Remeasured (SectorM.perform (onSpace act)) (SectorM.perform (onSpace act)) := by
  refine .within blind ?_ ?_
  · rintro draft _ ⟨length, rfl⟩
    rfl
  · rintro draft _ space ⟨length, rfl⟩
    exact ⟨length, rfl⟩

theorem alike_request : SectorM.Alike Remeasured request request := alike_onSpace FreeMap.blind_allocate

theorem alike_giveBack : SectorM.Alike Remeasured (giveBack sector) (giveBack sector) :=
  alike_onSpace FreeMap.blind_release

theorem alike_take : SectorM.Alike Remeasured take take := by
  refine .bind alike_request fun given => ?_
  cases given with
  | some sector => exact .pure
  | none => exact .report

theorem alike_registerDirect :
    SectorM.Alike Remeasured (registerDirect sector index) (registerDirect sector index) :=
  .dite (fun _ => alike_change fun _ _ => rfl) fun _ => .fault

theorem alike_registerIndirect :
    SectorM.Alike Remeasured (registerIndirect sector index) (registerIndirect sector index) := by
  -- both branches go on alike, with the block that was loaded or an empty one
  have entered : ∀ block : IndexBlock, SectorM.Alike Remeasured
      (do let block ← SectorM.perform (Action.ofExcept (block.replace index sector))
          block.store (← get).inode.indirect)
      (do let block ← SectorM.perform (Action.ofExcept (block.replace index sector))
          block.store (← get).inode.indirect) := by
    refine fun block => .bind .ofExcept fun _ => .get_bind ?_
    rintro draft _ ⟨length, rfl⟩
    exact alike_store
  refine .get_bind ?_
  rintro draft _ ⟨length, rfl⟩
  exact .ite (.bind alike_load entered)
    (.bind alike_take fun _ => .bind (alike_change fun _ _ => rfl) fun _ => entered _)

theorem alike_outerBlock : SectorM.Alike Remeasured outerBlock outerBlock := by
  refine .get_bind ?_
  rintro draft _ ⟨length, rfl⟩
  exact .ite alike_load (.bind alike_take fun _ => .bind (alike_change fun _ _ => rfl) fun _ =>
    .bind alike_store fun _ => .pure)

theorem alike_registerDouble {outer inner : Nat} :
    SectorM.Alike Remeasured (registerDouble sector outer inner) (registerDouble sector outer inner) := by
  refine .bind alike_outerBlock fun block => .bind .ofExcept fun held => ?_
  have entered : ∀ found : IndexBlock × SectorId × IndexBlock, SectorM.Alike Remeasured
      (do let inner ← SectorM.perform (Action.ofExcept (found.2.2.replace inner sector))
          found.1.store (← get).inode.doubleIndirect
          inner.store found.2.1)
      (do let inner ← SectorM.perform (Action.ofExcept (found.2.2.replace inner sector))
          found.1.store (← get).inode.doubleIndirect
          inner.store found.2.1) := by
    refine fun found => .bind .ofExcept fun _ => .get_bind ?_
    rintro draft _ ⟨length, rfl⟩
    exact .bind alike_store fun _ => alike_store
  exact .ite (.bind alike_load fun _ => .bind .pure entered)
    (.bind alike_take fun _ => .bind .ofExcept fun _ => .bind .pure entered)

theorem alike_register {place : Location} :
    SectorM.Alike Remeasured (register sector place) (register sector place) := by
  cases place with
  | direct index => exact alike_registerDirect
  | indirect index => exact alike_registerIndirect
  | doubleIndirect outer inner => exact alike_registerDouble
  | outOfRange => exact .report

/-- One turn of a growth does the same whatever it is told of lengths. -/
theorem alike_extend : SectorM.Alike Remeasured (extend old new index) (extend old' new' index) := by
  refine .get_bind ?_
  rintro draft _ ⟨length, rfl⟩
  have looked : SectorM.Alike Remeasured (draft.inode.lookup (locate (index * sectorSize)))
      (({ draft.inode with length } : DiskInode).lookup (locate (index * sectorSize))) := by
    rw [lookup_remeasured]
    exact alike_lookup
  refine .bind looked fun _ => .ite .pure (.bind alike_request fun given => ?_)
  cases given with
  | none => exact .bind .emit fun _ => .report
  | some sector =>
      refine .bind (.attempt alike_register) fun result => ?_
      cases result with
      | ok _ => exact .writeAt
      | error error => exact .bind alike_giveBack fun _ => .bind .emit fun _ => .report

end Lengths

/-! ## Over a plain array -/

section Plain

variable {array : SectorArray} {draft : Draft FreeMap} {a b new : Nat} {log : Array Event}

/-- The turns of a growth from one logical sector up to another; the lengths are for the log. -/
def turns (old new first last : Nat) : SectorM (Draft FreeMap) Unit :=
  (List.range' first (last - first)).forM (extend old new)

theorem turns_append {old first middle last : Nat} (before : first ≤ middle) (after : middle ≤ last) :
    turns old new first last = turns old new first middle >>= fun _ => turns old new middle last := by
  have whole : List.range' first (last - first) =
      List.range' first (middle - first) ++ List.range' middle (last - middle) := by
    have joined := List.range'_append_1 (s := first) (m := middle - first) (n := last - middle)
    rw [Nat.add_sub_cancel' before] at joined
    rw [joined]
    congr 1
    omega
  rw [turns, whole]
  exact List.forM_append

/-- A draft with another length of its file. -/
def measured (draft : Draft FreeMap) (new : Nat) : Draft FreeMap :=
  ⟨{ draft.inode with length := UInt32.ofNat new }, draft.space⟩

theorem measured_self : draft.measured draft.inode.size = draft := by
  have same : UInt32.ofNat draft.inode.size = draft.inode.length := UInt32.ofNat_toNat
  rw [measured, same]

/-- Once both lengths are set alike, the drafts are the same. -/
theorem Remeasured.measured_eq {draft' : Draft FreeMap} (same : Remeasured draft draft') :
    draft.measured new = draft'.measured new := by
  obtain ⟨length, rfl⟩ := same
  rfl

/-- What a growth makes of how its turns ended. -/
def finish (new : Nat) : Except Failure PUnit × SectorArray × Draft FreeMap →
    Except Failure Unit × SectorArray × Draft FreeMap
  | (.ok _, (array, draft)) => (.ok (), (array, draft.measured new))
  | (.error failure, world) => (.error failure, world)

/-- A growth is its turns, and raises the length at the end. -/
theorem grow_result (short : draft.inode.size ≤ new) (addressed : dataSectors new ≤ maxFileSectors) :
    (grow new).run.result (array, draft) log =
      finish new ((turns draft.inode.size new (dataSectors draft.inode.size) (dataSectors new)).run.result
        (array, draft) log) := by
  show Action.result (SectorM.run (if new ≤ draft.inode.size then pure () else
    if dataSectors new > maxFileSectors then _ else _)) _ _ = _
  rcases Nat.lt_or_eq_of_le short with longer | rfl
  · rw [if_neg (Nat.not_le.mpr longer), if_neg (Nat.not_lt.mpr addressed), SectorM.run_bind]
    obtain ⟨log', ran⟩ := Action.result_bind
      (turns draft.inode.size new (dataSectors draft.inode.size) (dataSectors new)).run
      (fun _ => (SectorM.emit (.grew draft.inode.size new) >>= fun _ =>
        change fun inode => { inode with length := UInt32.ofNat new }).run) (array, draft) log
    refine ran.trans ?_
    rcases (turns draft.inode.size new (dataSectors draft.inode.size) (dataSectors new)).run.result
      (array, draft) log with ⟨told, sectors, draft'⟩
    cases told <;> rfl
  -- there are no turns where the length stays as it is
  · rw [if_pos (Nat.le_refl _), turns, Nat.sub_self]
    show (Except.ok (), (array, draft)) = (Except.ok (), (array, draft.measured draft.inode.size))
    rw [measured_self]

theorem grow_result_of_beyond (short : draft.inode.size < new) (beyond : maxFileSectors < dataSectors new) :
    (grow new).run.result (array, draft) log = (.error (.reported .outOfRange), (array, draft)) := by
  show Action.result (SectorM.run (if new ≤ draft.inode.size then pure () else
    if dataSectors new > maxFileSectors then _ else _)) _ _ = _
  rw [if_neg (Nat.not_le.mpr short), if_pos beyond]
  rfl

theorem alike_turns {old old' new' first last : Nat} :
    SectorM.Alike Remeasured (turns old new first last) (turns old' new' first last) := .forM fun _ => alike_extend

/-- Turns that come to the same but for the length make a growth that ends the same. -/
theorem finish_iff {ended ended' : Except Failure PUnit × SectorArray × Draft FreeMap}
    (joined : SectorM.Joined Remeasured ended ended') (after : SectorArray × Draft FreeMap) :
    finish new ended = (.ok (), after) ↔ finish new ended' = (.ok (), after) := by
  obtain ⟨told, sectors, draft⟩ := ended
  obtain ⟨told', sectors', draft'⟩ := ended'
  obtain ⟨rfl, rfl, same⟩ := joined
  cases told with
  | ok _ =>
      simp only [finish]
      rw [same.measured_eq]
  | error failure => simp [finish]

/-- Of two lengths the one that can be addressed is the shorter. -/
theorem lt_of_addressed (addressed : dataSectors a ≤ maxFileSectors) (beyond : maxFileSectors < dataSectors b) :
    a < b := by
  apply Nat.lt_of_not_le
  intro longer
  exact Nat.not_lt.mpr (Nat.le_trans (dataSectors_mono longer) addressed) beyond

/-- Grows to one length first and, if that succeeds, on to another. -/
def growTwice (a b : Nat) : SectorM (Draft FreeMap) Unit := do
  grow a
  grow b

/-- The second growth begins where the turns of the first have ended, with the length raised. -/
theorem growTwice_result (array : SectorArray) (log : Array Event) (b : Nat) (short : draft.inode.size ≤ a)
    (addressed : dataSectors a ≤ maxFileSectors) :
    ∃ later, (growTwice a b).run.result (array, draft) log =
      match (turns draft.inode.size a (dataSectors draft.inode.size) (dataSectors a)).run.result
        (array, draft) log with
      | (.ok _, (array', draft')) => (grow b).run.result (array', draft'.measured a) later
      | (.error failure, world) => (.error failure, world) := by
  obtain ⟨later, stepped⟩ := Action.result_bind (grow a).run (fun _ => (grow b).run) (array, draft) log
  refine ⟨later, ?_⟩
  rw [growTwice, SectorM.run_bind, stepped, grow_result short addressed]
  rcases (turns draft.inode.size a (dataSectors draft.inode.size) (dataSectors a)).run.result
    (array, draft) log with ⟨told, sectors, mid⟩
  cases told <;> rfl

/-- The second of two growths is refused a length that cannot be addressed, if the first one is not. -/
theorem growTwice_of_beyond (fits : dataSectors draft.inode.size ≤ maxFileSectors) (short : draft.inode.size ≤ a)
    (beyond : maxFileSectors < dataSectors b) (after : SectorArray × Draft FreeMap) :
    (growTwice a b).run.result (array, draft) log ≠ (.ok (), after) := by
  by_cases addressed : dataSectors a ≤ maxFileSectors
  · have shorter : a < b := lt_of_addressed addressed beyond
    obtain ⟨later, ran⟩ := growTwice_result array log b short addressed
    rw [ran]
    rcases (turns draft.inode.size a (dataSectors draft.inode.size) (dataSectors a)).run.result
      (array, draft) log with ⟨told, sectors, mid⟩
    cases told with
    | error failure => exact nofun
    | ok _ =>
        have size : (mid.measured a).inode.size = a := size_of_addressed addressed
        show (grow b).run.result (sectors, mid.measured a) later ≠ _
        rw [grow_result_of_beyond (size.trans_lt shorter) beyond]
        exact nofun
  · have beyond' : maxFileSectors < dataSectors a := Nat.lt_of_not_le addressed
    obtain ⟨later, stepped⟩ := Action.result_bind (grow a).run (fun _ => (grow b).run) (array, draft) log
    rw [growTwice, SectorM.run_bind, stepped, grow_result_of_beyond (lt_of_addressed fits beyond') beyond']
    exact nofun

/-- **One growth succeeds exactly when two in a row do, and leaves what they leave.** -/
theorem grow_split (fits : dataSectors draft.inode.size ≤ maxFileSectors) (short : draft.inode.size ≤ a)
    (more : a ≤ b) (after : SectorArray × Draft FreeMap) :
    (grow b).run.result (array, draft) log = (.ok (), after) ↔
      (growTwice a b).run.result (array, draft) log = (.ok (), after) := by
  by_cases addressed : dataSectors b ≤ maxFileSectors
  · have addressed' : dataSectors a ≤ maxFileSectors := Nat.le_trans (dataSectors_mono more) addressed
    obtain ⟨later, stepped⟩ := growTwice_result array log b short addressed'
    rw [stepped, grow_result (Nat.le_trans short more) addressed,
      turns_append (dataSectors_mono short) (dataSectors_mono more), SectorM.run_bind]
    obtain ⟨later', ran⟩ := Action.result_bind
      (turns draft.inode.size b (dataSectors draft.inode.size) (dataSectors a)).run
      (fun _ => (turns draft.inode.size b (dataSectors a) (dataSectors b)).run) (array, draft) log
    rw [ran]
    -- the first turns of the one growth and those of the shorter growth differ in what they log
    have first : SectorM.Joined Remeasured
        ((turns draft.inode.size b (dataSectors draft.inode.size) (dataSectors a)).run.result (array, draft) log)
        ((turns draft.inode.size a (dataSectors draft.inode.size) (dataSectors a)).run.result (array, draft) log) :=
      alike_turns array draft draft log log (.refl draft)
    revert first
    rcases (turns draft.inode.size b (dataSectors draft.inode.size) (dataSectors a)).run.result
      (array, draft) log with ⟨told, sectors, once⟩
    rcases (turns draft.inode.size a (dataSectors draft.inode.size) (dataSectors a)).run.result
      (array, draft) log with ⟨told', sectors', mid⟩
    rintro ⟨rfl, rfl, length, rfl⟩
    cases told with
    | error failure => simp [finish]
    | ok _ =>
        -- the turns that are left begin at drafts of two lengths
        show finish b ((turns draft.inode.size b (dataSectors a) (dataSectors b)).run.result
          (sectors, once) later') = _ ↔ (grow b).run.result (sectors, once.measured a) later = _
        have size : (once.measured a).inode.size = a := size_of_addressed addressed'
        rw [grow_result (Nat.le_of_eq size |>.trans more) addressed, size]
        exact finish_iff (alike_turns sectors once (once.measured a) later' later ⟨_, rfl⟩) after
  · have beyond : maxFileSectors < dataSectors b := Nat.lt_of_not_le addressed
    rw [grow_result_of_beyond (lt_of_addressed fits beyond) beyond]
    exact iff_of_false nofun (growTwice_of_beyond fits short beyond after)

end Plain

/-! ## Over any store -/

section Stores

open LawfulStore (Shows)

variable {S : Type} [SectorStore S] [LawfulStore S] {store : S} {whole : SectorArray} {isDir : Bool}
  {map : FreeMap} {before : S × Draft FreeMap} {a b : Nat}

/-- **Growing in steps is growing at once.** From whatever a new inode became, growing it to `b` succeeds
exactly when growing it to `a` and then to `b` does, and the two leave the same inode, the same free map and
the same contents. -/
theorem Reached.grow_in_steps (shown : Shows store whole) (sound : map.Sound) (sectors : map.sectors = whole.count)
    (reached : Reached (store, ⟨.empty isDir, map⟩) before) (short : before.2.inode.size ≤ a) (more : a ≤ b)
    (log log' : Array Event) :
    let once := (Draft.grow b : SectorM (Draft FreeMap) Unit).run.result before log
    let twice := (growTwice a b).run.result before log'
    (once.1 = .ok () ↔ twice.1 = .ok ()) ∧
      (once.1 = .ok () → once.2.2 = twice.2.2 ∧ ∃ whole', Shows once.2.1 whole' ∧ Shows twice.2.1 whole') := by
  obtain ⟨store', draft⟩ := before
  obtain ⟨whole', m, shown', raised⟩ := reached.raised shown sound sectors
  have both : (growTwice a b).Ensures (.ofWhole whole') draft (fun _ _ _ => True) fun _ _ _ => True := by
    rw [growTwice, SectorM.ensures_bind]
    refine (raised.grow_ensures a).mono ?_ fun _ _ _ _ => trivial
    rintro _ array' draft' ⟨m', raised'⟩
    exact (raised'.grow_ensures b).mono (fun _ _ _ _ => trivial) fun _ _ _ _ => trivial
  -- the store and a plain array with what it shows are grown alike
  have blind : (Draft.grow b : SectorM (Draft FreeMap) Unit).Blind False := blind_grow
  have blind' : (growTwice a b).Blind False := .bind blind_grow fun _ => blind_grow
  obtain ⟨told, one, store₁, whole₁, ran, plain, shown₁, -⟩ :=
    blind.twins_plain LawfulStore.keeps (raised.grow_ensures b) shown' log #[]
  obtain ⟨told', two, store₂, whole₂, ran', plain', shown₂, -⟩ :=
    blind'.twins_plain LawfulStore.keeps both shown' log' #[]
  have fits : dataSectors draft.inode.size ≤ maxFileSectors := Nat.le_trans raised.covered raised.ready.mapped.bound
  have split : ∀ after, (Draft.grow b).run.result (whole', draft) #[] = (.ok (), after) ↔
      (growTwice a b).run.result (whole', draft) #[] = (.ok (), after) := grow_split fits short more
  rw [plain, plain'] at split
  simp only [ran, ran']
  constructor
  · constructor
    · rintro rfl
      exact (Prod.mk.inj ((split _).mp rfl)).1
    · rintro rfl
      exact (Prod.mk.inj ((split _).mpr rfl)).1
  · rintro rfl
    obtain ⟨-, same⟩ := Prod.mk.inj ((split _).mp rfl)
    obtain ⟨rfl, rfl⟩ := Prod.mk.inj same
    exact ⟨rfl, _, shown₁, shown₂⟩

/-- The second of two growths comes to where an index block is needed. -/
theorem grow_in_steps_newborn :
    let before := ((⟨.zeroed 140, .empty 2 (by decide)⟩ : CachedDisk RamDisk 2), newborn 140)
    let once := (Draft.grow 63488 : SectorM (Draft FreeMap) Unit).run.result before #[]
    let twice := (growTwice 700 63488).run.result before #[]
    once.1 = .ok () ∧ twice.1 = .ok () ∧ once.2.2 = twice.2.2 ∧
      ∃ whole, Shows once.2.1 whole ∧ Shows twice.2.1 whole := by
  have shown : Shows (⟨.zeroed 140, .empty 2 (by decide)⟩ : CachedDisk RamDisk 2) ⟨(RamDisk.zeroed 140).sectors⟩ :=
    CachedDisk.Shows.fresh trivial (by decide)
  have raised := raised_newborn (show 0 < 140 by decide) (by decide)
  have room := room_newborn (show 0 < 140 by decide) (by decide) (show 0 < dataSectors 63488 by decide) (by decide)
  obtain ⟨after, log, grown⟩ := raised.exists_grown shown (show 0 < 63488 by decide) (by decide) room #[]
  have reached : Reached ((⟨.zeroed 140, .empty 2 (by decide)⟩ : CachedDisk RamDisk 2),
      ⟨.empty false, (newborn 140).space⟩) (⟨.zeroed 140, .empty 2 (by decide)⟩, newborn 140) := .start
  have stepped := Reached.grow_in_steps shown (sound_newborn (show 0 < 140 by decide) (by decide))
    (sectors_newborn (show 0 < 140 by decide) (by decide)) reached (Nat.zero_le 700) (show 700 ≤ 63488 by decide)
    #[] #[]
  have succeeds : ((Draft.grow 63488 : SectorM (Draft FreeMap) Unit).run.result
      ((⟨.zeroed 140, .empty 2 (by decide)⟩ : CachedDisk RamDisk 2), newborn 140) #[]).1 = .ok () := by
    rw [Action.result, grown]
  exact ⟨succeeds, stepped.1.mp succeeds, stepped.2 succeeds⟩

end Stores

end Draft

end InodeVolume
