import InodeVolume.Proofs.BlockMap.Covered

/-!
# Entering a sector, whatever allocates

`register` changes one place of a block map and no other, over every allocator that hands out sectors
which are used for nothing yet, each of them once. Nothing else is known of the allocator here, not even
what it does with the sectors that are given back.

* **allocators** — `Handed` is what an allocator has handed out on the way to a state, and `Provides`
  what is asked of it: good sectors, and no failure but a fault;
* **registering** — `register_redirects`, one lemma for each tier. Where there is no space, at most one
  sector was taken, and it has become the outer index block;
* **point update** — `register_point`: what callers see of it, by looking up and in the sectors of a
  store.
-/

namespace InodeVolume

namespace Draft

variable {A : Type} [Allocator A] {array array' : PartialArray} {draft draft' : Draft A} {inode : DiskInode}
  {place : Location} {start : A} {taken : List SectorId} {faulty : Fault → Prop}

/-! ## What an allocator hands out -/

/-- The sectors that an allocator has handed out on the way from one state to another, the last one first. -/
inductive Handed (start : A) : List SectorId → A → Prop where
  | start : Handed start [] start
  | refused {taken : List SectorId} {space after : A} {log log' : Array Event} (handed : Handed start taken space)
      (run : (Allocator.allocate 1).run ⟨space, log⟩ = .ok none ⟨after, log'⟩) : Handed start taken after
  | given {taken : List SectorId} {space after : A} {sector : SectorId} {log log' : Array Event}
      (handed : Handed start taken space)
      (run : (Allocator.allocate 1).run ⟨space, log⟩ = .ok (some sector) ⟨after, log'⟩) :
      Handed start (sector :: taken) after

/-- Whatever an allocator has handed out can become an index block of a map. It fails with a fault if it
fails, and `faulty` tells which faults those are. -/
structure Provides (faulty : Fault → Prop) (array : PartialArray) (inode : DiskInode) (start : A) : Prop where
  once : ∀ {taken space}, Handed start taken space → taken.Nodup
  allocated : ∀ {taken space}, Handed start taken space → ∀ sector ∈ taken, sector.isAllocated = true
  inside : ∀ {taken space}, Handed start taken space → ∀ sector ∈ taken, sector ∈ array
  unused : ∀ {taken space}, Handed start taken space → ∀ sector ∈ taken, ∀ spot, array.held inode spot ≠ sector
  faults : ∀ {taken space}, Handed start taken space →
    (Allocator.allocate 1).Ensures space (fun _ _ => True) fun failure _ => ∃ why, faulty why ∧ failure = .fault why

theorem Handed.allocate {space : A} (handed : Handed start taken space) :
    (Allocator.allocate 1).Ensures space
      (fun given after => match given with
        | none => Handed start taken after
        | some sector => Handed start (sector :: taken) after)
      fun _ _ => True := by
  intro log
  cases ended : (Allocator.allocate 1).run ⟨space, log⟩ with
  | ok given after =>
      cases given with
      | none => exact handed.refused ended
      | some sector => exact handed.given ended
  | error failure after => trivial

theorem take_hands (draft : Draft A) (provides : Provides faulty array inode start)
    (handed : Handed start taken draft.space) :
    (take : SectorM (Draft A) SectorId).Ensures array' draft
      (fun sector array'' draft' => array'' = array' ∧ draft'.inode = draft.inode ∧
        Handed start (sector :: taken) draft'.space)
      fun failure array'' draft' => (∃ why, faulty why ∧ failure = .fault why) ∨
        failure = .reported .noSpace ∧ array'' = array' ∧ draft'.inode = draft.inode ∧
          Handed start taken draft'.space := by
  unfold take request
  rw [SectorM.ensures_bind, SectorM.ensures_perform, onSpace, Action.ensures_within]
  refine (handed.allocate.and (provides.faults handed)).mono ?_ ?_
  · rintro given after ⟨answer, _⟩
    cases given with
    | none => exact SectorM.ensures_report.mpr (.inr ⟨rfl, rfl, rfl, answer⟩)
    | some sector => exact SectorM.ensures_pure.mpr ⟨rfl, rfl, answer⟩
  · rintro failure after ⟨_, faulted⟩
    exact .inl faulted

/-- How an attempt to enter a sector fails: by a fault of the allocator, or without space, and then the map
leads where it led, and a sector that was taken is the outer index block. -/
def Failed (faulty : Fault → Prop) (start : A) (place : Location) (array : PartialArray) (inode : DiskInode)
    (failure : Failure) (array' : PartialArray) (draft' : Draft A) : Prop :=
  (∃ why, faulty why ∧ failure = .fault why) ∨ failure = .reported .noSpace ∧
    Redirected place array (array.find inode) array' draft'.inode ∧
    ∃ taken, Handed start taken draft'.space ∧ ∀ sector ∈ taken, draft'.inode.doubleIndirect = sector

/-! ## Registering -/

omit [Allocator A] in
theorem registerDirect_redirects (shaped : Shaped array draft.inode) {i : Nat} (low : i < directCount)
    (sector : SectorId) :
    (registerDirect sector i : SectorM (Draft A) Unit).Ensures array draft
      (fun _ array' draft' => Redirected (.direct i) array
        (fun other => if other = .direct i then sector else array.find draft.inode other) array' draft'.inode)
      fun _ _ _ => False := by
  unfold registerDirect
  rw [dif_pos low, change, SectorM.ensures_modify]
  exact enterDirect_redirected low shaped sector

theorem registerIndirect_redirects (shaped : Shaped array draft.inode)
    (provides : Provides faulty array draft.inode draft.space) {i : Nat} (low : i < indexCount) (sector : SectorId) :
    (registerIndirect sector i : SectorM (Draft A) Unit).Ensures array draft
      (fun _ array' draft' => Redirected (.indirect i) array
        (fun other => if other = .indirect i then sector else array.find draft.inode other) array' draft'.inode)
      (Failed faulty draft.space (.indirect i) array draft.inode) := by
  obtain ⟨inode, space⟩ := draft
  unfold registerIndirect
  rw [SectorM.ensures_bind, SectorM.ensures_get]
  dsimp only
  rw [SectorM.ensures_ite]
  split
  · rename_i holds
    have has : array.Has inode.indirect := shaped.has .single trivial holds
    have outer : inode.doubleIndirect ≠ inode.indirect := shaped.ne .single .outer trivial holds (by simp)
    have inner : ∀ q, array.entry inode.doubleIndirect q ≠ inode.indirect :=
      fun q => shaped.ne .single (.inner q) trivial holds (by simp)
    rw [SectorM.ensures_bind]
    refine IndexBlock.ensures_load.mpr ⟨shaped.inside .single trivial holds, enterSingle_ensures low has sector ?_⟩
    exact enterSingle_redirected low shaped sector has holds outer inner
      fun j => (PartialArray.entry_of_allocated holds j).symm
  -- the block is taken first, and is used for nothing else in the map
  · rename_i absent
    rw [SectorM.ensures_bind]
    refine (take_hands ⟨inode, space⟩ provides .start).mono ?_ ?_
    · rintro x array' ⟨inode', space'⟩ ⟨rfl, same, handed⟩
      obtain rfl : inode = inode' := Eq.symm same
      have held := provides.allocated handed x List.mem_cons_self
      have has := PartialArray.has_of_mem (provides.inside handed x List.mem_cons_self)
      have away := provides.unused handed x List.mem_cons_self
      rw [SectorM.ensures_bind, change, SectorM.ensures_modify, SectorM.ensures_bind, SectorM.ensures_pure]
      refine enterSingle_ensures low has sector ?_
      refine enterSingle_redirected low shaped sector has held (away .outer) (fun q => away (.inner q)) ?_
      intro j
      rw [PartialArray.entry_of_not_allocated (by simpa using absent), PartialArray.getD_empty]
    · rintro failure array' draft' (faulted | ⟨rfl, rfl, same, handed⟩)
      · exact .inl faulted
      · refine .inr ⟨rfl, ?_, [], handed, fun _ listed => absurd listed List.not_mem_nil⟩
        rw [same]
        exact .nothing shaped

/-- The outer index block is there, and no place has changed. -/
structure Opened (start : A) (array : PartialArray) (inode : DiskInode) (array' : PartialArray) (draft' : Draft A) :
    Prop where
  shaped : Shaped array' draft'.inode
  spreads : array.Spreads array'
  holds : array'.Holds draft'.inode .outer
  same : ∀ spot, spot ≠ .outer → array'.held draft'.inode spot = array.held inode spot
  frame : ∀ sector, sector ≠ draft'.inode.doubleIndirect → array'.get sector = array.get sector
  /-- It was there before, or it is the one sector that was taken. -/
  handed : ∃ taken, Handed start taken draft'.space ∧
    (taken = [] ∧ draft'.inode.doubleIndirect = inode.doubleIndirect ∨ taken = [draft'.inode.doubleIndirect])

/-- An outer index block that was taken is empty, and none of the sectors that the map leads to. -/
theorem Opened.of_taken {x : SectorId} {space : A} (shaped : Shaped array inode)
    (absent : inode.doubleIndirect.isAllocated = false) (held : x.isAllocated = true) (has : array.Has x)
    (away : ∀ spot, array.held inode spot ≠ x) (handed : Handed start [x] space) :
    Opened start array inode (array.set x IndexBlock.empty.encode) ⟨{ inode with doubleIndirect := x }, space⟩ := by
  have unchanged : ∀ spot, spot ≠ .outer →
      (array.set x IndexBlock.empty.encode).held { inode with doubleIndirect := x } spot = array.held inode spot :=
    fun _ => PartialArray.held_linkOuter inode has held (away .single) absent
  refine ⟨⟨?_, ?_⟩, .set has, held, unchanged, ?_, [x], handed, .inr rfl⟩
  · intro spot index holds
    by_cases outer : spot = .outer
    · rw [outer]
      exact PartialArray.mem_set_self has
    · rw [unchanged spot outer]
      rw [PartialArray.Holds, unchanged spot outer] at holds
      exact PartialArray.mem_set_of_mem has (shaped.inside spot index holds)
  · intro spot other index holds equal
    by_cases outer : spot = .outer
    · by_cases outer' : other = .outer
      · exact outer.trans outer'.symm
      · rw [outer, unchanged other outer'] at equal
        exact absurd equal.symm (away other)
    · rw [unchanged spot outer] at equal
      rw [PartialArray.Holds, unchanged spot outer] at holds
      by_cases outer' : other = .outer
      · rw [outer'] at equal
        exact absurd equal (away spot)
      · rw [unchanged other outer'] at equal
        exact shaped.apart spot other index holds equal
  · intro sector other
    exact PartialArray.get_set_ne has other

/-- A sector that is taken next is none of those that the map leads to: an outer index block that was taken
just before is another one. -/
theorem Opened.unused {z : SectorId} {space : A} (opened : Opened start array inode array' draft')
    (provides : Provides faulty array inode start) (handed : Handed start (z :: taken) space)
    (origin : taken = [] ∧ draft'.inode.doubleIndirect = inode.doubleIndirect ∨ taken = [draft'.inode.doubleIndirect])
    (spot : Spot) : array'.held draft'.inode spot ≠ z := by
  intro same
  by_cases outer : spot = .outer
  · rw [outer] at same
    rcases origin with ⟨-, before⟩ | listed
    · exact provides.unused handed z List.mem_cons_self .outer (before.symm.trans same)
    · have apart := List.nodup_cons.mp (provides.once handed)
      rw [listed] at apart
      exact apart.1 (List.mem_singleton.mpr same.symm)
  · rw [opened.same spot outer] at same
    exact provides.unused handed z List.mem_cons_self spot same

theorem outerBlock_opens (shaped : Shaped array draft.inode)
    (provides : Provides faulty array draft.inode draft.space) :
    (outerBlock : SectorM (Draft A) IndexBlock).Ensures array draft
      (fun block array' draft' => block = array'.block draft'.inode.doubleIndirect ∧
        Opened draft.space array draft.inode array' draft')
      (Failed faulty draft.space place array draft.inode) := by
  obtain ⟨inode, space⟩ := draft
  unfold outerBlock
  rw [SectorM.ensures_bind, SectorM.ensures_get]
  dsimp only
  rw [SectorM.ensures_ite]
  split
  · rename_i holds
    refine IndexBlock.ensures_load.mpr ⟨shaped.inside .outer trivial holds, rfl, ?_⟩
    exact ⟨shaped, .refl _, holds, fun _ _ => rfl, fun _ _ => rfl, [], .start, .inl ⟨rfl, rfl⟩⟩
  · rename_i absent
    have absent : inode.doubleIndirect.isAllocated = false := by simpa using absent
    rw [SectorM.ensures_bind]
    refine (take_hands ⟨inode, space⟩ provides .start).mono ?_ ?_
    · rintro x array' ⟨inode', space'⟩ ⟨rfl, same, handed⟩
      obtain rfl : inode = inode' := Eq.symm same
      have held := provides.allocated handed x List.mem_cons_self
      have has := PartialArray.has_of_mem (provides.inside handed x List.mem_cons_self)
      have away := provides.unused handed x List.mem_cons_self
      rw [SectorM.ensures_bind, change, SectorM.ensures_modify, SectorM.ensures_bind, IndexBlock.ensures_store]
      refine ⟨has, SectorM.ensures_pure.mpr ⟨(PartialArray.block_set_self has _).symm, ?_⟩⟩
      exact .of_taken shaped absent held has away handed
    · rintro failure array' draft' (faulted | ⟨rfl, rfl, same, handed⟩)
      · exact .inl faulted
      · refine .inr ⟨rfl, ?_, [], handed, fun _ listed => absurd listed List.not_mem_nil⟩
        rw [same]
        exact .nothing shaped

/-- An attempt behind an outer index block that was opened first. -/
theorem Redirected.behind {o i : Nat} {leads : Location → SectorId} {array'' : PartialArray} {inode' : DiskInode}
    (redirected : Redirected (.doubleIndirect o i) array' leads array'' inode')
    (holds : inode'.doubleIndirect.isAllocated = true)
    (frame : ∀ sector, sector ≠ inode'.doubleIndirect → array'.get sector = array.get sector) :
    Redirected (.doubleIndirect o i) array leads array'' inode' := by
  refine ⟨redirected.leads, redirected.inside, ?_⟩
  intro sector off
  have notOuter : inode'.doubleIndirect ≠ sector := off .outer ⟨o, i, rfl⟩ holds
  rw [redirected.frame sector off, frame sector notOuter.symm]

theorem registerDouble_redirects (shaped : Shaped array draft.inode)
    (provides : Provides faulty array draft.inode draft.space) {o i : Nat} (lowOuter : o < indexCount) (lowInner : i < indexCount) (sector : SectorId) :
    (registerDouble sector o i : SectorM (Draft A) Unit).Ensures array draft
      (fun _ array' draft' => Redirected (.doubleIndirect o i) array
        (fun other => if other = .doubleIndirect o i then sector else array.find draft.inode other) array' draft'.inode)
      (Failed faulty draft.space (.doubleIndirect o i) array draft.inode) := by
  unfold registerDouble
  rw [SectorM.ensures_bind]
  refine (outerBlock_opens shaped provides).mono ?_ fun _ _ _ failed => failed
  rintro outer array' ⟨inode', space'⟩ ⟨rfl, opened⟩
  obtain ⟨taken, handed, origin⟩ := opened.handed
  have holds : inode'.doubleIndirect.isAllocated = true := opened.holds
  have leads : array'.find inode' = array.find draft.inode :=
    funext fun other => opened.same (.data other) (by simp)
  have named : (array'.block inode'.doubleIndirect)[o] = array'.entry inode'.doubleIndirect o :=
    PartialArray.getElem_block holds lowOuter
  have hasOuter : array'.Has inode'.doubleIndirect := opened.shaped.has .outer trivial holds
  rw [SectorM.ensures_bind, SectorM.ensures_perform, Action.ensures_ofExcept, IndexBlock.fetch, dif_pos lowOuter]
  dsimp only
  rw [named, SectorM.ensures_ite, ← leads]
  split
  -- the outer block names an inner one, and is written back as it was
  · rename_i held
    have has := opened.shaped.has (.inner o) trivial held
    rw [SectorM.ensures_bind, IndexBlock.ensures_load]
    refine ⟨opened.shaped.inside (.inner o) trivial held, enterDouble_ensures lowInner hasOuter has sector ?_⟩
    refine Redirected.behind (enterDouble_redirected lowInner opened.shaped sector holds has held ?_
      (PartialArray.getD_block holds o) fun j => (PartialArray.entry_of_allocated held j).symm) holds opened.frame
    exact fun spot _ other => opened.shaped.ne (.inner o) spot trivial held other
  -- an inner block is taken; if there is none, the outer block may have been taken in vain
  · rename_i absent
    rw [SectorM.ensures_bind]
    refine (take_hands ⟨inode', space'⟩ provides handed).mono ?_ ?_
    · rintro z array'' ⟨inode'', space''⟩ ⟨rfl, same, handed'⟩
      obtain rfl : inode' = inode'' := Eq.symm same
      have held := provides.allocated handed' z List.mem_cons_self
      have has := PartialArray.has_of_mem (opened.spreads.mem (provides.inside handed' z List.mem_cons_self))
      have away := opened.unused provides handed' origin
      rw [SectorM.ensures_bind, SectorM.ensures_perform, Action.ensures_ofExcept, IndexBlock.replace, dif_pos lowOuter]
      refine enterDouble_ensures lowInner hasOuter has sector ?_
      refine Redirected.behind (enterDouble_redirected lowInner opened.shaped sector holds has held
        (fun spot _ _ => away spot) (PartialArray.getD_block_set holds lowOuter) ?_) holds opened.frame
      intro j
      rw [PartialArray.getD_empty]
      exact (PartialArray.entry_of_not_allocated (by simpa using absent) j).symm
    · rintro failure array'' draft'' (faulted | ⟨rfl, rfl, same, handed'⟩)
      · exact .inl faulted
      · refine .inr ⟨rfl, ?_, taken, handed', ?_⟩
        · rw [same, ← leads]
          exact Redirected.behind (.nothing opened.shaped) holds opened.frame
        · intro x listed
          rw [same]
          rcases origin with ⟨rfl, -⟩ | rfl
          · cases listed
          · exact (List.mem_singleton.mp listed).symm

/-- Whatever allocates, entering a sector changes one place, or none. -/
theorem register_redirects (shaped : Shaped array draft.inode)
    (provides : Provides faulty array draft.inode draft.space) (inTables : place.InTables) (known : place ≠ .outOfRange) (sector : SectorId) :
    (register sector place : SectorM (Draft A) Unit).Ensures array draft
      (fun _ array' draft' => Redirected place array
        (fun other => if other = place then sector else array.find draft.inode other) array' draft'.inode)
      (Failed faulty draft.space place array draft.inode) := by
  cases place with
  | direct i =>
      exact (registerDirect_redirects shaped inTables sector).mono (fun _ _ _ done => done)
        fun _ _ _ failed => failed.elim
  | indirect i => exact registerIndirect_redirects shaped provides inTables sector
  | doubleIndirect o i => exact registerDouble_redirects shaped provides inTables.1 inTables.2 sector
  | outOfRange => exact absurd rfl known

/-! ## Lawful allocators -/

section Lawful

variable [LawfulAllocator A] {whole : SectorArray}

open LawfulAllocator (Sound Taken limit)

/-- What a lawful allocator has handed out was free before and is taken now. -/
structure Accounted (start : A) (taken : List SectorId) (space : A) : Prop where
  sound : Sound space
  limit : LawfulAllocator.limit space = LawfulAllocator.limit start
  keeps : ∀ sector, Taken start sector → Taken space sector
  once : taken.Nodup
  gone : ∀ sector ∈ taken, Taken space sector
  free : ∀ sector ∈ taken, ¬Taken start sector
  allocated : ∀ sector ∈ taken, sector.isAllocated = true
  below : ∀ sector ∈ taken, sector.index < LawfulAllocator.limit start

theorem Handed.accounted {space : A} (sound : Sound start) (handed : Handed start taken space) :
    Accounted start taken space := by
  induction handed with
  | start => exact ⟨sound, rfl, fun _ before => before, .nil, by simp, by simp, by simp, by simp⟩
  | @refused taken space after log _ _ run accounted =>
      have answer := LawfulAllocator.allocate_ensures accounted.sound log
      rw [run] at answer
      have refused : LawfulAllocator.Refused space after := answer
      exact ⟨refused.sound, refused.limit.trans accounted.limit,
        fun sector before => (refused.taken sector).mpr (accounted.keeps sector before), accounted.once,
        fun sector listed => (refused.taken sector).mpr (accounted.gone sector listed), accounted.free,
        accounted.allocated, accounted.below⟩
  | @given taken space after sector log _ _ run accounted =>
      have answer := LawfulAllocator.allocate_ensures accounted.sound log
      rw [run] at answer
      have gave : LawfulAllocator.Gave space sector after := answer
      have below : sector.index < limit start := Nat.lt_of_lt_of_eq gave.inside accounted.limit
      refine ⟨gave.sound, gave.limit.trans accounted.limit, ?_, ?_, ?_, ?_, ?_, ?_⟩
      · intro other before
        exact (gave.taken other).mpr (.inr (accounted.keeps other before))
      · exact List.nodup_cons.mpr ⟨fun listed => gave.free (accounted.gone sector listed), accounted.once⟩
      · intro other listed
        exact (gave.taken other).mpr ((List.mem_cons.mp listed).imp id (accounted.gone other))
      · exact List.forall_mem_cons.mpr ⟨fun before => gave.free (accounted.keeps sector before), accounted.free⟩
      · exact List.forall_mem_cons.mpr ⟨gave.allocated, accounted.allocated⟩
      · exact List.forall_mem_cons.mpr ⟨below, accounted.below⟩

/-- A lawful allocator that knows all that a map leads to provides for it, and never faults. -/
theorem Fit.provides (fit : Fit (.ofWhole whole) draft) :
    Provides (fun _ => False) (.ofWhole whole) draft.inode draft.space := by
  refine ⟨fun handed => (handed.accounted fit.sound).once, fun handed => (handed.accounted fit.sound).allocated,
    ?_, ?_, ?_⟩
  · intro taken space handed sector listed
    have below := Nat.lt_of_lt_of_le ((handed.accounted fit.sound).below sector listed) fit.limit
    rw [PartialArray.count_ofWhole] at below
    exact PartialArray.mem_ofWhole.mpr below
  · intro taken space handed sector listed spot same
    have accounted := handed.accounted fit.sound
    have holds : (PartialArray.ofWhole whole).Holds draft.inode spot := by
      rw [PartialArray.Holds, same]
      exact accounted.allocated sector listed
    exact accounted.free sector listed (same ▸ fit.taken spot holds)
  · intro taken space handed
    exact (LawfulAllocator.allocate_ensures (handed.accounted fit.sound).sound).mono (fun _ _ _ => trivial)
      fun _ _ failed => failed.elim

end Lawful

/-! ## Point update -/

section Stores

variable {S : Type} [SectorStore S] [LawfulStore S] {store : S} {whole : SectorArray}

open LawfulStore (Shows)

/-- A look-up of any place within the tables is answered so. -/
def LeadsTo (world : S × Draft A) (leads : Location → SectorId) : Prop :=
  ∀ other : Location, other.InTables →
    Answers (world.2.inode.lookup other : SectorM (Draft A) SectorId) world (leads other)

/-- Of the sectors that a store showed only index blocks on the path to a place have changed. -/
def FramedOn (whole : SectorArray) (place : Location) (after : S × Draft A) : Prop :=
  ∃ whole' : SectorArray, Shows after.1 whole' ∧ whole'.count = whole.count ∧
    ∀ sector, (∀ spot : Spot, spot.OnPath place → (PartialArray.ofWhole whole').Holds after.2.inode spot →
      (PartialArray.ofWhole whole').held after.2.inode spot ≠ sector) → whole'.get sector = whole.get sector

omit [Allocator A] in
theorem leadsTo_of_inside {after : S × Draft A} (shown : Shows after.1 whole)
    (inside : ∀ spot : Spot, spot.IsIndex → (PartialArray.ofWhole whole).Holds after.2.inode spot →
      (PartialArray.ofWhole whole).held after.2.inode spot ∈ PartialArray.ofWhole whole) :
    LeadsTo after ((PartialArray.ofWhole whole).find after.2.inode) :=
  fun _ inTables => .of_ensures shown ((DiskInode.lookup_ensures inTables inside).mpr rfl)

/-- **Registering is a point update.** On success the place leads to the sector and every other place where
it led. Without space every place leads where it led, and what was taken is the outer index block. Either
way no sector changes but index blocks on the path, and nothing faults but the allocator. -/
theorem register_point (shown : Shows store whole) (shaped : Shaped (.ofWhole whole) draft.inode)
    (provides : Provides faulty (.ofWhole whole) draft.inode draft.space) (inTables : place.InTables)
    (known : place ≠ .outOfRange) (sector : SectorId) :
    ∃ before, LeadsTo (store, draft) before ∧
      (register sector place : SectorM (Draft A) Unit).run.Ensures (store, draft)
        (fun _ after => LeadsTo after (fun other => if other = place then sector else before other) ∧
          FramedOn whole place after)
        fun failure after => (∃ why, faulty why ∧ failure = .fault why) ∨ failure = .reported .noSpace ∧
          LeadsTo after before ∧ FramedOn whole place after ∧
          ∃ taken, Handed draft.space taken after.2.space ∧ ∀ x ∈ taken, after.2.inode.doubleIndirect = x := by
  refine ⟨(PartialArray.ofWhole whole).find draft.inode, leadsTo_of_inside shown shaped.inside, ?_⟩
  -- what is left behind is the same for success and for want of space, but for where the map leads
  have seen : ∀ (after : S × Draft A) (whole' : SectorArray) (leads : Location → SectorId), Shows after.1 whole' →
      (PartialArray.ofWhole whole).Spreads (.ofWhole whole') →
      Redirected place (.ofWhole whole) leads (.ofWhole whole') after.2.inode →
      LeadsTo after leads ∧ FramedOn whole place after := by
    intro after whole' leads shown' spreads redirected
    refine ⟨?_, whole', shown', ?_, ?_⟩
    · rw [← funext redirected.leads]
      exact leadsTo_of_inside shown' redirected.inside
    · have count := spreads.count
      rw [PartialArray.count_ofWhole, PartialArray.count_ofWhole] at count
      exact count
    · intro other off
      have same := redirected.frame other off
      rw [PartialArray.get_ofWhole, PartialArray.get_ofWhole] at same
      exact same
  refine ((register_redirects shaped provides inTables known sector).spreads.run shown).mono ?_ ?_
  · intro _ after ⟨whole', shown', spreads, redirected⟩
    exact seen after whole' _ shown' spreads redirected
  · rintro failure after ⟨whole', shown', spreads, faulted | ⟨noSpace, redirected, handed⟩⟩
    · exact .inl faulted
    · obtain ⟨leads, framed⟩ := seen after whole' _ shown' spreads redirected
      exact .inr ⟨noSpace, leads, framed, handed⟩

/-- Sector 40 is entered far behind the end of an empty map, through two index blocks that are made for it. -/
theorem register_point_newborn : ∃ before,
    LeadsTo ((⟨.zeroed 64, .empty 2 (by decide)⟩ : CachedDisk RamDisk 2), newborn 64) before ∧
      (register (.ofNat 40) (.doubleIndirect 2 5) : SectorM (Draft FreeMap) Unit).run.Ensures
        ((⟨.zeroed 64, .empty 2 (by decide)⟩ : CachedDisk RamDisk 2), newborn 64)
        (fun _ after =>
          LeadsTo after (fun other => if other = .doubleIndirect 2 5 then .ofNat 40 else before other) ∧
          FramedOn ⟨(RamDisk.zeroed 64).sectors⟩ (.doubleIndirect 2 5) after)
        fun failure after => (∃ why, False ∧ failure = .fault why) ∨ failure = .reported .noSpace ∧
          LeadsTo after before ∧ FramedOn ⟨(RamDisk.zeroed 64).sectors⟩ (.doubleIndirect 2 5) after ∧
          ∃ taken, Handed (newborn 64).space taken after.2.space ∧
            ∀ x ∈ taken, after.2.inode.doubleIndirect = x := by
  have shown : Shows (⟨.zeroed 64, .empty 2 (by decide)⟩ : CachedDisk RamDisk 2) ⟨(RamDisk.zeroed 64).sectors⟩ :=
    CachedDisk.Shows.fresh trivial (by decide)
  have fit := (raised_newborn (n := 64) (by decide) (by decide)).ready.fit
  have inTables : (Location.doubleIndirect 2 5).InTables := ⟨by decide, by decide⟩
  exact register_point shown fit.shaped fit.provides inTables (by decide) (.ofNat 40)

end Stores

end Draft

end InodeVolume
