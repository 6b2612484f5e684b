import InodeVolume.Proofs.BlockMap.AnyMap
import InodeVolume.Proofs.Space.Lawful

/-!
# Growth that runs out of sectors

A growth that fails for want of space has met a free map with nothing left. All that it has given back
by then is one sector, so no more than one is free when it ends. This holds of any block map and any
free map: nothing is asked of where the index blocks lead.

* **failing** — `FailsAs`: what is told of every way in which a computation fails, one rule per way of
  building it;
* **running out** — `Exhausted`: an index block that could not be had leaves no sector, and a sector
  that could not be entered leaves the one that was given back.
-/

namespace InodeVolume

/-! ## Failing -/

namespace SectorM

variable {σ α β : Type} {told : Failure → σ → Prop}

/-- From whatever it starts, where the computation fails it does so as told. -/
def FailsAs (told : Failure → σ → Prop) (computation : SectorM σ α) : Prop :=
  ∀ array s, computation.MayEnd False array s (fun _ _ _ => True) fun failure _ s' => told failure s'

namespace FailsAs

theorem pure {a : α} : (pure a : SectorM σ α).FailsAs told := fun _ _ => trivial

theorem bind {first : SectorM σ β} {next : β → SectorM σ α} (fails : first.FailsAs told)
    (rest : ∀ b, (next b).FailsAs told) : (first >>= next).FailsAs told := by
  intro array s
  rw [mayEnd_bind]
  exact (fails array s).mono (fun b array' s' _ => rest b array' s') fun _ _ _ failed => failed

theorem get : (get : SectorM σ σ).FailsAs told := fun _ _ => mayEnd_get.mpr trivial

theorem modify {f : σ → σ} : (modify f : SectorM σ PUnit).FailsAs told := fun _ _ => mayEnd_modify.mpr trivial

theorem emit {event : Event} : (emit event : SectorM σ Unit).FailsAs told := fun _ _ => mayEnd_emit.mpr trivial

theorem report {error : Error} (tells : ∀ s, told (.reported error) s) :
    (report error : SectorM σ α).FailsAs told := fun _ s => mayEnd_report.mpr (tells s)

theorem ite {p : Prop} [Decidable p] {yes no : SectorM σ α} (first : yes.FailsAs told) (second : no.FailsAs told) :
    (if p then yes else no).FailsAs told := by
  split
  · exact first
  · exact second

theorem forM {list : List β} {step : β → SectorM σ PUnit} (each : ∀ b, (step b).FailsAs told) :
    (list.forM step).FailsAs told := fun _ _ => .forM (fun b array s _ => each b array s) trivial

section Faults

variable (faults : ∀ why s, told (.fault why) s)

include faults

theorem fault {why : Fault} : (fault why : SectorM σ α).FailsAs told := fun _ s => mayEnd_fault.mpr (faults why s)

theorem writeAt {sector : SectorId} {offset : Nat} {bytes : Bytes} :
    (writeAt sector offset bytes : SectorM σ Unit).FailsAs told :=
  fun _ s => ⟨fun _ _ => ⟨False.elim, trivial⟩, fun why => faults why s⟩

theorem load {sector : SectorId} : (IndexBlock.load sector : SectorM σ IndexBlock).FailsAs told :=
  fun _ s => IndexBlock.mayEnd_load.mpr ⟨fun _ => trivial, fun why => faults why s⟩

theorem store {sector : SectorId} {block : IndexBlock} : (block.store sector : SectorM σ Unit).FailsAs told :=
  fun _ s => IndexBlock.mayEnd_store.mpr ⟨fun _ => ⟨False.elim, trivial⟩, fun why => faults why s⟩

theorem fetch {block : IndexBlock} {index : Nat} :
    (perform (Action.ofExcept (block.fetch index)) : SectorM σ SectorId).FailsAs told := by
  intro array s
  rw [mayEnd_perform, Action.ensures_ofExcept]
  unfold IndexBlock.fetch
  split <;> rename_i found <;> split at found <;> cases found
  · trivial
  · exact faults _ _

theorem replace {block : IndexBlock} {index : Nat} {sector : SectorId} :
    (perform (Action.ofExcept (block.replace index sector)) : SectorM σ IndexBlock).FailsAs told := by
  intro array s
  rw [mayEnd_perform, Action.ensures_ofExcept]
  unfold IndexBlock.replace
  split <;> rename_i made <;> split at made <;> cases made
  · trivial
  · exact faults _ _

theorem lookup {inode : DiskInode} {place : Location} (inTables : place.InTables) :
    (inode.lookup place : SectorM σ SectorId).FailsAs told :=
  fun _ s => DiskInode.MayEnd.lookup inTables trivial fun why => faults why s

end Faults

end FailsAs

end SectorM

/-! ## Running out -/

namespace FreeMap

variable {map : FreeMap}

theorem clearCount_unmark {k : Nat} (inside : k < map.sectors) (marked : map.marked k = true) :
    (map.unmark k).clearCount = map.clearCount + 1 := by
  have unmarks := map.marked_unmark (hasBit_of_lt inside)
  unfold clearCount
  rw [sectors_unmark]
  refine countP_range_update inside (by simp [unmarks]) (by rw [marked]; rfl) ?_
  intro j apart
  simp [unmarks, apart]

/-- A bit that stands for no sector is not counted. -/
theorem clearCount_unmark_le {k : Nat} (has : map.HasBit k) (marked : map.marked k = true) :
    (map.unmark k).clearCount ≤ map.clearCount + 1 := by
  by_cases inside : k < map.sectors
  · exact Nat.le_of_eq (clearCount_unmark inside marked)
  · refine Nat.le_trans (Nat.le_of_eq ?_) (Nat.le_succ _)
    unfold clearCount
    rw [sectors_unmark]
    refine List.countP_congr fun j listed => ?_
    have apart : j ≠ k := fun same => inside (same ▸ List.mem_range.mp listed)
    simp [map.marked_unmark has, apart]

end FreeMap

namespace Draft

variable {bound : Nat}

/-- Where there was no space, no more than so many sectors are free. -/
def Exhausted (bound : Nat) (failure : Failure) (draft : Draft FreeMap) : Prop :=
  failure = .reported .noSpace → draft.space.clearCount ≤ bound

theorem exhausted_fault (why : Fault) (draft : Draft FreeMap) : Exhausted bound (.fault why) draft :=
  fun impossible => by cases impossible

theorem exhausted_outOfRange (draft : Draft FreeMap) : Exhausted bound (.reported .outOfRange) draft :=
  fun impossible => by cases impossible

/-- A request that is refused leaves the free map as it was, with nothing in it. -/
theorem request_refused {array : PartialArray} {draft : Draft FreeMap} :
    (request : SectorM (Draft FreeMap) (Option SectorId)).MayEnd False array draft
      (fun given _ draft' => given = none → draft'.space.clearCount = 0) fun _ _ _ => False := by
  unfold request
  rw [SectorM.mayEnd_perform, onSpace, Action.ensures_within]
  refine (show Action.Ensures (FreeMap.allocate 1) draft.space _ _ from
    FreeMap.allocate_cases draft.space).mono ?_ fun _ _ failed => failed
  rintro _ space answer rfl
  obtain ⟨rfl, full⟩ := answer
  exact FreeMap.clearCount_eq_zero full

theorem take_exhausted : (take : SectorM (Draft FreeMap) SectorId).FailsAs (Exhausted 0) := by
  intro array draft
  unfold take
  rw [SectorM.mayEnd_bind]
  refine request_refused.mono ?_ fun _ _ _ failed => failed.elim
  intro given array' draft' refused
  cases given with
  | none => exact SectorM.mayEnd_report.mpr fun _ => Nat.le_of_eq (refused rfl)
  | some sector => trivial

theorem registerIndirect_exhausted {sector : SectorId} {index : Nat} :
    (registerIndirect sector index : SectorM (Draft FreeMap) Unit).FailsAs (Exhausted 0) := by
  have entered : ∀ block : IndexBlock, (do
      let block ← SectorM.perform (Action.ofExcept (block.replace index sector))
      block.store (← get).inode.indirect : SectorM (Draft FreeMap) Unit).FailsAs (Exhausted 0) :=
    fun _ => .bind (.replace exhausted_fault) fun _ => .bind .get fun _ => .store exhausted_fault
  unfold registerIndirect
  refine .bind .get fun draft => .ite ?_ ?_
  · exact .bind (.load exhausted_fault) entered
  · exact .bind take_exhausted fun fresh => .bind .modify fun _ => entered _

theorem outerBlock_exhausted : (outerBlock : SectorM (Draft FreeMap) IndexBlock).FailsAs (Exhausted 0) := by
  unfold outerBlock
  refine .bind .get fun draft => .ite (.load exhausted_fault) ?_
  exact .bind take_exhausted fun fresh => .bind .modify fun _ => .bind (.store exhausted_fault) fun _ => .pure

theorem registerDouble_exhausted {sector : SectorId} {outer inner : Nat} :
    (registerDouble sector outer inner : SectorM (Draft FreeMap) Unit).FailsAs (Exhausted 0) := by
  have entered : ∀ (outer : IndexBlock) (held : SectorId) (block : IndexBlock), (do
      let block ← SectorM.perform (Action.ofExcept (block.replace inner sector))
      outer.store (← get).inode.doubleIndirect
      block.store held : SectorM (Draft FreeMap) Unit).FailsAs (Exhausted 0) :=
    fun _ _ _ => .bind (.replace exhausted_fault) fun _ => .bind .get fun _ =>
      .bind (.store exhausted_fault) fun _ => .store exhausted_fault
  unfold registerDouble
  refine .bind outerBlock_exhausted fun block => .bind (.fetch exhausted_fault) fun held => .ite ?_ ?_
  · exact .bind (.load exhausted_fault) fun inner => .bind .pure fun _ => entered _ _ _
  · exact .bind take_exhausted fun fresh => .bind (.replace exhausted_fault) fun _ => .bind .pure fun _ => entered _ _ _

/-- An index block that could not be had leaves no sector free. -/
theorem register_exhausted {sector : SectorId} {place : Location} :
    (register sector place : SectorM (Draft FreeMap) Unit).FailsAs (Exhausted 0) := by
  cases place with
  | direct index =>
      show SectorM.FailsAs _ (registerDirect sector index)
      unfold registerDirect
      split
      · exact .modify
      · exact .fault exhausted_fault
  | indirect index => exact registerIndirect_exhausted
  | doubleIndirect outer inner => exact registerDouble_exhausted
  | outOfRange => exact .report exhausted_outOfRange

/-- What is given back is one sector more. -/
theorem giveBack_le {sector : SectorId} {array : PartialArray} {draft : Draft FreeMap} :
    (giveBack sector : SectorM (Draft FreeMap) Unit).MayEnd False array draft
      (fun _ _ draft' => draft'.space.clearCount ≤ draft.space.clearCount + 1)
      fun failure _ _ => ∃ why, failure = .fault why := by
  unfold giveBack
  rw [SectorM.mayEnd_perform, onSpace, Action.ensures_within]
  refine (show Action.Ensures (FreeMap.release sector 1) draft.space _ _ from
    FreeMap.release_cases draft.space sector).mono ?_ fun _ _ failed => failed
  intro _ space released
  obtain ⟨has, marked, rfl⟩ := released
  exact FreeMap.clearCount_unmark_le has marked

/-- A sector that could not be had, or not be entered, leaves one free at most. -/
theorem extend_exhausted {old new index : Nat} :
    (extend old new index : SectorM (Draft FreeMap) Unit).FailsAs (Exhausted 1) := by
  unfold extend
  refine .bind .get fun draft => .bind (.lookup exhausted_fault (inTables_locate _)) fun held => .ite .pure ?_
  intro array draft
  rw [SectorM.mayEnd_bind]
  refine request_refused.mono ?_ fun _ _ _ failed => failed.elim
  intro given array₁ draft₁ refused
  cases given with
  | none =>
      rw [SectorM.mayEnd_bind, SectorM.mayEnd_emit, SectorM.mayEnd_report]
      intro _
      rw [refused rfl]
      exact Nat.zero_le 1
  | some sector =>
      rw [SectorM.mayEnd_bind, SectorM.mayEnd_attempt]
      refine (register_exhausted array₁ draft₁).mono (fun _ _ _ _ => SectorM.FailsAs.writeAt exhausted_fault _ _) ?_
      intro failure array₂ draft₂ exhausted
      cases failure with
      | fault why => exact exhausted_fault why draft₂
      | reported error =>
          show SectorM.MayEnd _ (giveBack sector >>= fun _ => _) _ _ _ _
          rw [SectorM.mayEnd_bind]
          refine giveBack_le.mono ?_ ?_
          · intro _ array₃ draft₃ atMost
            rw [SectorM.mayEnd_bind, SectorM.mayEnd_emit, SectorM.mayEnd_report]
            intro noSpace
            exact Nat.le_trans atMost (Nat.succ_le_succ (exhausted noSpace))
          · intro failure _ draft₃ failed
            obtain ⟨why, rfl⟩ := failed
            exact exhausted_fault why draft₃

/-- **A growth that finds no space** leaves one sector free at most. -/
theorem grow_exhausted {new : Nat} : (grow new : SectorM (Draft FreeMap) Unit).FailsAs (Exhausted 1) := by
  have grown : ∀ old, (do
      (List.range' (dataSectors old) (dataSectors new - dataSectors old)).forM (extend old new)
      SectorM.emit (.grew old new)
      change fun inode => { inode with length := UInt32.ofNat new } :
        SectorM (Draft FreeMap) Unit).FailsAs (Exhausted 1) :=
    fun _ => .bind (.forM fun _ => extend_exhausted) fun _ => .bind .emit fun _ => .modify
  unfold grow
  refine .bind .get fun draft => .ite .pure (.ite ?_ (grown _))
  exact .bind .emit fun _ => .bind (.report exhausted_outOfRange) fun _ => grown _

end Draft

end InodeVolume
