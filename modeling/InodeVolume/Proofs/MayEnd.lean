import InodeVolume.Proofs.Ensures
import InodeVolume.Proofs.BlockMap.Spots
import InodeVolume.Files

/-!
# How computations may end

`Ensures` asks for sectors of which enough is known that every request is met. `MayEnd` asks for nothing:
the sectors may hold anything, their numbers may point past the end, and a store may refuse any request
with a fault. What it tells is how a computation ends if it ends so.

A computation is `still` when it writes to every sector what the sector holds already. Nobody can tell
then how much of what was written has reached the device.

* **rules** — one per way of building a computation, as for `Ensures`;
* **invariants** — `Upholds`: what holds of the sectors and the state before holds after, however the
  computation ends but by a fault;
* **stores** — `Bears` is what a store must keep, and `MayEnd.run` carries what may happen over an array
  to it;
* **files** — loading an inode and looking a place up.
-/

namespace InodeVolume

namespace SectorM

variable {σ τ α β : Type} {still : Prop}

/-- How a computation may end from an array of sectors, all of them known, and a state. -/
def MayEnd (still : Prop) (computation : SectorM σ α) (array : PartialArray) (s : σ)
    (good : α → PartialArray → σ → Prop) (bad : Failure → PartialArray → σ → Prop) : Prop :=
  match computation with
  | done a => good a array s
  | act step next =>
    step.Ensures s (fun b s => (next b).MayEnd still array s good bad) fun failure s => bad failure array s
  | read sector offset length next =>
    (∀ fits : offset + length ≤ sectorSize, array.Has sector →
      (next ((array.get sector).slice offset length fits)).MayEnd still array s good bad) ∧
    ∀ why, bad (.fault why) array s
  | write sector offset bytes next =>
    (∀ fits : offset + bytes.size ≤ sectorSize, array.Has sector →
      (still → (array.get sector).splice offset bytes fits = array.get sector) ∧
      (next ()).MayEnd still (array.set sector ((array.get sector).splice offset bytes fits)) s good bad) ∧
    ∀ why, bad (.fault why) array s
  | sync next => (next ()).MayEnd still array s good bad
  | shutdown next => (next ()).MayEnd still array s good bad

section Rules

variable {array : PartialArray} {s : σ} {good good' : α → PartialArray → σ → Prop}
  {bad bad' : Failure → PartialArray → σ → Prop}

theorem MayEnd.mono {computation : SectorM σ α} (ends : computation.MayEnd still array s good bad)
    (fine : ∀ a array s, good a array s → good' a array s) (failed : ∀ f array s, bad f array s → bad' f array s) :
    computation.MayEnd still array s good' bad' := by
  induction computation generalizing array s with
  | done a => exact fine a array s ends
  | act step next ih => exact Action.Ensures.mono ends (fun b s rest => ih b rest) fun f s => failed f array s
  | read sector offset length next ih =>
      exact ⟨fun fits has => ih _ (ends.1 fits has), fun why => failed _ _ _ (ends.2 why)⟩
  | write sector offset bytes next ih =>
      exact ⟨fun fits has => ⟨(ends.1 fits has).1, ih () (ends.1 fits has).2⟩, fun why => failed _ _ _ (ends.2 why)⟩
  | sync next ih => exact ih () ends
  | shutdown next ih => exact ih () ends

/-- What may happen comes on top of what is ensured. -/
theorem Ensures.and_mayEnd {computation : SectorM σ α} (ensured : computation.Ensures array s good bad)
    (ends : computation.MayEnd still array s good' bad') :
    computation.Ensures array s (fun a array s => good a array s ∧ good' a array s)
      fun f array s => bad f array s ∧ bad' f array s := by
  induction computation generalizing array s with
  | done a => exact ⟨ensured, ends⟩
  | act step next ih =>
      exact (Action.Ensures.and ensured ends).mono (fun b s both => ih b both.1 both.2) fun _ _ failed => failed
  | read sector offset length next ih =>
      obtain ⟨fits, inside, rest⟩ := ensured
      exact ⟨fits, inside, ih _ rest (ends.1 fits (PartialArray.has_of_mem inside))⟩
  | write sector offset bytes next ih =>
      obtain ⟨fits, takes, rest⟩ := ensured
      exact ⟨fits, takes, ih () rest (ends.1 fits takes.has).2⟩
  | sync next ih => exact ih () ensured ends
  | shutdown next ih => exact ih () ensured ends

@[simp] theorem mayEnd_pure {a : α} : (pure a : SectorM σ α).MayEnd still array s good bad ↔ good a array s := Iff.rfl

@[simp] theorem mayEnd_bind {first : SectorM σ β} {next : β → SectorM σ α} :
    (first >>= next).MayEnd still array s good bad ↔
      first.MayEnd still array s (fun b array s => (next b).MayEnd still array s good bad) bad := by
  show (first.bind next).MayEnd still array s good bad ↔ _
  induction first generalizing array s with
  | done b => exact Iff.rfl
  | act step rest ih =>
      apply forall_congr'
      intro log
      cases step.run ⟨s, log⟩ with
      | ok b after => exact ih b
      | error failure after => exact Iff.rfl
  | read sector offset length rest ih =>
      exact and_congr_left' (forall_congr' fun fits => forall_congr' fun has => ih _)
  | write sector offset bytes rest ih =>
      exact and_congr_left' (forall_congr' fun fits => forall_congr' fun has => and_congr_right' (ih ()))
  | sync rest ih => exact ih ()
  | shutdown rest ih => exact ih ()

@[simp] theorem mayEnd_perform {step : Action σ α} :
    (perform step).MayEnd still array s good bad ↔
      step.Ensures s (fun a s => good a array s) fun failure s => bad failure array s := Iff.rfl

@[simp] theorem mayEnd_get {good : σ → PartialArray → σ → Prop} :
    (get : SectorM σ σ).MayEnd still array s good bad ↔ good s array s := Action.ensures_get

@[simp] theorem mayEnd_modifyGet {f : σ → α × σ} :
    (modifyGet f : SectorM σ α).MayEnd still array s good bad ↔ good (f s).1 array (f s).2 := Action.ensures_modifyGet

@[simp] theorem mayEnd_modify {f : σ → σ} {good : PUnit → PartialArray → σ → Prop} :
    (modify f : SectorM σ PUnit).MayEnd still array s good bad ↔ good ⟨⟩ array (f s) := Action.ensures_modifyGet

@[simp] theorem mayEnd_emit {event : Event} {good : Unit → PartialArray → σ → Prop} :
    (emit event : SectorM σ Unit).MayEnd still array s good bad ↔ good () array s := Action.ensures_emit

@[simp] theorem mayEnd_report {error : Error} :
    (report error : SectorM σ α).MayEnd still array s good bad ↔ bad (.reported error) array s := Action.ensures_report

@[simp] theorem mayEnd_fault {why : Fault} :
    (fault why : SectorM σ α).MayEnd still array s good bad ↔ bad (.fault why) array s := Action.ensures_fault

@[simp] theorem mayEnd_require {kept : Bool} {rule : Rule} {good : Unit → PartialArray → σ → Prop} :
    (require kept rule : SectorM σ Unit).MayEnd still array s good bad ↔
      if kept then good () array s else bad (.fault (.broken rule)) array s := Action.ensures_require

@[simp] theorem mayEnd_readAt {sector : SectorId} {offset length : Nat} {good : Block length → PartialArray → σ → Prop} :
    (readAt sector offset length : SectorM σ (Block length)).MayEnd still array s good bad ↔
      (∀ fits : offset + length ≤ sectorSize, array.Has sector →
        good ((array.get sector).slice offset length fits) array s) ∧ ∀ why, bad (.fault why) array s := Iff.rfl

@[simp] theorem mayEnd_writeAt {sector : SectorId} {offset : Nat} {bytes : Bytes} {good : Unit → PartialArray → σ → Prop} :
    (writeAt sector offset bytes : SectorM σ Unit).MayEnd still array s good bad ↔
      (∀ fits : offset + bytes.size ≤ sectorSize, array.Has sector →
        (still → (array.get sector).splice offset bytes fits = array.get sector) ∧
        good () (array.set sector ((array.get sector).splice offset bytes fits)) s) ∧
      ∀ why, bad (.fault why) array s := Iff.rfl

@[simp] theorem mayEnd_syncStore {good : Unit → PartialArray → σ → Prop} :
    (syncStore : SectorM σ Unit).MayEnd still array s good bad ↔ good () array s := Iff.rfl

@[simp] theorem mayEnd_shutdownStore {good : Unit → PartialArray → σ → Prop} :
    (shutdownStore : SectorM σ Unit).MayEnd still array s good bad ↔ good () array s := Iff.rfl

@[simp] theorem mayEnd_ite {p : Prop} [Decidable p] {yes no : SectorM σ α} :
    (if p then yes else no).MayEnd still array s good bad ↔
      if p then yes.MayEnd still array s good bad else no.MayEnd still array s good bad := by
  split <;> exact Iff.rfl

/-- A loop over a list keeps what each of its turns keeps. -/
theorem MayEnd.forM {step : β → SectorM σ PUnit} {holds : PartialArray → σ → Prop} {list : List β}
    (turn : ∀ b array s, holds array s → (step b).MayEnd still array s (fun _ => holds) bad) (start : holds array s) :
    (list.forM step).MayEnd still array s (fun _ => holds) bad := by
  induction list generalizing array s with
  | nil => exact start
  | cons b rest ih =>
      show (step b >>= fun _ => rest.forM step).MayEnd still array s _ bad
      exact mayEnd_bind.mpr ((turn b array s start).mono (fun _ _ _ kept => ih kept) fun _ _ _ failed => failed)

@[simp] theorem mayEnd_attempt {computation : SectorM σ α} {good : Except Error α → PartialArray → σ → Prop} :
    computation.attempt.MayEnd still array s good bad ↔
      computation.MayEnd still array s (fun a array s => good (.ok a) array s) fun failure array s =>
        match failure with
        | .reported error => good (.error error) array s
        | .fault why => bad (.fault why) array s := by
  induction computation generalizing array s with
  | done a => exact Iff.rfl
  | act step next ih =>
      simp only [attempt, MayEnd, Action.ensures_attempt]
      apply forall_congr'
      intro log
      cases step.run ⟨s, log⟩ with
      | ok b after => exact ih b
      | error failure after => cases failure <;> exact Iff.rfl
  | read sector offset length next ih =>
      exact and_congr_left' (forall_congr' fun fits => forall_congr' fun has => ih _)
  | write sector offset bytes next ih =>
      exact and_congr_left' (forall_congr' fun fits => forall_congr' fun has => and_congr_right' (ih ()))
  | sync next ih => exact ih ()
  | shutdown next ih => exact ih ()

/-- A computation on a part of a larger state: `whole` puts the part back, and `split` takes it out again. -/
theorem mayEnd_hoist (split : τ → σ × (σ → τ)) (whole : σ → τ) {carry : {γ : Type} → Action σ γ → Action τ γ}
    (carries : ∀ {γ : Type} (act : Action σ γ), carry act = act.within split) (splits : ∀ s, split (whole s) = (s, whole))
    {computation : SectorM σ α} {good : α → PartialArray → τ → Prop} {bad : Failure → PartialArray → τ → Prop} :
    (computation.hoist carry).MayEnd still array (whole s) good bad ↔
      computation.MayEnd still array s (fun a array s => good a array (whole s))
        fun failure array s => bad failure array (whole s) := by
  induction computation generalizing array s with
  | done a => exact Iff.rfl
  | act step next ih =>
      show (carry step).Ensures _ _ _ ↔ _
      rw [carries, Action.ensures_within, splits]
      apply forall_congr'
      intro log
      cases step.run ⟨s, log⟩ with
      | ok b after => exact ih b
      | error failure after => exact Iff.rfl
  | read sector offset length next ih =>
      exact and_congr_left' (forall_congr' fun fits => forall_congr' fun has => ih _)
  | write sector offset bytes next ih =>
      exact and_congr_left' (forall_congr' fun fits => forall_congr' fun has => and_congr_right' (ih ()))
  | sync next ih => exact ih ()
  | shutdown next ih => exact ih ()

end Rules

end SectorM

/-! ## Invariants -/

namespace SectorM

variable {σ τ α β : Type} {invariant : PartialArray → σ → Prop} {reports : Prop}

/-- The computation ends with the invariant or with a fault, and with an error only where `reports` holds. -/
def Upholds (invariant : PartialArray → σ → Prop) (reports : Prop) (computation : SectorM σ α) : Prop :=
  ∀ array s, invariant array s → computation.MayEnd False array s (fun _ => invariant)
    fun failure array s => (∃ why, failure = .fault why) ∨ reports ∧ invariant array s

namespace Upholds

theorem pure {a : α} : (pure a : SectorM σ α).Upholds invariant reports := fun _ _ kept => kept

/-- What is known of the value that comes first may be used for the rest. -/
theorem bind_of {first : SectorM σ β} {next : β → SectorM σ α} (told : β → PartialArray → σ → Prop)
    (upholds : ∀ array s, invariant array s → first.MayEnd False array s told
      fun failure array s => (∃ why, failure = .fault why) ∨ reports ∧ invariant array s)
    (rest : ∀ b array s, told b array s → (next b).MayEnd False array s (fun _ => invariant)
      fun failure array s => (∃ why, failure = .fault why) ∨ reports ∧ invariant array s) :
    (first >>= next).Upholds invariant reports :=
  fun array s kept => mayEnd_bind.mpr ((upholds array s kept).mono (fun b array s here => rest b array s here)
    fun _ _ _ failed => failed)

theorem bind {first : SectorM σ β} {next : β → SectorM σ α} (upholds : first.Upholds invariant reports)
    (rest : ∀ b, (next b).Upholds invariant reports) : (first >>= next).Upholds invariant reports :=
  bind_of (fun _ => invariant) upholds fun b array s kept => rest b array s kept

theorem get : (get : SectorM σ σ).Upholds invariant reports := fun _ _ kept => mayEnd_get.mpr kept

theorem emit {event : Event} : (emit event : SectorM σ Unit).Upholds invariant reports :=
  fun _ _ kept => mayEnd_emit.mpr kept

theorem report {error : Error} (may : reports) : (report error : SectorM σ α).Upholds invariant reports :=
  fun _ _ kept => mayEnd_report.mpr (.inr ⟨may, kept⟩)

theorem fault {why : Fault} : (fault why : SectorM σ α).Upholds invariant reports :=
  fun _ _ _ => mayEnd_fault.mpr (.inl ⟨why, rfl⟩)

theorem require {kept : Bool} {rule : Rule} : (require kept rule : SectorM σ Unit).Upholds invariant reports := by
  intro array s here
  rw [mayEnd_require]
  split
  · exact here
  · exact .inl ⟨_, rfl⟩

theorem ite {p : Prop} [Decidable p] {yes no : SectorM σ α} (first : p → yes.Upholds invariant reports)
    (second : ¬p → no.Upholds invariant reports) : (if p then yes else no).Upholds invariant reports := by
  split
  · exact first ‹_›
  · exact second ‹_›

theorem forM {list : List β} {step : β → SectorM σ PUnit} (each : ∀ b, (step b).Upholds invariant reports) :
    (list.forM step).Upholds invariant reports :=
  fun _ _ kept => .forM (fun b array s here => each b array s here) kept

/-- An error that is caught is not reported. -/
theorem attempt {computation : SectorM σ α} (upholds : computation.Upholds invariant True) :
    computation.attempt.Upholds invariant reports := by
  intro array s kept
  rw [mayEnd_attempt]
  refine (upholds array s kept).mono (fun _ _ _ here => here) fun failure array s failed => ?_
  cases failure with
  | reported error =>
      rcases failed with ⟨_, impossible⟩ | ⟨-, here⟩
      · cases impossible
      · exact here
  | fault why => exact .inl ⟨why, rfl⟩

end Upholds

end SectorM

/-! ## Stores -/

/-- A relation between stores and the arrays they stand for that every request keeps, also one that is
refused. Where `still` holds, only such writes are asked for as change nothing. -/
structure Bears {S : Type} [SectorStore S] (still : Prop) (Stands : S → SectorArray → Prop) : Prop where
  read {store : S} {array : SectorArray} {sector : SectorId} {offset length : Nat} : Stands store array →
    (SectorStore.read sector offset length).Ensures store
      (fun block after => ∃ fits : offset + length ≤ sectorSize, sector ∈ array ∧
        block = (array.get sector).slice offset length fits ∧ Stands after array)
      fun failure after => (∃ why, failure = .fault why) ∧ Stands after array
  write {store : S} {array : SectorArray} {sector : SectorId} {offset : Nat} {bytes : Bytes} : Stands store array →
    (∀ fits : offset + bytes.size ≤ sectorSize, sector ∈ array → still →
      (array.get sector).splice offset bytes fits = array.get sector) →
    (SectorStore.write sector offset bytes).Ensures store
      (fun _ after => ∃ fits : offset + bytes.size ≤ sectorSize, sector ∈ array ∧
        Stands after (array.set sector ((array.get sector).splice offset bytes fits)))
      fun failure after => (∃ why, failure = .fault why) ∧ Stands after array
  sync {store : S} {array : SectorArray} : Stands store array →
    SectorStore.sync.Ensures store (fun _ after => Stands after array) fun _ _ => False
  shutdown {store : S} {array : SectorArray} : Stands store array →
    SectorStore.shutdown.Ensures store (fun _ after => Stands after array) fun _ _ => False

namespace PartialArray

variable {whole : SectorArray} {sector : SectorId} {data : Sector}

@[simp] theorem has_ofWhole : (ofWhole whole).Has sector ↔ sector ∈ whole := by
  rw [Has, count_ofWhole, SectorArray.mem_iff]

theorem ofWhole_set : (ofWhole whole).set sector data = ofWhole (whole.set sector data) := by
  unfold ofWhole set SectorArray.set
  rw [Array.map_setIfInBounds]

end PartialArray

namespace SectorM

variable {σ α S : Type} [SectorStore S] {still : Prop} {stands : S → SectorArray → Prop} {computation : SectorM σ α}
  {whole : SectorArray} {store : S} {s : σ} {good : α → PartialArray → σ → Prop} {bad : Failure → PartialArray → σ → Prop}

/-- What may happen over a whole array may happen over every store that stands for it. -/
theorem MayEnd.run (bears : Bears still stands) (ends : computation.MayEnd still (.ofWhole whole) s good bad)
    (stood : stands store whole) :
    computation.run.Ensures (store, s)
      (fun a after => ∃ whole', stands after.1 whole' ∧ good a (.ofWhole whole') after.2)
      fun failure after => ∃ whole', stands after.1 whole' ∧ bad failure (.ofWhole whole') after.2 := by
  induction computation generalizing whole store s with
  | done a => exact fun _ => ⟨whole, stood, ends⟩
  | act step next ih =>
      rw [run_act]
      apply Action.Ensures.bind
      rw [Action.ensures_onSnd]
      exact Action.Ensures.mono ends (fun b s rest => ih b rest stood) fun failure s failed => ⟨whole, stood, failed⟩
  | read sector offset length next ih =>
      rw [run_read]
      apply Action.Ensures.bind
      rw [Action.ensures_onFst]
      refine (bears.read stood).mono ?_ ?_
      · rintro block after ⟨fits, inside, rfl, stood'⟩
        have rest := ends.1 fits (PartialArray.has_ofWhole.mpr inside)
        rw [PartialArray.get_ofWhole] at rest
        exact ih _ rest stood'
      · rintro failure after ⟨⟨why, rfl⟩, stood'⟩
        exact ⟨whole, stood', ends.2 why⟩
  | write sector offset bytes next ih =>
      rw [run_write]
      apply Action.Ensures.bind
      rw [Action.ensures_onFst]
      refine (bears.write stood fun fits inside held => ?_).mono ?_ ?_
      · have same := (ends.1 fits (PartialArray.has_ofWhole.mpr inside)).1 held
        rw [PartialArray.get_ofWhole] at same
        exact same
      · rintro _ after ⟨fits, inside, stood'⟩
        have rest := (ends.1 fits (PartialArray.has_ofWhole.mpr inside)).2
        rw [PartialArray.get_ofWhole, PartialArray.ofWhole_set] at rest
        exact ih () rest stood'
      · rintro failure after ⟨⟨why, rfl⟩, stood'⟩
        exact ⟨whole, stood', ends.2 why⟩
  | sync next ih =>
      rw [run_sync]
      apply Action.Ensures.bind
      rw [Action.ensures_onFst]
      exact (bears.sync stood).mono (fun _ _ stood' => ih () ends stood') fun _ _ impossible => impossible.elim
  | shutdown next ih =>
      rw [run_shutdown]
      apply Action.Ensures.bind
      rw [Action.ensures_onFst]
      exact (bears.shutdown stood).mono (fun _ _ stood' => ih () ends stood') fun _ _ impossible => impossible.elim

end SectorM

/-! ## Inodes and index blocks -/

/-- The failure is a fault, and no sector was changed. -/
def Unchanged {σ : Type} (array : PartialArray) (failure : Failure) (array' : PartialArray) (_ : σ) : Prop :=
  (∃ why, failure = .fault why) ∧ array' = array

theorem unchanged {σ : Type} {array : PartialArray} {s : σ} (why : Fault) : Unchanged array (.fault why) array s :=
  ⟨⟨why, rfl⟩, rfl⟩

section Inodes

variable {σ : Type} {still : Prop} {array : PartialArray} {s : σ} {sector : SectorId}
  {bad : Failure → PartialArray → σ → Prop}

namespace IndexBlock

@[simp] theorem mayEnd_load {good : IndexBlock → PartialArray → σ → Prop} :
    (load sector : SectorM σ IndexBlock).MayEnd still array s good bad ↔
      (array.Has sector → good (array.block sector) array s) ∧ ∀ why, bad (.fault why) array s := by
  unfold load PartialArray.block
  rw [SectorM.mayEnd_bind, SectorM.mayEnd_readAt]
  simp only [SectorM.mayEnd_pure, Block.slice_whole]
  exact and_congr_left' (forall_prop_of_true (Nat.le_of_eq (Nat.zero_add _)))

@[simp] theorem mayEnd_store {block : IndexBlock} {good : Unit → PartialArray → σ → Prop} :
    (block.store sector : SectorM σ Unit).MayEnd still array s good bad ↔
      (array.Has sector → (still → block.encode = array.get sector) ∧ good () (array.set sector block.encode) s) ∧
        ∀ why, bad (.fault why) array s := by
  unfold store
  rw [SectorM.mayEnd_writeAt]
  simp only [Block.splice_whole]
  exact and_congr_left' (forall_prop_of_true (Block.fits_whole _))

/-- An entry that is read is the array's. -/
theorem MayEnd.entry {good : SectorId → PartialArray → σ → Prop} {i : Nat} (small : i < indexCount)
    (held : sector.isAllocated = true) (found : array.Has sector → good (array.entry sector i) array s)
    (refused : ∀ why, bad (.fault why) array s) :
    (entry sector i : SectorM σ SectorId).MayEnd still array s good bad := by
  unfold IndexBlock.entry
  rw [SectorM.mayEnd_bind, SectorM.mayEnd_perform, Action.ensures_checkedMul, if_pos (word_lt small), SectorM.mayEnd_bind,
    SectorM.mayEnd_readAt]
  refine ⟨fun fits has => ?_, refused⟩
  have read : SectorId.mk (Words.ofBytes ((array.get sector).slice (i * Words.wordSize) Words.wordSize fits)) =
      array.entry sector i := by
    rw [PartialArray.entry_of_allocated held, Vector.getElem?_eq_getElem small, Option.getD_some]
    unfold PartialArray.block
    simp only [decode, Words.decode, Vector.getElem_map, Vector.getElem_ofFn, Nat.mul_comm]
  rw [SectorM.mayEnd_pure, read]
  exact found has

end IndexBlock

namespace DiskInode

@[simp] theorem mayEnd_load {good : DiskInode → PartialArray → σ → Prop} :
    (load sector : SectorM σ DiskInode).MayEnd still array s good bad ↔
      (array.Has sector → good (array.inode sector) array s) ∧ ∀ why, bad (.fault why) array s := by
  unfold load PartialArray.inode
  rw [SectorM.mayEnd_bind, SectorM.mayEnd_readAt]
  simp only [SectorM.mayEnd_pure, Block.slice_whole]
  exact and_congr_left' (forall_prop_of_true (Nat.le_of_eq (Nat.zero_add _)))

@[simp] theorem mayEnd_store {inode : DiskInode} {good : Unit → PartialArray → σ → Prop} :
    (inode.store sector : SectorM σ Unit).MayEnd still array s good bad ↔
      (array.Has sector → (still → inode.encode = array.get sector) ∧ good () (array.set sector inode.encode) s) ∧
        ∀ why, bad (.fault why) array s := by
  unfold store
  rw [SectorM.mayEnd_writeAt]
  simp only [Block.splice_whole]
  exact and_congr_left' (forall_prop_of_true (Block.fits_whole _))

/-- The inode of an open file is what its sector holds. -/
theorem MayEnd.ofOpen {good : DiskInode → PartialArray → σ → Prop}
    (loaded : array.Has sector → (array.inode sector).isValid = true → good (array.inode sector) array s)
    (refused : ∀ why, bad (.fault why) array s) :
    (ofOpen sector : SectorM σ DiskInode).MayEnd still array s good bad := by
  unfold DiskInode.ofOpen
  rw [SectorM.mayEnd_bind, mayEnd_load]
  refine ⟨fun has => ?_, refused⟩
  rw [SectorM.mayEnd_bind, SectorM.mayEnd_require]
  split
  · rename_i valid
    exact loaded has valid
  · exact refused _

/-- A look-up gives the sector at the place and changes nothing, or the map leads past the end. -/
theorem MayEnd.lookup {inode : DiskInode} {place : Location} (inTables : place.InTables)
    {good : SectorId → PartialArray → σ → Prop} (found : good (array.find inode place) array s)
    (refused : ∀ why, bad (.fault why) array s) :
    (inode.lookup place : SectorM σ SectorId).MayEnd still array s good bad := by
  cases place with
  | direct i =>
      have low : i < directCount := inTables
      simp only [PartialArray.find, Vector.getElem?_eq_getElem low, Option.getD_some] at found
      simp only [DiskInode.lookup, dif_pos low, SectorM.mayEnd_pure]
      exact found
  | indirect i =>
      simp only [DiskInode.lookup, SectorM.mayEnd_ite, SectorM.mayEnd_pure]
      split
      · rename_i held
        exact IndexBlock.MayEnd.entry inTables held (fun _ => found) refused
      · rename_i missing
        rw [PartialArray.find, PartialArray.entry_of_not_allocated (by simpa using missing)] at found
        exact found
  | doubleIndirect q i =>
      obtain ⟨lowOuter, lowInner⟩ := inTables
      rw [PartialArray.find] at found
      simp only [DiskInode.lookup, SectorM.mayEnd_ite, SectorM.mayEnd_pure]
      split
      · rename_i held
        rw [SectorM.mayEnd_bind]
        refine IndexBlock.MayEnd.entry lowOuter held (fun _ => ?_) refused
        rw [SectorM.mayEnd_ite]
        split
        · rename_i heldInner
          exact IndexBlock.MayEnd.entry lowInner heldInner (fun _ => found) refused
        · rename_i missing
          rw [PartialArray.entry_of_not_allocated (by simpa using missing)] at found
          exact found
      · rename_i missing
        have none : array.entry inode.doubleIndirect q = .unmapped :=
          PartialArray.entry_of_not_allocated (by simpa using missing) q
        rw [none, PartialArray.entry_unmapped] at found
        exact found
  | outOfRange => exact found

end DiskInode

end Inodes

end InodeVolume
