import Mathlib.Data.Multiset.AddSub
import InodeVolume.Proofs.Cache.Idle

/-!
# Disks that are watched

A disk in memory counts how often it is read and written, but not which sectors. A `Watched` disk
remembers the sectors as well, and a cache over it does what it does over the disk alone.

* **mirrors** — `Action.Mirrors`: an action runs as another one does on a smaller state, with one rule
  per way of building an action;
* **caches** — over a device that reflects another one, a cache does the same
  (`CacheRequest.serve_mirrors`), and so do runs of requests (`CacheRequest.tally_mirrors`);
* **watching** — `Watched.reflects`, and `Watched.Costs`: what was read and written between two states.
-/

namespace InodeVolume

/-! ## Mirrors -/

namespace Action

variable {σ τ α β : Type} {forget : σ → τ}

/-- From every state the image runs as the action does, on what is left of the state. -/
def Mirrors (forget : σ → τ) (act : Action σ α) (image : Action τ α) : Prop :=
  ∀ s log, image.run ⟨forget s, log⟩ = match act.run ⟨s, log⟩ with
    | .ok a after => .ok a ⟨forget after.state, after.log⟩
    | .error failure after => .error failure ⟨forget after.state, after.log⟩

namespace Mirrors

theorem refl (act : Action σ α) : Mirrors id act act := by
  intro s log
  show act.run ⟨s, log⟩ = _
  cases act.run ⟨s, log⟩ <;> rfl

theorem pure {a : α} : Mirrors forget (pure a) (pure a) := fun _ _ => rfl

theorem fault {why : Fault} : Mirrors forget (fault why : Action σ α) (Action.fault why) := fun _ _ => rfl

theorem emit {event : Event} : Mirrors forget (emit event) (Action.emit event) := fun _ _ => rfl

theorem bind {act : Action σ β} {image : Action τ β} {next : β → Action σ α} {next' : β → Action τ α}
    (first : Mirrors forget act image) (rest : ∀ b, Mirrors forget (next b) (next' b)) :
    Mirrors forget (act >>= next) (image >>= next') := by
  intro s log
  rw [run_bind, run_bind, first s log]
  cases act.run ⟨s, log⟩ with
  | ok b after => exact rest b after.state after.log
  | error failure after => rfl

/-- What comes after a look at the state mirrors what comes after a look at what is left of it. -/
theorem get_bind {next : σ → Action σ α} {next' : τ → Action τ α}
    (rest : ∀ s, Mirrors forget (next s) (next' (forget s))) :
    Mirrors forget (get >>= next) (get >>= next') := fun s log => rest s s log

/-- A change that is forgotten does not show. -/
theorem modify_bind {f : σ → σ} {act : Action σ α} {image : Action τ α} (forgotten : ∀ s, forget (f s) = forget s)
    (mirrors : Mirrors forget act image) : Mirrors forget (do modify f; act) image := by
  intro s log
  have here := mirrors (f s) log
  rw [forgotten] at here
  exact here

theorem ite {p : Prop} [Decidable p] {yes no : Action σ α} {yes' no' : Action τ α}
    (first : Mirrors forget yes yes') (second : Mirrors forget no no') :
    Mirrors forget (if p then yes else no) (if p then yes' else no') := by
  split
  · exact first
  · exact second

theorem require {kept : Bool} {rule : Rule} : Mirrors forget (require kept rule) (Action.require kept rule) :=
  .ite .pure .fault

theorem checkedAdd {a b : Nat} : Mirrors forget (checkedAdd a b) (Action.checkedAdd a b) := .ite .pure .fault

theorem forM {step : β → Action σ PUnit} {step' : β → Action τ PUnit} {list : List β}
    (each : ∀ b, Mirrors forget (step b) (step' b)) : Mirrors forget (list.forM step) (list.forM step') := by
  induction list with
  | nil => exact .pure
  | cons b rest ih => exact .bind (each b) fun _ => ih

/-- An action on a part mirrors one on the part that is left of it. -/
theorem within {σ' τ' : Type} {keep : σ' → τ'} {split : σ → σ' × (σ' → σ)} {split' : τ → τ' × (τ' → τ)}
    {act : Action σ' α} {image : Action τ' α} (part : ∀ s, (split' (forget s)).1 = keep (split s).1)
    (back : ∀ s t, forget ((split s).2 t) = (split' (forget s)).2 (keep t)) (mirrors : Mirrors keep act image) :
    Mirrors forget (act.within split) (image.within split') := by
  intro s log
  have here := mirrors (split s).1 log
  simp only [run, Action.within, part] at here ⊢
  rw [here]
  cases act ⟨(split s).1, log⟩ <;> simp only [back]

/-- An action on the part that is left mirrors what it does there. -/
theorem part {split : σ → τ × (τ → σ)} (part : ∀ s, (split s).1 = forget s) (back : ∀ s t, forget ((split s).2 t) = t)
    (act : Action τ α) : Mirrors forget (act.within split) act := by
  intro s log
  simp only [run, Action.within, part]
  cases act ⟨forget s, log⟩ <;> simp only [back]

end Mirrors

end Action

/-! ## Caches -/

namespace CachedDisk

variable {D D' : Type} {n : Nat} {α : Type} {image : D → D'}

open InodeVolume.Action (Mirrors)

/-- The same cache over the image of its device. -/
def above (image : D → D') (disk : CachedDisk D n) : CachedDisk D' n := ⟨image disk.device, disk.cache⟩

theorem onCache_mirrors (act : Action (Cache n) α) : Mirrors (above image) (onCache act) (onCache act) :=
  .within (fun _ => rfl) (fun _ _ => rfl) (.refl act)

theorem onDevice_mirrors {act : Action D α} {act' : Action D' α} (mirrors : Mirrors image act act') :
    Mirrors (above image (n := n)) (onDevice act) (onDevice act') :=
  .within (fun _ => rfl) (fun _ _ => rfl) mirrors

theorem slot_mirrors (i : Fin n) : Mirrors (above image) (slot i) (slot i) := .get_bind fun _ => .pure

theorem requireWithin_mirrors (offset length : Nat) :
    Mirrors (above image (n := n)) (requireWithin offset length) (requireWithin offset length) :=
  .bind .checkedAdd fun _ => .require

theorem requireInside_mirrors (start length size : Nat) :
    Mirrors (above image (n := n)) (requireInside start length size) (requireInside start length size) :=
  .bind .checkedAdd fun _ => .ite .pure .fault

variable [BlockDevice D] [BlockDevice D']

/-- A device that is read and written as its image is. -/
structure Reflects (image : D → D') : Prop where
  read (index length : Nat) : Mirrors image (BlockDevice.readSector index length) (BlockDevice.readSector index length)
  write (index : Nat) (bytes : Bytes) :
    Mirrors image (BlockDevice.writeSector index bytes) (BlockDevice.writeSector index bytes)

variable (reflects : Reflects image)

include reflects

theorem flush_mirrors (i : Fin n) : Mirrors (above image) (flush i) (flush i) := by
  refine .bind (slot_mirrors i) fun held => ?_
  cases held with
  | none => exact onCache_mirrors _
  | some entry => exact .ite (.bind (onDevice_mirrors (reflects.write _ _)) fun _ => onCache_mirrors _) (onCache_mirrors _)

theorem makeRoom_mirrors (newcomer : SectorId) : Mirrors (above image (n := n)) (makeRoom newcomer) (makeRoom newcomer) := by
  refine .get_bind fun disk => ?_
  dsimp only [above]
  cases disk.cache.vacant? with
  | some i => exact .pure
  | none =>
      refine .bind (onCache_mirrors _) fun i => .bind (slot_mirrors i) fun given => ?_
      exact .bind .emit fun _ => .bind (flush_mirrors reflects i) fun _ => .pure

theorem resident_mirrors (sector : SectorId) : Mirrors (above image (n := n)) (resident sector) (resident sector) := by
  refine .get_bind fun disk => ?_
  dsimp only [above]
  cases disk.cache.find? sector with
  | some place => exact .bind .emit fun _ => .pure
  | none =>
      refine .bind .emit fun _ => .bind (makeRoom_mirrors reflects sector) fun i => ?_
      exact .bind (onDevice_mirrors (reflects.read _ _)) fun _ => .bind (onCache_mirrors _) fun _ => .pure

theorem readInto_mirrors (sector : SectorId) (buffer : Bytes) (start length offset : Nat) :
    Mirrors (above image (n := n)) (readInto sector buffer start length offset)
      (readInto sector buffer start length offset) := by
  refine .bind (requireWithin_mirrors _ _) fun _ => .bind (resident_mirrors reflects sector) fun found => ?_
  exact .bind (requireInside_mirrors _ _ _) fun _ => .bind (onCache_mirrors _) fun _ => .pure

theorem writeFrom_mirrors (sector : SectorId) (buffer : Bytes) (start length offset : Nat) :
    Mirrors (above image (n := n)) (writeFrom sector buffer start length offset)
      (writeFrom sector buffer start length offset) := by
  refine .bind (requireWithin_mirrors _ _) fun _ => .bind (resident_mirrors reflects sector) fun found => ?_
  refine .bind (requireInside_mirrors _ _ _) fun _ => ?_
  dsimp only
  split
  · exact onCache_mirrors _
  · exact .fault

theorem clean_mirrors (i : Fin n) : Mirrors (above image) (clean i) (clean i) := by
  refine .bind (slot_mirrors i) fun held => ?_
  cases held with
  | none => exact .pure
  | some entry => exact .ite (.bind (onDevice_mirrors (reflects.write _ _)) fun _ => onCache_mirrors _) .pure

theorem sync_mirrors : Mirrors (above image (n := n)) sync sync := .forM fun i => clean_mirrors reflects i

theorem shutdown_mirrors : Mirrors (above image (n := n)) shutdown shutdown :=
  .bind (.forM fun i => flush_mirrors reflects i) fun _ => onCache_mirrors _

end CachedDisk

namespace CacheRequest

variable {D D' : Type} {n : Nat} {image : D → D'} [BlockDevice D] [BlockDevice D']

open InodeVolume.Action (Mirrors)
open CachedDisk (Reflects above)

theorem serve_mirrors (reflects : Reflects image) (request : CacheRequest) :
    Mirrors (above image (n := n)) request.serve request.serve := by
  cases request with
  | read sector buffer start length offset => exact .bind (CachedDisk.readInto_mirrors reflects _ _ _ _ _) fun _ => .pure
  | write sector buffer start length offset => exact .bind (CachedDisk.writeFrom_mirrors reflects _ _ _ _ _) fun _ => .pure
  | isResident sector => exact .get_bind fun _ => .pure
  | sync => exact .bind (CachedDisk.sync_mirrors reflects) fun _ => .pure
  | shutdown => exact .bind (CachedDisk.shutdown_mirrors reflects) fun _ => .pure

theorem tally_mirrors (reflects : Reflects image) (requests : List CacheRequest) :
    Mirrors (above image (n := n)) (tally requests) (tally requests) := by
  induction requests with
  | nil => exact .pure
  | cons request rest ih =>
      exact .get_bind fun _ => .bind (serve_mirrors reflects request) fun _ => .bind ih fun _ => .pure

end CacheRequest

/-! ## Watching -/

/-- A disk in memory, with the places that were read and written since it is watched. -/
structure Watched where
  disk : RamDisk
  loaded : Multiset Nat
  stored : Multiset Nat

namespace Watched

variable {α : Type} {device first second third : Watched} {sector : SectorId} {loads stores loads' stores' : Multiset Nat}

/-- A disk that is watched from now on. -/
def start (disk : RamDisk) : Watched := ⟨disk, 0, 0⟩

/-- An action on the disk. -/
def onDisk (act : Action RamDisk α) : Action Watched α :=
  act.within fun ⟨disk, loaded, stored⟩ => (disk, fun disk => ⟨disk, loaded, stored⟩)

instance : BlockDevice Watched where
  sectorCount device := device.disk.sectors.size
  readSector index length := do
    modify fun device => { device with loaded := device.loaded + {index} }
    onDisk (RamDisk.readSector index length)
  writeSector index bytes := do
    modify fun device => { device with stored := device.stored + {index} }
    onDisk (RamDisk.writeSector index bytes)

instance : LawfulDevice Watched where
  Sound _ := True
  sectors device := ⟨device.disk.sectors⟩
  count_sectors _ := rfl
  read := by
    intro device sector _ inside
    refine .bind (Action.ensures_modify.mpr (Action.ensures_within.mpr ?_))
    exact LawfulDevice.read (D := RamDisk) trivial inside
  write := by
    intro device sector _ inside data
    refine .bind (Action.ensures_modify.mpr (Action.ensures_within.mpr ?_))
    exact LawfulDevice.write (D := RamDisk) trivial inside data

theorem onDisk_mirrors (act : Action RamDisk α) : Action.Mirrors disk (onDisk act) act := by
  refine .part ?_ ?_ act
  · exact fun _ => rfl
  · exact fun _ _ => rfl

/-- A watched disk does what the disk does. -/
theorem reflects : CachedDisk.Reflects disk where
  read _ _ := .modify_bind (fun _ => rfl) (onDisk_mirrors _)
  write _ _ := .modify_bind (fun _ => rfl) (onDisk_mirrors _)

/-- What was read and written between two states. The disk itself has counted as much. -/
structure Costs (loads stores : Multiset Nat) (before after : Watched) : Prop where
  loaded : after.loaded = before.loaded + loads
  stored : after.stored = before.stored + stores
  reads : after.disk.reads = before.disk.reads + loads.card
  writes : after.disk.writes = before.disk.writes + stores.card

theorem Costs.refl (device : Watched) : Costs 0 0 device device := ⟨by simp, by simp, rfl, rfl⟩

theorem Costs.trans (costs : Costs loads stores first second) (more : Costs loads' stores' second third) :
    Costs (loads + loads') (stores + stores') first third where
  loaded := by rw [more.loaded, costs.loaded, add_assoc]
  stored := by rw [more.stored, costs.stored, add_assoc]
  reads := by rw [more.reads, costs.reads, Multiset.card_add, Nat.add_assoc]
  writes := by rw [more.writes, costs.writes, Multiset.card_add, Nat.add_assoc]

theorem readSector_costs (index length : Nat) :
    (BlockDevice.readSector index length : Action Watched (Block length)).Ensures device
      (fun _ after => Costs {index} 0 device after) fun _ _ => True := by
  refine .bind (Action.ensures_modify.mpr (Action.ensures_within.mpr ?_))
  unfold RamDisk.readSector
  split
  · refine .bind (Action.ensures_modify.mpr (.bind (Action.ensures_get.mpr ?_)))
    split
    · exact Action.ensures_pure.mpr ⟨rfl, (add_zero _).symm, rfl, rfl⟩
    · exact Action.ensures_fault.mpr trivial
  · exact Action.ensures_fault.mpr trivial

theorem writeSector_costs (index : Nat) (bytes : Bytes) :
    (BlockDevice.writeSector index bytes : Action Watched Unit).Ensures device
      (fun _ after => Costs 0 {index} device after) fun _ _ => True := by
  refine .bind (Action.ensures_modify.mpr (Action.ensures_within.mpr ?_))
  unfold RamDisk.writeSector
  split
  · refine .bind (Action.ensures_modify.mpr (.bind (Action.ensures_get.mpr ?_)))
    dsimp only
    split
    · exact Action.ensures_modify.mpr ⟨(add_zero _).symm, rfl, rfl, rfl⟩
    · exact Action.ensures_fault.mpr trivial
  · exact Action.ensures_fault.mpr trivial

end Watched

end InodeVolume
