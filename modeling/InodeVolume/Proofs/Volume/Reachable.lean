import InodeVolume.Proofs.Volume.Calls
import InodeVolume.Proofs.Volume.Devices

/-!
# Volumes that callers can reach

A `World` is a device, the volume that is mounted on it, and what the callers of the volume know.
`Reachable` are the worlds that come from a successful format by permitted calls, whether or not they
fail, and by shutting down and mounting again while nobody has a file open.

* **steps** — `Sane` worlds stay sane: under a call (`Sane.after`) and under a new mount
  (`Sane.remounted`);
* **runs** — `Reachable.sane`: every world that can be reached is sane, and under the strict discipline
  its fixed files are guarded besides.
-/

namespace InodeVolume

/-- A device, the volume that is mounted on it, and what its callers know. -/
structure World (D : Type) where
  device : D
  mount : Mount FreeMap
  ledger : Ledger

namespace World

variable {D α : Type} [BlockDevice D]

open Volume (Call Discipline Healthy Saved initialLedger)

/-- Carries a computation out on the volume. -/
def run (world : World D) (computation : SectorM Volume α) (log : Array Event) :
    EStateM.Result Failure (Traced (D × Mount FreeMap)) α :=
  (Mount.run computation).run ⟨(world.device, world.mount), log⟩

/-- The world that a call leaves, whether or not it failed. -/
def after (world : World D) (call : Call α) (log : Array Event) : World D :=
  match world.run call.perform log with
  | .ok a ⟨(device, mount), _⟩ => ⟨device, mount, call.record world.ledger (.ok a)⟩
  | .error failure ⟨(device, mount), _⟩ => ⟨device, mount, call.record world.ledger (.error failure)⟩

variable {world : World D} {rules : Discipline}

theorem after_eq {call : Call α} {a : α} {device : D} {mount : Mount FreeMap} {log log' : Array Event}
    (ended : world.run call.perform log = .ok a ⟨(device, mount), log'⟩) :
    world.after call log = ⟨device, mount, call.record world.ledger (.ok a)⟩ := by
  unfold World.after
  rw [ended]

variable [LawfulDevice D]

open LawfulDevice (Sound)
open PartialArray (Same)

/-- The sectors that the volume shows. -/
def sectors (world : World D) : PartialArray := world.mount.sectors world.device

/-- The files of a volume are in use as its callers know. -/
structure Sane (world : World D) : Prop where
  shown : (world.mount.disk world.device).Shows (world.mount.disk world.device).overlay
  healthy : Healthy world.sectors world.mount.files world.ledger

/-- A cached disk shows one array, so any that it shows will do. -/
theorem Sane.of_shows {array : SectorArray} (shown : (world.mount.disk world.device).Shows array)
    (healthy : Healthy (.ofWhole array) world.mount.files world.ledger) : world.Sane := by
  obtain rfl := shown.eq_overlay
  exact ⟨shown, healthy⟩

/-! ## Steps -/

/-- A call leaves the world sane, the files it does not touch as they were, and free sectors spared. -/
theorem Sane.after (sane : world.Sane) (keeps : ∀ sector, rules.removable sector → sector ≠ freeMapSector)
    (call : Call α) (permitted : call.Permitted rules world.ledger) (log : Array Event) :
    (world.after call log).Sane ∧ (∀ other ∈ world.ledger.files, ¬call.Touches other →
      Same world.sectors (world.after call log).sectors other) ∧
      Volume.Spared world.sectors (world.after call log).sectors (world.after call log).mount.files.space := by
  have ran := Mount.run_ensures (call.perform_ensures sane.healthy keeps permitted) sane.shown log
  revert ran
  unfold World.after World.run
  cases (Mount.run call.perform).run ⟨(world.device, world.mount), log⟩ with
  | ok a ended =>
      rintro ⟨array, shown, healthy, same, spared⟩
      rw [← Mount.sectors_eq shown] at same spared
      exact ⟨Sane.of_shows shown healthy, same, spared⟩
  | error failure ended =>
      rintro ⟨array, shown, healthy, same, -, spared⟩
      rw [← Mount.sectors_eq shown] at same spared
      exact ⟨Sane.of_shows shown healthy, same, spared⟩

/-- A permitted call fails in one of the ways that are told. -/
theorem Sane.mayFail (sane : world.Sane) (keeps : ∀ sector, rules.removable sector → sector ≠ freeMapSector)
    (call : Call α) (permitted : call.Permitted rules world.ledger) {log : Array Event} {failure : Failure}
    {ended : Traced (D × Mount FreeMap)} (failed : world.run call.perform log = .error failure ended) :
    call.MayFail world.ledger failure := by
  have ran := Mount.run_ensures (call.perform_ensures sane.healthy keeps permitted) sane.shown log
  unfold World.run at failed
  rw [failed] at ran
  obtain ⟨-, -, -, -, told, -⟩ := ran
  exact told

/-- A volume that was saved is taken up as it was, with nobody in it. -/
theorem Sane.mounted (sane : world.Sane) {device device' : D}
    (saved : Saved world.sectors world.mount.files world.ledger device) {capacity memory : Nat} {mount : Mount FreeMap}
    {log log' : Array Event} (mounted : (Volume.mount capacity memory).run ⟨device, log⟩ = .ok mount ⟨device', log'⟩) :
    (⟨device', mount, { world.ledger with holders := [] }⟩ : World D).Sane ∧
      (⟨device', mount, { world.ledger with holders := [] }⟩ : World D).sectors =
        .ofWhole (LawfulDevice.sectors device) ∧
      mount.files.space = world.mount.files.space := by
  have healthy := sane.healthy
  have map := saved.map
  rw [← saved.inode] at map
  have ran := Volume.mount_ensures { world.ledger with holders := [] } rfl saved.sound capacity memory saved.intact
    healthy.live.1 map healthy.live.2 log
  rw [mounted] at ran
  obtain ⟨shown, space, kept⟩ := ran
  refine ⟨Sane.of_shows shown ⟨⟨?_, kept, fun _ there => by cases there⟩, healthy.live, ?_⟩,
    Mount.sectors_eq shown, space⟩
  · show Intact _ mount.files.space _
    rw [space]
    exact saved.intact
  · show mount.files.space.byteLength ≤ _
    rw [space, saved.inode]
    exact healthy.length

/-! ## Runs -/

/-- Worlds that come from a successful format by what the callers may do. -/
inductive Reachable (rules : Discipline) : World D → Prop where
  | format {device device' : D} {capacity memory : Nat} {mount : Mount FreeMap} {log log' : Array Event}
      (sound : Sound device)
      (formatted : (Volume.format capacity memory).run ⟨device, log⟩ = .ok mount ⟨device', log'⟩) :
      Reachable rules ⟨device', mount, initialLedger⟩
  | call {world : World D} {α : Type} (reached : Reachable rules world) (call : Call α)
      (permitted : call.Permitted rules world.ledger) (log : Array Event) :
      Reachable rules (world.after call log)
  | remount {world : World D} {device device' : D} {capacity memory : Nat} {gone mount : Mount FreeMap}
      {log log' later later' : Array Event} (reached : Reachable rules world)
      (nobody : world.ledger.holders = [])
      (closed : world.run Volume.shutdown log = .ok () ⟨(device, gone), log'⟩)
      (mounted : (Volume.mount capacity memory).run ⟨device, later⟩ = .ok mount ⟨device', later'⟩) :
      Reachable rules ⟨device', mount, world.ledger⟩

/-- **Every world that can be reached is sane.** -/
theorem Reachable.sane (reached : world.Reachable rules)
    (keeps : ∀ sector, rules.removable sector → sector ≠ freeMapSector) : world.Sane := by
  induction reached with
  | format sound formatted =>
      rename_i device device' capacity memory mount log log'
      have ran := Volume.format_ensures sound capacity memory log
      rw [formatted] at ran
      obtain ⟨-, -, array, shown, healthy, -⟩ := ran
      exact Sane.of_shows shown healthy
  | call reached call permitted log sane => exact (sane.after keeps call permitted log).1
  | remount reached nobody closed mounted sane =>
      rename_i world device device' capacity memory gone mount log log' later later'
      have ran := Volume.shutdown_ensures sane.shown sane.healthy log
      unfold World.run at closed
      rw [closed] at ran
      have same : { world.ledger with holders := [] } = world.ledger := by rw [← nobody]
      have sane' := (sane.mounted ran mounted).1
      rw [same] at sane'
      exact sane'

/-- A volume is formatted on a device of eight sectors, and its callers have made no call yet. -/
theorem exists_reachable (rules : Discipline) : ∃ mount device log,
    (Volume.format 2).run ⟨RamDisk.zeroed 8, #[]⟩ = .ok mount ⟨device, log⟩ ∧
      (⟨device, mount, initialLedger⟩ : World RamDisk).Reachable rules := by
  have sound : Sound (RamDisk.zeroed 8) := trivial
  have count : (LawfulDevice.sectors (RamDisk.zeroed 8)).count = 8 := Array.size_replicate
  obtain ⟨mount, device, log, formatted⟩ := Volume.exists_format sound (by rw [count]; decide)
    (by rw [count]; decide) (show HasRoom hostMemory 2 by decide) #[]
  exact ⟨mount, device, log, formatted, .format sound formatted⟩

/-- Under the strict discipline the fixed files are guarded. -/
theorem Reachable.guarded (reached : world.Reachable .strict) : Volume.Call.Guarded world.ledger := by
  induction reached with
  | format sound formatted =>
      exact ⟨⟨by simp [initialLedger], by simp [initialLedger]⟩, by simp [initialLedger]⟩
  | call reached call permitted log guarded =>
      rename_i world α
      unfold World.after
      cases world.run call.perform log with
      | ok a ended => exact Volume.Call.guarded_record guarded call permitted _
      | error failure ended => exact Volume.Call.guarded_record guarded call permitted _
  | remount reached nobody closed mounted guarded => exact guarded

/-- Neither discipline lets the free map's file be removed. -/
theorem lenient_keeps (sector : SectorId) (removable : Discipline.lenient.removable sector) :
    sector ≠ freeMapSector := removable

theorem strict_keeps (sector : SectorId) (removable : Discipline.strict.removable sector) :
    sector ≠ freeMapSector := removable.1

end World

end InodeVolume
