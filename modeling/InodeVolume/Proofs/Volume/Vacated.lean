import InodeVolume.Proofs.Volume.AnyContents
import InodeVolume.Proofs.Volume.Formatting
import InodeVolume.Proofs.Volume.Lifecycle

/-!
# Sectors whose file is gone

The last close of a removed file gives its sectors back and changes none of them, so its inode stays where it
was, magic and all, until the sector is used again.

* **the invariant** — `Idle`: what is left of a file in a sector that is free. It holds once the file is gone,
  and as long as the sector stays free (`Vacated.idle`);
* **opening** — `Idle.opens`: the inode that was left is opened as any other;
* **removing** — `Idle.faults`: its sector is free already, which removing it again comes upon at the end.
-/

namespace InodeVolume

/-! ## Calls that let a file go -/

namespace Volume.Call

variable {α : Type} {array : PartialArray} {volume : Volume} {ledger : Ledger} {rules : Discipline} {sector : SectorId}

open LawfulAllocator (Taken)

/-- Only to close a file or to remove it lets it go, and that gives its sectors back. -/
theorem gives_back (tended : Tended array volume ledger) (call : Call α) (permitted : call.Permitted rules ledger)
    {result : Except Failure α} (listed : sector ∈ ledger.files) (gone : sector ∉ (call.record ledger result).files) :
    call.Handles ledger ∧ ∀ before after, call.Frees array ledger before after → GivesBack array sector before after := by
  cases call with
  | close holder =>
      refine ⟨permitted, fun before after frees => ?_⟩
      cases result with
      | error failure => exact absurd listed gone
      | ok _ =>
          have gone : sector ∉ (ledger.closed holder).files := gone
          have here : sector = holder.sector := by
            by_contra different
            exact gone ((Ledger.mem_files_closed different).mpr listed)
          have last : ledger.holding holder.sector = 1 ∧ holder.sector ∈ ledger.doomed := by
            by_contra other
            refine gone ?_
            rw [← not_ne_iff (a := ledger.holding _), ← tended.kept.still_iff permitted] at other
            rw [Ledger.closed, if_neg other]
            exact listed
          rw [here]
          exact (if_pos last).mp frees
  | remove file =>
      refine ⟨permitted.1.1, fun before after frees => ?_⟩
      cases result with
      | error failure => exact absurd listed gone
      | ok _ =>
          have gone : sector ∉ (ledger.removed file).files := gone
          have here : sector = file := by
            by_contra different
            exact gone ((Ledger.mem_files_removed different).mpr listed)
          have last : ledger.holding file = 0 := by
            rw [Ledger.holding_eq_zero]
            by_contra other
            obtain ⟨holder, there, here⟩ : ∃ holder ∈ ledger.holders, holder.sector = file := by
              simpa using other
            exact gone (by rw [Ledger.removed, if_pos ⟨holder, there, here⟩]; exact listed)
          rw [here]
          exact (if_pos last).mp frees
  | create _ _ | openAt _ | openRoot | reopen _ | read _ _ _ | write _ _ _ | stat _ | denyWrite _ | allowWrite _
  | discard _ | sync =>
      cases result <;> first
        | exact absurd listed gone
        | exact absurd (List.mem_cons_of_mem _ listed) gone

end Volume.Call

/-! ## Removing what is free -/

namespace FreeMap

/-- Releasing sectors sets no bit. -/
theorem release_clear {map : FreeMap} {bit : Nat} {sector : SectorId} (clear : map.marked bit = false) :
    (release sector 1).Ensures map (fun _ after => after.marked bit = false) fun failure _ => ∃ why, failure = .fault why := by
  refine (release_cases map sector).mono ?_ fun _ _ failed => failed
  rintro _ after ⟨inside, -, rfl⟩
  rw [marked_unmark map inside, clear, Bool.false_and]

/-- What is free already is not released. -/
theorem release_free {map : FreeMap} {sector : SectorId} (clear : map.marked sector.index = false) :
    (release sector 1).Ensures map (fun _ _ => False) fun failure _ => ∃ why, failure = .fault why := by
  refine (release_cases map sector).mono ?_ fun _ _ failed => failed
  rintro _ after ⟨-, marked, -⟩
  rw [clear] at marked
  cases marked

end FreeMap

namespace Volume

/-- **Removing** the file of a sector that is free comes upon it at the latest when the sector itself is to be
given back. Whatever the block map leads to by then is given back before. -/
theorem remove_free {still : Prop} {array : PartialArray} {table : InodeTable} {space : FreeMap} {sector : SectorId}
    (absent : table.find? sector = none) (valid : (array.inode sector).isValid = true)
    (clear : space.marked sector.index = false) :
    (remove sector).MayEnd still array ⟨table, space⟩ (fun _ _ _ => False) (Unchanged array) := by
  refine remove_absent absent (fun _ => ?_) ?_
  · refine (DiskInode.reclaim_mayEnd FreeMap.release_clear FreeMap.release_free clear).mono ?_ fun _ _ _ failed => failed
    exact fun _ _ _ impossible => impossible.2
  · rintro failure _ (fault | ⟨invalid, -⟩)
    · exact ⟨fault, rfl⟩
    · rw [valid] at invalid
      cases invalid

end Volume

/-! ## The invariant -/

namespace World

variable {D α : Type} [BlockDevice D] [LawfulDevice D] {world : World D} {rules : Volume.Discipline} {sector : SectorId}

open Volume (Call Discipline initialLedger)
open LawfulAllocator (Taken)

/-- Worlds in which the file on a sector was removed and let go, and the sector was free ever after. -/
inductive Vacated (rules : Discipline) (sector : SectorId) : World D → Prop where
  | gone {world : World D} {α : Type} (reached : world.Reachable rules) (call : Call α)
      (permitted : call.Permitted rules world.ledger) (log : Array Event) (listed : sector ∈ world.ledger.files)
      (left : sector ∉ (world.after call log).ledger.files) : Vacated rules sector (world.after call log)
  | call {world : World D} {α : Type} (vacated : Vacated rules sector world) (call : Call α)
      (permitted : call.Permitted rules world.ledger) (log : Array Event)
      (free : ¬Taken (world.after call log).mount.files.space sector) : Vacated rules sector (world.after call log)
  | remount {world : World D} {device device' : D} {capacity memory : Nat} {gone mount : Mount FreeMap}
      {log log' later later' : Array Event} (vacated : Vacated rules sector world)
      (nobody : world.ledger.holders = [])
      (closed : world.run Volume.shutdown log = .ok () ⟨(device, gone), log'⟩)
      (mounted : (Volume.mount capacity memory).run ⟨device, later⟩ = .ok mount ⟨device', later'⟩) :
      Vacated rules sector ⟨device', mount, world.ledger⟩

theorem Vacated.reachable (vacated : world.Vacated rules sector) : world.Reachable rules := by
  induction vacated with
  | gone reached call permitted log => exact reached.call call permitted log
  | call _ call permitted log _ reached => exact reached.call call permitted log
  | remount _ nobody closed mounted reached => exact reached.remount nobody closed mounted

/-- No file is on the sector, and yet it holds an inode. -/
structure Idle (world : World D) (sector : SectorId) : Prop where
  absent : sector ∉ world.ledger.files
  free : ¬Taken world.mount.files.space sector
  valid : (world.sectors.inode sector).isValid = true

/-- A file that is let go leaves its inode. -/
theorem Sane.idle (sane : world.Sane) (attended : world.ledger.Attended) (call : Call α)
    (permitted : call.Permitted rules world.ledger) (log : Array Event) (listed : sector ∈ world.ledger.files)
    (left : sector ∉ (world.after call log).ledger.files) : (world.after call log).Idle sector := by
  have tended := sane.healthy.sane.tended
  have whole := tended.parted.whole sector listed
  have gives : call.Handles world.ledger ∧ ∀ before after, call.Frees world.sectors world.ledger before after →
      Volume.GivesBack world.sectors sector before after := by
    unfold World.after at left
    split at left <;> exact call.gives_back tended permitted listed left
  have ran := Mount.run_ensures (call.handle_ensures tended attended gives.1) sane.shown log
  revert ran left
  unfold World.after World.run
  cases (Mount.run call.perform).run ⟨(world.device, world.mount), log⟩ with
  | ok a ended =>
      rintro left ⟨array, shown, same, -, -, frees⟩
      have sectors := (Mount.sectors_eq shown).trans same
      refine ⟨left, ((gives.2 _ _ frees).1 sector (.inl rfl)).2, ?_⟩
      rw [World.sectors, sectors]
      exact whole.valid
  | error failure ended =>
      -- a file that cannot be opened is not let go
      rintro left ⟨-, -, -, ⟨_, opens, -⟩, -⟩
      have kept : sector ∈ (call.record world.ledger (.error failure)).files := by
        rw [Call.record_of_opens opens]
        exact listed
      exact absurd kept left

/-- The inode is there as long as the sector is free. -/
theorem Idle.after (idle : world.Idle sector) (sane : world.Sane)
    (keeps : ∀ sector, rules.removable sector → sector ≠ freeMapSector) (call : Call α)
    (permitted : call.Permitted rules world.ledger) (log : Array Event)
    (free : ¬Taken (world.after call log).mount.files.space sector) : (world.after call log).Idle sector := by
  obtain ⟨sane', -, spared⟩ := sane.after keeps call permitted log
  refine ⟨fun listed => free ?_, free, ?_⟩
  · exact sane'.healthy.sane.intact.taken_of_owns listed (.inl rfl)
  · rcases spared sector free with same | valid
    · rw [PartialArray.inode_congr same]
      exact idle.valid
    · exact valid

/-- Saving a volume and taking it up again does not touch the inode. -/
theorem Idle.remounted (idle : world.Idle sector) (sane : world.Sane) {device device' : D} {capacity memory : Nat}
    {mount : Mount FreeMap} {later later' : Array Event}
    (saved : Volume.Saved world.sectors world.mount.files world.ledger device)
    (mounted : (Volume.mount capacity memory).run ⟨device, later⟩ = .ok mount ⟨device', later'⟩) :
    (⟨device', mount, world.ledger⟩ : World D).Idle sector := by
  obtain ⟨-, sectors, space⟩ := sane.mounted saved mounted
  refine ⟨idle.absent, ?_, ?_⟩
  · rw [space]
    exact idle.free
  · have sectors : (⟨device', mount, world.ledger⟩ : World D).sectors = .ofWhole (LawfulDevice.sectors device) := sectors
    rw [sectors, PartialArray.inode_congr (saved.spared sector idle.free)]
    exact idle.valid

theorem Vacated.idle (vacated : world.Vacated rules sector)
    (keeps : ∀ sector, rules.removable sector → sector ≠ freeMapSector) : world.Idle sector := by
  induction vacated with
  | gone reached call permitted log listed left =>
      exact (reached.sane keeps).idle reached.attended call permitted log listed left
  | call vacated call permitted log free idle =>
      exact idle.after (vacated.reachable.sane keeps) keeps call permitted log free
  | remount vacated nobody closed mounted idle =>
      rename_i log _ _ _
      have sane := vacated.reachable.sane keeps
      have ran := Volume.shutdown_ensures sane.shown sane.healthy log
      unfold World.run at closed
      rw [closed] at ran
      exact idle.remounted sane ran mounted

namespace Idle

theorem has (idle : world.Idle sector) (sane : world.Sane) : world.sectors.Has sector := by
  have clear : world.mount.files.space.marked sector.index = false := Bool.eq_false_iff.mpr idle.free
  rw [PartialArray.Has, ← sane.healthy.sectors_eq]
  exact sane.healthy.sane.intact.sound.lt_of_clear clear

/-- Nobody has the inode open. -/
theorem unlisted (idle : world.Idle sector) (sane : world.Sane) : world.mount.files.table.find? sector = none := by
  refine Option.eq_none_iff_forall_not_mem.mpr fun ref found => idle.absent ?_
  exact sane.healthy.sane.held ⟨sector, ref⟩ ((sane.healthy.sane.kept.listed ⟨sector, ref⟩).mp found)

/-! ## Opening and removing -/

/-- The inode is opened as if its file were there. -/
theorem opens (idle : world.Idle sector) (sane : world.Sane) (log : Array Event) :
    ∃ ref device mount log', world.run (Files.openAt sector) log = .ok ref ⟨(device, mount), log'⟩ ∧
      mount.files = ⟨(world.mount.files.table.insert sector).2, world.mount.files.space⟩ ∧
      mount.sectors device = world.sectors := by
  have known : sector ∈ world.sectors := PartialArray.mem_ofWhole.mpr (PartialArray.has_ofWhole.mp (idle.has sane))
  obtain ⟨ref, device, mount, log', array, ended, shown, same, -, files⟩ :=
    Mount.run_ends (Files.openAt_new (idle.unlisted sane) known idle.valid) sane.shown log
  exact ⟨ref, device, mount, log', ended, files, (Mount.sectors_eq shown).trans same⟩

/-- Removing the file again never ends well. -/
theorem faults [RefusingDevice D] (idle : world.Idle sector) (sane : world.Sane) (log : Array Event) :
    ∃ why device mount log', world.run (Volume.remove sector) log = .error (.fault why) ⟨(device, mount), log'⟩ ∧
      mount.sectors device = world.sectors := by
  have clear : world.mount.files.space.marked sector.index = false := Bool.eq_false_iff.mpr idle.free
  have stood : (world.mount.disk world.device).Stands False (world.mount.disk world.device).overlay :=
    ⟨sane.shown, False.elim⟩
  have ran := Mount.run_mayEnd (Volume.remove_free (idle.unlisted sane) idle.valid clear) stood log
  unfold World.run
  revert ran
  cases (Mount.run (Volume.remove sector)).run ⟨(world.device, world.mount), log⟩ with
  | ok u ended => exact fun ⟨_, _, impossible⟩ => impossible.elim
  | error failure ended =>
      obtain ⟨⟨device, mount⟩, log'⟩ := ended
      rintro ⟨array, stood', ⟨why, rfl⟩, same⟩
      exact ⟨why, device, mount, log', rfl, (Mount.sectors_eq stood'.shown).trans same⟩

end Idle

/-! ## A file that was removed -/

/-- A volume of eight sectors, of which one holds the inode of a file that was made and removed. -/
theorem exists_vacated : ∃ (mount : Mount FreeMap) (device : RamDisk) (log : Array Event) (sector : SectorId),
    (Volume.format 2).run ⟨RamDisk.zeroed 8, #[]⟩ = .ok mount ⟨device, log⟩ ∧
      (((⟨device, mount, initialLedger⟩ : World RamDisk).after (.create 0 false) #[]).after
        (.remove sector) #[]).Vacated .lenient sector := by
  have sound : LawfulDevice.Sound (RamDisk.zeroed 8) := trivial
  have count : (LawfulDevice.sectors (RamDisk.zeroed 8)).count = 8 := Array.size_replicate
  obtain ⟨mount, device, told, formatted⟩ := Volume.exists_formatted sound (show HasRoom hostMemory 2 by decide)
    (by rw [count]; decide) (by rw [count]; decide) #[]
  obtain ⟨log, ended⟩ := Action.run_of_result told
  have reached : (⟨device, mount, initialLedger⟩ : World RamDisk).Reachable .lenient := .format sound ended
  have sane := reached.sane lenient_keeps
  have room : LawfulAllocator.left mount.files.space ≠ 0 := by
    have free := formatted.free
    have cost : totalSectors (groupCount 8 * Group.bytes) = 1 := by decide
    have left : Volume.freeSectors mount.files = LawfulAllocator.left mount.files.space := sane.healthy.freeSectors_eq
    rw [count, cost, left] at free
    omega
  -- a file is made
  have creates := (Volume.create_ensures sane.healthy 0 false).mono
    (fun _ _ _ done => And.intro done.1 done.2.1) fun _ _ _ failed => room (failed.2.2.2.2 rfl).2.2.1
  obtain ⟨sector, device₁, mount₁, log₁, array₁, ended₁, shown₁, new, healthy₁⟩ := Mount.run_ends creates sane.shown #[]
  -- and removed again
  have live : (initialLedger.created sector).Live sector := ⟨List.mem_cons_self, List.not_mem_nil⟩
  have new : sector ∉ initialLedger.files := new
  have different : sector ≠ freeMapSector := fun same => new (by rw [same]; decide)
  have removes := (Volume.remove_ensures healthy₁ live different).mono (fun _ _ _ done => done)
    fun _ _ _ failed => Ledger.not_crowded_of_nobody rfl failed.2.1
  obtain ⟨_, device₂, mount₂, log₂, array₂, ended₂, -⟩ := Mount.run_ends removes shown₁ #[]
  have made : (⟨device, mount, initialLedger⟩ : World RamDisk).after (.create 0 false) #[] =
      ⟨device₁, mount₁, initialLedger.created sector⟩ := World.after_eq ended₁
  have removed : (⟨device₁, mount₁, initialLedger.created sector⟩ : World RamDisk).after (.remove sector) #[] =
      ⟨device₂, mount₂, (initialLedger.created sector).removed sector⟩ := World.after_eq ended₂
  refine ⟨mount, device, log, sector, ended, .gone (.call reached (.create 0 false) trivial #[]) (.remove sector) ?_ #[] ?_ ?_⟩
  · rw [made]
    exact ⟨live, different⟩
  · rw [made]
    exact live.1
  · rw [made, removed]
    show sector ∉ ((initialLedger.created sector).removed sector).files
    rw [Ledger.removed, if_neg (by simp [initialLedger, Ledger.created])]
    simp

/-! ## Every world -/

/-- An inode that was left in a free sector is opened as if its file were there, and to remove it again ends
with a fault. Neither changes a sector, and opening it leaves the free map as it was. -/
structure Stale (world : World D) (sector : SectorId) : Prop where
  opens : ∀ log, ∃ ref device mount log', world.run (Files.openAt sector) log = .ok ref ⟨(device, mount), log'⟩ ∧
    mount.files = ⟨(world.mount.files.table.insert sector).2, world.mount.files.space⟩ ∧
    mount.sectors device = world.sectors
  faults : ∀ log, ∃ why device mount log',
    world.run (Volume.remove sector) log = .error (.fault why) ⟨(device, mount), log'⟩ ∧
    mount.sectors device = world.sectors

/-- **A file that is gone leaves its inode**, as long as its sector is not used again. -/
theorem Vacated.stale [RefusingDevice D] (vacated : world.Vacated .lenient sector) : world.Stale sector :=
  have idle := vacated.idle lenient_keeps
  have sane := vacated.reachable.sane lenient_keeps
  ⟨idle.opens sane, idle.faults sane⟩

/-- So the inode of a file that was made and removed is stale. -/
theorem stale_removed : ∃ (mount : Mount FreeMap) (device : RamDisk) (log : Array Event) (sector : SectorId),
    (Volume.format 2).run ⟨RamDisk.zeroed 8, #[]⟩ = .ok mount ⟨device, log⟩ ∧
      (((⟨device, mount, initialLedger⟩ : World RamDisk).after (.create 0 false) #[]).after
        (.remove sector) #[]).Vacated .lenient sector ∧
      (((⟨device, mount, initialLedger⟩ : World RamDisk).after (.create 0 false) #[]).after
        (.remove sector) #[]).Stale sector := by
  obtain ⟨mount, device, log, sector, formatted, vacated⟩ := exists_vacated
  exact ⟨mount, device, log, sector, formatted, vacated, vacated.stale⟩

/-- Neither opening it nor removing it again is refused for want of the magic. -/
theorem not_badMagic_removed : ∃ (mount : Mount FreeMap) (device : RamDisk) (log : Array Event) (sector : SectorId),
    (Volume.format 2).run ⟨RamDisk.zeroed 8, #[]⟩ = .ok mount ⟨device, log⟩ ∧
      (((⟨device, mount, initialLedger⟩ : World RamDisk).after (.create 0 false) #[]).after
        (.remove sector) #[]).Vacated .lenient sector ∧
      (∃ ref ended, (((⟨device, mount, initialLedger⟩ : World RamDisk).after (.create 0 false) #[]).after
        (.remove sector) #[]).run (Files.openAt sector) #[] = .ok ref ended) ∧
      ∃ why ended, (((⟨device, mount, initialLedger⟩ : World RamDisk).after (.create 0 false) #[]).after
        (.remove sector) #[]).run (Volume.remove sector) #[] = .error (.fault why) ended := by
  obtain ⟨mount, device, log, sector, formatted, vacated⟩ := exists_vacated
  have idle := vacated.idle lenient_keeps
  have sane := vacated.reachable.sane lenient_keeps
  obtain ⟨ref, _, _, _, opened, -⟩ := idle.opens sane #[]
  obtain ⟨why, _, _, _, removed, -⟩ := idle.faults sane #[]
  exact ⟨mount, device, log, sector, formatted, vacated, ⟨ref, _, opened⟩, why, _, removed⟩

end World

end InodeVolume
