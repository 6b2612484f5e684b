import InodeVolume.Proofs.Volume.Reachable

/-!
# The life of an open inode

The table of open inodes lists a sector as long as someone holds it, whichever file is opened, opened
again, closed or removed, and in whatever order. A file that was removed goes with its last holder.

* **attention** — `Ledger.Attended`: what is doomed has a holder still;
* **one call** — `Tended.handle_ensures`: what each call does to the table and to the free map;
* **every world** — `Handled.tallied`, also where a fixed file is removed.
-/

namespace InodeVolume

/-! ## Attention -/

namespace Ledger

variable {ledger : Ledger} {holder : Holder} {sector : SectorId}

/-- Someone still holds every file that is doomed. -/
def Attended (ledger : Ledger) : Prop := ∀ sector ∈ ledger.doomed, ∃ holder ∈ ledger.holders, holder.sector = sector

theorem Attended.opened (attended : ledger.Attended) (holder : Holder) : (ledger.opened holder).Attended := by
  intro sector doomed
  obtain ⟨other, there, same⟩ := attended sector doomed
  exact ⟨other, List.mem_cons_of_mem _ there, same⟩

theorem Attended.doom (attended : ledger.Attended) (here : holder ∈ ledger.holders) :
    (ledger.doom holder.sector).Attended := by
  intro sector doomed
  rcases List.mem_cons.mp doomed with rfl | before
  · exact ⟨holder, here, rfl⟩
  · exact attended sector before

/-- The last holder takes a doomed file along. -/
theorem Attended.closed (attended : ledger.Attended) (holder : Holder) : (ledger.closed holder).Attended := by
  intro sector doomed
  by_cases gone : holder ∉ ledger.holders.erase holder ∧ holder.sector ∈ ledger.doomed
  · rw [closed_of_doomed gone.1 gone.2] at doomed ⊢
    obtain ⟨before, different⟩ := mem_doomed_dropped.mp doomed
    obtain ⟨other, there, rfl⟩ := attended sector before
    exact ⟨other, (List.mem_erase_of_ne fun same => different (congrArg Holder.sector same)).mpr there, rfl⟩
  · have rest : ledger.closed holder = { ledger with holders := ledger.holders.erase holder } := if_neg gone
    rw [rest] at doomed ⊢
    obtain ⟨other, there, rfl⟩ := attended sector doomed
    by_cases same : other = holder
    · subst same
      by_contra nobody
      exact gone ⟨fun still => nobody ⟨other, still, rfl⟩, doomed⟩
    · exact ⟨other, (List.mem_erase_of_ne same).mpr there, rfl⟩

theorem Attended.removed (attended : ledger.Attended) (sector : SectorId) : (ledger.removed sector).Attended := by
  unfold Ledger.removed
  split
  · rename_i others
    obtain ⟨holder, there, rfl⟩ := others
    exact attended.doom there
  · intro file doomed
    exact attended file (mem_doomed_dropped.mp doomed).1

end Ledger

namespace Volume.Call

variable {α : Type} {ledger : Ledger} {rules : Discipline}

/-- No permitted call leaves a doomed file to nobody. -/
theorem attended_record (attended : ledger.Attended) (call : Call α) (permitted : call.Permitted rules ledger)
    (result : Except Failure α) : (call.record ledger result).Attended := by
  cases call with
  | openAt _ | openRoot | reopen _ =>
      cases result with
      | ok _ => exact attended.opened _
      | error _ => exact attended
  | close holder =>
      cases result with
      | ok _ => exact attended.closed holder
      | error _ => exact attended
  | discard holder =>
      cases result with
      | ok _ => exact attended.doom permitted.1
      | error _ => exact attended
  | remove sector =>
      cases result with
      | ok _ => exact attended.removed sector
      | error _ => exact attended
  | create _ _ | denyWrite _ | read _ _ _ | write _ _ _ | stat _ | allowWrite _ | sync =>
      cases result <;> exact attended

end Volume.Call

/-! ## One call -/

namespace Volume

variable {α : Type} {array : PartialArray} {volume : Volume} {ledger : Ledger}

open LawfulAllocator (Taken)

/-- What removing a file does before it closes the file again. -/
def removing (sector : SectorId) : SectorM Volume InodeRef := do
  let ref ← Files.openAt sector
  SectorM.perform (Files.onTable (InodeTable.remove ref))
  return ref

theorem remove_eq (sector : SectorId) : remove sector = removing sector >>= Files.close := by
  simp only [remove, removing, bind_assoc, pure_bind]

/-- While a file is removed it has one holder more, and so it is not removed where no more can be counted. -/
theorem removing_ensures {sector : SectorId} (tended : Tended array volume ledger) (listed : sector ∈ ledger.files)
    (attended : ledger.Attended) :
    (removing sector).Ensures array volume
      (fun ref _ volume' => volume'.table.find? sector = some ref ∧
        (volume'.table.inode ref).openCount = ledger.holding sector + 1)
      fun _ _ _ => ledger.Crowded sector := by
  unfold removing
  rw [SectorM.ensures_bind]
  refine (tended.openAt_ensures listed (attended sector)).mono ?_ fun _ _ _ failed => failed.2.1
  rintro ref array volume₁ ⟨rfl, -, opened⟩
  rw [SectorM.ensures_bind]
  refine (opened.remove_ensures List.mem_cons_self).mono ?_ fun _ _ _ failed => failed.elim
  rintro _ array volume' ⟨rfl, -, tended'⟩
  have here : ⟨sector, ref⟩ ∈ ((ledger.opened ⟨sector, ref⟩).doom sector).holders := List.mem_cons_self
  refine SectorM.ensures_pure.mpr ⟨(tended'.kept.listed ⟨sector, ref⟩).mpr here, ?_⟩
  rw [(tended'.kept.minds _ here).count, ← tended'.kept.holding_eq here]
  exact Ledger.holding_opened

/-- The sectors of a file are given back, and no other sector changes hands. -/
def GivesBack (array : PartialArray) (file : SectorId) (before after : FreeMap) : Prop :=
  (∀ sector, array.Owns file (array.inode file) sector → Taken before sector ∧ ¬Taken after sector) ∧
    ∀ sector, ¬array.Owns file (array.inode file) sector → (Taken after sector ↔ Taken before sector)

theorem GivesBack.of_exact {file : SectorId} {after : FreeMap} (tended : Tended array volume ledger)
    (listed : file ∈ ledger.files) (freed : ∀ sector, Taken after sector ↔
      Taken volume.space sector ∧ ¬array.Owns file (array.inode file) sector) :
    GivesBack array file volume.space after := by
  refine ⟨fun sector owns => ⟨tended.parted.taken_of_owns listed owns, fun taken => ?_⟩, fun sector other => ?_⟩
  · exact ((freed sector).mp taken).2 owns
  · rw [freed]
    exact and_iff_left other

namespace Call

/-- Calls that open, close and remove files. Any file may be opened that is there, also one that was
removed and is open still; a handle is used that was not closed. -/
def Handles (ledger : Ledger) : Call α → Prop
  | openAt sector | remove sector => sector ∈ ledger.files
  | openRoot => rootSector ∈ ledger.files
  | reopen holder | close holder | discard holder => holder ∈ ledger.holders
  | _ => False

/-- What a call does to the free map. A file that was removed is given back by the one who closes it last,
or at once where nobody holds it; any other call leaves the free map alone. -/
def Frees (array : PartialArray) (ledger : Ledger) (before : FreeMap) : Call α → FreeMap → Prop
  | close holder, after =>
    if ledger.holding holder.sector = 1 ∧ holder.sector ∈ ledger.doomed then
      GivesBack array holder.sector before after
    else after = before
  | remove sector, after =>
    if ledger.holding sector = 0 then GivesBack array sector before after else after = before
  | _, after => after = before

/-- Calls on open files keep the table and the ledger in step, and write nothing. They succeed, unless a file
would be opened that is crowded. -/
theorem handle_ensures (tended : Tended array volume ledger) (attended : ledger.Attended) (call : Call α)
    (handles : call.Handles ledger) :
    call.perform.Ensures array volume
      (fun a array' volume' => array' = array ∧ Tended array volume' (call.record ledger (.ok a)) ∧
        (call.record ledger (.ok a)).Attended ∧ call.Frees array ledger volume.space volume'.space)
      fun failure array' volume' => failure = .fault .overflow ∧ (∃ file, call.Opens file ∧ ledger.Crowded file) ∧
        array' = array ∧ volume' = volume := by
  cases call with
  | openAt sector =>
      refine (tended.openAt_ensures handles (attended sector)).mono ?_
        fun _ _ _ failed => ⟨failed.1, ⟨sector, rfl, failed.2.1⟩, failed.2.2⟩
      rintro ref array volume' ⟨rfl, space, tended'⟩
      exact ⟨rfl, tended', attended.opened _, space⟩
  | openRoot =>
      refine (tended.openAt_ensures handles (attended rootSector)).mono ?_
        fun _ _ _ failed => ⟨failed.1, ⟨rootSector, rfl, failed.2.1⟩, failed.2.2⟩
      rintro ref array volume' ⟨rfl, space, tended'⟩
      exact ⟨rfl, tended', attended.opened _, space⟩
  | reopen holder =>
      refine (tended.reopen_ensures handles).mono ?_
        fun _ _ _ failed => ⟨failed.1, ⟨holder.sector, rfl, failed.2.1⟩, failed.2.2⟩
      rintro _ array volume' ⟨rfl, space, tended'⟩
      exact ⟨rfl, tended', attended.opened _, space⟩
  | close holder =>
      refine (tended.close_ensures handles).mono ?_ fun _ _ _ failed => failed.elim
      rintro _ array volume' ⟨rfl, tended', closed⟩
      refine ⟨rfl, tended', attended.closed holder, ?_⟩
      have still := tended.kept.still_iff handles
      show if ledger.holding holder.sector = 1 ∧ holder.sector ∈ ledger.doomed then _ else _
      split
      · rename_i last
        refine .of_exact tended (tended.held holder handles) (closed.last ?_ last.2)
        exact fun more => still.mp more last.1
      · rename_i other
        refine closed.other ?_
        rw [still]
        exact not_and_or.mp other
  | discard holder =>
      refine (tended.remove_ensures handles).mono ?_ fun _ _ _ failed => failed.elim
      rintro _ array volume' ⟨rfl, space, tended'⟩
      exact ⟨rfl, tended', attended.doom handles, space⟩
  | remove sector =>
      refine (remove_tended tended handles (attended sector)).mono ?_
        fun _ _ _ failed => ⟨failed.1, ⟨sector, rfl, failed.2.1⟩, failed.2.2⟩
      rintro _ array volume' ⟨rfl, tended', removed⟩
      refine ⟨rfl, tended', attended.removed sector, ?_⟩
      show if ledger.holding sector = 0 then _ else _
      split
      · rename_i nobody
        exact .of_exact tended handles (removed.last (Ledger.holding_eq_zero.mp nobody))
      · rename_i held
        exact removed.other (Ledger.holding_pos.mp (Nat.pos_of_ne_zero held))
  | create _ _ | read _ _ _ | write _ _ _ | stat _ | denyWrite _ | allowWrite _ | sync => exact handles.elim

/-- A call that would open a crowded file faults, and changes nothing. -/
theorem handle_crowded (tended : Tended array volume ledger) (attended : ledger.Attended) (call : Call α)
    (handles : call.Handles ledger) {file : SectorId} (opens : call.Opens file) (crowded : ledger.Crowded file) :
    call.perform.Ensures array volume (fun _ _ _ => False)
      fun failure array' volume' => failure = .fault .overflow ∧ array' = array ∧ volume' = volume := by
  cases call with
  | openAt sector =>
      cases opens
      exact tended.openAt_crowded handles (attended _) crowded
  | openRoot =>
      cases opens
      exact tended.openAt_crowded handles (attended _) crowded
  | reopen holder =>
      cases opens
      exact tended.reopen_crowded handles crowded
  | remove sector =>
      cases opens
      refine SectorM.ensures_bind.mpr ?_
      exact (tended.openAt_crowded handles (attended _) crowded).mono (fun _ _ _ opened => opened.elim)
        fun _ _ _ failed => failed
  | close _ | discard _ => exact opens.elim
  | create _ _ | read _ _ _ | write _ _ _ | stat _ | denyWrite _ | allowWrite _ | sync => exact handles.elim

end Call

end Volume

/-! ## Every world -/

namespace World

variable {D α : Type} [BlockDevice D] [LawfulDevice D] {world : World D} {rules : Discipline}

open Volume (Call Discipline initialLedger)

/-- What is doomed is attended to in every world that can be reached. -/
theorem Reachable.attended (reached : world.Reachable rules) : world.ledger.Attended := by
  induction reached with
  | format sound formatted => exact fun sector doomed => absurd doomed List.not_mem_nil
  | call reached call permitted log attended =>
      rename_i world α
      unfold World.after
      cases world.run call.perform log with
      | ok a ended => exact Call.attended_record attended call permitted _
      | error failure ended => exact Call.attended_record attended call permitted _
  | remount reached nobody closed mounted attended => exact attended

/-- Worlds that come from those that can be reached by opening, closing and removing any files, the fixed
ones also. -/
inductive Handled : World D → Prop where
  | reached {world : World D} (reached : world.Reachable .lenient) : Handled world
  | call {world : World D} {α : Type} (handled : Handled world) (call : Call α) (handles : call.Handles world.ledger)
      (log : Array Event) : Handled (world.after call log)

/-- Callers and the table know the same of every file, and no file is left to nobody. -/
structure Kempt (world : World D) : Prop where
  shown : (world.mount.disk world.device).Shows (world.mount.disk world.device).overlay
  tended : Tended world.sectors world.mount.files world.ledger
  attended : world.ledger.Attended

/-- A cached disk shows one array, so any that it shows will do. -/
theorem Kempt.of_shows {array : SectorArray} (shown : (world.mount.disk world.device).Shows array)
    (tended : Tended (.ofWhole array) world.mount.files world.ledger) (attended : world.ledger.Attended) :
    world.Kempt := by
  obtain rfl := shown.eq_overlay
  exact ⟨shown, tended, attended⟩

/-- A call on open files keeps a world kempt, whether or not it fails. -/
theorem Kempt.after (kempt : world.Kempt) (call : Call α) (handles : call.Handles world.ledger) (log : Array Event) :
    (world.after call log).Kempt := by
  have ran := Mount.run_ensures (call.handle_ensures kempt.tended kempt.attended handles) kempt.shown log
  revert ran
  unfold World.after World.run
  cases (Mount.run call.perform).run ⟨(world.device, world.mount), log⟩ with
  | ok a ended =>
      rintro ⟨array, shown, same, tended, attended, -⟩
      rw [← same] at tended
      exact .of_shows shown tended attended
  | error failure ended =>
      rintro ⟨array, shown, -, ⟨file, opens, -⟩, same, files⟩
      dsimp only
      rw [Call.record_of_opens opens]
      refine .of_shows shown ?_ kempt.attended
      show Tended (.ofWhole array) ended.state.2.files world.ledger
      rw [same, files]
      exact kempt.tended

theorem Handled.kempt (handled : world.Handled) : world.Kempt := by
  induction handled with
  | reached reached =>
      have sane := reached.sane lenient_keeps
      exact ⟨sane.shown, sane.healthy.sane.tended, reached.attended⟩
  | call handled call handles log kempt => exact kempt.after call handles log

/-- What the table of a world and its free map tell of who holds what. -/
structure Tallied (world : World D) : Prop where
  /-- A sector is listed as long as someone holds it. -/
  listed : ∀ sector, (∃ ref, world.mount.files.table.find? sector = some ref) ↔
    ∃ holder ∈ world.ledger.holders, holder.sector = sector
  /-- All who hold a sector share the inode that is listed there, and it counts them. -/
  shared : ∀ holder ∈ world.ledger.holders, world.mount.files.table.find? holder.sector = some holder.ref ∧
    (world.mount.files.table.inode holder.ref).openCount = world.ledger.holding holder.sector
  /-- The inode counts in 32 bits, which is enough for all who were let in. -/
  counted : ∀ sector, world.ledger.holding sector < UInt32.size
  /-- A file that is removed is counted once more until it is closed again. -/
  removing : ∀ file ∈ world.ledger.files, ¬world.ledger.Crowded file → ∀ log, ∃ ref device mount log',
    Volume.remove file = Volume.removing file >>= Files.close ∧
    world.run (Volume.removing file) log = .ok ref ⟨(device, mount), log'⟩ ∧
    mount.files.table.find? file = some ref ∧
    (mount.files.table.inode ref).openCount = world.ledger.holding file + 1
  /-- No call fails that opens no crowded file, and each frees what it should and nothing else. -/
  frees : ∀ {α : Type} (call : Call α), call.Handles world.ledger →
    (∀ file, call.Opens file → ¬world.ledger.Crowded file) → ∀ log, ∃ a device mount log',
    world.run call.perform log = .ok a ⟨(device, mount), log'⟩ ∧
    call.Frees world.sectors world.ledger world.mount.files.space mount.files.space
  /-- A call that would open a crowded file faults, and nothing changes. -/
  full : ∀ {α : Type} (call : Call α), call.Handles world.ledger → ∀ file, call.Opens file →
    world.ledger.Crowded file → ∀ log, ∃ device mount log',
    world.run call.perform log = .error (.fault .overflow) ⟨(device, mount), log'⟩ ∧
    mount.files = world.mount.files ∧ mount.sectors device = world.sectors

/-- **The life of an open inode**, however files are opened, closed and removed. -/
theorem Handled.tallied (handled : world.Handled) : world.Tallied := by
  have kempt := handled.kempt
  have kept := kempt.tended.kept
  refine ⟨fun sector => ⟨?_, ?_⟩, fun holder here => ⟨?_, ?_⟩, kept.holding_lt, fun file listed quiet log => ?_,
    fun call handles quiet log => ?_, fun call handles file opens crowded log => ?_⟩
  · rintro ⟨ref, found⟩
    exact ⟨⟨sector, ref⟩, (kept.listed ⟨sector, ref⟩).mp found, rfl⟩
  · rintro ⟨holder, here, rfl⟩
    exact ⟨holder.ref, (kept.listed holder).mpr here⟩
  · exact (kept.listed holder).mpr here
  · rw [(kept.minds holder here).count, kept.holding_eq here]
  · have never := (Volume.removing_ensures kempt.tended listed kempt.attended).mono (fun _ _ _ done => done)
      fun _ _ _ crowded => quiet crowded
    obtain ⟨ref, device, mount, log', array, ended, -, found, count⟩ := Mount.run_ends never kempt.shown log
    exact ⟨ref, device, mount, log', Volume.remove_eq file, ended, found, count⟩
  · have never := (call.handle_ensures kempt.tended kempt.attended handles).mono (fun _ _ _ done => done)
      fun _ _ _ ⟨_, ⟨file, opens, crowded⟩, _⟩ => quiet file opens crowded
    obtain ⟨a, device, mount, log', array, ended, -, -, -, -, frees⟩ := Mount.run_ends never kempt.shown log
    exact ⟨a, device, mount, log', ended, frees⟩
  · obtain ⟨failure, ⟨device, mount⟩, log', ended, array, shown, rfl, same, files⟩ :=
      ((Mount.run_ensures (call.handle_crowded kempt.tended kempt.attended handles opens crowded) kempt.shown).mono
        (fun _ _ ⟨_, _, impossible⟩ => impossible) fun _ _ failed => failed).ends_failing log
    exact ⟨device, mount, log', ended, files, (Mount.sectors_eq shown).trans same⟩

/-- The free map's file is removed from a volume of eight sectors whose root directory is open. -/
theorem tallied_unmapped : ∃ mount device log,
    (Volume.format 2).run ⟨RamDisk.zeroed 8, #[]⟩ = .ok mount ⟨device, log⟩ ∧
      (((⟨device, mount, initialLedger⟩ : World RamDisk).after .openRoot #[]).after
        (.remove freeMapSector) #[]).Handled ∧
      (((⟨device, mount, initialLedger⟩ : World RamDisk).after .openRoot #[]).after
        (.remove freeMapSector) #[]).Tallied := by
  obtain ⟨mount, device, log, formatted, start⟩ := exists_reachable .lenient
  have opened : ((⟨device, mount, initialLedger⟩ : World RamDisk).after .openRoot #[]).Handled :=
    .call (.reached start) .openRoot (by simp [Call.Handles, initialLedger]) #[]
  have listed : freeMapSector ∈ ((⟨device, mount, initialLedger⟩ : World RamDisk).after .openRoot #[]).ledger.files := by
    unfold World.after
    split <;> exact List.mem_cons_self
  have handled := Handled.call opened (.remove freeMapSector) listed #[]
  exact ⟨mount, device, log, formatted, handled, handled.tallied⟩

end World

end InodeVolume
