import Mathlib
import InodeVolume.Proofs.Packer.Jobs
import InodeVolume.Proofs.Volume.Anchored

/-!
# Images that a run leaves alone

A run that only looks into an image, or that ends with an error, leaves it byte for byte as it was, whatever bytes
these are.

* **images** — `Spared`: the cache over an image holds nothing that is not in it, and `Keeps`: a directory has an
  image with the same bytes;
* **looking** — `fetch_spares` and `stat_spares`, and the shutdown after them, which stores the free map over itself;
* **changing** — `put_spares` and `remove_spares`: once something was changed no error is told any more, so a run that
  ends with one has changed nothing;
* **runs** — `runOn_spares`: so it is from the mount to the end of a run.
-/

namespace InodeVolume.Packer

open ImageFile (lawful refusing)

variable {image : Place} {file : HostFile} {work : Work} {α : Type}

/-! ## Images -/

/-- The directory has an image with the bytes of this file. -/
def Keeps (image : Place) (file : HostFile) (directory : Directory) : Prop :=
  ∃ after, directory.file? image = some after ∧ after.toBytes = file.toBytes

/-- The image is in the directory, and is stored there as it was. -/
theorem keeps_store {directory : Directory} {before : HostFile} {device : ImageFile}
    (there : directory.file? image = some before) (lies : ImageFile.Over file device)
    (same : device.contents = (ImageFile.ofFile file).contents) : Keeps image file (directory.store image device.file) :=
  ⟨device.file, Directory.file?_store_self there, lies.toBytes_eq same⟩

/-- The mount of a run stands for an array of sectors, and nothing but whole sectors of the image has changed. -/
def Stands (file : HostFile) (still : Prop) (work : Work) (array : SectorArray) : Prop :=
  letI := lawful file
  (work.mount.disk work.device).Stands still array

/-- The image is the file that it was, and the cache over it holds nothing else. -/
structure Spared (image : Place) (file : HostFile) (work : Work) : Prop where
  place : work.image = image
  there : ∃ before, work.directory.file? image = some before
  stood : Stands file True work (ImageFile.ofFile file).contents

/-- What may happen over the sectors of an image may happen in a run. -/
theorem onVolume_mayEnd {computation : SectorM Volume α} {still : Prop} {array : SectorArray}
    {good : α → PartialArray → Volume → Prop} {bad : Failure → PartialArray → Volume → Prop}
    {stopped : Complaint → Work → Prop} (stood : Stands file still work array)
    (ends : computation.MayEnd still (.ofWhole array) work.mount.files good bad) :
    (Job.onVolume computation).Ensures work
      (fun a work' => (work'.image = work.image ∧ work'.directory = work.directory ∧ work'.out = work.out) ∧
        ∃ array', Stands file still work' array' ∧ good a (.ofWhole array') work'.mount.files)
      stopped
      fun failure work' => (work'.image = work.image ∧ work'.directory = work.directory ∧ work'.out = work.out) ∧
        ∃ array', Stands file still work' array' ∧ bad failure (.ofWhole array') work'.mount.files := by
  let := lawful file
  have := refusing file
  refine Job.ensures_onVolume ((Mount.run_mayEnd ends stood).mono ?_ ?_)
  · exact fun _ _ done => ⟨⟨rfl, rfl, rfl⟩, done⟩
  · exact fun _ _ failed => ⟨⟨rfl, rfl, rfl⟩, failed⟩

namespace Spared

theorem leave (spared : Spared image file work) : Keeps image file work.leave := by
  obtain ⟨before, there⟩ := spared.there
  let := lawful file
  unfold Work.leave
  rw [spared.place]
  exact keeps_store there spared.stood.shown.sound (spared.stood.device trivial)

theorem abandon (spared : Spared image file work) (log : Array Event) (ending : Bytes → Exit) :
    Keeps image file (abandon ⟨work, log⟩ ending).2 := by
  let := lawful file
  obtain ⟨before, there⟩ := spared.there
  obtain ⟨device, sound, same, ended⟩ := abandon_eq spared.stood.shown log ending
  rw [ended, spared.place]
  exact keeps_store there sound same

/-- Work on the volume that writes to every sector what it holds already leaves the image as it is. -/
theorem onVolume (spared : Spared image file work) {computation : SectorM Volume α} (good : α → Volume → Prop)
    {stopped : Complaint → Work → Prop}
    (ends : computation.MayEnd True (.ofWhole (ImageFile.ofFile file).contents) work.mount.files
      (fun a array' volume' => array' = .ofWhole (ImageFile.ofFile file).contents ∧ good a volume')
      fun _ array' _ => array' = .ofWhole (ImageFile.ofFile file).contents) :
    (Job.onVolume computation).Ensures work
      (fun a work' => Spared image file work' ∧ (work'.directory = work.directory ∧ work'.out = work.out) ∧
        good a work'.mount.files) stopped
      fun _ work' => Spared image file work' := by
  refine (onVolume_mayEnd spared.stood ends).mono ?_ (fun _ _ told => told) ?_
  · rintro a work' ⟨⟨place, directory, out⟩, array', stood, same, done⟩
    rw [PartialArray.ofWhole_injective same] at stood
    exact ⟨⟨place.trans spared.place, directory ▸ spared.there, stood⟩, ⟨directory, out⟩, done⟩
  · rintro failure work' ⟨⟨place, directory, -⟩, array', stood, same⟩
    rw [PartialArray.ofWhole_injective same] at stood
    exact ⟨place.trans spared.place, directory ▸ spared.there, stood⟩

theorem looks (spared : Spared image file work) {computation : SectorM Volume α} {stopped : Complaint → Work → Prop}
    (looks : computation.Looks) :
    (Job.onVolume computation).Ensures work
      (fun _ work' => Spared image file work' ∧ work'.directory = work.directory ∧ work'.mount.files = work.mount.files)
      stopped fun _ work' => Spared image file work' :=
  (spared.onVolume (fun _ volume' => volume' = work.mount.files)
    ((looks True _ _).mono (fun _ _ _ done => done) fun _ _ _ failed => failed.2)).mono
    (fun _ _ ⟨spared', ⟨directory, _⟩, files⟩ => ⟨spared', directory, files⟩) (fun _ _ told => told)
    fun _ _ failed => failed

end Spared

/-! ## Looking -/

/-- The image is as it was, and so are the free map that was taken up from it and the table, in which nothing is
open. -/
structure Fresh (image : Place) (file : HostFile) (map : FreeMap) (work : Work) : Prop
    extends Spared image file work where
  mirrored : Volume.Mirrored (.ofWhole (ImageFile.ofFile file).contents) map
  space : work.mount.files.space = map
  idle : work.mount.files.table.Idle

theorem has_of_whole {array : SectorArray} (sector : SectorId) :
    (PartialArray.ofWhole array).Has sector → sector ∈ PartialArray.ofWhole array := by
  rw [PartialArray.has_ofWhole, PartialArray.mem_ofWhole]
  exact id

namespace Fresh

variable {stopped : Complaint → Work → Prop} {sector : SectorId} {map : FreeMap}

theorem mirrors (fresh : Fresh image file map work) :
    Volume.Mirrored (.ofWhole (ImageFile.ofFile file).contents) work.mount.files.space :=
  fresh.space ▸ fresh.mirrored

/-- A file is opened in the table. -/
theorem openAt (fresh : Fresh image file map work) (sector : SectorId) :
    (Job.onVolume (Files.openAt sector)).Ensures work
      (fun ref work' => Spared image file work' ∧ work'.directory = work.directory ∧
        ref = (work.mount.files.table.insert sector).1 ∧
        work'.mount.files = ⟨(work.mount.files.table.insert sector).2, work.mount.files.space⟩)
      stopped fun _ work' => Spared image file work' :=
  (fresh.onVolume (fun ref volume' => ref = (work.mount.files.table.insert sector).1 ∧
      volume' = ⟨(work.mount.files.table.insert sector).2, work.mount.files.space⟩)
    ((Files.openAt_mayEnd (fresh.idle sector)).mono (fun _ _ _ done => ⟨done.1, done.2.1, done.2.2.1⟩)
      fun _ _ _ failed => failed.1)).mono
    (fun _ _ ⟨spared, ⟨directory, _⟩, opened⟩ => ⟨spared, directory, opened⟩) (fun _ _ told => told)
    fun _ _ failed => failed

/-- Once it is closed again all is as before. -/
theorem close {before : Work} (fresh : Fresh image file map before) (spared : Spared image file work)
    (files : work.mount.files = ⟨(before.mount.files.table.insert sector).2, before.mount.files.space⟩) :
    (Job.onVolume (Files.close (before.mount.files.table.insert sector).1)).Ensures work
      (fun _ work' => Fresh image file map work' ∧ work'.directory = work.directory) stopped
      fun _ work' => Spared image file work' := by
  refine (spared.onVolume (fun _ volume' => volume' = ⟨before.mount.files.table.visited sector,
    before.mount.files.space⟩) ?_).mono ?_ (fun _ _ told => told) fun _ _ failed => failed
  · rw [files]
    exact Files.close_mayEnd.mono (fun _ _ _ done => done) fun _ _ _ failed => failed.elim
  · rintro _ work' ⟨spared', ⟨directory, -⟩, files'⟩
    refine ⟨⟨spared', fresh.mirrored, ?_, ?_⟩, directory⟩
    · rw [files']
      exact fresh.space
    · rw [files']
      exact fresh.idle.visited

/-- Printing changes nothing. -/
theorem print (fresh : Fresh image file map work) (out : Bytes) : Fresh image file map { work with out := out } :=
  ⟨⟨fresh.place, fresh.there, fresh.stood⟩, fresh.mirrored, fresh.space, fresh.idle⟩

/-- The shutdown after that stores the free map over itself. -/
theorem shutdown (fresh : Fresh image file map work) :
    (Job.onVolume Volume.shutdown).Ensures work (fun _ work' => Spared image file work' ∧ work'.out = work.out) stopped
      fun _ work' => Spared image file work' :=
  (fresh.onVolume (fun _ _ => True) ((Volume.shutdown_still has_of_whole fresh.mirrors fresh.idle).mono
    (fun _ _ _ same => ⟨same, trivial⟩) fun _ _ _ same => same)).mono (fun _ _ done => ⟨done.1, done.2.1.2⟩)
    (fun _ _ told => told) fun _ _ failed => failed

/-- Copying a file of the volume out changes another file of the host. -/
theorem fetch_spares (fresh : Fresh image file map work) {target : String}
    (apart : work.directory.resolve target true ≠ .ok image) :
    (Job.fetch sector target).Ensures work (fun _ work' => Fresh image file map work')
      (fun _ work' => Spared image file work') fun _ work' => Spared image file work' := by
  refine .bind ((fresh.openAt sector).mono ?_ (fun _ _ told => told) fun _ _ failed => failed)
  rintro _ work₁ ⟨spared₁, same₁, rfl, files₁⟩
  refine .bind ((spared₁.looks Files.looks_length).mono ?_ (fun _ _ told => told) fun _ _ failed => failed)
  rintro length work₂ ⟨spared₂, same₂, files₂⟩
  refine .bind ((spared₂.looks Files.looks_read).mono ?_ (fun _ _ told => told) fun _ _ failed => failed)
  rintro data work₃ ⟨spared₃, same₃, files₃⟩
  refine .bind ((fresh.close spared₃ (files₃.trans (files₂.trans files₁))).mono ?_ (fun _ _ told => told)
    fun _ _ failed => failed)
  rintro _ work₄ ⟨fresh₄, same₄⟩
  have directory : work₄.directory = work.directory := same₄.trans (same₃.trans (same₂.trans same₁))
  refine (Job.writeHost_ensures (by rw [directory, fresh₄.place]; exact apart)).mono ?_ ?_ fun _ _ never => never.elim
  · rintro _ _ ⟨place, resolved, rfl⟩
    obtain ⟨before, there⟩ := fresh₄.there
    -- the image is not the file that is written, so it is still listed
    have elsewhere : image ≠ place := by
      rintro rfl
      exact apart (directory ▸ resolved)
    refine ⟨⟨fresh₄.place, ⟨before, ?_⟩, fresh₄.stood⟩, fresh₄.mirrored, fresh₄.space, fresh₄.idle⟩
    rw [Directory.file?_eq_some] at there ⊢
    rw [Directory.node?_store_of_ne elsewhere]
    exact there
  · rintro _ _ ⟨rfl, -⟩
    exact fresh₄.toSpared

theorem stat_spares (fresh : Fresh image file map work) :
    (Job.stat sector).Ensures work (fun _ work' => Fresh image file map work')
      (fun _ work' => Spared image file work') fun _ work' => Spared image file work' := by
  refine .bind ((fresh.openAt sector).mono ?_ (fun _ _ told => told) fun _ _ failed => failed)
  rintro _ work₁ ⟨spared₁, -, rfl, files₁⟩
  refine .bind ((spared₁.looks Files.looks_stat).mono ?_ (fun _ _ told => told) fun _ _ failed => failed)
  rintro stat work₂ ⟨spared₂, -, files₂⟩
  refine .bind ((fresh.close spared₂ (files₂.trans files₁)).mono ?_ (fun _ _ told => told) fun _ _ failed => failed)
  rintro _ work₃ ⟨fresh₃, -⟩
  exact Job.ensures_print.mpr (fresh₃.print _)

end Fresh

/-! ## Changing -/

/-- The mount of a run stands for sectors and a volume of which this is known. -/
def Known (file : HostFile) (known : PartialArray → Volume → Prop) (work : Work) : Prop :=
  ∃ array, Stands file False work array ∧ known (.ofWhole array) work.mount.files

/-- What ends with a fault or not at all ends a run with a fault or lets it go on. -/
theorem Known.onVolume {known : PartialArray → Volume → Prop} (here : Known file known work)
    {computation : SectorM Volume α} {good : α → PartialArray → Volume → Prop} {stopped : Complaint → Work → Prop}
    (ends : ∀ array volume, known array volume → computation.MayEnd False array volume good
      fun failure _ _ => ∃ why, failure = .fault why) :
    (Job.onVolume computation).Ensures work (fun a work' => Known file (good a) work') stopped
      fun failure _ => ∃ why, failure = .fault why := by
  obtain ⟨array, stood, told⟩ := here
  refine (onVolume_mayEnd stood (ends _ _ told)).mono (fun _ _ done => done.2) (fun _ _ told => told) ?_
  rintro failure work' ⟨-, array', -, fault⟩
  exact fault

theorem Known.print {known : PartialArray → Volume → Prop} (here : Known file known work) (out : Bytes) :
    Known file known { work with out := out } := here

/-- The file of the free map can be opened, and nothing is open. -/
def Closable (array : PartialArray) (volume : Volume) : Prop :=
  (array.inode freeMapSector).isValid = true ∧ volume.table.Idle

theorem Spared.known (spared : Spared image file work) {known : PartialArray → Volume → Prop}
    (told : known (.ofWhole (ImageFile.ofFile file).contents) work.mount.files) : Known file known work :=
  let := lawful file
  ⟨_, ⟨spared.stood.shown, False.elim⟩, told⟩

/-- A run has ended with a fault, or the image is as it was. -/
def Excused (image : Place) (file : HostFile) (failure : Failure) (work : Work) : Prop :=
  (∃ why, failure = .fault why) ∨ Spared image file work

namespace Fresh

open Volume (Anchored)

/-- Copying a host file in ends with an error only where no sector is free to begin with. -/
theorem put_spares (fresh : Fresh image file map work) (source : String) :
    (Job.put source).Ensures work (fun _ => Known file Closable) (fun _ => Spared image file) (Excused image file) := by
  refine .bind ((Job.readHost_ensures source).mono ?_ ?_ fun _ _ never => never.elim)
  swap
  · rintro _ _ ⟨rfl, -⟩
    exact fresh.toSpared
  rintro data work ⟨rfl, -⟩
  -- with no sector free nothing is made, and otherwise no error is left that could be told
  cases found : work.mount.files.space.firstClear? with
  | none =>
      refine .bind ((fresh.onVolume (fun _ _ => False) ?_).mono ?_ (fun _ _ told => told) fun _ _ failed => .inr failed)
      · exact (Volume.create_full found false).mono (fun _ _ _ never => never.elim) fun _ _ _ same => same
      · exact fun _ _ never => never.2.2.elim
  | some k =>
      have start : Known file (fun array volume => volume.space.firstClear? = some k ∧
          Volume.Mirrored array volume.space ∧ volume.table.Idle) work :=
        fresh.known ⟨found, fresh.mirrors, fresh.idle⟩
      refine .bind ((start.onVolume fun array volume ⟨found, mirrored, idle⟩ =>
        Volume.create_bare found mirrored idle false).mono ?_ (fun _ _ told => told) fun _ _ failed => .inl failed)
      rintro sector work₁ made
      have opening : ∀ array volume, (array.inode sector).isValid = true ∧ Anchored array volume.space ∧ volume.table.Idle →
          (Files.openAt sector : SectorM Volume InodeRef).MayEnd False array volume
            (fun ref array' volume' => ∃ table : InodeTable, table.Idle ∧ ref = (table.insert sector).1 ∧
              volume'.table = (table.insert sector).2 ∧ Anchored array' volume'.space)
            fun failure _ _ => ∃ why, failure = .fault why := by
        rintro array volume ⟨valid, anchored, idle⟩
        refine (Files.openAt_mayEnd (idle sector)).mono ?_ ?_
        · rintro _ _ _ ⟨rfl, rfl, rfl, -, -⟩
          exact ⟨volume.table, idle, rfl, rfl, anchored⟩
        · rintro failure _ _ ⟨rfl, fault | ⟨invalid, -⟩⟩
          · exact fault
          · rw [valid] at invalid
            cases invalid
      refine .bind ((made.onVolume opening).mono ?_ (fun _ _ told => told) fun _ _ failed => .inl failed)
      rintro ref work₂ opened
      have writing : ∀ array volume, (∃ table : InodeTable, table.Idle ∧ ref = (table.insert sector).1 ∧
            volume.table = (table.insert sector).2 ∧ Anchored array volume.space) →
          (Files.write ref data 0 : SectorM Volume Nat).MayEnd False array volume
            (fun _ array' volume' => ∃ table : InodeTable, table.Idle ∧ ref = (table.insert sector).1 ∧
              volume'.table = (table.insert sector).2 ∧ Anchored array' volume'.space)
            fun failure _ _ => ∃ why, failure = .fault why := by
        rintro array volume ⟨table, idle, here, listed, anchored⟩
        refine (Files.write_mayEnd Volume.upkeep_anchored anchored).mono ?_ fun _ _ _ failed => failed
        exact fun _ array' volume' done => ⟨table, idle, here, done.2.trans listed, done.1⟩
      refine .bind ((opened.onVolume writing).mono ?_ (fun _ _ told => told) fun _ _ failed => .inl failed)
      rintro length work₃ written
      have closing : ∀ array volume, (∃ table : InodeTable, table.Idle ∧ ref = (table.insert sector).1 ∧
            volume.table = (table.insert sector).2 ∧ Anchored array volume.space) →
          (Files.close ref : SectorM Volume Unit).MayEnd False array volume (fun _ => Closable)
            fun failure _ _ => ∃ why, failure = .fault why := by
        rintro array ⟨_, space⟩ ⟨table, idle, rfl, rfl, anchored⟩
        refine Files.close_mayEnd.mono ?_ fun _ _ _ failed => failed.elim
        rintro _ _ _ ⟨rfl, rfl⟩
        exact ⟨anchored.valid, idle.visited⟩
      refine .bind ((written.onVolume closing).mono ?_ (fun _ _ told => told) fun _ _ failed => .inl failed)
      rintro _ work₄ closed
      exact Job.ensures_print.mpr closed

/-- Removing a file ends with an error only where there is none. -/
theorem remove_spares (fresh : Fresh image file map work) (sector : SectorId) :
    (Job.remove sector).Ensures work (fun _ => Known file Closable) (fun _ => Spared image file) (Excused image file) := by
  unfold Job.remove
  rw [Job.ensures_ite]
  split
  · exact .bind (Job.ensures_throw.mpr fresh.toSpared)
  refine ((fresh.onVolume (fun _ volume => volume.table.Idle)
    (Volume.remove_mayEnd fresh.idle))).mono ?_ (fun _ _ told => told) fun _ _ failed => .inr failed
  rintro _ work' ⟨spared, -, idle⟩
  exact spared.known ⟨fresh.mirrored.valid, idle⟩

/-! ## Runs -/

/-- What comes after a command that only looks changes nothing either. -/
theorem whole_looks (request : Command) (looks : (Job.command request).Ensures work (fun _ => Fresh image file map)
      (fun _ => Spared image file) fun _ => Spared image file) :
    (Job.whole request).Ensures work
      (fun _ work' => Spared image file work' ∧ ∃ line, work'.out = line ++ counted map.freeCount)
      (fun _ => Spared image file) fun _ => Spared image file := by
  refine .bind (looks.mono ?_ (fun _ _ told => told) fun _ _ failed => failed)
  intro _ work' fresh'
  refine .bind (Job.ensures_perform.mpr (Action.ensures_get.mpr (.bind (Job.ensures_print.mpr ?_))))
  refine (fresh'.print _).shutdown.mono ?_ (fun _ _ told => told) fun _ _ failed => failed
  rintro _ work'' ⟨spared, out⟩
  refine ⟨spared, work'.out, out.trans ?_⟩
  rw [← fresh'.space]
  rfl

/-- What comes after a command that has changed something ends with a fault or not at all. -/
theorem whole_changes (request : Command) (changes : (Job.command request).Ensures work (fun _ => Known file Closable)
      (fun _ => Spared image file) (Excused image file)) :
    (Job.whole request).Ensures work (fun _ _ => True) (fun _ => Spared image file) (Excused image file) := by
  refine .bind (changes.mono ?_ (fun _ _ told => told) fun _ _ failed => failed)
  intro _ work' closable
  refine .bind (Job.ensures_perform.mpr (Action.ensures_get.mpr (.bind (Job.ensures_print.mpr ?_))))
  refine ((closable.print _).onVolume fun array volume ⟨valid, idle⟩ => Volume.shutdown_faults valid idle).mono
    (fun _ _ _ => trivial) (fun _ _ told => told) ?_
  exact fun _ _ failed => .inl failed

end Fresh

/-- Commands that leave an image alone: those that only look and do not write to it, and those that end with an
error. -/
def Command.Spares (directory : Directory) (image : Place) (code : Nat) : Command → Prop
  | .get _ target => directory.resolve target true ≠ .ok image
  | .stat _ => True
  | .put _ | .remove _ => code = Exit.failed
  | .format _ => False

/-- Commands that leave an image alone however they end. -/
def Command.Looks (directory : Directory) (image : Place) (command : Command) : Prop :=
  ∀ code, command.Spares directory image code

/-- A run that only looks leaves the image alone, and ends by telling how many sectors are free. -/
theorem Fresh.runMounted_looks (fresh : Fresh image file map work) (request : Command)
    (looks : request.Looks work.directory image) :
    Keeps image file (runMounted request work).2 ∧
      ((runMounted request work).1.code = 0 →
        ∃ line, (runMounted request work).1.out = line ++ counted map.freeCount) := by
  have looked : (Job.whole request).Ensures work
      (fun _ work' => Spared image file work' ∧ ∃ line, work'.out = line ++ counted map.freeCount)
      (fun _ => Spared image file) fun _ => Spared image file := by
    have spares := looks 0
    cases request with
    | get sector target => exact whole_looks _ (fresh.fetch_spares spares)
    | stat sector => exact whole_looks _ fresh.stat_spares
    | put source | remove sector => cases spares
    | format sectors => exact spares.elim
  refine runMounted_told (fun ended => Keeps image file ended.2 ∧
    (ended.1.code = 0 → ∃ line, ended.1.out = line ++ counted map.freeCount)) looked ?_ ?_ ?_ ?_
  · exact fun _ ⟨spared, told⟩ => ⟨spared.leave, fun _ => told⟩
  · intro complaint work log spared
    obtain ⟨out, ended⟩ := abandon_exit ⟨work, log⟩ fun out => .complain out complaint
    exact ⟨spared.abandon _ _, ended ▸ nofun⟩
  · intro error work log spared
    obtain ⟨out, ended⟩ := abandon_exit ⟨work, log⟩ fun out => .complain out (.volume error)
    exact ⟨spared.abandon _ _, ended ▸ nofun⟩
  · intro fault work log spared
    obtain ⟨out, ended⟩ := abandon_exit ⟨work, log⟩ fun out => ⟨Exit.faulted, out, none⟩
    refine ⟨⟨spared.abandon _ _, ended ▸ nofun⟩, ?_⟩
    rintro code (rfl | rfl) <;> exact ⟨spared.leave, nofun⟩

theorem Fresh.runMounted_spares (fresh : Fresh image file map work) (request : Command)
    (spares : request.Spares work.directory image (runMounted request work).1.code) :
    Keeps image file (runMounted request work).2 := by
  have changed : (Job.whole request).Ensures work (fun _ _ => True) (fun _ => Spared image file) (Excused image file) →
      (runMounted request work).1.code = Exit.failed → Keeps image file (runMounted request work).2 := fun ensured =>
    runMounted_told (fun ended => ended.1.code = Exit.failed → Keeps image file ended.2) ensured
      (fun _ _ impossible => nomatch impossible) (fun _ _ _ spared _ => spared.abandon _ _)
      (fun error work log excused _ => by
        rcases excused with ⟨_, impossible⟩ | spared
        · cases impossible
        · exact spared.abandon _ _)
      fun fault work log _ => by
        constructor
        · intro failed
          obtain ⟨out, ended⟩ := abandon_exit ⟨work, log⟩ fun out => ⟨Exit.faulted, out, none⟩
          rw [ended] at failed
          cases failed
        · rintro code (rfl | rfl) impossible <;> cases impossible
  cases request with
  | get sector target => exact (fresh.runMounted_looks (.get sector target) fun _ => spares).1
  | stat sector => exact (fresh.runMounted_looks (.stat sector) fun _ => trivial).1
  | put source => exact changed (whole_changes _ (fresh.put_spares source)) spares
  | remove sector => exact changed (whole_changes _ (fresh.remove_spares sector)) spares
  | format sectors => exact spares.elim

/-- Taking a volume up changes nothing in its image, whether or not there is one and the host has memory for the
cache. -/
theorem mount_spares (image : Place) (file : HostFile) (slots memory : Nat) :
    (Volume.mount slots memory : Action ImageFile (Mount FreeMap)).Ensures (.ofFile file)
      (fun mount device => ∀ directory out, directory.file? image = some file →
        Fresh image file mount.files.space ⟨memory, image, device, mount, directory, out⟩)
      fun _ device => ImageFile.Over file device ∧ device.contents = (ImageFile.ofFile file).contents := by
  let := lawful file
  have := refusing file
  have sound : LawfulDevice.Sound (ImageFile.ofFile file) := ImageFile.over_ofFile file
  refine (Volume.mount_mayEnd sound slots memory).mono ?_ fun _ _ failed => failed
  rintro mount device ⟨stood, taken⟩ directory out there
  exact ⟨⟨rfl, ⟨file, there⟩, stood⟩, taken.mirrored, rfl, taken.idle⟩

/-- A run takes the volume up from what its image holds. -/
theorem run_eq_runOn {arguments : List String} {path : String} {slots memory : Nat} {command : Command}
    {directory : Directory}
    (asked : parse arguments = .request ⟨path, slots, command⟩) (found : directory.find path = .ok (image, .file file))
    (mounts : ∀ sectors, command ≠ .format sectors) :
    run arguments directory memory =
      runOn memory directory image (.ofFile file) (Volume.mount slots memory) command := by
  unfold run
  rw [asked]
  dsimp only
  unfold runRequest
  cases command with
  | format sectors => exact absurd rfl (mounts sectors)
  | put _ | get _ _ | stat _ | remove _ =>
      dsimp only
      rw [found]
      rfl

/-- **Runs that only look into an image, and runs that end with an error,** leave it as it was. -/
theorem runOn_spares {directory : Directory} (there : directory.file? image = some file) (slots memory : Nat)
    (command : Command) (spares : command.Spares directory image
      (runOn memory directory image (.ofFile file) (Volume.mount slots memory) command).1.code) :
    Keeps image file (runOn memory directory image (.ofFile file) (Volume.mount slots memory) command).2 := by
  unfold runOn at spares ⊢
  have mounted := mount_spares image file slots memory #[]
  dsimp only [Action.run] at mounted
  cases ended : Volume.mount slots memory ⟨ImageFile.ofFile file, #[]⟩ with
  | ok mount after =>
      rw [ended] at mounted spares
      exact (mounted directory .empty there).runMounted_spares command spares
  | error failure after =>
      rw [ended] at mounted
      cases failure <;> exact keeps_store there mounted.1 mounted.2

end InodeVolume.Packer
