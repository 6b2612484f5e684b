import InodeVolume.Proofs.Packer.Untouched
import InodeVolume.Proofs.Volume.Stock

/-!
# Runs on images with a stock

An image `Carries` a stock while a volume with that stock is stored in it. Every run takes that volume up, and leaves
one with the stock that its command makes of it.

* **images** — `Carries`, which depends on the bytes of the image alone;
* **jobs** — `put_serves`, `fetch_serves` and `remove_serves`: what each command does to a volume in service, and
  `whole_serves`: what is printed and stored after it;
* **runs** — `run_format`, `run_put`, `run_get` and `run_remove`.
-/

namespace InodeVolume.Packer

open ImageFile (lawful refusing)
open Volume (Service Laden freeSectors)

variable {image : Place} {file : HostFile} {base : FreeMap} {stock : Stock} {free : Nat} {directory : Directory}
  {α : Type}

/-! ## Images -/

/-- A volume with this stock is in the image, with so many free sectors. -/
def Carries (image : Place) (base : FreeMap) (stock : Stock) (free : Nat) (directory : Directory) : Prop :=
  ∃ file map, directory.file? image = some file ∧ Laden base stock (.ofWhole (ImageFile.ofFile file).contents) map ∧
    map.freeCount = free

/-- Where nothing is in stock as many sectors are free as at the beginning. -/
theorem Carries.free_eq (carries : Carries image base [] free directory) : free = base.freeCount := by
  obtain ⟨file, map, -, laden, count⟩ := carries
  rw [← count, laden.stocked.map_eq laden.intact]

/-- The image holds the bytes that it held, and nothing else has changed. -/
def Unchanged (image : Place) (before after : Directory) : Prop :=
  (∃ file, before.file? image = some file ∧ Keeps image file after) ∧
    ∀ other, other ≠ image → after.node? other = before.node? other

/-- An image with the same bytes carries the same. -/
theorem Carries.of_keeps {after : Directory} (carries : Carries image base stock free directory)
    (there : directory.file? image = some file) (keeps : Keeps image file after) :
    Carries image base stock free after := by
  obtain ⟨file', map, there', laden, count⟩ := carries
  rw [there] at there'
  cases there'
  obtain ⟨kept, here, same⟩ := keeps
  refine ⟨kept, map, here, ?_, count⟩
  rw [ImageFile.contents_ofFile same]
  exact laden

theorem Carries.of_unchanged {after : Directory} (carries : Carries image base stock free directory)
    (unchanged : Unchanged image directory after) : Carries image base stock free after := by
  obtain ⟨⟨file, there, keeps⟩, -⟩ := unchanged
  exact carries.of_keeps there keeps

/-! ## Jobs -/

/-- A run has come to this point from `before`: its volume stands on these sectors, and nothing else has changed. -/
structure Amid (file : HostFile) (before : Work) (array : SectorArray) (work : Work) : Prop where
  image : work.image = before.image
  directory : work.directory = before.directory
  out : work.out = before.out
  shown : letI := lawful file; (work.mount.disk work.device).Shows array

/-- The volume of a run serves with a stock, while nobody has a file open. -/
def Serves (file : HostFile) (before : Work) (base : FreeMap) (stock : Stock) (free : Nat) (work : Work) : Prop :=
  ∃ array, Amid file before array work ∧ Service base stock [] (.ofWhole array) work.mount.files ∧
    freeSectors work.mount.files = free

namespace Amid

variable {before work : Work} {array : SectorArray} {stopped : Complaint → Work → Prop}

theorem onVolume {computation : SectorM Volume α} {good : α → PartialArray → Volume → Prop}
    {bad : Failure → PartialArray → Volume → Prop} (amid : Amid file before array work)
    (ensured : computation.Ensures (.ofWhole array) work.mount.files good bad) :
    (Job.onVolume computation).Ensures work
      (fun a work' => ∃ array', Amid file before array' work' ∧ good a (.ofWhole array') work'.mount.files) stopped
      fun failure work' => ∃ array', Amid file before array' work' ∧ bad failure (.ofWhole array') work'.mount.files := by
  let := lawful file
  refine Job.ensures_onVolume ((Mount.run_ensures ensured amid.shown).mono ?_ ?_)
  · rintro a after ⟨array', shown, done⟩
    exact ⟨array', ⟨amid.image, amid.directory, amid.out, shown⟩, done⟩
  · rintro failure after ⟨array', shown, failed⟩
    exact ⟨array', ⟨amid.image, amid.directory, amid.out, shown⟩, failed⟩

/-- What cannot fail over an array does not fail in a run. -/
theorem onVolume_ends {computation : SectorM Volume α} {good : α → PartialArray → Volume → Prop}
    {bad : Failure → Work → Prop} (amid : Amid file before array work)
    (ensured : computation.Ensures (.ofWhole array) work.mount.files good fun _ _ _ => False) :
    (Job.onVolume computation).Ensures work
      (fun a work' => ∃ array', Amid file before array' work' ∧ good a (.ofWhole array') work'.mount.files) stopped bad :=
  (amid.onVolume ensured).mono (fun _ _ done => done) (fun _ _ told => told) fun _ _ ⟨_, _, failed⟩ => failed.elim

theorem print (amid : Amid file before array work) (bytes : Bytes) :
    Amid file { before with out := before.out ++ bytes } array { work with out := work.out ++ bytes } :=
  ⟨amid.image, amid.directory, congrArg (· ++ bytes) amid.out, amid.shown⟩

/-- A run that goes no further before anything was changed leaves everything as it was. -/
theorem abandon (amid : Amid file before (ImageFile.ofFile file).contents work)
    (there : before.directory.file? before.image = some file) (log : Array Event) (ending : Bytes → Exit) :
    (abandon ⟨work, log⟩ ending).1 = ending before.out ∧
      Unchanged before.image before.directory (abandon ⟨work, log⟩ ending).2 := by
  let := lawful file
  obtain ⟨device, sound, same, ended⟩ := abandon_eq amid.shown log ending
  rw [ended, amid.out, amid.directory, amid.image]
  exact ⟨rfl, ⟨file, there, keeps_store there sound same⟩, fun other apart => Directory.node?_store_of_ne apart⟩

end Amid

/-- A run has stored a volume with this stock in its device. -/
structure Finished (file : HostFile) (before : Work) (base : FreeMap) (stock : Stock) (free : Nat) (work : Work) :
    Prop where
  image : work.image = before.image
  directory : work.directory = before.directory
  out : work.out = before.out ++ counted free
  lies : ImageFile.Over file work.device
  laden : ∃ map, Laden base stock (.ofWhole work.device.contents) map ∧ map.freeCount = free

/-- What is stored in the device is in the image afterwards. -/
theorem Finished.leave {before work : Work} (finished : Finished file before base stock free work)
    {kept : HostFile} (there : before.directory.file? before.image = some kept) :
    Carries before.image base stock free work.leave := by
  obtain ⟨map, laden, count⟩ := finished.laden
  refine ⟨work.device.file, map, ?_, ?_, count⟩
  · unfold Work.leave
    rw [finished.image, finished.directory]
    exact Directory.file?_store_self there
  · rw [finished.lies.ofFile_eq]
    exact laden

namespace Job

variable {before work : Work} {array : SectorArray} {stopped : Complaint → Work → Prop} {bad : Failure → Work → Prop}
  {sector : SectorId} {bytes : Bytes}

/-- After a command it is printed how many sectors are free, and the volume is stored. -/
theorem whole_serves {request : Command} {stage : Work → Stock → Nat → Prop}
    (served : (command request).Ensures work
      (fun _ work' => ∃ before stock free, stage before stock free ∧ Serves file before base stock free work')
      stopped bad) :
    (whole request).Ensures work
      (fun _ work' => ∃ before stock free, stage before stock free ∧ Finished file before base stock free work')
      stopped bad := by
  let := lawful file
  refine .bind (served.mono ?_ (fun _ _ told => told) fun _ _ failed => failed)
  rintro _ work₁ ⟨before, stock, _, staged, array, amid, service, rfl⟩
  refine .bind (ensures_perform.mpr (Action.ensures_get.mpr (.bind (ensures_print.mpr ?_))))
  refine ensures_onVolume ((Volume.shutdown_ensures amid.shown service.healthy).mono ?_ ?_)
  · rintro _ ⟨device, mount⟩ saved
    refine ⟨before, stock, _, staged, amid.image, amid.directory, ?_, saved.sound, _, saved.laden service, rfl⟩
    exact congrArg (· ++ counted (freeSectors work₁.mount.files)) amid.out
  · rintro failure _ refused
    exact absurd refused (Volume.not_mapRefused (Ledger.not_crowded_of_nobody rfl) List.not_mem_nil)

/-- **Copying a host file in.** Its bytes are in stock then, or an empty file where there is not room for them. It
fails where no sector is free, and where the file cannot be read. -/
theorem put_serves {source : String} (amid : Amid file before array work)
    (service : Service base stock [] (.ofWhole array) work.mount.files)
    (apart : ∀ node, before.directory.find source ≠ .ok (before.image, node)) :
    (put source).Ensures work
      (fun _ work' => freeSectors work.mount.files ≠ 0 ∧ ∃ place read sector free',
        before.directory.Reads source place read ∧ Serves file { before with out := before.out ++ placed source sector }
          base ((sector, Stock.kept (freeSectors work.mount.files) read.toBytes) :: stock) free' work')
      (fun _ work' => Amid file before array work' ∧
        ∀ place read, before.directory.Reads source place read → ¬Affords work.memory read.length)
      fun failure work' => failure = .reported .noSpace ∧ freeSectors work.mount.files = 0 ∧
        Amid file before array work' := by
  have elsewhere : ∀ place read, before.directory.Reads source place read → place ≠ work.image := by
    rintro place read ⟨node, found, -⟩ rfl
    exact apart node (amid.image ▸ found)
  refine .bind ((readHost_ensures source).mono ?_ ?_ fun _ _ never => never.elim)
  swap
  · rintro _ _ ⟨rfl, unreadable⟩
    exact ⟨amid, fun place read reads => unreadable place read (amid.directory ▸ reads) (elsewhere place read reads)⟩
  rintro data work ⟨rfl, small, place, read, reads, same⟩
  -- nothing has been changed yet, and only the first of the next four steps can fail
  rw [amid.directory] at reads
  obtain rfl := same (elsewhere place read reads)
  refine .bind ((amid.onVolume service.create_serves).mono ?_ (fun _ _ told => told) ?_)
  swap
  · rintro failure work' ⟨array', amid', why, still, none⟩
    rw [PartialArray.ofWhole_injective still] at amid'
    exact ⟨why, none, amid'⟩
  rintro sector work₁ ⟨array₁, amid₁, made, new, spent⟩
  refine .bind ((amid₁.onVolume_ends (made.openAt_serves (Stock.mem_files_of_mem List.mem_cons_self))).mono ?_
    (fun _ _ told => told) fun _ _ failed => failed)
  rintro ref work₂ ⟨array₂, amid₂, same₂, space₂, opened⟩
  rw [← same₂] at new
  refine .bind ((amid₂.onVolume_ends (opened.write_serves new (Nat.lt_trans small.1 (by decide)))).mono ?_
    (fun _ _ told => told) fun _ _ failed => failed)
  rintro _ work₃ ⟨array₃, amid₃, written⟩
  refine .bind ((amid₃.onVolume_ends written.close_serves).mono ?_ (fun _ _ told => told) fun _ _ failed => failed)
  rintro _ work₄ ⟨array₄, amid₄, -, -, closed⟩
  -- room is counted with the sector that the inode took
  have count : freeSectors work.mount.files = freeSectors work₂.mount.files + 1 := by
    rw [spent, freeSectors, freeSectors, space₂]
  rw [← count] at closed
  exact ensures_print.mpr
    ⟨by omega, place, read, sector, _, reads, array₄, amid₄.print (placed source sector), closed, rfl⟩

/-- **Copying a file out** writes what is in stock, if there is a file to write it to. -/
theorem fetch_serves {target : String} {place : Place} (amid : Amid file before array work)
    (service : Service base stock [] (.ofWhole array) work.mount.files) (listed : (sector, bytes) ∈ stock)
    (resolved : before.directory.resolve target true = .ok place) (apart : place ≠ before.image)
    (takes : before.directory.special? place ≠ some .full) :
    (fetch sector target).Ensures work
      (fun _ work' => Serves file { before with
        directory := before.directory.store place (.ofBytes bytes)
        out := before.out ++ before.directory.echo place bytes } base stock (freeSectors work.mount.files) work')
      stopped bad := by
  refine .bind ((amid.onVolume_ends (service.openAt_serves (Stock.mem_files_of_mem listed))).mono ?_
    (fun _ _ told => told) fun _ _ failed => failed)
  rintro ref work₁ ⟨array₁, amid₁, -, space₁, opened⟩
  refine .bind ((amid₁.onVolume_ends opened.length_serves).mono ?_ (fun _ _ told => told) fun _ _ failed => failed)
  rintro _ work₂ ⟨array₂, amid₂, same₂, files₂, rfl⟩
  rw [← same₂, ← files₂] at opened
  rw [← same₂]
  refine .bind ((amid₂.onVolume_ends (opened.read_serves listed)).mono ?_ (fun _ _ told => told) fun _ _ failed => failed)
  rintro _ work₃ ⟨array₃, amid₃, same₃, files₃, rfl⟩
  rw [← same₃, ← files₃] at opened
  refine .bind ((amid₃.onVolume_ends opened.close_serves).mono ?_ (fun _ _ told => told) fun _ _ failed => failed)
  rintro _ work₄ ⟨array₄, amid₄, -, space₄, closed⟩
  -- none of the four steps has touched the free map
  have count : freeSectors work₄.mount.files = freeSectors work.mount.files := by
    rw [freeSectors, freeSectors, space₄, files₃, files₂, space₁]
  have resolved₄ : work₄.directory.resolve target true = .ok place := amid₄.directory ▸ resolved
  have elsewhere : work₄.directory.resolve target true ≠ .ok work₄.image := by
    rw [resolved₄, amid₄.image]
    exact fun same => apart (Except.ok.inj same)
  refine (writeHost_ensures elsewhere).mono ?_ ?_ fun _ _ never => never.elim
  · rintro _ _ ⟨place', resolved', rfl⟩
    rw [resolved₄] at resolved'
    cases resolved'
    refine ⟨array₄, ⟨amid₄.image, ?_, ?_, amid₄.shown⟩, closed, count⟩
    · rw [amid₄.directory]
    · rw [amid₄.directory, amid₄.out]
  · rintro _ _ ⟨-, full⟩
    exact absurd (full place resolved₄) (amid₄.directory ▸ takes)

/-- **Removing a file** takes it out of stock. -/
theorem remove_serves (amid : Amid file before array work)
    (service : Service base stock [] (.ofWhole array) work.mount.files) (listed : sector ∈ stock.map Prod.fst) :
    (remove sector).Ensures work
      (fun _ work' => ∃ free', Serves file before base (stock.without sector) free' work') stopped bad := by
  have once := service.stocked.once
  unfold Job.remove
  rw [ensures_ite, if_neg (by simp [Stock.ne_freeMap once listed, Stock.ne_root once listed])]
  refine (amid.onVolume_ends (service.remove_serves listed)).mono ?_ (fun _ _ told => told) fun _ _ failed => failed
  rintro _ work' ⟨array', amid', -, removed⟩
  exact ⟨_, array', amid', removed, rfl⟩

end Job

/-! ## Runs -/

/-- Arguments of a run that carries out a command on an image through so many slots. -/
def Asks (arguments : List String) (directory : Directory) (image : Place) (slots : Nat) (command : Command) : Prop :=
  ∃ path node, parse arguments = .request ⟨path, slots, command⟩ ∧ directory.find path = .ok (image, node)

theorem Asks.run_eq {arguments : List String} {slots memory : Nat} {command : Command}
    (asks : Asks arguments directory image slots command) (there : directory.file? image = some file)
    (mounts : ∀ sectors, command ≠ .format sectors) :
    run arguments directory memory =
      runOn memory directory image (.ofFile file) (Volume.mount slots memory) command := by
  obtain ⟨path, node, asked, found⟩ := asks
  have standing := Directory.node?_of_find found
  rw [Directory.file?_eq_some.mp there] at standing
  cases standing
  exact run_eq_runOn asked found mounts

/-- A run carries out its command on the volume with its stock, unless there is not room for the cache. -/
theorem Carries.runOn {arguments : List String} {slots : Nat} {command : Command}
    (carries : Carries image base stock free directory) (asks : Asks arguments directory image slots command)
    (mounts : ∀ sectors, command ≠ .format sectors) (memory : Nat) :
    (HasRoom memory slots ∧ ∃ file start, directory.file? image = some file ∧ start.memory = memory ∧
      Fresh image file start.mount.files.space start ∧
      Amid file { start with image, directory, out := .empty } (ImageFile.ofFile file).contents start ∧
      Service base stock [] (.ofWhole (ImageFile.ofFile file).contents) start.mount.files ∧
      freeSectors start.mount.files = free ∧ run arguments directory memory = runMounted command start) ∨
    (¬HasRoom memory slots ∧ (run arguments directory memory).1.code ≠ 0 ∧
      Unchanged image directory (run arguments directory memory).2) := by
  obtain ⟨file, map, there, laden, count⟩ := carries
  let := lawful file
  have sound : LawfulDevice.Sound (ImageFile.ofFile file) := ImageFile.over_ofFile file
  rw [asks.run_eq there mounts]
  -- what is known of any mount, and what the stock says of this one, hold of one and the same
  have mounted := ((mount_spares image file slots memory).and (Volume.mount_serves sound laden slots memory)) #[]
  unfold Packer.runOn
  dsimp only [Action.run] at mounted
  cases ended : Volume.mount slots memory ⟨ImageFile.ofFile file, #[]⟩ with
  | ok mount after =>
      have room : HasRoom memory slots := by
        by_contra cramped
        cases ended.symm.trans (Volume.mount_cramped cramped _)
      rw [ended] at mounted
      obtain ⟨fresh, shown, space, service⟩ := mounted
      refine .inl ⟨room, file, ⟨memory, image, after.state, mount, directory, .empty⟩, there, rfl, fresh _ _ there,
        ⟨rfl, rfl, rfl, shown⟩, service, ?_, rfl⟩
      rw [freeSectors, space, count]
  | error failure after =>
      rw [ended] at mounted
      obtain ⟨⟨lies, same⟩, ⟨cramped, -⟩⟩ := mounted
      have unchanged : Unchanged image directory (directory.store image after.state.file) :=
        ⟨⟨file, there, keeps_store there lies same⟩, fun other apart => Directory.node?_store_of_ne apart⟩
      cases failure with
      | reported error => exact .inr ⟨cramped, Nat.one_ne_zero, unchanged⟩
      | fault fault =>
          refine .inr ⟨cramped, ?_, unchanged⟩
          cases fault <;> exact Nat.succ_ne_zero _

section

variable {arguments : List String} {slots memory : Nat} {sector : SectorId} {bytes : Bytes}

/-- A run fails, and changes nothing, where the host has not the memory for the cache. -/
theorem Carries.run_cramped {command : Command} (carries : Carries image base stock free directory)
    (asks : Asks arguments directory image slots command) (mounts : ∀ sectors, command ≠ .format sectors)
    (cramped : ¬HasRoom memory slots) : (run arguments directory memory).1.code ≠ 0 ∧
      Unchanged image directory (run arguments directory memory).2 := by
  rcases carries.runOn asks mounts memory with ⟨room, -⟩ | ⟨-, refused⟩
  · exact absurd room cramped
  · exact refused

/-- How a run ends that puts a host file: the file is in stock, or nothing was changed. -/
inductive Put (image : Place) (base : FreeMap) (stock : Stock) (free : Nat) (directory : Directory)
    (memory slots : Nat) (source : String) (ended : Exit × Directory) : Prop where
  | stored {place : Place} {read : HostFile} {sector : SectorId} {left : Nat} (vacant : free ≠ 0)
      (reads : directory.Reads source place read)
      (printed : ended.1 = ⟨0, placed source sector ++ counted left, none⟩)
      (carries : Carries image base ((sector, Stock.kept free read.toBytes) :: stock) left ended.2)
  | refused (code : ended.1.code ≠ 0) (unchanged : Unchanged image directory ended.2)
      (why : ¬HasRoom memory slots ∨ free = 0 ∨
        ∀ place read, directory.Reads source place read → ¬Affords memory read.length)

/-- **Putting a host file** adds it to the stock, or changes nothing. -/
theorem Carries.run_put {source : String} (carries : Carries image base stock free directory)
    (asks : Asks arguments directory image slots (.put source))
    (apart : ∀ node, directory.find source ≠ .ok (image, node)) (memory : Nat) :
    Put image base stock free directory memory slots source (run arguments directory memory) := by
  rcases carries.runOn asks nofun memory with
    ⟨-, file, start, there, rfl, -, amid, service, rfl, same⟩ | ⟨cramped, code, unchanged⟩
  swap
  · exact .refused code unchanged (.inl cramped)
  rw [same]
  have put : (Job.command (.put source)).Ensures start
      (fun _ work' => ∃ before stock' free', (freeSectors start.mount.files ≠ 0 ∧ ∃ place read sector,
        directory.Reads source place read ∧
        before = { start with image, directory, out := placed source sector } ∧
        stock' = (sector, Stock.kept (freeSectors start.mount.files) read.toBytes) :: stock) ∧
        Serves file before base stock' free' work') _ _ :=
    (Job.put_serves amid service apart).mono
      (fun _ _ ⟨vacant, place, read, sector, free', reads, serves⟩ =>
        ⟨_, _, free', ⟨vacant, place, read, sector, reads, by rw [ByteArray.empty_append], rfl⟩, serves⟩)
      (fun _ _ told => told) fun _ _ failed => failed
  refine runMounted_told _ (Job.whole_serves put) ?_ ?_ ?_ ?_
  · rintro work ⟨_, _, left, ⟨vacant, place, read, sector, reads, rfl, rfl⟩, finished⟩
    exact .stored vacant reads (congrArg (Exit.mk 0 · none) finished.out) (finished.leave there)
  · rintro complaint work log ⟨still, unreadable⟩
    obtain ⟨ending, unchanged⟩ := still.abandon there log fun out => .complain out complaint
    exact .refused (by rw [ending]; exact Nat.one_ne_zero) unchanged (.inr (.inr unreadable))
  · rintro error work log ⟨-, none, still⟩
    obtain ⟨ending, unchanged⟩ := still.abandon there log fun out => .complain out (.volume error)
    exact .refused (by rw [ending]; exact Nat.one_ne_zero) unchanged (.inr (.inl none))
  · rintro fault work log ⟨impossible, -⟩
    cases impossible

/-- How a run ends that gets a file: its bytes are printed, or in the file that they were written to. -/
structure Got (free : Nat) (directory : Directory) (place : Place) (bytes : Bytes) (ended : Exit × Directory) : Prop where
  printed : ended.1 = ⟨0, directory.echo place bytes ++ counted free, none⟩
  written : directory.special? place = none → ended.2.file? place = some (.ofBytes bytes)

/-- **Getting a file** gives what is in stock. -/
theorem Carries.run_get {target : String} {place : Place} (carries : Carries image base stock free directory)
    (asks : Asks arguments directory image slots (.get sector target)) (room : HasRoom memory slots)
    (listed : (sector, bytes) ∈ stock) (resolved : directory.resolve target true = .ok place) (apart : place ≠ image)
    (takes : directory.special? place ≠ some .full) :
    Got free directory place bytes (run arguments directory memory) := by
  rcases carries.runOn asks nofun memory with
    ⟨-, file, start, there, -, -, amid, service, rfl, same⟩ | ⟨cramped, -, -⟩
  swap
  · exact absurd room cramped
  rw [same]
  have fetched : (Job.command (.get sector target)).Ensures start
      (fun _ work' => ∃ before stock' free', (before = { start with
        image
        directory := directory.store place (.ofBytes bytes)
        out := directory.echo place bytes } ∧ stock' = stock ∧ free' = freeSectors start.mount.files) ∧
          Serves file before base stock' free' work')
      (fun _ _ => False) fun _ _ => False :=
    (Job.fetch_serves amid service listed resolved apart takes).mono
      (fun _ _ serves => ⟨_, _, _, ⟨by rw [ByteArray.empty_append], rfl, rfl⟩, serves⟩) (fun _ _ told => told)
      fun _ _ failed => failed
  refine runMounted_told _ (Job.whole_serves fetched) ?_ (fun _ _ _ never => never.elim) (fun _ _ _ never => never.elim)
    fun _ _ _ never => never.elim
  rintro work ⟨_, _, _, ⟨rfl, rfl, rfl⟩, finished⟩
  refine ⟨congrArg (Exit.mk 0 · none) finished.out, fun ordinary => ?_⟩
  unfold Work.leave
  rw [Directory.file?_eq_some, Directory.node?_store_of_ne (by rw [finished.image]; exact apart), finished.directory,
    ← Directory.file?_eq_some]
  exact Directory.file?_store ordinary (Directory.node?_of_resolve resolved)

/-- How a run ends that removes a file: it is out of stock, or nothing was changed. -/
inductive Gone (image : Place) (base : FreeMap) (stock : Stock) (directory : Directory) (memory slots : Nat)
    (ended : Exit × Directory) : Prop where
  | removed {left : Nat} (printed : ended.1 = ⟨0, counted left, none⟩) (carries : Carries image base stock left ended.2)
  | refused (code : ended.1.code ≠ 0) (unchanged : Unchanged image directory ended.2)
      (why : ¬HasRoom memory slots)

/-- **Removing a file** takes it out of stock. -/
theorem Carries.run_remove (carries : Carries image base stock free directory)
    (asks : Asks arguments directory image slots (.remove sector)) (listed : sector ∈ stock.map Prod.fst)
    (memory : Nat) :
    Gone image base (stock.without sector) directory memory slots (run arguments directory memory) := by
  rcases carries.runOn asks nofun memory with
    ⟨-, file, start, there, -, -, amid, service, rfl, same⟩ | ⟨cramped, code, unchanged⟩
  swap
  · exact .refused code unchanged cramped
  rw [same]
  have removed : (Job.command (.remove sector)).Ensures start
      (fun _ work' => ∃ before stock' free', (before = { start with image, directory, out := .empty } ∧
        stock' = stock.without sector) ∧ Serves file before base stock' free' work')
      (fun _ _ => False) fun _ _ => False :=
    (Job.remove_serves amid service listed).mono (fun _ _ ⟨free', serves⟩ => ⟨_, _, free', ⟨rfl, rfl⟩, serves⟩)
      (fun _ _ told => told) fun _ _ failed => failed
  refine runMounted_told _ (Job.whole_serves removed) ?_ (fun _ _ _ never => never.elim) (fun _ _ _ never => never.elim)
    fun _ _ _ never => never.elim
  rintro work ⟨_, _, free', ⟨rfl, rfl⟩, finished⟩
  refine .removed ?_ (finished.leave there)
  rw [finished.out, ByteArray.empty_append]

/-- **Looking into an image** leaves the stock as it is, also where there is no file to look at. -/
theorem Carries.run_look {command : Command} (carries : Carries image base stock free directory)
    (asks : Asks arguments directory image slots command) (looks : command.Looks directory image) :
    Carries image base stock free (run arguments directory memory).2 ∧
      ((run arguments directory memory).1.code = 0 →
        ∃ line, (run arguments directory memory).1.out = line ++ counted free) := by
  have mounts : ∀ sectors, command ≠ .format sectors := by
    rintro sectors rfl
    exact looks 0
  rcases carries.runOn asks mounts memory with
    ⟨-, file, start, there, -, fresh, amid, -, rfl, same⟩ | ⟨-, code, unchanged⟩
  · rw [same]
    obtain ⟨keeps, told⟩ := fresh.runMounted_looks command (amid.directory ▸ looks)
    exact ⟨carries.of_keeps there keeps, told⟩
  · exact ⟨carries.of_unchanged unchanged, fun done => absurd done code⟩

end

/-! ### New images -/

/-- An empty volume is laid out on the device over a file, if there is room for it and for the cache. -/
theorem format_lays (file : HostFile) (slots memory : Nat) :
    (Volume.format slots memory : Action ImageFile (Mount FreeMap)).Ensures (.ofFile file)
      (fun mount device => letI := lawful file; (mount.disk device).Shows device.contents ∧
        device.contents.count = file.length / sectorSize ∧ Volume.OnDevice device.contents mount.files)
      fun _ _ => file.length / sectorSize ≤ 2 ∨ Volume.maxVolumeSectors < file.length / sectorSize ∨
        ¬HasRoom memory slots := by
  let := lawful file
  have sound : LawfulDevice.Sound (ImageFile.ofFile file) := ImageFile.over_ofFile file
  have count : (LawfulDevice.sectors (ImageFile.ofFile file)).count = file.length / sectorSize :=
    ImageFile.count_contents
  have lays := Volume.format_lays sound slots memory
  rw [count] at lays
  exact lays

/-- How a run ends that makes an image: there is an empty volume in it, or it tells that there is none. -/
inductive Made (image : Place) (memory slots sectors : Nat) (directory : Directory) (ended : Exit × Directory) :
    Prop where
  | laidOut {base : FreeMap} (printed : ended.1 = ⟨0, counted base.freeCount, none⟩)
      (carries : Carries image base [] base.freeCount ended.2) (whole : base.sectors = sectors)
      (free : base.freeCount + totalSectors (groupCount sectors * Group.bytes) + 2 = sectors)
  | refused (code : ended.1.code ≠ 0)
      (why : sectors ≤ 2 ∨ Volume.maxVolumeSectors < sectors ∨ ¬HasRoom memory slots ∨
        (directory.special? image).isSome)

/-- An image is made where the host has the memory for the cache and a volume can be so long. -/
theorem Made.done {memory slots sectors : Nat} {ended : Exit × Directory}
    (made : Made image memory slots sectors directory ended) (room : HasRoom memory slots) (some : 2 < sectors)
    (few : sectors ≤ Volume.maxVolumeSectors) (ordinary : directory.special? image = none) :
    ∃ base, ended.1 = ⟨0, counted base.freeCount, none⟩ ∧ Carries image base [] base.freeCount ended.2 ∧
      base.sectors = sectors ∧ base.freeCount + totalSectors (groupCount sectors * Group.bytes) + 2 = sectors := by
  cases made with
  | laidOut printed carries whole free => exact ⟨_, printed, carries, whole, free⟩
  | refused _ why =>
      rcases why with short | long | cramped | special
      · omega
      · omega
      · exact absurd room cramped
      · rw [ordinary] at special
        cases special

/-- **Making an image.** -/
theorem run_format {arguments : List String} {path : String} {memory slots sectors : Nat}
    (asked : parse arguments = .request ⟨path, slots, .format sectors⟩)
    (resolved : directory.resolve path true = .ok image) :
    Made image memory slots sectors directory (run arguments directory memory) := by
  have same : run arguments directory memory = runFormat memory ⟨path, slots, .format sectors⟩ sectors directory := by
    unfold run
    rw [asked]
    rfl
  rw [same]
  unfold runFormat
  rw [resolved]
  dsimp only
  -- an image that is too long for the host is too long for a volume
  have large : ∀ limit, Volume.maxVolumeSectors * sectorSize < limit → limit ≤ sectors * sectorSize →
      Volume.maxVolumeSectors < sectors := fun limit small reached =>
    Nat.lt_of_mul_lt_mul_right (Nat.lt_of_lt_of_le small reached)
  split
  · exact .refused (Nat.succ_ne_zero _) (.inr (.inl (large wordLimit (by decide) ‹_›)))
  split
  · exact .refused Nat.one_ne_zero (.inr (.inl (large requestLimit (by decide) ‹_›)))
  split
  · exact .refused Nat.one_ne_zero (.inr (.inr (.inr ‹_›)))
  rename_i ordinary
  have ordinary : directory.special? image = none := by simpa using ordinary
  split
  · exact .refused Nat.one_ne_zero (.inr (.inl (large HostFile.lengthLimit (by decide) (Nat.le_of_lt ‹_›))))
  have there : (directory.store image (.zeros 0)).file? image = some (.zeros 0) :=
    Directory.file?_store ordinary (Directory.node?_of_resolve resolved)
  let := lawful (.zeros (sectors * sectorSize))
  have lays := format_lays (.zeros (sectors * sectorSize)) slots memory #[]
  have count : (HostFile.zeros (sectors * sectorSize)).length / sectorSize = sectors :=
    Nat.mul_div_cancel _ (by decide)
  rw [count] at lays
  unfold runOn
  dsimp only [Action.run] at lays
  cases ended : Volume.format slots memory ⟨ImageFile.ofFile (.zeros (sectors * sectorSize)), #[]⟩ with
  | ok mount after =>
      rw [ended] at lays
      obtain ⟨shown, count, onDevice⟩ := lays
      have service := Service.of_laidOut onDevice.laid
      have whole : mount.files.space.sectors = sectors :=
        onDevice.laid.healthy.sectors_eq.trans (PartialArray.count_ofWhole.trans count)
      have free := onDevice.laid.left
      rw [PartialArray.count_ofWhole, count] at free
      let start : Work := ⟨memory, image, after.state, mount, directory.store image (.zeros 0), .empty⟩
      have begun : (Job.command (.format sectors)).Ensures start
          (fun _ work' => ∃ before stock free', (before = start ∧ stock = [] ∧ free' = freeSectors mount.files) ∧
            Serves (.zeros (sectors * sectorSize)) before mount.files.space stock free' work')
          (fun _ _ => False) fun _ _ => False :=
        Job.ensures_pure.mpr ⟨start, [], _, ⟨rfl, rfl, rfl⟩, _, ⟨rfl, rfl, rfl, shown⟩, service, rfl⟩
      refine runMounted_told _ (Job.whole_serves begun) ?_ (fun _ _ _ never => never.elim) (fun _ _ _ never => never.elim)
        fun _ _ _ never => never.elim
      rintro work ⟨_, _, _, ⟨rfl, rfl, rfl⟩, finished⟩
      refine .laidOut ?_ (finished.leave there) whole ?_
      · rw [finished.out, ByteArray.empty_append]
        rfl
      · rw [← service.freeSectors_eq] at free
        exact free
  | error failure after =>
      rw [ended] at lays
      have why : sectors ≤ 2 ∨ Volume.maxVolumeSectors < sectors ∨ ¬HasRoom memory slots ∨
          (directory.special? image).isSome := lays.imp_right (Or.imp_right .inl)
      cases failure with
      | reported error => exact .refused Nat.one_ne_zero why
      | fault fault => cases fault <;> exact .refused (Nat.succ_ne_zero _) why

end InodeVolume.Packer
