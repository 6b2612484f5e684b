import InodeVolume.Proofs.Packer.Service

/-!
# Looking into images

A run that looks into an image stores the free map of its volume again, and writes back what its cache holds. Neither
changes a byte.

* **files that are there** — `Carries.run_stat`: looking at one ends well, and tells how long it is;
* **all images** — `run_untouched`: none is changed by a run that looks into it, nor by one that ends with an error.
-/

namespace InodeVolume.Packer

open Volume (Service freeSectors)

variable {image : Place} {file : HostFile} {base : FreeMap} {stock : Stock} {free : Nat} {directory : Directory}
  {sector : SectorId} {arguments : List String} {memory slots : Nat}

/-! ## Files that are there -/

/-- **Looking at a file** prints what its inode says. -/
theorem Job.stat_serves {before work : Work} {array : SectorArray} {stopped : Complaint → Work → Prop}
    {bad : Failure → Work → Prop} (amid : Amid file before array work)
    (service : Service base stock [] (.ofWhole array) work.mount.files) (listed : sector ∈ stock.files) :
    (stat sector).Ensures work
      (fun _ work' => Serves file { before with
        out := before.out ++ described (((PartialArray.ofWhole array).inode sector).stat sector) }
          base stock (freeSectors work.mount.files) work')
      stopped bad := by
  refine .bind ((amid.onVolume_ends (service.openAt_serves listed)).mono ?_ (fun _ _ told => told)
    fun _ _ failed => failed)
  rintro ref work₁ ⟨array₁, amid₁, same₁, space₁, opened⟩
  refine .bind ((amid₁.onVolume_ends (Files.stat_ensures opened.healthy.sane List.mem_cons_self)).mono ?_
    (fun _ _ told => told) fun _ _ failed => failed)
  rintro told work₂ ⟨array₂, amid₂, same₂, files₂, rfl⟩
  rw [← same₂, ← files₂] at opened
  refine .bind ((amid₂.onVolume_ends opened.close_serves).mono ?_ (fun _ _ told => told) fun _ _ failed => failed)
  rintro _ work₃ ⟨array₃, amid₃, -, space₃, closed⟩
  have count : freeSectors work₃.mount.files = freeSectors work.mount.files := by
    rw [freeSectors, freeSectors, space₃, files₂, space₁]
  rw [← same₁]
  exact ensures_print.mpr ⟨array₃, amid₃.print _, closed, count⟩

/-- A run that looks at a file tells of it, and how many sectors are free. -/
theorem Carries.run_stat (carries : Carries image base stock free directory)
    (asks : Asks arguments directory image slots (.stat sector)) (room : HasRoom memory slots)
    (listed : sector ∈ stock.files) :
    ∃ told : Stat, (run arguments directory memory).1 = ⟨0, described told ++ counted free, none⟩ ∧
      told.sector = sector ∧ ∀ bytes, (sector, bytes) ∈ stock → told.length = bytes.size := by
  rcases carries.runOn asks nofun memory with
    ⟨-, file, start, there, -, -, amid, service, rfl, same⟩ | ⟨cramped, -⟩
  swap
  · exact absurd room cramped
  rw [same]
  let told := ((PartialArray.ofWhole (ImageFile.ofFile file).contents).inode sector).stat sector
  have looked : (Job.command (.stat sector)).Ensures start
      (fun _ work' => ∃ before stock' free', (before = { start with image, directory, out := described told } ∧
        stock' = stock ∧ free' = freeSectors start.mount.files) ∧ Serves file before base stock' free' work')
      (fun _ _ => False) fun _ _ => False :=
    (Job.stat_serves amid service listed).mono
      (fun _ _ serves => ⟨_, _, _, ⟨by rw [ByteArray.empty_append], rfl, rfl⟩, serves⟩) (fun _ _ told => told)
      fun _ _ failed => failed
  refine ⟨told, ?_, rfl, fun bytes here => ?_⟩
  · refine runMounted_told (fun ended => ended.1 = ⟨0, described told ++ counted (freeSectors start.mount.files), none⟩)
      (Job.whole_serves looked) ?_ (fun _ _ _ never => never.elim) (fun _ _ _ never => never.elim)
      fun _ _ _ never => never.elim
    rintro work ⟨_, _, _, ⟨rfl, rfl, rfl⟩, finished⟩
    exact congrArg (Exit.mk 0 · none) finished.out
  · have held := service.stocked.contents (sector, bytes) here
    exact PartialArray.size_contents.symm.trans (congrArg ByteArray.size held)

/-! ## All images -/

/-- **Runs that only look into an image, and runs that end with an error,** leave it byte for byte as it was: with
any number of slots, and whatever the image holds, also where it is no volume at all. -/
theorem run_untouched {request : Request}
    (asked : parse arguments = .request request) (found : directory.find request.image = .ok (image, .file file))
    (spares : request.command.Spares directory image (run arguments directory memory).1.code) :
    Keeps image file (run arguments directory memory).2 := by
  have mounts : ∀ sectors, request.command ≠ .format sectors := by
    intro sectors same
    rw [same] at spares
    exact spares
  rw [run_eq_runOn asked found mounts] at spares ⊢
  exact runOn_spares (Directory.file?_of_find found) request.slots memory request.command spares

/-- The root is looked at in an image of zeros, in which there is no volume and whose last sector is not whole, and in
an image that was just made. -/
theorem run_untouched_stat :
    Keeps ["i"] (.zeros 700) (run ["--image", "i", "stat", "1"] (Directory.fresh.insert ["i"] (.file (.zeros 700)))).2 ∧
      ∃ file, (run ["--image", "i", "format", "--sectors", "64"] Directory.fresh).2.file? ["i"] = some file ∧
        (run ["--image", "i", "stat", "1"] (Directory.fresh.insert ["i"] (.file file))).1.code = 0 ∧
        Keeps ["i"] file (run ["--image", "i", "stat", "1"] (Directory.fresh.insert ["i"] (.file file))).2 := by
  have asked : parse ["--image", "i", "stat", "1"] = .request ⟨"i", defaultCapacity, .stat rootSector⟩ := by cbv
  refine ⟨run_untouched asked (by cbv) trivial, ?_⟩
  have formats : parse ["--image", "i", "format", "--sectors", "64"] =
      .request ⟨"i", defaultCapacity, .format 64⟩ := by cbv
  obtain ⟨base, -, ⟨file, map, there, laden, count⟩, -⟩ :=
    (run_format formats (show Directory.fresh.resolve "i" true = .ok ["i"] by cbv)).done
      (show HasRoom hostMemory defaultCapacity by decide) (by decide) (by decide) (by cbv)
  have found : (Directory.fresh.insert ["i"] (.file file)).find "i" = .ok (["i"], .file file) := by cbv
  have carries : Carries ["i"] base [] base.freeCount (Directory.fresh.insert ["i"] (.file file)) :=
    ⟨file, map, Directory.file?_of_find found, laden, count⟩
  obtain ⟨told, ended, -⟩ := carries.run_stat ⟨"i", .file file, asked, found⟩
    (show HasRoom hostMemory defaultCapacity by decide) (Stock.mem_files.mpr (.inr (.inr rfl)))
  exact ⟨file, there, congrArg Exit.code ended, run_untouched asked found trivial⟩

end InodeVolume.Packer
