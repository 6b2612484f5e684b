import InodeVolume.Proofs.Device.Image

/-!
# A device over a file answers as one in memory does

Devices are asked to read and to write sectors, one request after the other.

* **requests** — `DeviceRequest`, and how a plain array of sectors answers one (`reply`) and what it becomes (`apply`);
* **histories** — `history` gathers the replies to a list of requests. `Serves` says of the devices that hold an array
  what one request does to them, and `Serves.history_ensures` is what a whole list does;
* **files** — `ImageFile.history_eq_ramDisk`: a device over a file and one in memory with the same sectors reply alike
  and come to the same sectors, and the file is as long as it was and ends as it did.
-/

namespace InodeVolume

/-! ## Requests -/

/-- What a device is asked to do with a sector. -/
inductive DeviceRequest where
  | read (index : Nat)
  | write (index : Nat) (data : Sector)

namespace DeviceRequest

/-- The sector that is asked for. -/
def index : DeviceRequest → Nat
  | read index | write index _ => index

/-- Carries a request out on a device. Only a read is told anything. -/
def perform {D : Type} [BlockDevice D] : DeviceRequest → Action D (Option Sector)
  | read index => return some (← BlockDevice.readSector index sectorSize)
  | write index data => do
    BlockDevice.writeSector index data.bytes
    return none

/-- What a plain array replies. -/
def reply (array : Array Sector) : DeviceRequest → Option Sector
  | read index => array[index]?
  | write .. => none

/-- The plain array after a request. -/
def apply (array : Array Sector) : DeviceRequest → Array Sector
  | read _ => array
  | write index data => array.setIfInBounds index data

@[simp] theorem size_apply (array : Array Sector) (request : DeviceRequest) :
    (request.apply array).size = array.size := by
  cases request with
  | read index => rfl
  | write index data => exact Array.size_setIfInBounds

/-! ## Histories -/

/-- Carries requests out one after the other, and gathers the replies. -/
def history {D : Type} [BlockDevice D] : List DeviceRequest → Action D (List (Option Sector))
  | [] => return []
  | request :: rest => do
    let told ← request.perform
    return told :: (← history rest)

/-- What a plain array replies to one request after the other. -/
def replies (array : Array Sector) : List DeviceRequest → List (Option Sector)
  | [] => []
  | request :: rest => request.reply array :: replies (request.apply array) rest

/-- The plain array after all requests of a list. -/
def applyAll (array : Array Sector) (requests : List DeviceRequest) : Array Sector :=
  requests.foldl apply array

end DeviceRequest

open DeviceRequest (history replies applyAll size_apply)

/-- Devices that hold an array give its sectors when they are read, and hold the array with a sector replaced when
one is written. -/
structure Serves {D : Type} [BlockDevice D] (holds : D → Array Sector → Prop) : Prop where
  read {device : D} {array : Array Sector} {index : Nat} : holds device array → ∀ inside : index < array.size,
    (BlockDevice.readSector index sectorSize).Ensures device
      (fun data after => data = array[index] ∧ holds after array) fun _ _ => False
  write {device : D} {array : Array Sector} {index : Nat} : holds device array → index < array.size →
    ∀ data : Sector, (BlockDevice.writeSector index data.bytes).Ensures device
      (fun _ after => holds after (array.setIfInBounds index data)) fun _ _ => False

namespace Serves

variable {D : Type} [BlockDevice D] {holds : D → Array Sector → Prop} {device : D} {array : Array Sector}

/-- One request is answered as the array answers it. -/
theorem perform_ensures (serves : Serves holds) (held : holds device array) {request : DeviceRequest}
    (inside : request.index < array.size) :
    request.perform.Ensures device
      (fun told after => told = request.reply array ∧ holds after (request.apply array)) fun _ _ => False := by
  cases request with
  | read index =>
      have inside : index < array.size := inside
      refine .bind ((serves.read held inside).mono ?_ fun _ _ failed => failed)
      intro data after ⟨read, held⟩
      refine Action.ensures_pure.mpr ⟨?_, held⟩
      rw [read]
      exact (Array.getElem?_eq_getElem inside).symm
  | write index data =>
      refine .bind ((serves.write held inside data).mono ?_ fun _ _ failed => failed)
      intro _ after held
      exact Action.ensures_pure.mpr ⟨rfl, held⟩

/-- So is every request of a list. -/
theorem history_ensures (serves : Serves holds) (held : holds device array) {requests : List DeviceRequest}
    (inside : ∀ request ∈ requests, request.index < array.size) :
    (history requests).Ensures device
      (fun told after => told = replies array requests ∧ holds after (applyAll array requests)) fun _ _ => False := by
  induction requests generalizing device array with
  | nil => exact Action.ensures_pure.mpr ⟨rfl, held⟩
  | cons request rest ih =>
      have first := inside request List.mem_cons_self
      have others : ∀ later ∈ rest, later.index < (request.apply array).size := fun later listed => by
        rw [size_apply]
        exact inside later (List.mem_cons_of_mem _ listed)
      refine .bind ((serves.perform_ensures held first).mono ?_ fun _ _ failed => failed)
      intro told after ⟨answered, held⟩
      refine .bind ((ih held others).mono ?_ fun _ _ failed => failed)
      intro more last ⟨later, held⟩
      exact Action.ensures_pure.mpr ⟨by rw [answered, later]; rfl, held⟩

end Serves

theorem RamDisk.serves : Serves fun (disk : RamDisk) array => disk.sectors = array where
  read := by
    intro disk array index held inside
    subst held
    exact readSector_ensures inside
  write := by
    intro disk array index held inside data
    subst held
    exact writeSector_ensures inside data

/-! ## Files -/

namespace ImageFile

variable {file : HostFile}

/-- A sector of a device starts at a place that is a word, where the length of the file is one. -/
theorem Over.start_lt {image : ImageFile} {k : Nat} (lies : Over file image) (numbered : file.length < wordLimit)
    (low : k < image.sectors) : k * sectorSize < wordLimit := by
  have inside := lies.inside low
  rw [lies.length] at inside
  omega

theorem serves (numbered : file.length < wordLimit) :
    Serves fun image array => Over file image ∧ image.contents.sectors = array where
  read := by
    intro image array index ⟨lies, held⟩ inside
    subst held
    have low : index < image.sectors := count_contents ▸ inside
    refine (read_ensures lies low (lies.start_lt numbered low)).mono ?_ fun _ _ failed => failed
    intro data after ⟨read, same⟩
    subst same
    exact ⟨by rw [read]; simp [contents], lies, rfl⟩
  write := by
    intro image array index ⟨lies, held⟩ inside data
    subst held
    have low : index < image.sectors := count_contents ▸ inside
    exact write_ensures lies low (lies.start_lt numbered low) data

/-- A device over a file has the sectors of one in memory. Its file is as long as it was and ends as it did, and it
refuses to read past the last whole sector. -/
structure LikeRamDisk (file : HostFile) (image : ImageFile) (disk : RamDisk) : Prop where
  same : image.contents.sectors = disk.sectors
  count : BlockDevice.sectorCount image = file.length / sectorSize
  length : image.file.length = file.length
  tail : ∀ i, file.length / sectorSize * sectorSize ≤ i → image.file.byte i = file.byte i
  past : ∀ index, file.length / sectorSize ≤ index → ∀ log, ∃ why log',
    (BlockDevice.readSector index sectorSize).run ⟨image, log⟩ = .error (.fault why) ⟨image, log'⟩

theorem Over.likeRamDisk {image : ImageFile} {disk : RamDisk} (lies : Over file image)
    (same : image.contents.sectors = disk.sectors) : LikeRamDisk file image disk where
  same := same
  count := lies.sectors
  length := lies.length
  tail := lies.tail
  past := by
    intro index past log
    obtain ⟨failure, after, log', refused, ⟨why, told⟩, unchanged⟩ :=
      (refuses_ensures lies (lies.sectors ▸ past)).ends_failing log
    subst told unchanged
    exact ⟨why, log', refused⟩

/-- **A host file as a RAM disk.** A device over a file of any length, asked to read and write its sectors in any
order, replies as a device in memory does that began with the same sectors, and both have the same sectors then. Not
more than whole sectors of the file have changed, and nothing past them is read. -/
theorem history_eq_ramDisk (file : HostFile) (numbered : file.length < wordLimit) (requests : List DeviceRequest)
    (inside : ∀ request ∈ requests, request.index < file.length / sectorSize) (log : Array Event) :
    let sectors := (ofFile file).contents.sectors
    ∃ image disk log₁ log₂,
      (history requests).run ⟨ofFile file, log⟩ = .ok (replies sectors requests) ⟨image, log₁⟩ ∧
      (history requests).run ⟨(⟨sectors, 0, 0⟩ : RamDisk), log⟩ = .ok (replies sectors requests) ⟨disk, log₂⟩ ∧
      disk.sectors = applyAll sectors requests ∧ LikeRamDisk file image disk := by
  intro sectors
  have inside : ∀ request ∈ requests, request.index < sectors.size := by
    intro request listed
    rw [show sectors.size = file.length / sectorSize from count_contents]
    exact inside request listed
  obtain ⟨told, image, log₁, ran, answered, lies, held⟩ :=
    ((serves numbered).history_ensures ⟨over_ofFile file, rfl⟩ inside).ends log
  obtain ⟨told', disk, log₂, ran', answered', held'⟩ :=
    (RamDisk.serves.history_ensures (show (⟨sectors, 0, 0⟩ : RamDisk).sectors = sectors from rfl) inside).ends log
  subst answered answered'
  exact ⟨image, disk, log₁, log₂, ran, ran', held', lies.likeRamDisk (held.trans held'.symm)⟩

/-- The second sector is written, and both are read. -/
def rewriting : List DeviceRequest := [.write 1 (Block.ofFn fun _ => 7), .read 1, .read 0]

theorem history_eq_ramDisk_rewriting : 1300 < wordLimit ∧
    (∀ request ∈ rewriting, request.index < 1300 / sectorSize) ∧
    let sectors := (ofFile (.zeros 1300)).contents.sectors
    ∃ image disk log₁ log₂,
      (history rewriting).run ⟨ofFile (.zeros 1300), #[]⟩ = .ok (replies sectors rewriting) ⟨image, log₁⟩ ∧
      (history rewriting).run ⟨(⟨sectors, 0, 0⟩ : RamDisk), #[]⟩ = .ok (replies sectors rewriting) ⟨disk, log₂⟩ ∧
      disk.sectors = applyAll sectors rewriting ∧ LikeRamDisk (.zeros 1300) image disk := by
  have inside : ∀ request ∈ rewriting, request.index < 1300 / sectorSize := by
    simp [rewriting, DeviceRequest.index, sectorSize]
  exact ⟨by decide, inside, history_eq_ramDisk (.zeros 1300) (by decide) rewriting inside #[]⟩

end ImageFile

end InodeVolume
