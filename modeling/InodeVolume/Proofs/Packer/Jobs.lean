import InodeVolume.Packer.Run
import InodeVolume.Proofs.Device.Image
import InodeVolume.Proofs.Volume.AnyContents

/-!
# How jobs of the packer end

A `Job` ends with a value, with a complaint, or with a failure of the volume. `Ensures` tells all three, as it does
of actions.

* **directories** — what storing a file does to what stands elsewhere;
* **rules** — one per way of building a job; work on the volume is a computation on its mount, and writing to a host
  file leaves all files alone but one;
* **runs** — `runMounted_told`: what a run ends with is what its job ends with;
* **giving up** — `abandon_eq`: whatever the cache still holds is in the image afterwards.
-/

namespace InodeVolume.Packer

/-! ## Directories -/

/-- What can be read of a node, unless it has no end. -/
def Node.readable : Node → Option HostFile
  | .file held => some held
  | .special (.input contents) => some contents
  | .special .zero | .special .full => none
  | .special .null | .special .output | .special .terminal | .folder => some (.zeros 0)

/-- Whether what is written to a special file is printed. -/
def Special.prints : Special → Bool
  | .output => true
  | .null | .zero | .full | .input _ | .terminal => false

namespace Directory

variable {directory : Directory} {path : String} {place other : Place} {file : HostFile}

/-- A path leads to what can be read. -/
def Reads (directory : Directory) (path : String) (place : Place) (file : HostFile) : Prop :=
  ∃ node, directory.find path = .ok (place, node) ∧ node.readable = some file

theorem Reads.unique {place' : Place} {file' : HostFile} (reads : directory.Reads path place file)
    (reads' : directory.Reads path place' file') : place = place' ∧ file = file' := by
  obtain ⟨node, found, readable⟩ := reads
  obtain ⟨node', found', readable'⟩ := reads'
  rw [found] at found'
  cases found'
  rw [readable] at readable'
  cases readable'
  exact ⟨rfl, rfl⟩

/-- What is printed when bytes are written to a place. -/
def echo (directory : Directory) (place : Place) (bytes : Bytes) : Bytes :=
  if (directory.special? place).any Special.prints then bytes else .empty

theorem file?_eq_some : directory.file? place = some file ↔ directory.node? place = some (.file file) := by
  unfold file?
  cases directory.node? place with
  | none => exact ⟨nofun, nofun⟩
  | some node => cases node <;> simp

/-- What stands elsewhere stays when a file is stored. -/
theorem node?_store_of_ne (apart : other ≠ place) : (directory.store place file).node? other = directory.node? other := by
  unfold store
  split
  · rfl
  · exact node?_insert_of_ne directory _ apart

/-- A file has the contents that were stored last. -/
theorem file?_store (ordinary : directory.special? place = none) (unlike : directory.node? place ≠ some .folder) :
    (directory.store place file).file? place = some file := by
  have below : (place.isAncestor || place == ["/"]) = false := by
    by_contra above
    rw [node?, if_pos (by simpa only [Bool.not_eq_false] using above)] at unlike
    exact unlike rfl
  rw [store, ordinary, file?_eq_some]
  exact node?_insert_self directory _ below

theorem file?_store_self {before : HostFile} (there : directory.file? place = some before) :
    (directory.store place file).file? place = some file := by
  rw [file?_eq_some] at there
  refine file?_store ?_ fun folder => ?_
  · unfold special?
    rw [there]
  · rw [there] at folder
    cases folder

/-- No path to a file leads to a folder. -/
theorem node?_of_resolve {creating : Bool} (resolved : directory.resolve path creating = .ok place) :
    directory.node? place ≠ some .folder := by
  intro folder
  unfold resolve at resolved
  simp only [bind, Except.bind, pure, Except.pure, throw, throwThe, MonadExceptOf.throw] at resolved
  repeat' split at resolved
  all_goals cases resolved
  · rename_i standing _
    rw [standing] at folder
    cases folder
  · rename_i other standing _ _ _ _
    rw [standing] at folder
    exact other (Option.some.inj folder)
  · rename_i standing _
    rw [standing] at folder
    cases folder

/-- What a path leads to stands at its place. -/
theorem node?_of_find {node : Node} (found : directory.find path = .ok (place, node)) :
    directory.node? place = some node := by
  unfold find at found
  cases resolved : directory.resolve path false with
  | error error =>
      rw [resolved] at found
      cases found
  | ok place' =>
      rw [resolved] at found
      dsimp only [bind, Except.bind] at found
      cases standing : directory.node? place' with
      | none =>
          rw [standing] at found
          cases found
      | some node =>
          rw [standing] at found
          cases found
          exact standing

theorem file?_of_find (found : directory.find path = .ok (place, .file file)) : directory.file? place = some file :=
  file?_eq_some.mpr (node?_of_find found)

end Directory

/-! ## Rules -/

namespace Job

variable {α β : Type} {work : Work}

/-- How a job ends from some work: with a value, with a complaint that stops it, or with a failure. -/
def Ensures (job : Job α) (work : Work) (good : α → Work → Prop) (stopped : Complaint → Work → Prop)
    (bad : Failure → Work → Prop) : Prop :=
  job.run.Ensures work
    (fun told work => match told with
      | .ok a => good a work
      | .error complaint => stopped complaint work)
    bad

variable {good good' : α → Work → Prop} {stopped stopped' : Complaint → Work → Prop} {bad bad' : Failure → Work → Prop}

theorem Ensures.mono {job : Job α} (ensured : job.Ensures work good stopped bad)
    (fine : ∀ a work, good a work → good' a work) (told : ∀ c work, stopped c work → stopped' c work)
    (failed : ∀ f work, bad f work → bad' f work) : job.Ensures work good' stopped' bad' := by
  refine Action.Ensures.mono ensured ?_ failed
  rintro (complaint | a) after here
  · exact told complaint after here
  · exact fine a after here

@[simp] theorem ensures_pure {a : α} : (pure a : Job α).Ensures work good stopped bad ↔ good a work :=
  Action.ensures_pure

@[simp] theorem ensures_throw {complaint : Complaint} :
    (throw complaint : Job α).Ensures work good stopped bad ↔ stopped complaint work := Action.ensures_pure

theorem Ensures.bind {job : Job β} {next : β → Job α}
    (ensured : job.Ensures work (fun b work => (next b).Ensures work good stopped bad) stopped bad) :
    (job >>= next).Ensures work good stopped bad := by
  refine Action.Ensures.bind (Action.Ensures.mono ensured ?_ fun _ _ failed => failed)
  rintro (complaint | b) after here
  · exact Action.ensures_pure.mpr here
  · exact here

@[simp] theorem ensures_perform {act : Action Work α} :
    (perform act).Ensures work good stopped bad ↔ act.Ensures work good bad := by
  constructor
  · intro ensured log
    have here := ensured log
    unfold perform ExceptT.lift ExceptT.run ExceptT.mk at here
    rw [map_eq_pure_bind, Action.run_bind] at here
    cases ended : act.run ⟨work, log⟩ <;> rw [ended] at here <;> exact here
  · intro ensured
    show Action.Ensures (Except.ok <$> act) _ _ _
    rw [map_eq_pure_bind]
    exact .bind (Action.Ensures.mono ensured (fun _ _ here => Action.ensures_pure.mpr here) fun _ _ failed => failed)

@[simp] theorem ensures_ite {p : Prop} [Decidable p] {yes no : Job α} :
    (if p then yes else no).Ensures work good stopped bad ↔
      if p then yes.Ensures work good stopped bad else no.Ensures work good stopped bad := by
  split <;> exact Iff.rfl

/-- What the host answers, or what it says against it. -/
theorem ensures_ofHost {answer : Except HostError α} :
    (ofHost answer).Ensures work good stopped bad ↔
      (∀ a, answer = .ok a → good a work) ∧ ∀ error, answer = .error error → stopped (.host error) work := by
  cases answer with
  | ok a => exact ensures_pure.trans ⟨fun here => ⟨fun _ same => Except.ok.inj same ▸ here, nofun⟩, fun here => here.1 a rfl⟩
  | error error =>
      exact ensures_throw.trans ⟨fun here => ⟨nofun, fun _ same => Except.error.inj same ▸ here⟩, fun here => here.2 error rfl⟩

@[simp] theorem ensures_write {bytes : Bytes} {good : Unit → Work → Prop} :
    (write bytes).Ensures work good stopped bad ↔ good () { work with out := work.out ++ bytes } := by
  unfold write
  rw [ensures_perform, Action.ensures_modify]

@[simp] theorem ensures_print {line : String} {good : Unit → Work → Prop} :
    (print line).Ensures work good stopped bad ↔ good () { work with out := work.out ++ (line ++ "\n").toUTF8 } :=
  ensures_write

/-- A computation on the volume is one on its mount, and nothing else is changed. -/
theorem ensures_onVolume {computation : SectorM Volume α}
    (ensured : (Mount.run computation).Ensures (work.device, work.mount)
      (fun a after => good a { work with device := after.1, mount := after.2 })
      fun failure after => bad failure { work with device := after.1, mount := after.2 }) :
    (onVolume computation).Ensures work good stopped bad :=
  ensures_perform.mpr (Action.ensures_within.mpr ensured)

/-- Reading a host file gives its bytes, and changes nothing. It fails where there is no such file, or one too long
for the memory of the host. -/
theorem readHost_ensures (path : String) :
    (readHost path).Ensures work
      (fun data work' => work' = work ∧ Affords work.memory data.size ∧
        ∃ place file, work.directory.Reads path place file ∧ (place ≠ work.image → data = file.toBytes))
      (fun _ work' => work' = work ∧ ∀ place file, work.directory.Reads path place file → place ≠ work.image →
        ¬Affords work.memory file.length)
      fun _ _ => False := by
  unfold readHost
  refine .bind (ensures_perform.mpr (Action.ensures_get.mpr (.bind (ensures_ofHost.mpr ⟨?_, ?_⟩))))
  swap
  · rintro error failed
    refine ⟨rfl, fun place file reads _ => ?_⟩
    obtain ⟨node, found, -⟩ := reads
    rw [failed] at found
    cases found
  rintro ⟨place, node⟩ found
  have only : ∀ {place' file}, work.directory.Reads path place' file → place' = place ∧ node.readable = some file := by
    rintro place' file ⟨node', found', readable⟩
    rw [found] at found'
    cases found'
    exact ⟨rfl, readable⟩
  -- the image is read from the device, so what is read may differ from what is listed
  have rest : ∀ read file : HostFile, node.readable = some file → (place ≠ work.image → read = file) →
      (do
        if ¬Affords work.memory read.length then throw .fileTooLong
        return read.toBytes : Job Bytes).Ensures work
      (fun data work' => work' = work ∧ Affords work.memory data.size ∧
        ∃ place file, work.directory.Reads path place file ∧ (place ≠ work.image → data = file.toBytes))
      (fun _ work' => work' = work ∧ ∀ place file, work.directory.Reads path place file → place ≠ work.image →
        ¬Affords work.memory file.length)
      fun _ _ => False := by
    intro read file readable same
    split
    · rename_i long
      refine .bind (ensures_throw.mpr ⟨rfl, fun place' file' reads apart => ?_⟩)
      obtain ⟨rfl, readable'⟩ := only reads
      rw [readable] at readable'
      cases readable'
      rw [← same apart]
      exact long
    · rename_i short
      refine ensures_pure.mpr ⟨rfl, ?_, place, file, ⟨node, found, readable⟩, fun apart => ?_⟩
      · rw [HostFile.toBytes, Block.size_bytes]
        exact not_not.mp short
      · rw [same apart]
  -- what has no end is too long for any memory
  have endless : node.readable = none → work = work ∧ ∀ place file, work.directory.Reads path place file →
      place ≠ work.image → ¬Affords work.memory file.length := by
    refine fun unreadable => ⟨rfl, fun place' file' reads _ => ?_⟩
    rw [(only reads).2] at unreadable
    cases unreadable
  cases node with
  | folder => exact .bind (ensures_pure.mpr (rest _ _ rfl fun _ => rfl))
  | file file =>
      refine .bind (ensures_pure.mpr (rest _ file rfl fun apart => ?_))
      rw [if_neg (by simpa using apart)]
  | special special =>
      cases special with
      | zero | full => exact .bind (ensures_throw.mpr (endless rfl))
      | null | input contents | output | terminal => exact .bind (ensures_pure.mpr (rest _ _ rfl fun _ => rfl))

/-- Writing to a host file that is not the image stores its bytes in the directory, unless it is a special file. It
fails where there can be no such file, or one that takes nothing. -/
theorem writeHost_ensures {path : String} {bytes : Bytes} (apart : work.directory.resolve path true ≠ .ok work.image) :
    (writeHost path bytes).Ensures work
      (fun _ work' => ∃ place, work.directory.resolve path true = .ok place ∧
        work' = { work with
          directory := work.directory.store place (.ofBytes bytes)
          out := work.out ++ work.directory.echo place bytes })
      (fun _ work' => work' = work ∧ ∀ place, work.directory.resolve path true = .ok place →
        work.directory.special? place = some .full)
      fun _ _ => False := by
  unfold writeHost
  refine .bind (ensures_perform.mpr (Action.ensures_get.mpr (.bind (ensures_ofHost.mpr ⟨?_, ?_⟩))))
  swap
  · rintro error failed
    refine ⟨rfl, fun place resolved => ?_⟩
    rw [failed] at resolved
    cases resolved
  intro place found
  have special : ∀ kind, work.directory.special? place = some kind →
      work.directory.store place (.ofBytes bytes) = work.directory := by
    intro kind standing
    rw [Directory.store, standing]
    rfl
  have silent : (work.directory.special? place).any Special.prints = false →
      work.out ++ work.directory.echo place bytes = work.out := by
    intro silent
    rw [Directory.echo, silent, if_neg Bool.false_ne_true, ByteArray.append_empty]
  split
  · rename_i standing
    refine ensures_write.mpr ⟨place, found, ?_⟩
    rw [special _ standing, Directory.echo, standing]
    rfl
  · rename_i standing
    rw [ensures_ite]
    split
    · refine ensures_throw.mpr ⟨rfl, fun place' resolved => ?_⟩
      rw [found] at resolved
      cases resolved
      exact standing
    · refine ensures_pure.mpr ⟨place, found, ?_⟩
      rw [special _ standing, silent (by rw [standing]; rfl)]
  · rename_i kind not_output _ standing
    refine ensures_pure.mpr ⟨place, found, ?_⟩
    rw [special _ standing, silent ?_]
    rw [standing]
    cases kind with
    | output => exact absurd rfl not_output
    | null | zero | full | input contents | terminal => rfl
  · rename_i ordinary
    have other : ¬((place == work.image) = true) := fun same => apart (by rw [found, beq_iff_eq.mp same])
    refine ensures_perform.mpr (Action.ensures_modify.mpr ⟨place, found, ?_⟩)
    rw [if_neg other, silent (by rw [ordinary]; rfl)]

end Job

/-! ## What is printed -/

/-- The line that tells how many sectors are free. -/
def counted (free : Nat) : Bytes := (s!"free sectors: {free}" ++ "\n").toUTF8

/-- The line that tells of a file. -/
def described (told : Stat) : Bytes :=
  (s!"sector={told.sector.index} kind={told.kind.text} length={told.length} sectors={told.sectors}" ++ "\n").toUTF8

/-- The line that tells where a host file was put. -/
def placed (source : String) (sector : SectorId) : Bytes :=
  (Text.Quoted.quote source ++ s!" -> sector {sector.index}" ++ "\n").toUTF8

/-! ## Runs -/

variable {work : Work} {request : Command}

/-- What the cache holds of a volume that is given up is written to the image. -/
theorem abandon_eq [LawfulDevice ImageFile] {array : SectorArray} (shown : (work.mount.disk work.device).Shows array)
    (log : Array Event) (ending : Bytes → Exit) :
    ∃ device : ImageFile, LawfulDevice.Sound device ∧ LawfulDevice.sectors device = array ∧
      abandon ⟨work, log⟩ ending = (ending work.out, work.directory.store work.image device.file) := by
  obtain ⟨_, ⟨device, mount⟩, log', ended, sound, same⟩ := (Mount.flush_ensures shown).ends log
  refine ⟨device, sound, same, ?_⟩
  have flushed : Work.onMount Mount.flush ⟨work, log⟩ = .ok () ⟨{ work with device := device, mount := mount }, log'⟩ := by
    have ended : Mount.flush ⟨(work.device, work.mount), log⟩ = .ok () ⟨(device, mount), log'⟩ := ended
    unfold Work.onMount Action.within
    dsimp only
    rw [ended]
  unfold abandon
  rw [flushed]
  rfl

/-- How a run ends that goes no further does not depend on what is written back. -/
theorem abandon_exit (world : Traced Work) (ending : Bytes → Exit) : ∃ out, (abandon world ending).1 = ending out := by
  unfold abandon
  split <;> exact ⟨_, rfl⟩

/-- What is told of the end of a run, by how its job ends. -/
theorem runMounted_told {good : Unit → Work → Prop} {stopped : Complaint → Work → Prop} {bad : Failure → Work → Prop}
    (told : Exit × Directory → Prop) (ensured : (Job.whole request).Ensures work good stopped bad)
    (done : ∀ work, good () work → told (⟨0, work.out, none⟩, work.leave))
    (complained : ∀ complaint work log, stopped complaint work →
      told (abandon ⟨work, log⟩ fun out => .complain out complaint))
    (reported : ∀ error work log, bad (.reported error) work →
      told (abandon ⟨work, log⟩ fun out => .complain out (.volume error)))
    (faulted : ∀ fault work log, bad (.fault fault) work →
      told (abandon ⟨work, log⟩ fun out => ⟨Exit.faulted, out, none⟩) ∧
        ∀ code, code = Exit.aborted ∨ code = Exit.faulted → told (⟨code, work.out, none⟩, work.leave)) :
    told (runMounted request work) := by
  have here := ensured #[]
  unfold runMounted
  dsimp only [Action.run] at here
  cases ended : (Job.whole request).run ⟨work, #[]⟩ with
  | ok result after =>
      rw [ended] at here
      cases result with
      | ok _ => exact done _ here
      | error complaint => exact complained _ _ _ here
  | error failure after =>
      rw [ended] at here
      cases failure with
      | reported error => exact reported _ _ _ here
      | fault fault =>
          cases fault with
          | host refusal =>
              refine (faulted _ _ after.log here).2 _ ?_
              split
              · exact .inl rfl
              · exact .inr rfl
          | broken _ | overflow | memory | outOfBounds => exact (faulted _ _ _ here).1

end InodeVolume.Packer
