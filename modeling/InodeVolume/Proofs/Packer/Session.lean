import InodeVolume.Proofs.Packer.Service

/-!
# Sessions with one image

A session begins with a run that makes an image, and goes on with runs that put files into it, get them out, look at
them and remove them, each through a cache of its own size. `Reached` follows it by what the runs print: a `Tally`
says what was put and not removed since, and how many sectors are free.

* **lines** — what is printed says where a file was put and how many sectors are left;
* **sessions** — `Tally`, `Reached`, and `Reached.carries`: the image carries the stock of the tally;
* **what holds** — `Kept` says what every further run does, and `session_kept` that it holds in every session;
* **large caches** — no file is got through a cache for which the host has not the memory.
-/

namespace InodeVolume.Packer

variable {image place : Place} {directory : Directory} {arguments : List String} {memory slots : Nat}
  {command : Command} {source target : String} {sector : SectorId} {bytes : Bytes} {read : HostFile}

/-! ## Lines -/

/-- The digits of a number end where the line does. -/
theorem repr_line_inj {n m : Nat} {rest rest' : String}
    (same : Nat.repr n ++ ("\n" ++ rest) = Nat.repr m ++ ("\n" ++ rest')) : n = m ∧ rest = rest' := by
  have digits : ∀ (k : Nat) (rest : String),
      (Nat.repr k ++ ("\n" ++ rest)).toList.takeWhile Char.isDigit = Nat.toDigits 10 k := by
    intro k rest
    rw [String.toList_append, Nat.toList_repr, String.toList_append,
      List.takeWhile_append_of_pos fun _ => Nat.isDigit_of_mem_toDigits (by decide) (by decide)]
    simp
  have number := congrArg (·.toList.takeWhile Char.isDigit) same
  rw [digits, digits] at number
  have number : n = m := by
    rw [← Nat.ofDigitChars_ten_toDigits (n := n), number, Nat.ofDigitChars_ten_toDigits]
  rw [number, String.append_right_inj, String.append_right_inj] at same
  exact ⟨number, same⟩

theorem counted_injective {free free' : Nat} (same : counted free = counted free') : free = free' := by
  unfold counted String.toUTF8 at same
  rw [String.toByteArray_inj] at same
  refine (repr_line_inj (show _ ++ ("\n" ++ "") = _ ++ ("\n" ++ "") from ?_)).1
  simpa [toString] using same

/-- What is printed of a host file that was put tells where it is, and how many sectors are left. -/
theorem placed_counted_injective {sector' : SectorId} {free free' : Nat}
    (same : placed source sector ++ counted free = placed source sector' ++ counted free') :
    sector = sector' ∧ free = free' := by
  unfold placed counted String.toUTF8 at same
  rw [← String.toByteArray_append, ← String.toByteArray_append, String.toByteArray_inj] at same
  simp only [String.append_assoc, String.append_right_inj, toString] at same
  obtain ⟨index, rest⟩ := repr_line_inj same
  rw [String.append_right_inj] at rest
  refine ⟨SectorId.index_injective index, (repr_line_inj (show _ ++ ("\n" ++ "") = _ ++ ("\n" ++ "") from ?_)).1⟩
  simpa using rest

/-! ## Sessions -/

/-- What is known of an image in the course of a session: the directory it is in, what was put into it and not removed
since, and how many sectors are free. -/
structure Tally where
  directory : Directory
  stock : Stock
  free : Nat

namespace Tally

/-- What may be asked for. Host files are not the image, and no file is removed that was not put or was removed
already. -/
def Permits (tally : Tally) (image : Place) : Command → Prop
  | .format _ => False
  | .put source => ∀ node, tally.directory.find source ≠ .ok (image, node)
  | .get _ target => tally.directory.resolve target true ≠ .ok image
  | .stat _ => True
  | .remove sector => sector ∈ tally.stock.map Prod.fst

/-- What is permitted and is neither to put nor to remove a file is to look at one. -/
theorem Permits.cases {tally : Tally} (permitted : tally.Permits image command) :
    command.Looks tally.directory image ∨ (∃ source, command = .put source) ∨ ∃ sector, command = .remove sector := by
  cases command with
  | format sectors => exact permitted.elim
  | put source => exact .inr (.inl ⟨source, rfl⟩)
  | get sector target => exact .inl fun _ => permitted
  | stat sector => exact .inl fun _ => trivial
  | remove sector => exact .inr (.inr ⟨sector, rfl⟩)

end Tally

/-- What a session comes to. The host may do between two runs what it likes, but not to the image. A file that was put
and whose sector was printed is in stock until it is removed; every other run leaves the stock as it is. -/
inductive Reached (image : Place) (start : Tally) : Tally → Prop
  | start : Reached image start start
  | host {tally : Tally} (reached : Reached image start tally) (directory : Directory)
      (same : directory.file? image = tally.directory.file? image) : Reached image start { tally with directory }
  | put {tally : Tally} (reached : Reached image start tally) {arguments : List String}
      {memory slots free : Nat} {source : String} {sector : SectorId} {place : Place} {read : HostFile}
      {directory : Directory}
      (asks : Asks arguments tally.directory image slots (.put source)) (permitted : tally.Permits image (.put source))
      (reads : tally.directory.Reads source place read)
      (ran : run arguments tally.directory memory = (⟨0, placed source sector ++ counted free, none⟩, directory)) :
      Reached image start ⟨directory, (sector, Stock.kept tally.free read.toBytes) :: tally.stock, free⟩
  | remove {tally : Tally} (reached : Reached image start tally) {arguments : List String}
      {memory slots free : Nat} {sector : SectorId} {directory : Directory}
      (asks : Asks arguments tally.directory image slots (.remove sector)) (permitted : tally.Permits image (.remove sector))
      (ran : run arguments tally.directory memory = (⟨0, counted free, none⟩, directory)) :
      Reached image start ⟨directory, tally.stock.without sector, free⟩
  | other {tally : Tally} (reached : Reached image start tally) {arguments : List String}
      {memory slots : Nat} {command : Command} (asks : Asks arguments tally.directory image slots command)
      (permitted : tally.Permits image command)
      (spares : command.Looks tally.directory image ∨ (run arguments tally.directory memory).1.code ≠ 0) :
      Reached image start { tally with directory := (run arguments tally.directory memory).2 }

variable {start tally : Tally} {base : FreeMap}

/-- The image carries the stock of a tally. -/
abbrev Tally.InImage (tally : Tally) (image : Place) (base : FreeMap) : Prop :=
  Carries image base tally.stock tally.free tally.directory

namespace Tally.InImage

/-- Putting a file or removing one ends well or changes nothing. -/
theorem unchanged (carries : tally.InImage image base) (asks : Asks arguments tally.directory image slots command)
    (permitted : tally.Permits image command) (changes : ¬command.Looks tally.directory image)
    (failed : (run arguments tally.directory memory).1.code ≠ 0) :
    Unchanged image tally.directory (run arguments tally.directory memory).2 := by
  rcases permitted.cases with looks | ⟨source, rfl⟩ | ⟨sector, rfl⟩
  · exact absurd looks changes
  · cases carries.run_put asks permitted memory with
    | stored _ _ printed _ => exact absurd (congrArg Exit.code printed) failed
    | refused _ unchanged _ => exact unchanged
  · cases carries.run_remove asks permitted memory with
    | removed printed _ => exact absurd (congrArg Exit.code printed) failed
    | refused _ unchanged _ => exact unchanged

/-- **A run** does to the stock in the image what it does to the stock of the tally. -/
theorem put (carries : tally.InImage image base) (asks : Asks arguments tally.directory image slots (.put source))
    (permitted : tally.Permits image (.put source)) (reads : tally.directory.Reads source place read) {free : Nat}
    (ran : run arguments tally.directory memory = (⟨0, placed source sector ++ counted free, none⟩, directory)) :
    Carries image base ((sector, Stock.kept tally.free read.toBytes) :: tally.stock) free directory := by
  have ended := carries.run_put asks permitted memory
  rw [ran] at ended
  cases ended with
  | stored _ reads' printed carries' =>
      obtain ⟨rfl, rfl⟩ := placed_counted_injective (congrArg Exit.out printed)
      rw [(reads.unique reads').2]
      exact carries'
  | refused code _ _ => exact absurd rfl code

theorem remove (carries : tally.InImage image base) (asks : Asks arguments tally.directory image slots (.remove sector))
    (permitted : tally.Permits image (.remove sector)) {free : Nat}
    (ran : run arguments tally.directory memory = (⟨0, counted free, none⟩, directory)) :
    Carries image base (tally.stock.without sector) free directory := by
  have ended := carries.run_remove asks permitted memory
  rw [ran] at ended
  cases ended with
  | removed printed carries' =>
      obtain rfl := counted_injective (congrArg Exit.out printed)
      exact carries'
  | refused code _ _ => exact absurd rfl code

theorem other (carries : tally.InImage image base) (asks : Asks arguments tally.directory image slots command)
    (permitted : tally.Permits image command)
    (spares : command.Looks tally.directory image ∨ (run arguments tally.directory memory).1.code ≠ 0) :
    Carries image base tally.stock tally.free (run arguments tally.directory memory).2 := by
  by_cases looks : command.Looks tally.directory image
  · exact (carries.run_look asks looks).1
  · exact carries.of_unchanged (carries.unchanged asks permitted looks (spares.resolve_left looks))

end Tally.InImage

/-- **Every session.** The image carries the stock of the tally, if it did so at the start. -/
theorem Reached.carries (reached : Reached image start tally) (begun : start.InImage image base) :
    tally.InImage image base := by
  -- on the runs of the session: each takes the stock in the image where it takes the tally
  induction reached with
  | start => exact begun
  | host _ directory same carries =>
      obtain ⟨file, map, there, laden⟩ := carries
      exact ⟨file, map, same.trans there, laden⟩
  | put _ asks permitted reads ran carries => exact carries.put asks permitted reads ran
  | remove _ asks permitted ran carries => exact carries.remove asks permitted ran
  | other _ asks permitted spares carries => exact carries.other asks permitted spares

/-! ## What holds -/

/-- What every further run in a session does. -/
structure Tally.Kept (tally : Tally) (image : Place) (start : Tally) : Prop where
  /-- What was put is got out again: all its bytes, if there was room for them, and otherwise none. -/
  gets : ∀ {arguments memory slots sector bytes target place},
    Asks arguments tally.directory image slots (.get sector target) → HasRoom memory slots →
    (sector, bytes) ∈ tally.stock →
    tally.directory.resolve target true = .ok place → place ≠ image → tally.directory.special? place ≠ some .full →
    Got tally.free tally.directory place bytes (run arguments tally.directory memory)
  /-- A host file is put while a sector is free. -/
  puts : ∀ {arguments memory slots source place read},
    Asks arguments tally.directory image slots (.put source) → tally.Permits image (.put source) →
    HasRoom memory slots →
    tally.free ≠ 0 → tally.directory.Reads source place read → Affords memory read.length →
    ∃ sector free, (run arguments tally.directory memory).1 = ⟨0, placed source sector ++ counted free, none⟩
  /-- Nothing is put where none is free. -/
  full : ∀ {arguments memory slots source},
    Asks arguments tally.directory image slots (.put source) → tally.Permits image (.put source) → tally.free = 0 →
    (run arguments tally.directory memory).1.code ≠ 0
  /-- What was put is removed again. -/
  removes : ∀ {arguments memory slots sector},
    Asks arguments tally.directory image slots (.remove sector) → tally.Permits image (.remove sector) →
    HasRoom memory slots →
    ∃ free, (run arguments tally.directory memory).1 = ⟨0, counted free, none⟩
  /-- Where nothing was put or removed as many sectors are free as before. -/
  looks : ∀ {arguments memory slots command},
    Asks arguments tally.directory image slots command → command.Looks tally.directory image →
    (run arguments tally.directory memory).1.code = 0 →
    ∃ line, (run arguments tally.directory memory).1.out = line ++ counted tally.free
  /-- Where putting or removing fails nothing changes. -/
  fails : ∀ {arguments memory slots command},
    Asks arguments tally.directory image slots command → tally.Permits image command →
    ¬command.Looks tally.directory image → (run arguments tally.directory memory).1.code ≠ 0 →
    Unchanged image tally.directory (run arguments tally.directory memory).2
  /-- The session goes on, whatever is asked for next. -/
  goes_on : ∀ {arguments memory slots command},
    Asks arguments tally.directory image slots command → tally.Permits image command →
    ∃ next, Reached image start next ∧ next.directory = (run arguments tally.directory memory).2
  /-- No sector is given out twice. -/
  distinct : (tally.stock.map Prod.fst).Nodup
  /-- Once everything was removed as many sectors are free as at the start. -/
  back : tally.stock = [] → tally.free = start.free

/-- Every run that is permitted leads to a tally. -/
theorem Reached.goes_on (reached : Reached image start tally) (carries : tally.InImage image base)
    (asks : Asks arguments tally.directory image slots command) (permitted : tally.Permits image command) :
    ∃ next, Reached image start next ∧ next.directory = (run arguments tally.directory memory).2 := by
  by_cases spares : command.Looks tally.directory image ∨ (run arguments tally.directory memory).1.code ≠ 0
  · exact ⟨_, reached.other asks permitted spares, rfl⟩
  obtain ⟨changes, done⟩ := not_or.mp spares
  rcases permitted.cases with looks | ⟨source, rfl⟩ | ⟨sector, rfl⟩
  · exact absurd looks changes
  · cases carries.run_put asks permitted memory with
    | stored _ reads printed _ => exact ⟨_, reached.put asks permitted reads (Prod.ext printed rfl), rfl⟩
    | refused code _ _ => exact absurd code done
  · cases carries.run_remove asks permitted memory with
    | removed printed _ => exact ⟨_, reached.remove asks permitted (Prod.ext printed rfl), rfl⟩
    | refused code _ _ => exact absurd code done

/-- What holds of a tally whose stock the image carries. -/
theorem Reached.kept (reached : Reached image start tally) (begun : start.InImage image base)
    (count : base.freeCount = start.free) : tally.Kept image start := by
  have carries := reached.carries begun
  refine ⟨fun asks room listed => carries.run_get asks room listed, ?_, ?_, ?_,
    fun asks looks => (carries.run_look asks looks).2, fun asks permitted => carries.unchanged asks permitted,
    fun asks permitted => reached.goes_on carries asks permitted, ?_, ?_⟩
  · intro arguments memory slots source place read asks permitted room vacant reads small
    cases carries.run_put asks permitted memory with
    | stored _ _ printed _ => exact ⟨_, _, printed⟩
    | refused _ _ why =>
        rcases why with cramped | none | unreadable
        · exact absurd room cramped
        · exact absurd none vacant
        · exact absurd small (unreadable _ _ reads)
  · intro arguments memory slots source asks permitted none
    cases carries.run_put asks permitted memory with
    | stored vacant _ _ _ => exact absurd none vacant
    | refused code _ _ => exact code
  · intro arguments memory slots sector asks permitted room
    cases carries.run_remove asks permitted memory with
    | removed printed _ => exact ⟨_, printed⟩
    | refused _ _ cramped => exact absurd room cramped
  · obtain ⟨_, _, _, laden, -⟩ := carries
    exact (List.nodup_append.mp laden.stocked.once).1
  · intro nothing
    unfold Tally.InImage at carries
    rw [nothing] at carries
    exact carries.free_eq.trans count

/-- **Sessions.** After a run that makes an image, every sequence of runs on it keeps what was put. -/
theorem session_kept {path : String} {sectors : Nat}
    (asked : parse arguments = .request ⟨path, slots, .format sectors⟩)
    (resolved : directory.resolve path true = .ok image) (done : (run arguments directory memory).1.code = 0) :
    ∃ free, (run arguments directory memory).1 = ⟨0, counted free, none⟩ ∧
      ∀ tally, Reached image ⟨(run arguments directory memory).2, [], free⟩ tally →
        tally.Kept image ⟨(run arguments directory memory).2, [], free⟩ := by
  cases run_format asked resolved with
  | laidOut printed carries _ _ => exact ⟨_, printed, fun tally reached => reached.kept carries rfl⟩
  | refused code _ => exact absurd done code

/-! ### A file in an image -/

/-- A working folder with a host file `f` and an image `i`. -/
def desk (source image : HostFile) : Directory :=
  (Directory.fresh.insert ["f"] (.file source)).insert ["i"] (.file image)

/-- The host may clear up its working folder. -/
theorem Reached.tidy (reached : Reached ["i"] start tally) (carries : tally.InImage ["i"] base) (source : HostFile) :
    ∃ image, Reached ["i"] start { tally with directory := desk source image } := by
  obtain ⟨image, _, there, -⟩ := carries
  exact ⟨image, reached.host _ (there ▸ Directory.file?_eq_some.mpr (Directory.node?_insert_self _ _ rfl))⟩

theorem asks_put (source image : HostFile) :
    Asks ["--image", "i", "put", "f"] (desk source image) ["i"] defaultCapacity (.put "f") :=
  ⟨"i", .file image, by cbv, by cbv⟩

/-- The host file is put into the image while a sector is free. -/
theorem Reached.puts (reached : Reached ["i"] start tally) (begun : start.InImage ["i"] base) (vacant : tally.free ≠ 0)
    {source : HostFile} (small : Affords hostMemory source.length) :
    ∃ next sector, Reached ["i"] start next ∧
      next.stock = (sector, Stock.kept tally.free source.toBytes) :: tally.stock := by
  obtain ⟨image, tidied⟩ := reached.tidy (reached.carries begun) source
  have found : (desk source image).find "f" = .ok (["f"], .file source) := by cbv
  have reads : (desk source image).Reads "f" ["f"] source := ⟨.file source, found, rfl⟩
  have permitted : ∀ node, (desk source image).find "f" ≠ .ok (["i"], node) := by
    intro node same
    have here : ["f"] = ["i"] := congrArg Prod.fst (Except.ok.inj (found.symm.trans same))
    exact absurd here (by decide)
  have carries := tidied.carries begun
  cases carries.run_put (asks_put source image) permitted hostMemory with
  | stored _ reads' printed _ =>
      exact ⟨_, _, tidied.put (asks_put source image) permitted reads (Prod.ext printed rfl), rfl⟩
  | refused _ _ why =>
      rcases why with cramped | none | unreadable
      · exact absurd (show HasRoom hostMemory defaultCapacity by decide) cramped
      · exact absurd none vacant
      · exact absurd small (unreadable _ _ reads)

/-- Five bytes are put into an image of 64 sectors. -/
theorem session_kept_five :
    ∃ start : Tally, start.stock = [] ∧ (run ["--image", "i", "format", "--sectors", "64"]
        (Directory.fresh.insert ["f"] (.file (.zeros 5)))) = (⟨0, counted start.free, none⟩, start.directory) ∧
      ∃ tally sector, Reached ["i"] start tally ∧
        tally.stock = [(sector, Stock.kept start.free (HostFile.zeros 5).toBytes)] ∧ tally.Kept ["i"] start := by
  have asked : parse ["--image", "i", "format", "--sectors", "64"] =
      .request ⟨"i", defaultCapacity, .format 64⟩ := by cbv
  have short : Affords hostMemory (HostFile.zeros 5).length := by decide
  generalize HostFile.zeros 5 = source at *
  have resolved : (Directory.fresh.insert ["f"] (.file source)).resolve "i" true = .ok ["i"] := by cbv
  obtain ⟨base, printed, carries, -, free⟩ :=
    (run_format asked resolved).done (show HasRoom hostMemory defaultCapacity by decide)
      (by decide) (by decide) (by cbv)
  obtain ⟨first, told, kept⟩ := session_kept asked resolved (congrArg Exit.code printed)
  generalize run _ _ = ended at *
  have same := counted_injective (congrArg Exit.out (told.symm.trans printed))
  have one : totalSectors (groupCount 64 * Group.bytes) = 1 := by decide
  have vacant : first ≠ 0 := by omega
  have begun : Tally.InImage ⟨ended.2, [], first⟩ ["i"] base := same ▸ carries
  obtain ⟨next, sector, reached, stock⟩ := Reached.puts .start begun vacant short
  exact ⟨⟨ended.2, [], first⟩, rfl, Prod.ext told rfl, next, sector, reached, stock, kept next reached⟩

/-! ## Large caches -/

/-- Files in stock lie on the image, past the two fixed ones. -/
theorem Carries.index_bounds {stock : Stock} {free : Nat} (carries : Carries image base stock free directory)
    (listed : sector ∈ stock.map Prod.fst) : 1 < sector.index ∧ sector.index < base.sectors := by
  obtain ⟨file, map, there, laden, -⟩ := carries
  have once := laden.stocked.once
  constructor
  · have first : sector.index ≠ 0 := fun same => Stock.ne_freeMap once listed (SectorId.index_injective same)
    have second : sector.index ≠ 1 := fun same => Stock.ne_root once listed (SectorId.index_injective same)
    omega
  · rw [laden.stocked.founded.sectors]
    exact PartialArray.has_of_mem (laden.intact.known sector (Stock.mem_files.mpr (.inl listed)))

/-- An option takes the argument after it, which waits to be looked at. -/
theorem Level.scan_option {level : Level} {found settled : Found} {argument value : String} {rest : List String}
    {shape : OptionShape} (other : level.hasSubcommand argument = false) (dashes : argument ≠ "--")
    (flag : level.flag? argument = some (.option shape none)) (settles : found.settle = some settled)
    (plain : level.flag? value = none) :
    level.scan found (argument :: value :: rest) = level.scan (settled.await (.option shape value)) rest := by
  rw [scan, other, flag, settles]
  simp [dashes, plain]

/-- Arguments are read level by level. -/
theorem parse_of_scan {outer : Found} {name : String} {rest : List String} {request : Request} (inner : Found)
    (scanned : packerLevel.scan .nothing arguments = .subcommand outer name rest) (other : name ≠ "help")
    (scanned' : (commandLevel name).scan .nothing rest = .done inner)
    (asked : requestOf? outer name inner = some request) : parse arguments = .request request := by
  unfold parse
  rw [scanned]
  split <;> simp_all

/-- The arguments that get a file through the largest cache there is a number for. -/
def getLargest (sector : SectorId) : List String :=
  ["--image", "i", "--cache", "18446744073709551615", "get", toString sector.index, "--out", "o"]

/-- They are read as they are meant. -/
theorem parse_getLargest (low : 1 < sector.index) (high : sector.index < 4) :
    parse (getLargest sector) = .request ⟨"i", wordLimit - 1, .get sector "o"⟩ := by
  have scanned : ∀ text, packerLevel.scan .nothing
      ["--image", "i", "--cache", "18446744073709551615", "get", text, "--out", "o"] =
      .subcommand ⟨[("image", "i")], [], some (.option packerLevel.options[1] "18446744073709551615")⟩ "get"
        [text, "--out", "o"] := by
    intro text
    rw [Level.scan_option (by cbv) (by decide) (by cbv) rfl (by cbv),
      Level.scan_option (by cbv) (by decide) (by cbv) (by cbv) (by cbv), Level.scan, if_pos (by cbv)]
    rfl
  -- digits are read once it is known which they are
  obtain two | three : sector.index = 2 ∨ sector.index = 3 := by omega
  · obtain rfl : sector = .ofNat 2 := SectorId.index_injective two
    exact parse_of_scan ⟨[("out", "o")], ["2"], none⟩ (scanned _) (by decide) (by cbv) (by cbv)
  · obtain rfl : sector = .ofNat 3 := SectorId.index_injective three
    exact parse_of_scan ⟨[("out", "o")], ["3"], none⟩ (scanned _) (by decide) (by cbv) (by cbv)

/-- An empty file that was put into an image of four sectors is not got through such a cache. -/
theorem get_cramped :
    ∃ start : Tally, start.stock = [] ∧ run ["--image", "i", "format", "--sectors", "4"]
        (Directory.fresh.insert ["f"] (.file (.zeros 0))) = (⟨0, counted start.free, none⟩, start.directory) ∧
      ∃ tally sector, Reached ["i"] start tally ∧ tally.stock = [(sector, .empty)] ∧
        Asks (getLargest sector) tally.directory ["i"] (wordLimit - 1) (.get sector "o") ∧ 0 < wordLimit - 1 ∧
        tally.directory.resolve "o" true = .ok ["o"] ∧ tally.directory.special? ["o"] = none ∧
        (run (getLargest sector) tally.directory).1.code ≠ 0 ∧
        (run (getLargest sector) tally.directory).2.file? ["o"] = none := by
  have asked : parse ["--image", "i", "format", "--sectors", "4"] = .request ⟨"i", defaultCapacity, .format 4⟩ := by cbv
  have short : Affords hostMemory (HostFile.zeros 0).length := by decide
  have nothing : ∀ free, Stock.kept free (HostFile.zeros 0).toBytes = .empty := by
    intro free
    have none : (HostFile.zeros 0).toBytes = .empty :=
      ByteArray.size_eq_zero_iff.mp (by rw [HostFile.toBytes, Block.size_bytes]; rfl)
    rw [Stock.kept, none, ite_self]
  generalize HostFile.zeros 0 = source at *
  have resolved : (Directory.fresh.insert ["f"] (.file source)).resolve "i" true = .ok ["i"] := by cbv
  obtain ⟨base, printed, begun, whole, free⟩ :=
    (run_format asked resolved).done (show HasRoom hostMemory defaultCapacity by decide)
      (by decide) (by decide) (by cbv)
  generalize run _ _ = ended at *
  -- the stored map takes one of the four sectors and the fixed files two, so the file is on sector 2 or 3
  have one : totalSectors (groupCount 4 * Group.bytes) = 1 := by decide
  have vacant : base.freeCount ≠ 0 := by omega
  have begun : Tally.InImage ⟨ended.2, [], base.freeCount⟩ ["i"] base := begun
  obtain ⟨next, sector, reached, stock⟩ := Reached.puts .start begun vacant short
  rw [nothing] at stock
  obtain ⟨image, tidied⟩ := reached.tidy (reached.carries begun) source
  have carries := tidied.carries begun
  have listed : sector ∈ next.stock.map Prod.fst := by
    rw [stock]
    exact List.mem_cons_self
  obtain ⟨low, high⟩ := Carries.index_bounds carries listed
  have asks : Asks (getLargest sector) (desk source image) ["i"] (wordLimit - 1) (.get sector "o") :=
    ⟨"i", .file image, parse_getLargest low (whole ▸ high), by cbv⟩
  obtain ⟨code, -, others⟩ :=
    carries.run_cramped asks (by rintro _ ⟨⟩) (show ¬HasRoom hostMemory (wordLimit - 1) by decide)
  refine ⟨⟨ended.2, [], base.freeCount⟩, rfl, Prod.ext printed rfl, _, sector, tidied, stock, asks, by decide,
    by cbv, by cbv, code, ?_⟩
  unfold Directory.file?
  rw [others ["o"] (by decide)]
  cbv

end InodeVolume.Packer
