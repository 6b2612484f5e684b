import Std.Data.TreeMap
import InodeVolume.Sector

/-!
# Files of the host

A `HostFile` is a string of `length` bytes. Only pages that were written are kept: the others
hold zeros, as a host keeps a file that was lengthened without being written. `byte` is the view,
and the other functions are described by what they do to it.

* `get_range`: reading a range gives the bytes of the file.
* `byte_overwrite`: writing changes exactly the bytes that it covers.
* `byte_setLength`: a new length keeps the bytes below it, and all others are zero.
-/

namespace InodeVolume

/-- Pages by number, as long as sectors; those that are not there hold zeros. -/
abbrev Pages := Std.TreeMap Nat Sector

/-- A file of the host. -/
structure HostFile where
  pages : Pages
  length : Nat

namespace Pages

/-- The contents of a page. -/
def page (pages : Pages) (number : Nat) : Sector := pages.getD number Block.zero

/-- Byte `i`, counted over all pages. -/
def byte (pages : Pages) (i : Nat) : UInt8 :=
  (pages.page (i / sectorSize)).get ⟨i % sectorSize, Nat.mod_lt _ (by decide)⟩

/-- Bytes that lie on one page from place `i` on, at most `wanted` of them. -/
def pieceLength (i wanted : Nat) : Nat := min wanted (sectorSize - i % sectorSize)

theorem pieceLength_pos {i wanted : Nat} (some_wanted : wanted ≠ 0) : 0 < pieceLength i wanted := by
  have := Nat.mod_lt i (show 0 < sectorSize by decide)
  simp only [pieceLength]
  omega

theorem pieceLength_fits (i wanted : Nat) :
    i % sectorSize + pieceLength i wanted ≤ sectorSize := by
  have := Nat.mod_lt i (show 0 < sectorSize by decide)
  simp only [pieceLength]
  omega

/-- Appends to `taken` the `wanted` bytes from `start` on. -/
def collect (pages : Pages) (taken : Bytes) (start wanted : Nat) : Bytes :=
  if _ : wanted = 0 then taken
  else
    let length := pieceLength start wanted
    let piece := (pages.page (start / sectorSize)).slice (start % sectorSize) length
      (pieceLength_fits start wanted)
    pages.collect (taken ++ piece.bytes) (start + length) (wanted - length)
termination_by wanted
decreasing_by
  have := pieceLength_pos (i := start) ‹¬wanted = 0›
  omega

/-- Writes the bytes of `patch` from `done` on, where its first byte has place `start`. -/
def writeFrom (pages : Pages) (start : Nat) (patch : Bytes) (done : Nat) : Pages :=
  if _ : patch.size ≤ done then pages
  else
    let place := start + done
    let length := pieceLength place (patch.size - done)
    let piece := Bytes.slice patch done length
    have size : piece.size = length := by
      apply Bytes.size_slice
      simp only [length, pieceLength]
      omega
    let page := (pages.page (place / sectorSize)).splice (place % sectorSize) piece
      (by rw [size]; exact pieceLength_fits place _)
    writeFrom (pages.insert (place / sectorSize) page) start patch (done + length)
termination_by patch.size - done
decreasing_by
  have := pieceLength_pos (i := start + done) (show patch.size - done ≠ 0 by omega)
  omega

/-- Turns all bytes from `length` on to zeros. -/
def cut (pages : Pages) (length : Nat) : Pages :=
  let whole := length / sectorSize
  let rest := length % sectorSize
  let kept := pages.filter fun number _ => number ≤ whole
  kept.modify whole fun page =>
    page.splice rest (Bytes.fill 0 (sectorSize - rest)) (by
      have := Nat.mod_lt length (show 0 < sectorSize by decide)
      simp only [Bytes.size_fill, rest]
      omega)

theorem size_collect (pages : Pages) (taken : Bytes) (start wanted : Nat) :
    (pages.collect taken start wanted).size = taken.size + wanted := by
  fun_induction collect pages taken start wanted with
  | case1 taken start => rfl
  | case2 taken start wanted some_wanted length piece ih =>
    have short : length ≤ wanted := Nat.min_le_left _ _
    rw [ih, ByteArray.size_append, piece.size_bytes]
    omega

theorem getElem_collect (pages : Pages) (taken : Bytes) (start wanted i : Nat)
    (inside : i < (pages.collect taken start wanted).size) :
    (pages.collect taken start wanted)[i] =
      if early : i < taken.size then taken[i] else pages.byte (start + (i - taken.size)) := by
  fun_induction collect pages taken start wanted with
  | case1 taken start => rw [dif_pos inside]
  | case2 taken start wanted some_wanted length piece ih =>
    have joined : (taken ++ piece.bytes).size = taken.size + length := by
      rw [ByteArray.size_append, piece.size_bytes]
    rw [ih]
    by_cases early : i < taken.size
    · rw [dif_pos early, dif_pos (by omega), ByteArray.getElem_append_left early]
    · rw [dif_neg early]
      by_cases here : i < (taken ++ piece.bytes).size
      · rw [dif_pos here, ByteArray.getElem_append_right (by omega)]
        have fits := pieceLength_fits start wanted
        have spot : i - taken.size < length := by omega
        have quotient : (start + (i - taken.size)) / sectorSize = start / sectorSize := by
          simp only [sectorSize] at *
          omega
        have remainder : (start + (i - taken.size)) % sectorSize =
            start % sectorSize + (i - taken.size) := by
          simp only [sectorSize] at *
          omega
        have found := Block.get_slice (pages.page (start / sectorSize)) fits ⟨_, spot⟩
        simp only [byte, quotient, remainder]
        exact found
      · rw [dif_neg here]
        congr 1
        omega

theorem byte_writeFrom (pages : Pages) (start : Nat) (patch : Bytes) (done i : Nat) :
    (pages.writeFrom start patch done).byte i =
      if covered : start + done ≤ i ∧ i < start + patch.size then patch[i - start]
      else pages.byte i := by
  fun_induction writeFrom pages start patch done with
  | case1 pages done finished => rw [dif_neg (by omega)]
  | case2 pages done more place length piece size page ih =>
    have fits := pieceLength_fits place (patch.size - done)
    have short : length ≤ patch.size - done := Nat.min_le_left _ _
    rw [ih]
    by_cases later : start + (done + length) ≤ i ∧ i < start + patch.size
    · rw [dif_pos later, dif_pos (by omega)]
    · rw [dif_neg later]
      simp only [byte, Pages.page, Std.TreeMap.getD_insert, Nat.compare_eq_eq]
      by_cases same : place / sectorSize = i / sectorSize
      · rw [if_pos same]
        simp only [page, Block.get_splice, size]
        by_cases inside : place ≤ i ∧ i < place + length
        · have offset : i % sectorSize - place % sectorSize = i - place := by
            simp only [sectorSize] at *
            omega
          rw [dif_pos (by simp only [sectorSize] at *; omega), dif_pos (by omega)]
          simp only [offset]
          rw [Bytes.getElem_slice _ _ (by omega)]
          congr 1
          omega
        · rw [dif_neg (by simp only [sectorSize] at *; omega), dif_neg (by omega), same]
          rfl
      · rw [if_neg same, dif_neg (by simp only [sectorSize] at *; omega)]

theorem byte_cut (pages : Pages) (length i : Nat) :
    (pages.cut length).byte i = if i < length then pages.byte i else 0 := by
  have spot : i % sectorSize < sectorSize := Nat.mod_lt _ (by decide)
  simp only [byte, page, cut, Std.TreeMap.getD_eq_getD_getElem?, Std.TreeMap.getElem?_modify,
    Std.TreeMap.getElem?_filter', Nat.compare_eq_eq]
  rcases Nat.lt_trichotomy (i / sectorSize) (length / sectorSize) with before | same | after
  · have early : i < length := by simp only [sectorSize] at *; omega
    rw [if_neg (by omega), if_pos early]
    have kept : decide (i / sectorSize ≤ length / sectorSize) = true := decide_eq_true (by omega)
    cases pages[i / sectorSize]? <;> simp [kept, Option.filter_some]
  · rw [if_pos same.symm, same]
    cases pages[length / sectorSize]? with
    | none => simp
    | some page =>
      simp only [Option.filter_some, Nat.le_refl, decide_true, if_true, Option.map_some,
        Option.getD_some, Block.get_splice, Bytes.size_fill]
      by_cases early : i < length
      · rw [if_pos early, dif_neg (by simp only [sectorSize] at *; omega)]
      · rw [if_neg early, dif_pos (by simp only [sectorSize] at *; omega)]
        exact Array.getElem_replicate _
  · rw [if_neg (by omega), if_neg (by simp only [sectorSize] at *; omega)]
    have dropped : decide (i / sectorSize ≤ length / sectorSize) = false :=
      decide_eq_false (by omega)
    cases pages[i / sectorSize]? <;> simp [dropped, Option.filter_some]

end Pages

namespace HostFile

instance : Inhabited HostFile := ⟨⟨∅, 0⟩⟩

/-- Byte `i` of the file; zero past its end. -/
def byte (file : HostFile) (i : Nat) : UInt8 := file.pages.byte i

/-- No file is longer: a host numbers the blocks of 4096 bytes with 32 bits. -/
def lengthLimit : Nat := 0xffffffff * 4096

/-- A file of `length` zeros. -/
def zeros (length : Nat) : HostFile := ⟨∅, length⟩

/-- `length` bytes from `start` on, zeros where the file has ended. -/
def range (file : HostFile) (start length : Nat) : Block length :=
  ⟨file.pages.collect .empty start length, by simp [Pages.size_collect]⟩

/-- All bytes of the file. -/
def toBytes (file : HostFile) : Bytes := (file.range 0 file.length).bytes

/-- The file with `patch` written at `start`. Writing past the end lengthens the file, and a gap
before `start` reads as zeros; writing nothing changes nothing. -/
def overwrite (file : HostFile) (start : Nat) (patch : Bytes) : HostFile :=
  if patch.size = 0 then file
  else ⟨file.pages.writeFrom start patch 0, max file.length (start + patch.size)⟩

/-- The file that holds `bytes`. -/
def ofBytes (bytes : Bytes) : HostFile := (zeros 0).overwrite 0 bytes

/-- The file cut or lengthened with zeros to `length` bytes. -/
def setLength (file : HostFile) (length : Nat) : HostFile := ⟨file.pages.cut length, length⟩

/-- The pages that do not hold zeros alone, with their numbers and their bytes up to the end of
the file. -/
def livePages (file : HostFile) : List (Nat × Bytes) :=
  file.pages.toList.filterMap fun (number, page) =>
    if page.isZero then none
    else some (number, Bytes.slice page.bytes 0 (file.length - number * sectorSize))

theorem get_range (file : HostFile) (start length : Nat) (i : Fin length) :
    (file.range start length).get i = file.byte (start + i) := by
  simp [Block.get, range, byte, Pages.getElem_collect]

theorem byte_overwrite (file : HostFile) (start : Nat) (patch : Bytes) (i : Nat) :
    (file.overwrite start patch).byte i =
      if covered : start ≤ i ∧ i < start + patch.size then patch[i - start] else file.byte i := by
  unfold overwrite
  split
  · rw [dif_neg (by omega)]
  · exact Pages.byte_writeFrom file.pages start patch 0 i

theorem byte_setLength (file : HostFile) (length i : Nat) :
    (file.setLength length).byte i = if i < length then file.byte i else 0 :=
  Pages.byte_cut file.pages length i

end HostFile

end InodeVolume
