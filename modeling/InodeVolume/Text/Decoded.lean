import InodeVolume.Sector

/-!
# Bytes read as text

`decode` reads bytes as UTF-8. Where they are not the form of a character, a replacement character
stands for the longest piece that begins such a form, or for one byte.

* `decode_toUTF8`: the bytes of a text are read as the text.
-/

namespace InodeVolume.Text

/-- What follows the first byte of a form: how many bytes, and the bounds of the first of them. -/
structure Tail where
  count : Nat
  low : UInt8
  high : UInt8

/-- What follows a first byte, where more than this byte belongs to the form. The bounds leave out
forms that are longer than they need be, and those of numbers that are no characters. -/
def tail? (first : UInt8) : Option Tail :=
  if 0xc2 ≤ first && first ≤ 0xdf then some ⟨1, 0x80, 0xbf⟩
  else if first == 0xe0 then some ⟨2, 0xa0, 0xbf⟩
  else if first == 0xed then some ⟨2, 0x80, 0x9f⟩
  else if 0xe1 ≤ first && first ≤ 0xef then some ⟨2, 0x80, 0xbf⟩
  else if first == 0xf0 then some ⟨3, 0x90, 0xbf⟩
  else if 0xf1 ≤ first && first ≤ 0xf3 then some ⟨3, 0x80, 0xbf⟩
  else if first == 0xf4 then some ⟨3, 0x80, 0x8f⟩
  else none

/-- How many of `count` bytes from place `i` on can follow in a form, where the first of them has
these bounds. -/
def followers (bytes : Bytes) (i : Nat) : (count : Nat) → (low high : UInt8) → Nat
  | 0, _, _ => 0
  | count + 1, low, high =>
    if inside : i < bytes.size then
      if low ≤ bytes[i] && bytes[i] ≤ high then 1 + followers bytes (i + 1) count 0x80 0xbf else 0
    else 0

/-- How many bytes from place `i` on one replacement character stands for. -/
def brokenLength (bytes : Bytes) (i : Nat) : Nat :=
  match bytes[i]?.bind tail? with
  | some ⟨count, low, high⟩ => 1 + followers bytes (i + 1) count low high
  | none => 1

/-- Reads the bytes from place `i` on, after the text that has been read. -/
def decodeFrom (bytes : Bytes) (i : Nat) (text : String) : String :=
  if i < bytes.size then
    match bytes.utf8DecodeChar? i with
    | some c => decodeFrom bytes (i + c.utf8Size) (text.push c)
    | none => decodeFrom bytes (i + brokenLength bytes i) (text.push '\ufffd')
  else text
termination_by bytes.size - i
decreasing_by
  · have := c.utf8Size_pos
    omega
  · have : 0 < brokenLength bytes i := by
      unfold brokenLength
      split <;> omega
    omega

/-- The text that bytes are read as. -/
def decode (bytes : Bytes) : String := decodeFrom bytes 0 ""

theorem decodeFrom_utf8Encode (read : Bytes) (chars : List Char) (text : String) :
    decodeFrom (read ++ chars.utf8Encode) read.size text = text ++ String.ofList chars := by
  induction chars generalizing read text with
  | nil => rw [decodeFrom]; simp
  | cons c rest ih =>
    have split : (c :: rest).utf8Encode = [c].utf8Encode ++ rest.utf8Encode := List.utf8Encode_cons
    have length : [c].utf8Encode.size = c.utf8Size := by
      simp [List.utf8Encode_singleton]
    have place : (read ++ [c].utf8Encode).size = read.size + c.utf8Size := by
      rw [ByteArray.size_append, length]
    have next : (read ++ (c :: rest).utf8Encode).utf8DecodeChar? read.size = some c := by
      rw [ByteArray.utf8DecodeChar?_eq_utf8DecodeChar?_extract, ByteArray.size_append,
        ByteArray.extract_append_eq_right rfl rfl]
      exact List.utf8DecodeChar?_utf8Encode_cons
    rw [decodeFrom, next, if_pos]
    · show decodeFrom (read ++ (c :: rest).utf8Encode) (read.size + c.utf8Size) (text.push c) = _
      rw [split, ← ByteArray.append_assoc, ← place, ih]
      apply String.toList_injective
      simp
    · have := c.utf8Size_pos
      rw [split, ← ByteArray.append_assoc, ByteArray.size_append, place]
      omega

theorem decode_toUTF8 (text : String) : decode text.toUTF8 = text := by
  have read := decodeFrom_utf8Encode .empty text.toList ""
  simpa [decode] using read

end InodeVolume.Text
