import InodeVolume.Text.Hidden

/-!
# Quoted text

A name is shown between double quotes with what cannot be read as itself escaped: double quotes
and backslashes by a backslash, the common controls by a letter, and other hidden characters by
their number.
-/

namespace InodeVolume.Text.Quoted

/-- A number in lower-case hexadecimal digits, the lowest `digits` of them. -/
def hexDigits : (digits : Nat) → Nat → List Char
  | 0, _ => []
  | digits + 1, n => hexDigits digits (n / 16) ++ [Nat.digitChar (n % 16)]

/-- A number in hexadecimal without leading zeros. -/
def hex (n : Nat) : List Char :=
  match (hexDigits 6 n).dropWhile (· == '0') with
  | [] => ['0']
  | digits => digits

/-- One character of a quoted text. -/
def escape (c : Char) : List Char :=
  if c = '\x00' then ['\\', '0']
  else if c = '\t' then ['\\', 't']
  else if c = '\n' then ['\\', 'n']
  else if c = '\r' then ['\\', 'r']
  else if c = '"' || c = '\\' then ['\\', c]
  else if isHidden c then ['\\', 'u', '\x7b'] ++ hex c.toNat ++ ['\x7d']
  else [c]

/-- A text between quotes. -/
def quote (text : String) : String :=
  String.ofList (['"'] ++ text.toList.flatMap escape ++ ['"'])

end InodeVolume.Text.Quoted
