import Gherkin.Unicode.RangeTable

/-!
# Characters as bytes

A character is written in one to four bytes. The characters of a range are written in a few rows of
byte ranges: a row stands for all characters whose first byte is in its first range, whose second
byte is in its second range, and so on.
-/

namespace Gherkin.Unicode

/-- A range of bytes, both ends included. -/
abbrev ByteRange := UInt8 × UInt8

/-- A row of byte ranges. -/
abbrev ByteRow := List ByteRange

def bytesOf (n : Nat) : List UInt8 := String.utf8EncodeChar (Char.ofNat n)

/-- The last code point of the first part, where a range has to be split because its characters do
not have their bytes in common ranges. The bits are those of the bytes behind the one that tells
blocks apart. -/
def splitAtBits? (first last : Nat) (bits : Nat) : Option Nat :=
  let block := Nat.pow 2 bits
  if first / block = last / block then none
  else if first % block ≠ 0 then some (first / block * block + (block - 1))
  else if last % block ≠ block - 1 then some (last / block * block - 1)
  else none

/-- The last code point of the first of two parts into which a range has to be split: at the
surrogates, where the number of bytes changes, and where whole blocks of bytes begin or end. -/
def splitRange? (first last : Nat) : Option Nat :=
  let within (n : Nat) : Option Nat := if first ≤ n ∧ n < last then some n else none
  if first < 0xE000 ∧ 0xD7FF < last then some 0xD7FF
  else
    within 0x7F <|> within 0x7FF <|> within 0xFFFF <|>
      if last ≤ 0x7F then none
      else splitAtBits? first last 6 <|> splitAtBits? first last 12 <|> splitAtBits? first last 18

/-- The rows of a range of characters, in increasing order. -/
def byteRows (first last : Nat) : List ByteRow :=
  match splitRange? first last with
  | some n =>
    if h : first ≤ n ∧ n < last then
      have : n - first < last - first := by omega
      have : last - codeAfter n < last - first := by unfold codeAfter; split <;> omega
      byteRows first n ++ byteRows (codeAfter n) last
    else []
  | none => if first ≤ last then [(bytesOf first).zip (bytesOf last)] else []
termination_by last - first

end Gherkin.Unicode
