import Gherkin.Text.Basic

/-!
# Tables of code points

The data of the character standard is written down as text: code points and ranges of them in
hexadecimal, in increasing order, separated by white space, such as `41-5A 61-7A AA`. This module
reads such text and looks characters up in it.
-/

namespace Gherkin.Unicode

/-- The value of a hexadecimal digit. -/
def hexDigit? (c : Char) : Option Nat :=
  if '0' ≤ c ∧ c ≤ '9' then some (c.toNat - '0'.toNat)
  else if 'a' ≤ c ∧ c ≤ 'f' then some (c.toNat - 'a'.toNat + 10)
  else if 'A' ≤ c ∧ c ≤ 'F' then some (c.toNat - 'A'.toNat + 10)
  else none

/-- The value of a row of hexadecimal digits; other characters count as zero. -/
def hexNumber (t : Text) : Nat := t.foldl (fun n c ↦ 16 * n + (hexDigit? c).getD 0) 0

/-- Ranges of code points, both ends included. -/
abbrev Ranges := List (Nat × Nat)

/-- One code point or range in written form. -/
def readRange (word : Text) : Nat × Nat :=
  match word.splitOn '-' with
  | [first, last] => (hexNumber first, hexNumber last)
  | _ => (hexNumber word, hexNumber word)

/-- The ranges of a text that lists them. -/
def readRanges (s : String) : Ranges := (Text.words s.toList).map readRange

def lastCode : Nat := 0x10FFFF

/-- The code point behind another one. Surrogates are no characters and are passed over. -/
def codeAfter (n : Nat) : Nat := if n = 0xD7FF then 0xE000 else n + 1

/-- The code point before another one, surrogates passed over. -/
def codeBefore (n : Nat) : Nat := if n = 0xE000 then 0xD7FF else n - 1

/-- The gaps between ranges in increasing order from a code point on. -/
def gaps (start : Nat) : Ranges → Ranges
  | [] => if start ≤ lastCode then [(start, lastCode)] else []
  | (a, b) :: rest =>
    if start < a then (start, codeBefore a) :: gaps (codeAfter b) rest
    else gaps (codeAfter b) rest

/-- A property of characters as the standard writes it down: its names, loosely spelled, and the
characters that have it. -/
structure Property where
  names : List String
  ranges : String

/-- Ranges in increasing order, laid out for searching. -/
structure RangeTable where
  ranges : Array (Nat × Nat)

namespace RangeTable

def ofString (s : String) : RangeTable := ⟨(readRanges s).toArray⟩

def single (c : Char) : RangeTable := ⟨#[(c.toNat, c.toNat)]⟩

/-- Whether one of the ranges from `lo` up to but not including `hi` holds `n`, by halving. -/
def search (t : RangeTable) (n lo hi : Nat) : Bool :=
  if lo < hi then
    let mid := (lo + hi) / 2
    match t.ranges[mid]? with
    | none => false
    | some (first, last) =>
      if n < first then search t n lo mid
      else if last < n then search t n (mid + 1) hi
      else true
  else false
termination_by hi - lo

def contains (t : RangeTable) (c : Char) : Bool := t.search c.toNat 0 t.ranges.size

end RangeTable

end Gherkin.Unicode
