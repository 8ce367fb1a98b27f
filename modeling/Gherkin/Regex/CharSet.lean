import Gherkin.Unicode.CaseMap
import Gherkin.Unicode.Letters

/-!
# Sets of characters

What one position of a pattern may match, as ranges of code points in increasing order with gaps
between them.
-/

namespace Gherkin.Regex

open Unicode (Ranges lastCode codeAfter gaps)

/-- A set of characters, given by ranges of code points in increasing order that neither overlap nor
touch. -/
structure CharSet where
  ranges : Ranges
  deriving DecidableEq, Repr

namespace CharSet

/-- Ranges in increasing order of their first code points, melted where they overlap or touch. -/
def melt : Ranges → Ranges
  | [] => []
  | [r] => [r]
  | (a, b) :: (c, d) :: rest =>
    if c ≤ codeAfter b then melt ((a, max b d) :: rest) else (a, b) :: melt ((c, d) :: rest)
termination_by rs => rs.length

/-- The set of all characters in some of the ranges. -/
def ofRanges (rs : Ranges) : CharSet := ⟨melt (rs.mergeSort fun a b ↦ a.1 ≤ b.1)⟩

def empty : CharSet := ⟨[]⟩

def single (c : Char) : CharSet := ⟨[(c.toNat, c.toNat)]⟩

def union (s t : CharSet) : CharSet := ofRanges (s.ranges ++ t.ranges)

def compl (s : CharSet) : CharSet := ⟨gaps 0 s.ranges⟩

def all : CharSet := ⟨[(0, lastCode)]⟩

def inter (s t : CharSet) : CharSet := (s.compl.union t.compl).compl

def diff (s t : CharSet) : CharSet := s.inter t.compl

def symmDiff (s t : CharSet) : CharSet := (s.diff t).union (t.diff s)

def contains (s : CharSet) (n : Nat) : Bool := s.ranges.any fun r ↦ r.1 ≤ n && n ≤ r.2

def isAscii (s : CharSet) : Bool := s.ranges.all fun r ↦ r.2 < 128

/-- The set together with every character that is the same letter as a member where case does not
count. -/
def foldCase (s : CharSet) : CharSet :=
  match s.ranges with
  | [] => s
  | [(a, b)] =>
    if a = b then ofRanges ((a, a) :: (Unicode.foldingOthers a).map fun n ↦ (n, n))
    else addOthers
  | _ => addOthers
where
  /-- Adds what belongs to a member, going through all letters that have a case. -/
  addOthers : CharSet :=
    let others := Unicode.foldingEntries.filter fun e ↦ s.contains e.1
    ofRanges (s.ranges ++ others.flatMap fun e ↦ e.2.map fun n ↦ (n, n))

/-- As `foldCase`, with the letters of the English alphabet alone. -/
def foldAsciiCase (s : CharSet) : CharSet :=
  let upper := (s.inter ⟨[(65, 90)]⟩).ranges.map fun r ↦ (r.1 + 32, r.2 + 32)
  let lower := (s.inter ⟨[(97, 122)]⟩).ranges.map fun r ↦ (r.1 - 32, r.2 - 32)
  ofRanges (s.ranges ++ upper ++ lower)

def digits : CharSet := ⟨Unicode.readRanges Unicode.decimalRanges⟩

def words : CharSet := ⟨Unicode.readRanges Unicode.wordRanges⟩

def spaces : CharSet :=
  ⟨[(9, 13), (0x20, 0x20), (0x85, 0x85), (0xA0, 0xA0), (0x1680, 0x1680), (0x2000, 0x200A),
    (0x2028, 0x2029), (0x202F, 0x202F), (0x205F, 0x205F), (0x3000, 0x3000)]⟩

/-- The ASCII sets that have a name. -/
def ascii? (name : String) : Option CharSet :=
  match name with
  | "alnum" => some ⟨[(48, 57), (65, 90), (97, 122)]⟩
  | "alpha" => some ⟨[(65, 90), (97, 122)]⟩
  | "ascii" => some ⟨[(0, 127)]⟩
  | "blank" => some ⟨[(9, 9), (32, 32)]⟩
  | "cntrl" => some ⟨[(0, 31), (127, 127)]⟩
  | "digit" => some ⟨[(48, 57)]⟩
  | "graph" => some ⟨[(33, 126)]⟩
  | "lower" => some ⟨[(97, 122)]⟩
  | "print" => some ⟨[(32, 126)]⟩
  | "punct" => some ⟨[(33, 47), (58, 64), (91, 96), (123, 126)]⟩
  | "space" => some ⟨[(9, 13), (32, 32)]⟩
  | "upper" => some ⟨[(65, 90)]⟩
  | "word" => some ⟨[(48, 57), (65, 90), (95, 95), (97, 122)]⟩
  | "xdigit" => some ⟨[(48, 57), (65, 70), (97, 102)]⟩
  | _ => none

end CharSet

end Gherkin.Regex
