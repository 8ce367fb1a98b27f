import Gherkin.Unicode.Ages
import Gherkin.Unicode.BinaryProperties
import Gherkin.Unicode.Breaks
import Gherkin.Unicode.Categories
import Gherkin.Unicode.Scripts
import Gherkin.Unicode.ScriptExtensions

/-!
# Properties by name

A regular expression may name a property of characters: a general category, a script, a binary
property, an age, or a class of characters for breaking text. Names are compared loosely, without
regard to case, blanks, hyphens and underscores, and to the syllable `is` in front.
-/

namespace Gherkin.Unicode

/-- The form in which the names of properties are compared. Characters outside ASCII are dropped,
since no name has one. -/
def looseName (name : Text) : Text :=
  let start := name.take 2
  let is := start.map Char.toLower = ['i', 's']
  let rest := if is then name.drop 2 else name
  let plain := (rest.filter fun c ↦ c.toNat < 128 ∧ c ∉ [' ', '_', '-']).map Char.toLower
  if is ∧ plain = ['c'] then ['i', 's', 'c'] else plain

/-- The first of the properties with the given name in its compared form. -/
def findProperty? (properties : List Property) (name : Text) : Option Ranges :=
  (properties.find? fun p ↦ p.names.any fun n ↦ n.toList = name).map fun p ↦ readRanges p.ranges

/-- A general category by name; three names stand for all, all assigned, and the ASCII code
points. -/
def findCategory? (name : Text) : Option Ranges :=
  if name = "any".toList then some [(0, lastCode)]
  else if name = "ascii".toList then some [(0, 0x7F)]
  else if name = "assigned".toList then (findProperty? categories "cn".toList).map (gaps 0)
  else findProperty? categories name

/-- A property that is named alone: a binary property, a category or a script, in this order. Three
abbreviations of categories are no binary properties. -/
def namedAlone? (name : Text) : Option Ranges :=
  let n := looseName name
  let binary := if ["cf".toList, "sc".toList, "lc".toList].contains n then none
    else findProperty? binaryProperties n
  binary <|> findCategory? n <|> findProperty? scripts n

/-- The characters assigned in a version of the standard or before it. -/
def findAge? (name : Text) : Option Ranges :=
  let isNamed (p : Property) : Bool := p.names.any fun n ↦ n.toList = name
  let older := ages.takeWhile (!isNamed ·)
  (ages.find? isNamed).map fun p ↦ (older ++ [p]).flatMap fun q ↦ readRanges q.ranges

/-- A property that is named together with its value. -/
def namedWithValue? (name value : Text) : Option Ranges :=
  let v := looseName value
  match String.ofList (looseName name) with
  | "gc" | "generalcategory" => findCategory? v
  | "sc" | "script" => findProperty? scripts v
  | "scx" | "scriptextensions" => findProperty? scriptExtensions v <|> findProperty? scripts v
  | "age" => findAge? v
  | "gcb" | "graphemeclusterbreak" => findProperty? graphemeBreaks v
  | "wb" | "wordbreak" => findProperty? wordBreaks v
  | "sb" | "sentencebreak" => findProperty? sentenceBreaks v
  | _ => none

end Gherkin.Unicode
