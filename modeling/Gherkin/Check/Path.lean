import Gherkin.Check.OsText

/-!
# Paths

A path is compared by its components: repeated separators, a separator at the end, and dots in the
middle make no difference, but a dot in front does. Paths are ordered component by component.
-/

namespace Gherkin.Check

/-- A component of a path. -/
inductive PathComponent where
  /-- The separator that an absolute path begins with. -/
  | root
  /-- The dot that a path begins with. -/
  | current
  /-- Two dots. -/
  | parent
  /-- A name. -/
  | name (t : OsText)
  deriving DecidableEq, Repr

namespace PathComponent

/-- The place of a kind of component among the others. -/
def rank : PathComponent → Nat
  | root => 0
  | current => 1
  | parent => 2
  | name _ => 3

/-- The name of a component that is one. -/
def text : PathComponent → OsText
  | name t => t
  | _ => []

/-- The order of components: by kind, and names by their bytes. -/
def compare : PathComponent → PathComponent → Ordering :=
  compareLex (compareOn rank) (compareOn text)

end PathComponent

namespace Path

def slash : UInt8 := '/'.toUInt8

/-- The piece that stays where it is. -/
def dot : OsText := .ofText ['.']

/-- The piece that leads back. -/
def dots : OsText := .ofText ['.', '.']

def featureEnding : OsText := .ofText ".feature".toList

def segments (path : OsText) : List OsText := path.splitOn slash

/-- The component that a piece in the middle of a path stands for. -/
def component? (segment : OsText) : Option PathComponent :=
  if segment = [] ∨ segment = dot then none
  else if segment = dots then some .parent
  else some (.name segment)

/-- The components of a path. -/
def components (path : OsText) : List PathComponent :=
  match segments path with
  | [] => []
  | first :: rest =>
    let start : List PathComponent :=
      if first = [] ∧ path ≠ [] then [.root]
      else if first = dot then [.current]
      else (component? first).toList
    start ++ rest.filterMap component?

def compare (a b : OsText) : Ordering :=
  List.compareLex PathComponent.compare (components a) (components b)

def le (a b : OsText) : Bool := (compare a b).isLE

/-- Whether two paths are spelled alike up to what makes no difference. -/
def alike (a b : OsText) : Bool := decide (components a = components b)

/-- A path followed by a name. -/
def extend (path name : OsText) : OsText :=
  if path.getLast? = some slash then path ++ name else path ++ slash :: name

/-- Whether a name ends in `.feature` with something in front. -/
def isFeatureName (name : OsText) : Bool :=
  featureEnding.isSuffixOf name && name != featureEnding

end Path

end Gherkin.Check
