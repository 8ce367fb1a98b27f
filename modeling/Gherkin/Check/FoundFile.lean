import Gherkin.Check.Settings
import Gherkin.Check.FileTree

/-!
# Finding feature files

A path names a file, which is taken whatever it is called, or a directory, below which all files are
taken whose names end in `.feature`. The files found are put in the order of their paths, and of
paths that are spelled alike the one found first is kept.
-/

namespace Gherkin.Check

/-- A file found at a path. -/
structure FoundFile where
  path : OsText
  content : Option Text
  deriving DecidableEq, Repr

namespace FoundFile

/-- What reading the file gives. -/
def read (f : FoundFile) : Except ReadFailure Text :=
  match f.content with
  | some content => .ok content
  | none => .error .notUtf8

end FoundFile

/-- The files that a path names, given what stands at its end. -/
def gather (path : OsText) : Except ReadFailure FileTree → Except CheckError (List FoundFile)
  | .ok (.file content) => .ok [⟨path, content⟩]
  | .ok (.directory entries) =>
    let found := (FileTree.filesIn entries).filter fun f ↦ f.1.getLast?.any Path.isFeatureName
    .ok (found.map fun f ↦ ⟨f.1.foldl Path.extend path, f.2⟩)
  | .error _ => .error (.missingPath path)

/-- A list without the elements that are alike to the one before them. -/
def dropRepeats : List FoundFile → List FoundFile
  | [] => []
  | [f] => [f]
  | f :: g :: rest =>
    if Path.alike f.path g.path then dropRepeats (f :: rest) else f :: dropRepeats (g :: rest)

/-- The files that a list of paths names. -/
def findFiles (find : OsText → Except ReadFailure FileTree) (paths : List OsText) :
    Except CheckError (List FoundFile) := do
  let found ← paths.mapM fun path ↦ gather path (find path)
  return dropRepeats (found.flatten.mergeSort fun a b ↦ Path.le a.path b.path)

end Gherkin.Check
