import Gherkin.Check.Path
import Gherkin.Diagnostic

/-!
# File trees

The files that a check works on, as a value. A path is followed from a directory piece by piece;
what is in the way, or what stands at its end, decides whether a file can be read.
-/

namespace Gherkin.Check

/-- A file or a directory. The content of a file is missing if its bytes are not a text. -/
inductive FileTree where
  | file (content : Option Text)
  | directory (entries : List (OsText × FileTree))
  deriving Repr

namespace FileTree

/-- The entry of a name. -/
def child? (name : OsText) : List (OsText × FileTree) → Option FileTree
  | [] => none
  | (other, t) :: rest => if other = name then some t else child? name rest

/-- One step along a path, from the innermost of a chain of directories. -/
def step (segment : OsText) : List FileTree → Except ReadFailure (List FileTree)
  | [] => .error .notFound
  | file _ :: _ => .error .notADirectory
  | directory entries :: outer =>
    if segment = [] ∨ segment = Path.dot then .ok (directory entries :: outer)
    else if segment = Path.dots then if outer.isEmpty then .error .notFound else .ok outer
    else
      match child? segment entries with
      | some t => .ok (t :: directory entries :: outer)
      | none => .error .notFound

/-- What stands at the end of a path that starts at a directory. An absolute path leads out of the
tree. -/
def find (tree : FileTree) (path : OsText) : Except ReadFailure FileTree :=
  if path.isEmpty || path.head? = some Path.slash then .error .notFound
  else do
    match ← (Path.segments path).foldlM (fun chain segment ↦ step segment chain) [tree] with
    | [] => .error .notFound
    | t :: _ => .ok t

/-- The text of the file at the end of a path. -/
def read (tree : FileTree) (path : OsText) : Except ReadFailure Text :=
  match tree.find path with
  | .ok (file (some content)) => .ok content
  | .ok (file none) => .error .notUtf8
  | .ok (directory _) => .error .isDirectory
  | .error e => .error e

mutual

/-- All files below a place: the names that lead to each, its content. -/
def files : FileTree → List (List OsText × Option Text)
  | file content => [([], content)]
  | directory entries => filesIn entries

/-- All files below the entries of a directory. -/
def filesIn : List (OsText × FileTree) → List (List OsText × Option Text)
  | [] => []
  | (name, t) :: rest => (files t).map (fun f ↦ (name :: f.1, f.2)) ++ filesIn rest

end

/-- The entries of a directory after one of them was replaced or added. -/
def putEntry (name : OsText) (t : FileTree) : List (OsText × FileTree) → List (OsText × FileTree)
  | [] => [(name, t)]
  | (other, u) :: rest =>
    if other = name then (name, t) :: rest else (other, u) :: putEntry name t rest

/-- The tree with something put at the end of a chain of names. Directories in between are made
where they are missing; what is put over a directory that is there already leaves its
entries alone. -/
def put (t : FileTree) (path : List OsText) (leaf : FileTree) : FileTree :=
  match path, leaf, t with
  | [], directory [], directory entries => directory entries
  | [], leaf, _ => leaf
  | name :: rest, leaf, t =>
    let entries := match t with
      | directory entries => entries
      | file _ => []
    let old := (child? name entries).getD (directory [])
    directory (putEntry name (old.put rest leaf) entries)

end FileTree

end Gherkin.Check
