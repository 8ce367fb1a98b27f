import Gherkin.Check.CommandLine

/-!
# The program

Reads what the arguments name and prints the answer to them. An argument that is no readable file
may be a directory; the program does not list directories itself, so in that case the names of the
files are expected on the standard input, one a line, relative to the working directory.
-/

namespace Gherkin.Check

/-- The file at a path, if it can be read. -/
def readEntry (path : String) : IO (Option FileTree) := do
  try
    let bytes ← IO.FS.readBinFile path
    return some (.file ((String.fromUTF8? bytes).map String.toList))
  catch _ => return none

/-- The lines of the standard input. -/
partial def readNames (input : IO.FS.Stream) (names : List String) : IO (List String) := do
  let line ← input.getLine
  if line.isEmpty then return names.reverse
  readNames input ((line.dropEndWhile (· = '\n')).toString :: names)

/-- The tree of the files of the given names. -/
def readTree (names : List String) : IO FileTree :=
  names.foldlM (fun tree name ↦ do
    match ← readEntry name with
    | some file =>
      let path := (Path.segments (name.toList : Text)).filter fun s ↦ s ≠ [] ∧ s ≠ Path.dot
      return tree.put path file
    | none => return tree) (.directory [])

def Request.paths : Except UsageError Request → List OsText
  | .ok (.check r) => r.paths
  | _ => []

end Gherkin.Check

open Gherkin Gherkin.Check in
/-- Answers the arguments of the program. -/
def main (args : List String) : IO UInt32 := do
  let args := args.map fun argument ↦ OsText.ofText argument.toList
  let named ← (Request.paths (Request.ofArguments args)).mapM fun path ↦ do
    return (path, ← readEntry (String.ofList path.display))
  let tree ←
    if named.all (·.2.isSome) then pure (FileTree.directory [])
    else readTree (← readNames (← IO.getStdin) [])
  let settings ← [Settings.logLevelVariable, Settings.languageVariable].mapM fun name ↦ do
    return (name, ← IO.getEnv (String.ofList name))
  let lookup (name : Text) : Option Text := ((settings.lookup name).join).map String.toList
  let find (path : OsText) : Except ReadFailure FileTree :=
    match (named.lookup path).join with
    | some file => .ok file
    | none => tree.find path
  let reply := answer lookup find args
  (← IO.getStdout).putStr (String.ofList reply.output)
  match reply.complaint with
  | some complaint => (← IO.getStderr).putStrLn (String.ofList complaint)
  | none => pure ()
  return reply.status.toUInt32
