import Testbed.Command

/-!
# The program

This file supplies the program itself.  It reads the files that its words may refer to,
calls the command line on them and prints what that gives.
-/

open Testbed

namespace Testbed.Main

/-- The paths that a word may hold: the word itself, and what is joined to an option. -/
def pathsIn (word : String) : List String :=
  let chars := word.toList
  [word, String.ofList ((chars.dropWhile (· ≠ '=')).drop 1), String.ofList (chars.drop 2)]

/-- Add a file to a tree, if it can be read. -/
def addFile (files : FileTree) (path : String) : IO FileTree := do
  if path.isEmpty then
    return files
  try
    let content ← IO.FS.readBinFile path
    return files.write path content.toList
  catch _ =>
    return files

/-- The files that words refer to, and the machine files that run configurations among
them name. -/
def readFiles (paths : List String) : IO FileTree := do
  let files ← paths.foldlM addFile {}
  let machines := paths.filterMap fun path =>
    ((RunConfig.ofFile files path).toOption.bind (·.qemu)).map (·.config)
  machines.foldlM addFile files

/-- The variables of the environment that the program heeds. -/
def readEnvironment : IO (List (String × String)) := do
  let names := ["ITF_CONFIG", RunConfig.scopeVariable]
  let values ← names.mapM fun name => do
    return (← IO.getEnv name).map fun value => (name, value)
  return values.filterMap id

end Testbed.Main

/-- Call the command line on the words and print its answer. -/
def main (words : List String) : IO UInt32 := do
  let environment ← Main.readEnvironment
  let paths :=
    Command.defaultConfig :: environment.map (·.2) ++ words.flatMap Main.pathsIn
  let host : Host := { files := ← Main.readFiles paths }
  let (answer, _) := Command.run environment words host
  IO.print answer.output
  IO.eprint answer.errorOutput
  return UInt32.ofNat answer.code
