import Testbed.Error
import Testbed.Octets
import Testbed.Text.Pieces
import Testbed.Text.Utf8

/-!
# File trees

This file supplies the files below a working folder, and those that are named from
the root.  A path is walked name by name, so that `a/../b` needs a folder `a`, and a
name after a file is a fault of its own.  Nothing above the working folder can be
reached from it.
-/

namespace Testbed

/-- Files and folders by their names from the working folder, or from the root if the
first name is that of the root. -/
structure FileTree where
  files : List (List String × Octets) := []
  folders : List (List String) := []
  deriving Repr

/-- Why an operating system refuses a path. -/
inductive PathFault where
  | missing
  | notAFolder
  | isAFolder
  | taken
  | denied
  deriving DecidableEq, Repr

namespace PathFault

/-- The text of the operating system. -/
def message : PathFault → String
  | missing => "No such file or directory (os error 2)"
  | notAFolder => "Not a directory (os error 20)"
  | isAFolder => "Is a directory (os error 21)"
  | taken => "File exists (os error 17)"
  | denied => "Permission denied (os error 13)"

end PathFault

/-- What is found at the end of a path. -/
inductive PathEntry where
  | file (names : List String) (content : Octets)
  | folder (names : List String)
  deriving Repr

namespace FileTree

/-- A path cut at its slashes. -/
def pathParts (path : String) : List String :=
  (Text.pieces '/' path.toList).map String.ofList

/-- The name of the root. -/
def rootName : String :=
  "/"

/-- The names at which a path begins. -/
def origin (path : String) : List String :=
  if path.startsWith "/" then [rootName] else []

/-- What stands under a name in a folder. -/
def entry? (tree : FileTree) (names : List String) : Option PathEntry :=
  match tree.files.lookup names with
  | some content => some (.file names content)
  | none =>
      if names = [] ∨ tree.folders.contains names
          ∨ tree.files.any fun file => names.isPrefixOf file.1 && file.1 != names then
        some (.folder names)
      else
        none

/-- Walk the parts of a path from an entry. -/
def walk (tree : FileTree) : PathEntry → List String → Except PathFault PathEntry
  | entry, [] => .ok entry
  | .file .., _ :: _ => .error .notAFolder
  | .folder names, part :: rest =>
      if part = "" ∨ part = "." then
        walk tree (.folder names) rest
      else if part = ".." then
        if names = [] then .error .missing
        else if names = [rootName] then walk tree (.folder names) rest
        else walk tree (.folder names.dropLast) rest
      else
        match tree.entry? (names ++ [part]) with
        | some entry => walk tree entry rest
        | none => .error .missing

/-- Find a path. -/
def find (tree : FileTree) (path : String) : Except PathFault PathEntry :=
  if path = "" then
    .error .missing
  else
    tree.walk (.folder (origin path)) (pathParts path)

/-- The content of a file. -/
def read (tree : FileTree) (path : String) : Except PathFault Octets :=
  match tree.find path with
  | .ok (.file _ content) => .ok content
  | .ok (.folder _) => .error .isAFolder
  | .error fault => .error fault

/-- The content of a file as text. -/
def readText (tree : FileTree) (path : String) : Result String :=
  match tree.read path with
  | .error fault => .error (.io fault.message)
  | .ok content =>
      match Text.Utf8.decode? content with
      | some written => .ok written
      | none => .error (.io "stream did not contain valid UTF-8")

/-- Whether a path leads to a file or a folder. -/
def hasPath (tree : FileTree) (path : String) : Bool :=
  (tree.find path).toOption.isSome

/-- Whether a path leads to a file. -/
def isFile (tree : FileTree) (path : String) : Bool :=
  match tree.find path with
  | .ok (.file ..) => true
  | _ => false

/-- Whether a path leads to a folder. -/
def isFolder (tree : FileTree) (path : String) : Bool :=
  match tree.find path with
  | .ok (.folder _) => true
  | _ => false

/-- Put a file into its place. -/
def write (tree : FileTree) (path : String) (content : Octets) : FileTree :=
  let names := origin path ++ (pathParts path).filter fun part => part ≠ "" ∧ part ≠ "."
  { tree with files := (names, content) :: tree.files.filter (·.1 ≠ names) }

/-! ## Folders -/

/-- A path without its last name and the slashes around it; none for the root and
for the empty path. -/
def parentPath? (path : String) : Option String :=
  let parts := (pathParts path).reverse.dropWhile (fun part => part = "" ∨ part = ".")
  match parts with
  | [] => none
  | _ :: rest =>
      let parent := "/".intercalate rest.reverse
      some (if parent = "" ∧ path.startsWith "/" then "/" else parent)

/-- Make the folders of some names one inside the other, unless they are there. -/
def makeFolders (tree : FileTree) (names : List String) :
    List String → Except PathFault FileTree
  | [] => .ok tree
  | part :: rest =>
      if part = "" ∨ part = "." then
        makeFolders tree names rest
      else if part = ".." then
        makeFolders tree names.dropLast rest
      else
        let names := names ++ [part]
        match tree.entry? names with
        | some (.file ..) => .error (if rest.isEmpty then .taken else .notAFolder)
        | some (.folder _) => makeFolders tree names rest
        | none =>
            makeFolders { tree with folders := names :: tree.folders } names rest

/-- Make the folder that a path names, and those it is in. -/
def makeFolder (tree : FileTree) (path : String) : Except PathFault FileTree :=
  if path.startsWith "/" then
    .error .denied
  else
    tree.makeFolders [] (pathParts path)

end FileTree

end Testbed
