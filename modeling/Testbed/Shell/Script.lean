/-!
# Shell scripts

This file supplies the scripts of the command language that the host runs: simple
commands with redirections, loops, branches, groups, and the words they are made
of.  Pipes, functions and substitutions of commands are not part of it.
-/

namespace Testbed.Shell

/-- A part of a word. -/
inductive Piece where
  | text (chars : List Char)
  | variable (name : String)
  | processId
  | lastStatus
  | arithmetic (source : List Char)
  deriving DecidableEq, Repr

/-- A part of a word and whether it stands in quotes; what is not quoted is cut at
blanks after expansion. -/
structure WordPart where
  piece : Piece
  quoted : Bool
  deriving DecidableEq, Repr

/-- A word, as the parts that stand side by side in it. -/
abbrev Word :=
  List WordPart

/-- Where a redirection leads. -/
inductive Destination where
  | output
  | errorOutput
  | file (path : Word) (append : Bool)
  | input (path : Word)
  deriving DecidableEq, Repr

/-- A redirection of an output. -/
structure Redirection where
  ofErrors : Bool
  destination : Destination
  deriving DecidableEq, Repr

/-- When a command in a list runs, by the success of the one before it. -/
inductive Joint where
  | always
  | onSuccess
  | onFailure
  deriving DecidableEq, Repr

/-- A command. -/
inductive Command where
  | simple (words : List Word) (redirections : List Redirection)
  /-- Repeat while the condition succeeds, or while it fails. -/
  | loop (whileSuccess : Bool) (condition body : List (Joint × Command))
  | branch (condition success failure : List (Joint × Command))
  | each (name : String) (words : List Word) (body : List (Joint × Command))
  /-- Turn success into failure and the other way round. -/
  | negated (command : Command)
  /-- A list as one command; an isolated one cannot change variables or end the
  script. -/
  | group (isolated : Bool) (body : List (Joint × Command))
      (redirections : List Redirection)
  deriving Repr

/-- Commands in a row. -/
abbrev Script :=
  List (Joint × Command)

end Testbed.Shell
