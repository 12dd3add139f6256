import Testbed.Text.Utf8

/-!
# Lines of a stream

This file supplies the splitter that cuts a stream of octets into lines as it
arrives.  Lines keep their line feeds, and an unfinished line is held back until
more of it arrives or the stream ends.  Every chunk is decoded on its own.
-/

namespace Testbed.Text

/-- The unfinished line of a stream. -/
structure LineSplitter where
  held : List Char := []
  deriving DecidableEq, Repr

namespace LineSplitter

/-- Complete lines of a text, each with its line feed, and what follows. -/
def cut : List Char → List (List Char) × List Char
  | [] => ([], [])
  | char :: rest =>
      let (lines, tail) := cut rest
      if char = '\n' then
        ([char] :: lines, tail)
      else
        match lines with
        | [] => ([], char :: tail)
        | line :: others => ((char :: line) :: others, tail)

/-- Take in a chunk: the lines that it completes, and the splitter. -/
def push (splitter : LineSplitter) (chunk : Octets) : List String × LineSplitter :=
  let (lines, held) := cut (splitter.held ++ (Utf8.decode chunk).toList)
  (lines.map String.ofList, ⟨held⟩)

/-- The unfinished line at the end of the stream, unless it is empty. -/
def finish? (splitter : LineSplitter) : Option String :=
  if splitter.held.isEmpty then none else some (String.ofList splitter.held)

/-- The lines of a stream that arrived in some chunks. -/
def lines (chunks : List Octets) : List String :=
  let (lines, splitter) := chunks.foldl
    (fun (lines, splitter) chunk =>
      let (more, splitter) := push splitter chunk
      (lines ++ more, splitter))
    ([], {})
  lines ++ splitter.finish?.toList

end LineSplitter

end Testbed.Text
