/-!
# Quoting for the shell

This file supplies the quoting of texts as single words of the shell.  A word of
safe characters stands for itself; any other text is put in single quotes, between
which a quote is written as the end of the quotes, an escaped quote and their
beginning.
-/

namespace Testbed.Shell

/-- Characters that stand for themselves outside quotes. -/
def isSafe (char : Char) : Bool :=
  char.isAlphanum || "-_./=:,@%+".toList.contains char

/-- A character between single quotes. -/
def quoteChar (char : Char) : List Char :=
  if char = '\'' then ['\'', '\\', '\'', '\''] else [char]

/-- A text as a single word. -/
def quoteChars (chars : List Char) : List Char :=
  if !chars.isEmpty && chars.all isSafe then
    chars
  else
    '\'' :: chars.flatMap quoteChar ++ ['\'']

/-- A text as a single word. -/
def quote (text : String) : String :=
  String.ofList (quoteChars text.toList)

end Testbed.Shell
