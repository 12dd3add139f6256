import Mathlib.Data.List.Basic
import Testbed.Shell.Quote
import Testbed.Ssh.Endpoint

/-!
# Words of command lines

This file supplies the words that a command line is made of for the shell, and what quoting has
to do with them.  Blanks stand between words.  A character between single quotes stands for
itself, and so does one behind a backslash and any other that means nothing to the shell; a line
with anything else in it has no words here, since it does more than to name them.

A line of quoted texts has these texts as its words, whatever they are.
-/

namespace Testbed.Shell

/-! ## Words -/

/-- Whether a character stands between words. -/
def isGap (char : Char) : Bool :=
  char = ' ' || char = '\t'

/-- Whether a character means something to the shell when it stands outside quotes, besides
blanks, single quotes and the backslash: signs of its grammar, of expansions and of patterns. -/
def isSign (char : Char) : Bool :=
  "\n|&;<>()$`\"*?[]#~!^\x7b\x7d".toList.contains char

/-- Where in a line the reading of its words is, and what of a word has been read. -/
inductive Reading where
  | between
  | inside (word : List Char)
  | single (word : List Char)
  /-- Behind a backslash. -/
  | escaped (word : List Char)

/-- Take in a character of a word outside quotes. -/
def takeUnquoted? (word : List Char) (char : Char) : Option Reading :=
  if char = '\'' then some (.single word)
  else if char = '\\' then some (.escaped word)
  else if isSign char then none
  else some (.inside (word ++ [char]))

/-- The words from some place of a line on. -/
def wordsFrom? : Reading → List Char → Option (List (List Char))
  | .between, [] => some []
  | .inside word, [] => some [word]
  | .single _, [] => none
  | .escaped _, [] => none
  | .between, char :: rest =>
      if isGap char then wordsFrom? .between rest
      else (takeUnquoted? [] char).bind fun reading => wordsFrom? reading rest
  | .inside word, char :: rest =>
      if isGap char then (wordsFrom? .between rest).map (word :: ·)
      else (takeUnquoted? word char).bind fun reading => wordsFrom? reading rest
  | .single word, char :: rest =>
      if char = '\'' then wordsFrom? (.inside word) rest
      else wordsFrom? (.single (word ++ [char])) rest
  | .escaped word, char :: rest =>
      if char = '\n' then none
      else wordsFrom? (.inside (word ++ [char])) rest

/-- The words of a line, if it does nothing but name them. -/
def words? (line : String) : Option (List String) :=
  (wordsFrom? .between line.toList).map (·.map String.ofList)

/-! ## Characters -/

theorem not_isSafe_of_isSign {char : Char} (sign : isSign char = true) : isSafe char = false := by
  have none_safe : ("\n|&;<>()$`\"*?[]#~!^\x7b\x7d".toList.all (!isSafe ·)) = true := by decide
  have unsafe_char := List.all_eq_true.mp none_safe char (List.contains_iff_mem.mp sign)
  rwa [Bool.not_eq_true'] at unsafe_char

/-- A safe character outside quotes is taken for itself. -/
theorem takeUnquoted?_of_isSafe {char : Char} (safe : isSafe char = true) (word : List Char) :
    takeUnquoted? word char = some (.inside (word ++ [char])) := by
  have not_quote : char ≠ '\'' := by
    rintro rfl
    exact absurd safe (by decide)
  have not_backslash : char ≠ '\\' := by
    rintro rfl
    exact absurd safe (by decide)
  have not_sign : ¬ isSign char = true := by
    intro sign
    simp [not_isSafe_of_isSign sign] at safe
  rw [takeUnquoted?, if_neg not_quote, if_neg not_backslash, if_neg not_sign]

theorem not_isGap_of_isSafe {char : Char} (safe : isSafe char = true) : ¬ isGap char = true := by
  intro gap
  have blank : char = ' ' ∨ char = '\t' := by simpa [isGap] using gap
  rcases blank with rfl | rfl
  · exact absurd safe (by decide)
  · exact absurd safe (by decide)

/-! ## Quoted texts -/

theorem wordsFrom?_safe (chars rest word : List Char) (safe : chars.all isSafe = true) :
    wordsFrom? (.inside word) (chars ++ rest) = wordsFrom? (.inside (word ++ chars)) rest := by
  induction chars generalizing word with
  | nil => rw [List.nil_append, List.append_nil]
  | cons char chars ih =>
      rw [List.all_cons, Bool.and_eq_true] at safe
      rw [List.cons_append, wordsFrom?, if_neg (not_isGap_of_isSafe safe.1),
        takeUnquoted?_of_isSafe safe.1, Option.bind_some, ih _ safe.2, List.append_assoc,
        List.singleton_append]

/-- Between quotes a text is read as it was before it was written there: a quote of its own
leaves the quotes, stands behind a backslash and goes back into them. -/
theorem wordsFrom?_single (chars rest word : List Char) :
    wordsFrom? (.single word) (chars.flatMap quoteChar ++ '\'' :: rest) =
      wordsFrom? (.inside (word ++ chars)) rest := by
  induction chars generalizing word with
  | nil => simp [wordsFrom?]
  | cons char chars ih =>
      have more := ih (word ++ [char])
      rw [List.append_assoc, List.singleton_append] at more
      rw [List.flatMap_cons, List.append_assoc, ← more]
      by_cases quote : char = '\''
      · rw [quoteChar, if_pos quote, quote]
        simp [wordsFrom?, takeUnquoted?, isGap]
      · rw [quoteChar, if_neg quote, List.singleton_append, wordsFrom?, if_neg quote]

/-- A quoted text between words is read as a word, to which what follows may add. -/
theorem wordsFrom?_quoteChars (chars rest : List Char) :
    wordsFrom? .between (quoteChars chars ++ rest) = wordsFrom? (.inside chars) rest := by
  by_cases plain : (!chars.isEmpty && chars.all isSafe) = true
  · rw [quoteChars, if_pos plain]
    rw [Bool.and_eq_true] at plain
    cases chars with
    | nil => simp at plain
    | cons char chars =>
        have safe : isSafe char = true ∧ chars.all isSafe = true := by
          simpa only [List.all_cons, Bool.and_eq_true] using plain.2
        rw [List.cons_append, wordsFrom?, if_neg (not_isGap_of_isSafe safe.1),
          takeUnquoted?_of_isSafe safe.1, Option.bind_some,
          wordsFrom?_safe chars rest _ safe.2, List.nil_append, List.singleton_append]
  · have between_quotes := wordsFrom?_single chars rest []
    rw [List.nil_append] at between_quotes
    rw [quoteChars, if_neg plain, ← between_quotes]
    simp [wordsFrom?, takeUnquoted?, isGap]

/-! ## Lines of quoted texts -/

/-- The line of some texts, each quoted. -/
def quotedLine (texts : List String) : String :=
  " ".intercalate (texts.map quote)

theorem toList_quote (text : String) : (quote text).toList = quoteChars text.toList := by
  rw [quote, String.toList_ofList]

theorem quotedLine_singleton (text : String) : quotedLine [text] = quote text := by
  rw [quotedLine, List.map_singleton, String.intercalate_singleton]

theorem quotedLine_cons_cons (text next : String) (texts : List String) :
    quotedLine (text :: next :: texts) = quote text ++ (" " ++ quotedLine (next :: texts)) := by
  rw [quotedLine, List.map_cons, List.map_cons, String.intercalate_cons_cons,
    String.append_assoc]
  rfl

theorem wordsFrom?_quotedLine (texts : List String) :
    wordsFrom? .between (quotedLine texts).toList = some (texts.map String.toList) := by
  induction texts with
  | nil => rfl
  | cons text texts ih =>
      cases texts with
      | nil =>
          have alone := wordsFrom?_quoteChars text.toList []
          rw [List.append_nil] at alone
          rw [quotedLine_singleton, toList_quote, alone]
          rfl
      | cons next texts =>
          rw [quotedLine_cons_cons, String.toList_append, toList_quote, wordsFrom?_quoteChars,
            String.toList_append]
          -- The blank behind the text ends its word.
          change (wordsFrom? .between (quotedLine (next :: texts)).toList).map
            (text.toList :: ·) = _
          rw [ih]
          rfl

/-- The words of a line of quoted texts are these texts. -/
theorem words?_quotedLine (texts : List String) : words? (quotedLine texts) = some texts := by
  rw [words?, wordsFrom?_quotedLine, Option.map_some, List.map_map]
  simp [Function.comp_def]

example : quotedLine ["echo", "it's"] = "echo 'it'\\''s'" := by decide

/-- The remote command is a line of three texts: a shell, its options and a script. -/
theorem remoteCommand_eq (command : String) (mergeStderr : Bool) :
    Ssh.remoteCommand command mergeStderr =
      quotedLine ["sh", "-lc",
        "[ -r /etc/profile ] && . /etc/profile >/dev/null 2>&1; "
          ++ (if mergeStderr then "exec 2>&1; " else "") ++ command] := by
  have shell : quote "sh" = "sh" := by decide
  have options : quote "-lc" = "-lc" := by decide
  rw [quotedLine_cons_cons, quotedLine_cons_cons, quotedLine_singleton, shell, options,
    Ssh.remoteCommand]
  simp only [← String.append_assoc]
  rfl

end Testbed.Shell
