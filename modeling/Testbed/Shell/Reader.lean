import Testbed.Shell.Script

/-!
# Reading shell scripts

This file supplies the reader of scripts.  A script is first cut into words and
signs and then put together; the keywords are words that stand unquoted where a
command begins.
-/

namespace Testbed.Shell

/-! ## Words and signs -/

/-- A word or a sign between words. -/
inductive Token where
  | word (word : Word)
  /-- The end of a command. -/
  | stop
  | both
  | either
  | openBracket
  | closeBracket
  /-- An arrow: of which output, to an output by number, appending, or inward. -/
  | arrow (ofErrors duplicate append inward : Bool)
  deriving DecidableEq, Repr

/-- Whether a name may begin with a character. -/
def isNameStart (char : Char) : Bool :=
  char.isAlpha || char == '_'

/-- Whether a character may stand in a name. -/
def isNameChar (char : Char) : Bool :=
  char.isAlphanum || char == '_'

/-- Characters that end a word outside quotes. -/
def endsWord (char : Char) : Bool :=
  [' ', '\t', '\n', ';', '&', '|', '<', '>', '(', ')'].contains char

/-- What stands before two closing brackets that match the opening ones. -/
def takeArithmetic (depth : Nat) : List Char → Option (List Char × List Char)
  | [] => none
  | ')' :: ')' :: rest =>
      match depth with
      | 0 => some ([], rest)
      | depth + 1 =>
          (takeArithmetic depth (')' :: rest)).map fun (inside, rest) =>
            (')' :: inside, rest)
  | char :: rest =>
      let depth :=
        if char = '(' then depth + 1 else if char = ')' then depth - 1 else depth
      (takeArithmetic depth rest).map fun (inside, rest) => (char :: inside, rest)

/-- What a dollar sign stands for, and the rest. -/
def readDollar? (chars : List Char) : Option (Piece × List Char) :=
  match chars with
  | '$' :: rest => some (.processId, rest)
  | '?' :: rest => some (.lastStatus, rest)
  | '(' :: '(' :: rest =>
      (takeArithmetic 0 rest).map fun (source, rest) => (.arithmetic source, rest)
  | '\x7b' :: rest =>
      let name := rest.takeWhile isNameChar
      match rest.drop name.length with
      | '\x7d' :: rest => some (.variable (String.ofList name), rest)
      | _ => none
  | char :: _ =>
      if isNameStart char then
        let name := chars.takeWhile isNameChar
        some (.variable (String.ofList name), chars.drop name.length)
      else
        some (.text ['$'], chars)
  | [] => some (.text ['$'], [])

/-- Append a character to a word. -/
def pushChar (word : Word) (char : Char) (quoted : Bool) : Word :=
  match word.getLast? with
  | some ⟨.text chars, other⟩ =>
      if other = quoted then word.dropLast ++ [⟨.text (chars ++ [char]), quoted⟩]
      else word ++ [⟨.text [char], quoted⟩]
  | _ => word ++ [⟨.text [char], quoted⟩]

/-- The quotes that a reader of words is in. -/
inductive Quotes where
  | outside
  | single
  | double
  deriving DecidableEq

/-- A word from its first character on. -/
def readWord? (quotes : Quotes) (word : Word) : Nat → List Char → Option (Word × List Char)
  | 0, _ => none
  | _ + 1, [] => if quotes = .outside then some (word, []) else none
  | fuel + 1, char :: rest =>
      match quotes with
      | .single =>
          if char = '\'' then readWord? .outside word fuel rest
          else readWord? .single (pushChar word char true) fuel rest
      | .double =>
          if char = '"' then readWord? .outside word fuel rest
          else if char = '$' then
            match readDollar? rest with
            | some (piece, rest) => readWord? .double (word ++ [⟨piece, true⟩]) fuel rest
            | none => none
          else if char = '\\' then
            match rest with
            | next :: rest =>
                if next = '\n' then readWord? .double word fuel rest
                else if ['$', '"', '\\'].contains next then
                  readWord? .double (pushChar word next true) fuel rest
                else
                  readWord? .double (pushChar (pushChar word '\\' true) next true) fuel rest
            | [] => none
          else readWord? .double (pushChar word char true) fuel rest
      | .outside =>
          if endsWord char then some (word, char :: rest)
          else if char = '\'' then
            readWord? .single (word ++ [⟨.text [], true⟩]) fuel rest
          else if char = '"' then
            readWord? .double (word ++ [⟨.text [], true⟩]) fuel rest
          else if char = '$' then
            match readDollar? rest with
            | some (piece, rest) => readWord? .outside (word ++ [⟨piece, false⟩]) fuel rest
            | none => none
          else if char = '\\' then
            match rest with
            | next :: rest =>
                if next = '\n' then readWord? .outside word fuel rest
                else readWord? .outside (pushChar word next true) fuel rest
            | [] => readWord? .outside (pushChar word '\\' true) fuel []
          else readWord? .outside (pushChar word char false) fuel rest

/-- An arrow and the rest. -/
def readArrow (ofErrors : Bool) : List Char → Token × List Char
  | '&' :: rest => (.arrow ofErrors true false false, rest)
  | '>' :: rest => (.arrow ofErrors false true false, rest)
  | rest => (.arrow ofErrors false false false, rest)

/-- The words and signs of a script. -/
def tokens? : Nat → List Char → Option (List Token)
  | 0, _ => none
  | _ + 1, [] => some []
  | fuel + 1, char :: rest =>
      let give (token : Token) (rest : List Char) :=
        (tokens? fuel rest).map (token :: ·)
      if char = ' ' ∨ char = '\t' then tokens? fuel rest
      else if char = ';' ∨ char = '\n' then give .stop rest
      else if char = '#' then tokens? fuel (rest.dropWhile (· ≠ '\n'))
      else if char = '(' then give .openBracket rest
      else if char = ')' then give .closeBracket rest
      else
        match char, rest with
        | '&', '&' :: rest => give .both rest
        | '|', '|' :: rest => give .either rest
        | '>', rest =>
            let (token, rest) := readArrow false rest
            give token rest
        | '1', '>' :: rest =>
            let (token, rest) := readArrow false rest
            give token rest
        | '2', '>' :: rest =>
            let (token, rest) := readArrow true rest
            give token rest
        | '<', rest => give (.arrow false false false true) rest
        | char, rest =>
            if endsWord char then
              none
            else
              match readWord? .outside [] (rest.length + 2) (char :: rest) with
              | some (word, rest) => give (.word word) rest
              | none => none

/-! ## Commands -/

/-- The keyword that a word is, if it is one. -/
def keyword? (word : Word) : Option String :=
  match word with
  | [⟨.text chars, false⟩] =>
      let text := String.ofList chars
      if ["if", "then", "elif", "else", "fi", "while", "until", "do", "done", "for", "in",
          "\x7b", "\x7d", "!"].contains text
      then some text
      else none
  | _ => none

/-- Skip ends of commands. -/
def skipStops : List Token → List Token
  | .stop :: rest => skipStops rest
  | tokens => tokens

/-- Skip a keyword that has to stand there. -/
def expect? (text : String) (tokens : List Token) : Option (List Token) :=
  match skipStops tokens with
  | .word word :: rest => if keyword? word = some text then some rest else none
  | _ => none

/-- The words and redirections of a simple command. -/
def simple? (words : List Word) (redirections : List Redirection) :
    List Token → Option (List Word × List Redirection × List Token)
  | .word word :: rest => simple? (words ++ [word]) redirections rest
  | .arrow _ _ _ true :: .word path :: rest =>
      simple? words (redirections ++ [⟨false, .input path⟩]) rest
  | .arrow ofErrors true _ _ :: .word word :: rest =>
      match word with
      | [⟨.text ['1'], _⟩] =>
          simple? words (redirections ++ [⟨ofErrors, .output⟩]) rest
      | [⟨.text ['2'], _⟩] =>
          simple? words (redirections ++ [⟨ofErrors, .errorOutput⟩]) rest
      | _ => none
  | .arrow ofErrors false append _ :: .word path :: rest =>
      simple? words (redirections ++ [⟨ofErrors, .file path append⟩]) rest
  | .arrow .. :: _ => none
  | tokens => some (words, redirections, tokens)

/-- A command and the redirections behind it. -/
def redirected? (command : Command) (tokens : List Token) :
    Option (Command × List Token) :=
  match simple? [] [] tokens with
  | some ([], [], rest) => some (command, rest)
  | some ([], redirections, rest) =>
      some (.group false [(.always, command)] redirections, rest)
  | _ => none

mutual

/-- A list of commands up to a keyword that ends it, or to the end. -/
def list? (joint : Joint) : Nat → List Token → Option (Script × List Token)
  | 0, _ => none
  | fuel + 1, tokens =>
      match if joint = .always then skipStops tokens else tokens with
      | [] => if joint = .always then some ([], []) else none
      | .closeBracket :: rest =>
          if joint = .always then some ([], .closeBracket :: rest) else none
      | .word word :: rest =>
          let ends :=
            (keyword? word).any fun keyword =>
              ["then", "elif", "else", "fi", "do", "done", "in", "\x7d"].contains keyword
          if ends then
            if joint = .always then some ([], .word word :: rest) else none
          else
            match command? fuel (.word word :: rest) with
            | some (command, rest) => follow? joint command fuel rest
            | none => none
      | tokens =>
          match command? fuel tokens with
          | some (command, rest) => follow? joint command fuel rest
          | none => none

/-- The rest of a list after a command. -/
def follow? (joint : Joint) (command : Command) :
    Nat → List Token → Option (Script × List Token)
  | 0, _ => none
  | fuel + 1, tokens =>
      let next (joint : Joint) (tokens : List Token) :=
        list? joint fuel tokens
      let more :=
        match tokens with
        | .both :: rest => next .onSuccess (skipStops rest)
        | .either :: rest => next .onFailure (skipStops rest)
        | .stop :: rest => next .always rest
        | tokens => some ([], tokens)
      more.map fun (script, rest) => ((joint, command) :: script, rest)

/-- A command. -/
def command? : Nat → List Token → Option (Command × List Token)
  | 0, _ => none
  | fuel + 1, .openBracket :: rest => do
      let (body, rest) ← list? .always fuel rest
      match skipStops rest with
      | .closeBracket :: rest => redirected? (.group true body []) rest
      | _ => none
  | fuel + 1, .word word :: rest =>
      match keyword? word with
      | some "while" => (loop? true fuel rest).bind fun (command, rest) =>
          redirected? command rest
      | some "until" => (loop? false fuel rest).bind fun (command, rest) =>
          redirected? command rest
      | some "if" => (branch? fuel rest).bind fun (command, rest) =>
          redirected? command rest
      | some "for" => (each? fuel rest).bind fun (command, rest) =>
          redirected? command rest
      | some "\x7b" => do
          let (body, rest) ← list? .always fuel rest
          redirected? (.group false body []) (← expect? "\x7d" rest)
      | some "!" =>
          (command? fuel rest).map fun (command, rest) => (.negated command, rest)
      | some _ => none
      | none =>
          match simple? [word] [] rest with
          | some (words, redirections, rest) => some (.simple words redirections, rest)
          | none => none
  | _ + 1, tokens =>
      match simple? [] [] tokens with
      | some ([], [], _) => none
      | some (words, redirections, rest) => some (.simple words redirections, rest)
      | none => none

/-- A loop after its keyword. -/
def loop? (whileSuccess : Bool) : Nat → List Token → Option (Command × List Token)
  | 0, _ => none
  | fuel + 1, tokens => do
      let (condition, rest) ← list? .always fuel tokens
      let rest ← expect? "do" rest
      let (body, rest) ← list? .always fuel rest
      let rest ← expect? "done" rest
      pure (.loop whileSuccess condition body, rest)

/-- A branch after its keyword. -/
def branch? : Nat → List Token → Option (Command × List Token)
  | 0, _ => none
  | fuel + 1, tokens => do
      let (condition, rest) ← list? .always fuel tokens
      let rest ← expect? "then" rest
      let (success, rest) ← list? .always fuel rest
      match expect? "elif" rest, expect? "else" rest with
      | some rest, _ => do
          let (failure, rest) ← branch? fuel rest
          pure (.branch condition success [(.always, failure)], rest)
      | none, some rest => do
          let (failure, rest) ← list? .always fuel rest
          let rest ← expect? "fi" rest
          pure (.branch condition success failure, rest)
      | none, none => do
          let rest ← expect? "fi" rest
          pure (.branch condition success [], rest)

/-- A loop over words after its keyword. -/
def each? : Nat → List Token → Option (Command × List Token)
  | 0, _ => none
  | fuel + 1, tokens =>
      match tokens with
      | .word [⟨.text name, false⟩] :: rest => do
          let rest ← expect? "in" rest
          let (words, _, rest) ← simple? [] [] rest
          let rest ← expect? "do" rest
          let (body, rest) ← list? .always fuel rest
          let rest ← expect? "done" rest
          pure (.each (String.ofList name) words body, rest)
      | _ => none

end

/-- The script that a text denotes, if it is one. -/
def Script.read? (source : String) : Option Script := do
  let tokens ← tokens? (source.length + 1) source.toList
  match list? .always (4 * tokens.length + 4) tokens with
  | some (script, []) => some script
  | _ => none

end Testbed.Shell
