/-!
# Options of commands

This file supplies the reading of the words that a program is called with.  A command
has options, perhaps an operand, and perhaps commands of its own, one of which then
has to be named; the options behind a name belong to that command.

An option is written `--name value`, `--name=value` or, if it has a letter, `-l value`,
`-lvalue` or `-l=value`, and several letters may share a hyphen.  Everything after
`--` is an operand.  A value does not begin with a hyphen unless it is joined to its
option, and an option that does not repeat is given once.
-/

namespace Testbed.Command

/-- An option of a command. -/
structure OptionRule where
  name : String
  letter : Option Char := none
  /-- Whether a value belongs to the option. -/
  takesValue : Bool := true
  repeats : Bool := false
  accepts : String → Bool := fun _ => true
  /-- The name of the environment variable that gives the value if no word does. -/
  environmentName : Option String := none
  /-- An option that must not be given together with this one. -/
  excludes : Option String := none

/-- A command and the commands in it. -/
structure CommandRule where
  name : String
  options : List OptionRule := []
  /-- What the operand may be, for a command that has one. -/
  operand : Option (String → Bool) := none
  commands : List CommandRule := []

/-- Why the words were not read to their end. -/
inductive Stop where
  | usage
  | help (path : List String)
  | version (path : List String)
  deriving DecidableEq, Repr

/-- What was written for a command. -/
structure Level where
  rule : CommandRule
  /-- Options and their values in the order of writing. -/
  given : List (String × String) := []
  operand : Option String := none

namespace Level

/-- Take an option with its value. -/
def give (level : Level) (rule : OptionRule) (value : String) : Except Stop Level :=
  if !rule.accepts value then .error .usage
  else if !rule.repeats ∧ level.given.any (·.1 == rule.name) then .error .usage
  else .ok { level with given := level.given ++ [(rule.name, value)] }

/-- Take an operand. -/
def takeOperand (level : Level) (word : String) : Except Stop Level :=
  match level.rule.operand, level.operand with
  | some accepts, none =>
      if accepts word then .ok { level with operand := some word } else .error .usage
  | _, _ => .error .usage

/-- The values of an option. -/
def values (level : Level) (name : String) : List String :=
  (level.given.filter (·.1 == name)).map (·.2)

/-- Whether an option was given. -/
def has (level : Level) (name : String) : Bool :=
  !(level.values name).isEmpty

end Level

/-! ## Reading words -/

/-- The words read so far. -/
structure Scan where
  level : Level
  /-- The levels that the present one is in, the innermost first. -/
  outer : List Level := []
  /-- An option whose value is the next word. -/
  pending : Option OptionRule := none
  /-- Whether only operands follow. -/
  onlyOperands : Bool := false

namespace Scan

/-- The names that lead to the present command. -/
def path (scan : Scan) : List String :=
  (scan.level :: scan.outer).reverse.map (·.rule.name)

/-- Give an option of the present command its value. -/
def give (scan : Scan) (rule : OptionRule) (value : String) : Except Stop Scan := do
  let level ← scan.level.give rule value
  pure { scan with level, pending := none }

/-- An option together with a value that is joined to it, if one is. -/
def takeOption (scan : Scan) (rule : OptionRule) (joined : Option String) :
    Except Stop Scan :=
  match rule.takesValue, joined with
  | true, some value => scan.give rule value
  | true, none => .ok { scan with pending := some rule }
  | false, none => scan.give rule ""
  | false, some _ => .error .usage

/-- Read a word after two hyphens. -/
def takeLong (scan : Scan) (chars : List Char) : Except Stop Scan :=
  let name := String.ofList (chars.takeWhile (· ≠ '='))
  let joined :=
    match chars.dropWhile (· ≠ '=') with
    | _ :: value => some (String.ofList value)
    | [] => none
  match scan.level.rule.options.find? (·.name == name) with
  | some rule => scan.takeOption rule joined
  | none =>
      if name = "help" ∧ joined.isNone then .error (.help scan.path)
      else if name = "version" ∧ joined.isNone then .error (.version scan.path)
      else .error .usage

/-- Read letters after one hyphen. -/
def takeLetters (scan : Scan) : List Char → Except Stop Scan
  | [] => .ok scan
  | letter :: rest =>
      match scan.level.rule.options.find? (·.letter == some letter) with
      | some rule =>
          if rule.takesValue then
            let value := if rest.head? = some '=' then rest.drop 1 else rest
            scan.takeOption rule
              (if rest.isEmpty then none else some (String.ofList value))
          else do
            let scan ← scan.takeOption rule none
            scan.takeLetters rest
      | none =>
          if letter = 'h' then .error (.help scan.path)
          else if letter = 'V' then .error (.version scan.path)
          else .error .usage

/-- Read a word that is no option: the name of a command, or an operand. -/
def takeWord (scan : Scan) (word : String) : Except Stop Scan :=
  if scan.level.rule.commands.isEmpty then do
    let level ← scan.level.takeOperand word
    pure { scan with level }
  else
    match scan.level.rule.commands.find? (·.name == word) with
    | some rule => .ok { level := { rule }, outer := scan.level :: scan.outer }
    | none => if word = "help" then .error (.help scan.path) else .error .usage

/-- Read one word. -/
def step (scan : Scan) (word : String) : Except Stop Scan :=
  if scan.onlyOperands then
    if scan.pending.isSome then .error .usage
    else do
      let level ← scan.level.takeOperand word
      pure { scan with level }
  else
    match word.toList, scan.pending with
    | '-' :: _ :: _, some _ => .error .usage
    | _, some rule => scan.give rule word
    | ['-', '-'], none => .ok { scan with onlyOperands := true }
    | '-' :: '-' :: name, none => scan.takeLong name
    | '-' :: letter :: letters, none => scan.takeLetters (letter :: letters)
    | _, none => scan.takeWord word

/-- Require that nothing is missing after the last word. -/
def complete (scan : Scan) : Except Stop Unit :=
  let isWhole :=
    scan.pending.isNone && scan.level.rule.commands.isEmpty
      && (scan.level.rule.operand.isNone || scan.level.operand.isSome)
  let isExclusive :=
    scan.level.rule.options.all fun rule =>
      !scan.level.has rule.name || rule.excludes.all fun other => !scan.level.has other
  if isWhole && isExclusive then .ok () else .error .usage

end Scan

/-! ## Values -/

/-- The words of a call, read. -/
structure Words where
  /-- The levels from the named command outwards. -/
  levels : List Level
  environment : List (String × String)

namespace Words

/-- Whether each variable that stands in for an option of a level is acceptable. -/
def hasValidVariables (environment : List (String × String)) (level : Level) : Bool :=
  level.rule.options.all fun rule =>
    level.has rule.name ||
      match rule.environmentName.bind (List.lookup · environment) with
      | some value => rule.accepts value
      | none => true

/-- Read the words of a call. -/
def read (rule : CommandRule) (environment : List (String × String))
    (words : List String) : Except Stop Words := do
  let scan ← words.foldlM Scan.step { level := { rule } }
  scan.complete
  let levels := scan.level :: scan.outer
  if levels.all (hasValidVariables environment) then
    pure { levels, environment }
  else
    throw .usage

/-- The names that lead from the program to the command. -/
def path (words : Words) : List String :=
  (words.levels.reverse.map (·.rule.name)).drop 1

/-- All values of an option of the command. -/
def values (words : Words) (name : String) : List String :=
  (words.levels.head?.map (·.values name)).getD []

/-- The value of an option: that of the innermost level which has one, or that of the
variable which stands in for it. -/
def value? (words : Words) (name : String) : Option String :=
  match words.levels.findSome? fun level => (level.values name).getLast? with
  | some value => some value
  | none =>
      words.levels.findSome? fun level =>
        (level.rule.options.find? (·.name == name)).bind fun rule =>
          rule.environmentName.bind (List.lookup · words.environment)

/-- Whether an option has a value. -/
def has (words : Words) (name : String) : Bool :=
  (words.value? name).isSome

/-- The operand of the command. -/
def operand? (words : Words) : Option String :=
  words.levels.head?.bind (·.operand)

end Words

end Testbed.Command
