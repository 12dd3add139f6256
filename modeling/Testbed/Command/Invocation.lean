import Testbed.Command.Listing
import Testbed.Command.Option
import Testbed.RunConfig

/-!
# Invocations

This file supplies the options and commands of the program, and the invocation that
the words of a call make: settings that hold for every command, and the command with
its arguments.
-/

namespace Testbed.Command

/-- Arguments of a capture. -/
structure CaptureArguments where
  /-- The local address to receive datagrams on. -/
  udp : Option Net.Endpoint := none
  /-- The daemon to connect to. -/
  tcp : Option Net.Endpoint := none
  multicast : List Net.Ipv4 := []
  receiver : Option String := none
  filter : Option String := none
  terms : List String := []
  /-- How long the capture goes on. -/
  duration : Span := .ofSeconds 10
  /-- How many frames that the query selects end the capture. -/
  count : Option Nat := none

/-- A command with its arguments. -/
inductive Task where
  | capture (arguments : CaptureArguments)
  | readTrace (file : String) (terms : List String) (limit : Option Nat)
  | checkConfig (machine : Option String)
  | showConfig
  | listCapabilities (known preflight : Bool)
  | version

/-- A command and the settings that hold for every command. -/
structure Invocation where
  /-- The file of the run configuration. -/
  config : String
  scope : Option Scope
  format : Format
  task : Task

/-! ## Values -/

/-- A natural number below `2 ^ 64`, perhaps with a plus sign. -/
def readCount? (text : String) : Option Nat :=
  let digits :=
    match text.toList with
    | '+' :: rest => rest
    | chars => chars
  if digits.isEmpty ∨ !digits.all Char.isDigit then
    none
  else
    let value := Document.Json.digitsValue digits
    if value < 0x10000000000000000 then some value else none

/-- Whether a value is a count. -/
def isCount (text : String) : Bool :=
  (readCount? text).isSome

/-- Whether a value is a path, which is any text but the empty one. -/
def isPath (text : String) : Bool :=
  text ≠ ""

/-- Whether a value is an address and a port. -/
def isEndpoint (text : String) : Bool :=
  (Net.Endpoint.parse? text).isSome

/-- Whether a value is the address of a group. -/
def isGroup (text : String) : Bool :=
  (Net.Ipv4.parse? text).isSome

/-- Whether a value is a scope. -/
def isScope (text : String) : Bool :=
  (Scope.ofText text).toOption.isSome

/-- Whether a value is a format. -/
def isFormat (text : String) : Bool :=
  (Format.words.lookup text).isSome

/-! ## The program -/

/-- The options that every command has. -/
def globalOptions : List OptionRule :=
  [{ name := "config", letter := some 'c', accepts := isPath,
     environmentName := some "ITF_CONFIG" },
   { name := "target-scope", accepts := isScope,
     environmentName := some RunConfig.scopeVariable },
   { name := "format", accepts := isFormat },
   { name := "verbose", letter := some 'v', takesValue := false }]

/-- The option for a term of a query. -/
def queryOption : OptionRule :=
  { name := "query", letter := some 'q', repeats := true }

/-- The command that listens to traffic. -/
def captureRule : CommandRule :=
  { name := "capture"
    options :=
      [{ name := "udp", accepts := isEndpoint, excludes := some "tcp" },
       { name := "tcp", accepts := isEndpoint },
       { name := "multicast", repeats := true, accepts := isGroup },
       { name := "receiver", accepts := isPath }, { name := "filter" }, queryOption,
       { name := "duration", accepts := isCount },
       { name := "count", accepts := isCount }] ++ globalOptions }

/-- The command that lists a file. -/
def readTraceRule : CommandRule :=
  { name := "parse"
    options := [queryOption, { name := "limit", accepts := isCount }] ++ globalOptions
    operand := some isPath }

/-- The command that checks the run configuration. -/
def checkConfigRule : CommandRule :=
  { name := "check"
    options := { name := "qemu", accepts := isPath } :: globalOptions }

/-- The command that lists capabilities. -/
def capabilitiesRule : CommandRule :=
  { name := "capabilities"
    options :=
      [{ name := "known", takesValue := false },
       { name := "preflight", takesValue := false }] ++ globalOptions }

/-- The name of the program. -/
def programName : String :=
  "itf"

/-- The program with all its commands. -/
def programRule : CommandRule :=
  { name := programName
    options := globalOptions
    commands :=
      [{ name := "dlt", options := globalOptions,
         commands := [captureRule, readTraceRule] },
       { name := "config", options := globalOptions,
         commands := [checkConfigRule, { name := "show", options := globalOptions }] },
       capabilitiesRule, { name := "version", options := globalOptions }] }

/-! ## Reading -/

/-- The arguments of the command that listens to traffic; it listens for ten seconds
unless told otherwise. -/
def readCapture (words : Words) : CaptureArguments :=
  let seconds := (words.value? "duration").bind readCount?
  { udp := (words.value? "udp").bind Net.Endpoint.parse?
    tcp := (words.value? "tcp").bind Net.Endpoint.parse?
    multicast := (words.values "multicast").filterMap Net.Ipv4.parse?
    receiver := words.value? "receiver"
    filter := words.value? "filter"
    terms := words.values "query"
    duration := .ofSeconds (seconds.getD 10)
    count := (words.value? "count").bind readCount? }

/-- The command that words name. -/
def readTask (words : Words) : Option Task :=
  match words.path with
  | ["dlt", "capture"] => some (.capture (readCapture words))
  | ["dlt", "parse"] =>
      words.operand?.map fun file =>
        .readTrace file (words.values "query") ((words.value? "limit").bind readCount?)
  | ["config", "check"] => some (.checkConfig (words.value? "qemu"))
  | ["config", "show"] => some .showConfig
  | ["capabilities"] =>
      some (.listCapabilities (words.has "known") (words.has "preflight"))
  | ["version"] => some .version
  | _ => none

/-- The file of the run configuration unless another is named. -/
def defaultConfig : String :=
  "itf.toml"

/-- Read an invocation. -/
def Invocation.read (environment : List (String × String)) (words : List String) :
    Except Stop Invocation := do
  let words ← Words.read programRule environment words
  match readTask words with
  | none => throw .usage
  | some task =>
      pure
        { config := (words.value? "config").getD defaultConfig
          scope := (words.value? "target-scope").bind fun text =>
            (Scope.ofText text).toOption
          format := ((words.value? "format").bind (List.lookup · Format.words)).getD .table
          task }

end Testbed.Command
