import Testbed.Host.Machine
import Testbed.Shell.Arithmetic
import Testbed.Shell.Printing
import Testbed.Text.Blank
import Testbed.Text.Utf8

/-!
# The shell of the host

This file supplies the running of shell scripts on the host.  A run gives what the
script writes, when, and how it ends; it may call the tools of the host and use
its files.  A script that would run for ever is given up after a great number of
commands.
-/

namespace Testbed.Shell

/-- Where the text written to an output goes. -/
inductive Stream where
  | output
  | errorOutput
  | discard
  | file (path : String)
  deriving DecidableEq, Repr

/-- The state of a running script. -/
structure Run where
  host : Host
  /-- The values of the variables. -/
  values : List (String × String) := []
  status : Nat := 0
  elapsed : Span := .zero
  /-- What was written, the latest first. -/
  emissions : List Emission := []
  output : Stream := .output
  errorOutput : Stream := .errorOutput

/-- The number under which a script knows its own process. -/
def ownProcess : String :=
  "4242"

/-- How the run goes on after a command. -/
inductive Flow where
  | next
  | leave (status : Nat)
  | killed (signal : Nat)
  | stays (stubborn : Bool)
  deriving DecidableEq, Repr

namespace Run

/-- The value of a variable; one that was never set is empty. -/
def value (run : Run) (name : String) : String :=
  (run.values.lookup name).getD ""

/-- Set a variable. -/
def assign (run : Run) (name value : String) : Run :=
  { run with values := (name, value) :: run.values.filter (·.1 ≠ name) }

/-- Set the status of the last command. -/
def withStatus (run : Run) (status : Nat) : Run :=
  { run with status }

/-- Write to a stream. -/
def emit (run : Run) (stream : Stream) (data : Octets) : Run :=
  match stream with
  | .discard => run
  | .output => { run with emissions := ⟨run.elapsed, false, data⟩ :: run.emissions }
  | .errorOutput => { run with emissions := ⟨run.elapsed, true, data⟩ :: run.emissions }
  | .file path =>
      let content := ((run.host.files.read path).toOption).getD []
      { run with
        host := { run.host with files := run.host.files.write path (content ++ data) } }

/-- Write to the output. -/
def print (run : Run) (octets : Octets) : Run :=
  run.emit run.output octets

/-- Write a line to the error output. -/
def complain (run : Run) (text : String) : Run :=
  run.emit run.errorOutput (Text.Utf8.encode (text ++ "\n"))

/-! ## Words -/

/-- A decimal number with blanks around it; what is none counts as zero. -/
def numberOf (text : String) : Int :=
  (Text.trim text).toInt?.getD 0

/-- The text that a piece of a word expands to. -/
def expandPiece (run : Run) : Piece → String
  | .text chars => String.ofList chars
  | .variable name => run.value name
  | .processId => ownProcess
  | .lastStatus => toString run.status
  | .arithmetic source =>
      match arithmetic? (fun name => numberOf (run.value name)) source with
      | some value => toString value
      | none => "0"

/-- The fields of a word: unquoted expansions are cut at blanks. -/
def fields (run : Run) (word : Word) : List String :=
  let (done, current) := word.foldl
    (fun (done, current) part =>
      let text := run.expandPiece part.piece
      let cuts :=
        match part.piece with
        | .text _ => false
        | _ => !part.quoted
      if cuts then
        match Text.pieces ' ' (text.toList.map fun char =>
            if char = '\n' ∨ char = '\t' then ' ' else char) with
        | [] => (done, current)
        | first :: rest =>
            rest.foldl
              (fun (done, current) piece =>
                (done ++ current.toList,
                  if piece.isEmpty then none else some (String.ofList piece)))
              (done,
                if first.isEmpty then current
                else some (current.getD "" ++ String.ofList first))
      else
        (done, some (current.getD "" ++ text)))
    (([] : List String), (none : Option String))
  done ++ current.toList

/-- A word as a single text. -/
def single (run : Run) (word : Word) : String :=
  String.join (word.map fun part => run.expandPiece part.piece)

/-- The assignment that a word is, if it is one. -/
def assignment? (word : Word) : Option (String × Word) :=
  match word with
  | ⟨.text chars, false⟩ :: rest =>
      let name := chars.takeWhile isNameChar
      match chars.head?.filter isNameStart, chars.drop name.length with
      | some _, '=' :: value =>
          some (String.ofList name,
            if value.isEmpty then rest else ⟨.text value, false⟩ :: rest)
      | _, _ => none
  | _ => none

/-! ## Commands that are built in -/

/-- The length of a sleep in seconds with a fraction; none for one without end. -/
def sleepSpan? (text : String) : Option Span :=
  if text = "infinity" then
    none
  else
    let chars := text.toList
    let whole := chars.takeWhile Char.isDigit
    let fraction := ((chars.drop (whole.length + 1)).takeWhile Char.isDigit).take 9
    some (.ofParts (Document.Json.digitsValue whole)
      (Document.Json.digitsValue (fraction ++ List.replicate (9 - fraction.length) '0')))

/-- Whether a test holds. -/
def holds (run : Run) : List String → Bool
  | "!" :: rest => !holds run rest
  | ["-z", text] => text = ""
  | ["-n", text] => text ≠ ""
  | ["-f", path] => run.host.files.isFile path
  | ["-d", path] => run.host.files.isFolder path
  | ["-e", path] | ["-r", path] => (run.host.files.find path).toOption.isSome
  | [first, "=", second] => first = second
  | [first, "!=", second] => first ≠ second
  | [first, "-eq", second] => numberOf first = numberOf second
  | [first, "-ne", second] => numberOf first ≠ numberOf second
  | [first, "-lt", second] => numberOf first < numberOf second
  | [first, "-le", second] => numberOf first ≤ numberOf second
  | [first, "-gt", second] => numberOf first > numberOf second
  | [first, "-ge", second] => numberOf first ≥ numberOf second
  | [text] => text ≠ ""
  | _ => false

/-- The number of a signal given by number or by name. -/
def signalNumber (text : String) : Nat :=
  match text.toNat? with
  | some number => number
  | none =>
      let name := if text.startsWith "SIG" then text else "SIG" ++ text
      ((ExitStatus.signalNames.find? (·.2 == name)).map (·.1)).getD 15

/-- Send a signal; the script can only mean itself. -/
def sendSignal (arguments : List String) (run : Run) : Flow × Run :=
  let signal :=
    match arguments with
    | "-s" :: name :: _ => signalNumber name
    | option :: _ :: _ =>
        if option.startsWith "-" then signalNumber (String.ofList (option.toList.drop 1))
        else 15
    | _ => 15
  if arguments.getLast? = some ownProcess ∧ signal ≠ 0 then
    (.killed signal, run)
  else
    (.next, run.withStatus (if signal = 0 then 0 else 1))

/-- Print files one after the other. -/
def printFiles (run : Run) (paths : List String) : Run :=
  paths.foldl
    (fun run path =>
      match run.host.files.read path with
      | .ok content => run.emit run.output content
      | .error fault =>
          let reason := fault.message.takeWhile (· ≠ '(')
          (run.complain ("cat: " ++ path ++ ": " ++ Text.trim reason.toString)).withStatus 1)
    (run.withStatus 0)

/-- Call a tool of the host. -/
def callTool (run : Run) (tool : String) (arguments : List String) : Flow × Run :=
  let (response, host) := run.host.call tool arguments
  let run := { run with host }
  let run := if response.stdout.isEmpty then run else run.emit run.output response.stdout
  let run := if response.stderr.isEmpty then run else run.emit run.errorOutput response.stderr
  match response.manner with
  | .exits code => (.next, run.withStatus code)
  | .hangs stubborn => (.stays stubborn, run)

/-- Run a command by its name. -/
def perform (run : Run) (name : String) (arguments : List String) : Flow × Run :=
  let done (run : Run) : Flow × Run := (.next, run.withStatus 0)
  match name, arguments with
  | "true", _ | ":", _ => done run
  | "false", _ => (.next, run.withStatus 1)
  | "exit", [] => (.leave run.status, run)
  | "exit", code :: _ => (.leave (numberOf code % 256).toNat, run)
  | "echo", "-n" :: rest => done (run.print (unescape (" ".intercalate rest)))
  | "echo", rest => done (run.print (unescape (" ".intercalate rest) ++ [0x0A]))
  | "printf", pattern :: rest =>
      done (run.print (format (fun text => toString (numberOf text)) pattern rest))
  | "kill", arguments => sendSignal arguments run
  | "cat", paths => (.next, run.printFiles paths)
  | "sleep", length :: _ =>
      match sleepSpan? length with
      | some span => done { run with elapsed := run.elapsed + span }
      | none => (.stays false, run)
  | "test", rest => (.next, run.withStatus (if run.holds rest then 0 else 1))
  | "[", rest =>
      if rest.getLast? = some "]" then
        (.next, run.withStatus (if run.holds rest.dropLast then 0 else 1))
      else
        (.next, (run.complain "sh: 1: [: missing ]").withStatus 2)
  | name, arguments =>
      if run.host.tools.contains name then
        run.callTool name arguments
      else
        (.next, (run.complain ("sh: 1: " ++ name ++ ": not found")).withStatus 127)

/-- Lead an output elsewhere. -/
def redirect (run : Run) (redirection : Redirection) : Run :=
  let set (stream : Stream) : Run :=
    if redirection.ofErrors then { run with errorOutput := stream }
    else { run with output := stream }
  match redirection.destination with
  | .output => set run.output
  | .errorOutput => set run.errorOutput
  | .input _ => run
  | .file path append =>
      let path := run.single path
      if path = "/dev/null" then set .discard
      else if path = "/dev/stdout" then set run.output
      else if path = "/dev/stderr" then set run.errorOutput
      else
        let run := set (.file path)
        if append then run
        else { run with host := { run.host with files := run.host.files.write path [] } }

/-- Run a simple command: its assignments, and its name and arguments. -/
def simple (run : Run) (words : List Word) (redirections : List Redirection) :
    Flow × Run :=
  let assigned := words.takeWhile fun word => (assignment? word).isSome
  let run := (assigned.filterMap assignment?).foldl
    (fun run (name, value) => run.assign name (run.single value)) run
  let arguments := (words.drop assigned.length).flatMap run.fields
  let redirected := redirections.foldl redirect run
  match arguments with
  | [] => (.next, run.withStatus 0)
  | ["exec"] => (.next, redirected.withStatus 0)
  | "exec" :: name :: arguments =>
      match redirected.perform name arguments with
      | (.next, run) => (.leave run.status, run)
      | other => other
  | name :: arguments =>
      let (flow, after) := redirected.perform name arguments
      (flow, { after with output := run.output, errorOutput := run.errorOutput })

/-- Go back to the outputs from before a group, and to the variables if it is
isolated. -/
def leaveGroup (after : Run) (isolated : Bool) (before : Run) : Run :=
  { after with
    output := before.output
    errorOutput := before.errorOutput
    values := if isolated then before.values else after.values }

end Run

/-! ## Running -/

mutual

/-- Run a list of commands. -/
def runList : Nat → Script → Run → Flow × Run
  | 0, _, run => (.stays false, run)
  | _ + 1, [], run => (.next, run)
  | fuel + 1, (joint, command) :: rest, run =>
      let skipped :=
        match joint with
        | .always => false
        | .onSuccess => run.status ≠ 0
        | .onFailure => run.status = 0
      if skipped then
        runList fuel rest run
      else
        match runCommand fuel command run with
        | (.next, run) => runList fuel rest run
        | other => other

/-- Run a command. -/
def runCommand : Nat → Command → Run → Flow × Run
  | 0, _, run => (.stays false, run)
  | fuel + 1, command, run =>
      match command with
      | .simple words redirections => run.simple words redirections
      | .loop whileSuccess condition body =>
          match runList fuel condition run with
          | (.next, run) =>
              if (run.status == 0) == whileSuccess then
                match runList fuel body run with
                | (.next, run) => runCommand fuel command run
                | other => other
              else
                (.next, run.withStatus 0)
          | other => other
      | .branch condition success failure =>
          match runList fuel condition run with
          | (.next, run) =>
              if run.status = 0 then runList fuel success run
              else runList fuel failure (run.withStatus 0)
          | other => other
      | .each name words body => runEach fuel name (words.flatMap run.fields) body run
      | .negated command =>
          match runCommand fuel command run with
          | (.next, run) => (.next, run.withStatus (if run.status = 0 then 1 else 0))
          | other => other
      | .group isolated body redirections =>
          match runList fuel body (redirections.foldl Run.redirect run) with
          | (.next, after) => (.next, after.leaveGroup isolated run)
          | (.leave status, after) =>
              if isolated then (.next, (after.withStatus status).leaveGroup true run)
              else (.leave status, after)
          | other => other

/-- Run a list of commands once for every value of a variable. -/
def runEach : Nat → String → List String → Script → Run → Flow × Run
  | 0, _, _, _, run => (.stays false, run)
  | _ + 1, _, [], _, run => (.next, run)
  | fuel + 1, name, value :: rest, body, run =>
      match runList fuel body (run.assign name value) with
      | (.next, run) => runEach fuel name rest body run
      | other => other

end

/-- The number of commands after which a script is given up. -/
def commandLimit : Nat :=
  100000

/-- Run a script on the host: the process it makes, and the host. -/
def start (source : String) (host : Host) : Process × Host :=
  match Script.read? source with
  | none =>
      ({ startedAt := host.clock
         emissions :=
           [⟨.zero, true, Text.Utf8.encode "sh: 1: Syntax error: unexpected token\n"⟩]
         ending := .exits (.code 2) .zero }, host)
  | some script =>
      let (flow, run) := runList commandLimit script { host }
      let ending :=
        match flow with
        | .next => .exits (.code run.status) run.elapsed
        | .leave status => .exits (.code status) run.elapsed
        | .killed signal => .exits (.signal signal) run.elapsed
        | .stays stubborn => .stays stubborn
      ({ startedAt := host.clock, emissions := run.emissions.reverse, ending }, run.host)

/-- Run the script in a file of the host; a folder has no commands. -/
def startFile (path : String) (host : Host) : Process × Host :=
  match host.files.read path with
  | .ok content => start (Text.Utf8.decode content) host
  | .error .isAFolder => start "" host
  | .error _ =>
      ({ startedAt := host.clock
         emissions :=
           [⟨.zero, true,
             Text.Utf8.encode ("sh: 0: cannot open " ++ path ++ ": No such file\n")⟩]
         ending := .exits (.code 2) .zero }, host)

end Testbed.Shell
