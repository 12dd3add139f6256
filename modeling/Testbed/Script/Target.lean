import Testbed.Script.Basic
import Testbed.Rehearsal

/-!
# Targets in scripts

This file supplies the calls of targets that scripts make, and the scripted
targets that rehearsals are made with.
-/

namespace Testbed.Script

/-! ## Targets -/

/-- A reply, or the failure that stands in for it. -/
def readReply {α : Type} (read : Document → α) (document : Document) : Result α :=
  match field? document "err" with
  | some error => .error (readError error)
  | none => .ok (read document)

/-- The replies by command. -/
def readReplies {α : Type} (read : Document → α) (document : Document) :
    List (String × Result α) :=
  match field document "replies" with
  | .table entries => entries.map fun (command, reply) => (command, readReply read reply)
  | _ => []

/-- A reply to a command that runs on the target. -/
def readExecOutput (document : Document) : ExecOutput :=
  { exitCode := asInt (field document "exit"), output := asOctets (field document "output") }

/-- A reply to a command that runs in a session. -/
def readCommandOutput (document : Document) : CommandOutput :=
  { exitCode := asInt (field document "exit")
    stdoutLines := texts document "stdout"
    stderrLines := texts document "stderr" }

/-- The role of a target that a script describes. -/
def readRole (document : Document) : Rehearsal.Role :=
  let failure (document : Document) (key : String) := (field? document key).map readError
  { name := (field? document "name").map asText
    declared := texts document "caps"
    exec := (field? document "exec").map (readReplies readExecOutput)
    transfer := (field? document "transfer").map (failure · "err")
    sftp := (field? document "sftp").map (failure · "err")
    restart := (field? document "restart").map (failure · "err")
    sessions := (field? document "sessions").map fun script =>
      { openFailure := failure script "open_err"
        closeFailure := failure script "close_err"
        replies := readReplies readCommandOutput script }
    pinger := (field? document "ping").map fun script =>
      { failure := failure script "err", lostFailure := failure script "lost_err" }
    teardown := (field? document "teardown").map (failure · "err") }

/-- The factory that a script describes. -/
def readFactory (document : Document) : Factory Rehearsal.Stage :=
  let name := ((field? document "name").map asText).getD "fake"
  Rehearsal.factory name ((items document "script").map (readReply readRole))

/-- Put an entry in place of any other of its key. -/
def setEntry (entries : List (String × Document)) (entry : String × Document) :
    List (String × Document) :=
  entries.filter (·.1 != entry.1) ++ [entry]

/-- The standard session options with some entries replaced. -/
def readSessionOptions (document : Document) : Option SessionOptions :=
  match ({} : SessionOptions).toDocument, document with
  | .table standard, .table entries =>
      SessionOptions.read .json (.table (entries.foldl setEntry standard))
  | standard, _ => SessionOptions.read .json standard

/-- The options of a command that a script describes. -/
def readCommandOptions (document : Document) : CommandOptions :=
  let standard : CommandOptions := {}
  let span (key : String) (standard : Span) :=
    match field? document key with
    | some millis => .ofMillis (asNat millis)
    | none => standard
  let flag (key : String) := ((field? document key).map asBool).getD true
  { startTimeout := span "start_ms" standard.startTimeout
    maxExecTime := span "max_ms" standard.maxExecTime
    separateStderr := flag "separate"
    verbose := flag "verbose" }

/-- What a command in a session leaves behind. -/
def commandAnswer (output : CommandOutput) : Document :=
  .table
    [("exit", .int output.exitCode), ("stdout", .texts output.stdoutLines),
     ("stderr", .texts output.stderrLines), ("timed_out", .bool output.timedOut),
     ("all_stdout", .text output.stdout), ("all_stderr", .text output.stderr)]

variable {σ : Type}

/-- A call on a session. -/
def sessionStep (session : Session σ) (step : Document) : Action σ Document :=
  match asItems step with
  | .text "run" :: command :: options =>
      commandAnswer <$> session.run (asText command)
        (readCommandOptions ((options.head?).getD .null))
  | [.text "exit", command] => Document.int <$> session.exitCode (asText command)
  | _ => throw (.internal "bad session step")

/-- An action whose result is nothing. -/
def quiet (action : Action σ Unit) : Action σ Document := do
  action
  pure .null

/-- A step that needs only the target and its surroundings. -/
def targetAction (target : Target σ) (step : Document) : Action σ Document :=
  match asItems step with
  | [.text "execute", command] => do
      let output ← target.execute (asText command)
      pure (.table
        [("exit", .int output.exitCode), ("success", .bool output.success),
         ("bytes", .text (Text.Hex.encode output.output)), ("text", .text output.text)])
  | [.text "upload", localPath, remotePath] =>
      quiet (target.upload (asText localPath) (asText remotePath))
  | [.text "download", remotePath, localPath] =>
      quiet (target.download (asText remotePath) (asText localPath))
  | [.text "restart"] => quiet target.restart
  | [.text "ping", millis] => quiet (target.ping { timeout := .ofMillis (asNat millis) })
  | [.text "ping_lost", millis, interval] =>
      quiet (target.pingLost
        { timeout := .ofMillis (asNat millis), interval := .ofMillis (asNat interval) })
  | .text "session" :: steps :: options =>
      match readSessionOptions ((options.head?).getD .null) with
      | some options =>
          target.withSession options fun session =>
            Document.list <$> (asItems steps).mapM (sessionStep session)
      | none => throw (.json "")
  | [.text "name"] => pure (.text target.name)
  | [.text "caps"] => pure (.texts target.capabilities.names)
  | [.text "has", capability] => pure (.bool (target.has (asText capability)))
  | [.text "has_all", capabilities] =>
      pure (.bool (target.hasAll (.ofList ((asItems capabilities).map asText))))
  | [.text "has_any", capabilities] =>
      pure (.bool (target.hasAny (.ofList ((asItems capabilities).map asText))))
  | _ => throw (.internal "bad target step")

/-- A call on a target. -/
def targetStep (target : Target σ) (site : Site σ) (step : Document) :
    Result Document × Site σ :=
  match asItems step with
  | [.text "teardown"] =>
      let (result, site) := site.teardown target
      (result.map fun _ => .null, site)
  | [.text "is_torn_down"] => (.ok (.bool (site.isTornDown target)), site)
  | _ => site.perform (targetAction target step)

/-- Run steps in order: the results and what is left. -/
def eachStep {α : Type} (run : α → Document → Result Document × α) (start : α)
    (steps : List Document) : List Document × α :=
  let (answers, state) := steps.foldl
    (fun (answers, state) step =>
      let (result, state) := run state step
      (stepResult result :: answers, state))
    ([], start)
  (answers.reverse, state)

end Testbed.Script
