import Testbed.Pool
import Testbed.Text.Quoted

/-!
# Rehearsals

This file supplies targets that follow a script instead of driving anything.
Every call leaves a line in a journal, also when the script lets it fail, so that
what a pool or a suite does with its targets can be read off afterwards.
-/

namespace Testbed.Rehearsal

/-- The surroundings of scripted targets. -/
structure Stage where
  /-- What happened, the latest line first. -/
  journal : List String := []
  /-- How many constructions were begun. -/
  begun : Nat := 0
  deriving Repr

/-- The lines of the journal in order. -/
def Stage.lines (stage : Stage) : List String :=
  stage.journal.reverse

/-- Leave a line in the journal. -/
def note (line : String) : Action Stage Unit :=
  .change fun stage => { stage with journal := line :: stage.journal }

/-- Leave a line in the journal, then fail if the script says so. -/
def noteThen (line : String) (failure : Option Error) : Action Stage Unit := do
  note line
  match failure with
  | some error => throw error
  | none => pure ()

/-! ## Texts of options -/

/-- An optional value as the journal shows it. -/
def optionText : Option String → String
  | none => "None"
  | some text => "Some(" ++ text ++ ")"

/-- The line that opening a session leaves. -/
def sessionLine (options : SessionOptions) : String :=
  " ".intercalate
    ["open", options.username,
     optionText (options.port.map fun port => toString port.toNat),
     optionText (options.identity.map Text.quoted), options.connectTimeout.render,
     toString options.retries, options.retryInterval.render]

/-- The line that a command in a session leaves. -/
def commandLine (command : String) (options : CommandOptions) : String :=
  " ".intercalate
    ["run", command, options.startTimeout.render, options.maxExecTime.render,
     toString options.separateStderr]

/-! ## Scripts -/

/-- How sessions go. -/
structure SessionScript where
  openFailure : Option Error := none
  closeFailure : Option Error := none
  replies : List (String × Result CommandOutput) := []

/-- How checks of reachability go. -/
structure PingScript where
  failure : Option Error := none
  lostFailure : Option Error := none

/-- The operations of a scripted target and how they go. -/
structure Role where
  name : Option String := none
  /-- Capabilities declared beside those of the operations. -/
  declared : List Capability := []
  exec : Option (List (String × Result ExecOutput)) := none
  transfer : Option (Option Error) := none
  sftp : Option (Option Error) := none
  restart : Option (Option Error) := none
  sessions : Option SessionScript := none
  pinger : Option PingScript := none
  teardown : Option (Option Error) := none

/-- Run a command: without a reply of its own it prints itself. -/
def runCommand (replies : List (String × Result ExecOutput)) (command : String) :
    Action Stage ExecOutput := do
  note ("exec " ++ command)
  .give ((replies.lookup command).getD
    (.ok { output := Text.Utf8.encode command }))

/-- Copying that leaves a line and fails as scripted. -/
def copying (failure : Option Error) : Transfer Stage :=
  { upload := fun localPath remotePath =>
      noteThen ("upload " ++ localPath ++ " " ++ remotePath) failure
    download := fun remotePath localPath =>
      noteThen ("download " ++ remotePath ++ " " ++ localPath) failure }

/-- Open a session as scripted: a command without a reply succeeds and prints nothing.
-/
def openSession (script : SessionScript) (options : SessionOptions) :
    Action Stage (Session Stage) := do
  noteThen (sessionLine options) script.openFailure
  pure
    { run := fun command options => do
        note (commandLine command options)
        .give ((script.replies.lookup command).getD (.ok {}))
      close := noteThen "close" script.closeFailure }

/-- Checks of reachability that leave a line and fail as scripted. -/
def reaching (script : PingScript) : Pinger Stage :=
  { ping := fun policy =>
      noteThen ("ping " ++ policyText policy) script.failure
    pingLost := fun policy =>
      noteThen ("ping_lost " ++ policyText policy) script.lostFailure }
where
  policyText (policy : PollPolicy) : String :=
    policy.timeout.render ++ " " ++ policy.interval.render

namespace Role

/-- Add to a rig what a script has something for. -/
def equip {α β : Type} (script : Option α) (add : β → α → β) (rig : β) : β :=
  match script with
  | some script => add rig script
  | none => rig

/-- The rig of a scripted target. -/
def rig (role : Role) (standardName : String) : Result (Rig Stage) :=
  let name := role.name.getD standardName
  let rig : Rig Stage := { name }
  let rig := equip role.exec (fun rig replies => rig.withExec (runCommand replies)) rig
  let rig := equip role.transfer
    (fun rig failure => rig.withFileTransfer (copying failure)) rig
  let rig := equip role.sftp (fun rig failure => rig.withSftp (copying failure)) rig
  let rig := equip role.restart
    (fun rig failure => rig.withRestart (noteThen "restart" failure)) rig
  let rig := equip role.sessions
    (fun rig script => rig.withSessions (openSession script)) rig
  let rig := equip role.pinger (fun rig script => rig.withPing (reaching script)) rig
  let rig := equip role.teardown
    (fun rig failure => rig.onTeardown (noteThen ("teardown " ++ name) failure)) rig
  (role.declared.foldl Rig.declare rig).check

end Role

/-! ## Factories -/

/-- The role of constructions that the script does not mention. -/
def silentRole : Role :=
  { teardown := some none }

/-- A factory that plays its script construction by construction. -/
def factory (name : String) (script : List (Result Role)) : Factory Stage :=
  { name
    create := do
      let index ← Action.observe Stage.begun
      Action.change fun stage => { stage with begun := index + 1 }
      note ("create " ++ toString index)
      let role ← .give (script[index]?.getD (.ok silentRole))
      .give (role.rig ("fake-" ++ toString index)) }

end Testbed.Rehearsal
