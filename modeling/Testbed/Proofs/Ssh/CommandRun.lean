import Mathlib.Data.List.TakeWhile
import Testbed.Ssh

/-!
# What is reported of a remote command

This file supplies that the report on a remote command says what happened to it, in whatever
order its client's events come.  What counts is what comes in time, which is before the
deadline.  Each output goes its own way there: its lines are those of the chunks that are read
before it is closed, and neither the other output nor the client's end makes a difference to
them.

One thing is told wrong.  A client that ends in time, but by a signal, has no exit code, and
gets the one that stands for a missed deadline.
-/

namespace Testbed.Ssh

/-! ## Events in time -/

/-- The events before the deadline. -/
def inTime (events : List ClientEvent) : List ClientEvent :=
  events.takeWhile (· ≠ .deadline)

/-- Both outputs are closed and the client ends. -/
structure Finishes (events : List ClientEvent) : Prop where
  stdout : .stdoutClosed ∈ events
  stderr : .stderrClosed ∈ events
  client : ∃ status, .ended status ∈ events

/-- The deadline passes before the command has finished. -/
structure CutOff (events : List ClientEvent) : Prop where
  deadline : .deadline ∈ events
  early : ¬ Finishes (inTime events)

/-- The status that an event brings. -/
def ClientEvent.status? : ClientEvent → Option ExitStatus
  | ended status => some status
  | _ => none

/-- How the client ends in time. -/
def ending? (events : List ClientEvent) : Option ExitStatus :=
  (inTime events).findSome? ClientEvent.status?

/-- The command finishes in time, but a signal ends its client. -/
structure Killed (events : List ClientEvent) : Prop where
  inTime : ¬ CutOff events
  signal : ∃ number, ending? events = some (.signal number)

theorem inTime_of_not_mem {events : List ClientEvent} (noDeadline : .deadline ∉ events) :
    inTime events = events := by
  rw [inTime, List.takeWhile_eq_self_iff]
  intro event mem
  exact decide_eq_true (ne_of_mem_of_not_mem mem noDeadline)

theorem inTime_append {front : List ClientEvent} (noDeadline : .deadline ∉ front)
    (behind : List ClientEvent) : inTime (front ++ .deadline :: behind) = front := by
  rw [inTime, List.takeWhile_append_of_pos, List.takeWhile_cons_of_neg, List.append_nil]
  · simp
  · intro event mem
    exact decide_eq_true (ne_of_mem_of_not_mem mem noDeadline)

theorem not_mem_inTime (events : List ClientEvent) : .deadline ∉ inTime events := by
  intro mem
  have early := List.mem_takeWhile_imp mem
  simp at early

/-! ## Outputs -/

/-- One of the two outputs of a client. -/
inductive Output where
  | stdout
  | stderr

namespace Output

/-- The event that closes an output. -/
def closing : Output → ClientEvent
  | stdout => .stdoutClosed
  | stderr => .stderrClosed

/-- The chunk of an output that an event brings. -/
def chunk? : Output → ClientEvent → Option Octets
  | stdout, .stdout chunk => some chunk
  | stderr, .stderr chunk => some chunk
  | _, _ => none

/-- The chunks of an output up to its closing. -/
def chunks (output : Output) (events : List ClientEvent) : List Octets :=
  (events.takeWhile (· ≠ output.closing)).filterMap output.chunk?

/-- The lines of an output that are read in time. -/
def lines (output : Output) (events : List ClientEvent) : List String :=
  Text.LineSplitter.lines (output.chunks (inTime events))

/-- What an event makes of an output. -/
def take (output : Output) (state : ClientOutput) (event : ClientEvent) : ClientOutput :=
  if event = output.closing then
    state.close
  else
    match output.chunk? event with
    | some chunk => state.read chunk
    | none => state

end Output

namespace ClientOutput

variable {state : ClientOutput}

theorem read_of_closed (closed : state.isOpen = false) (chunk : Octets) :
    state.read chunk = state := by
  rw [read, closed, if_neg Bool.false_ne_true]

theorem close_of_closed (closed : state.isOpen = false) : state.close = state := by
  rw [close, ← closed]

theorem isOpen_read (state : ClientOutput) (chunk : Octets) :
    (state.read chunk).isOpen = state.isOpen := by
  rw [read]
  split <;> rfl

/-- The lines of an open output that reads chunks are the lines of these. -/
theorem allLines_foldl_read (isOpen : state.isOpen = true) (chunks : List Octets) :
    (chunks.foldl read state).allLines =
      let (lines, splitter) := chunks.foldl
        (fun (lines, splitter) chunk =>
          let (more, splitter) := Text.LineSplitter.push splitter chunk
          (lines ++ more, splitter))
        (state.lines, state.splitter)
      lines ++ splitter.finish?.toList := by
  induction chunks generalizing state with
  | nil => rfl
  | cons chunk chunks ih =>
      rw [List.foldl_cons, List.foldl_cons, ih ((isOpen_read state chunk).trans isOpen), read,
        if_pos isOpen]

end ClientOutput

namespace Output

variable {output : Output} {state : ClientOutput}

theorem take_of_closed (closed : state.isOpen = false) (event : ClientEvent) :
    output.take state event = state := by
  rw [take]
  split
  next => exact ClientOutput.close_of_closed closed
  next =>
    split
    next chunk _ => exact ClientOutput.read_of_closed closed chunk
    next => rfl

theorem foldl_take_of_closed (closed : state.isOpen = false) (events : List ClientEvent) :
    events.foldl output.take state = state := by
  induction events with
  | nil => rfl
  | cons event events ih => rw [List.foldl_cons, take_of_closed closed, ih]

theorem chunks_cons_closing (output : Output) (events : List ClientEvent) :
    output.chunks (output.closing :: events) = [] := by
  rw [chunks, List.takeWhile_cons_of_neg (by simp), List.filterMap_nil]

theorem chunks_cons_of_ne {event : ClientEvent} (other : event ≠ output.closing)
    (events : List ClientEvent) :
    output.chunks (event :: events) = (output.chunk? event).toList ++ output.chunks events := by
  rw [chunks, List.takeWhile_cons_of_pos (by simpa using other), List.filterMap_cons, chunks]
  cases output.chunk? event <;> rfl

/-- An open output takes in its own chunks, and is closed if that is among the events. -/
theorem foldl_take (isOpen : state.isOpen = true) (events : List ClientEvent) :
    events.foldl output.take state =
      { (output.chunks events).foldl ClientOutput.read state with
        isOpen := decide (output.closing ∉ events) } := by
  induction events generalizing state with
  | nil =>
      rw [List.foldl_nil]
      simp [chunks, ← isOpen]
  | cons event events ih =>
      rw [List.foldl_cons]
      by_cases closes : event = output.closing
      · subst closes
        rw [take, if_pos rfl, foldl_take_of_closed rfl, chunks_cons_closing]
        simp [ClientOutput.close]
      · have stays : (output.closing ∉ event :: events) = (output.closing ∉ events) := by
          simp [Ne.symm closes]
        rw [take, if_neg closes, chunks_cons_of_ne closes, List.foldl_append]
        simp only [stays]
        cases output.chunk? event with
        | none => exact ih isOpen
        | some chunk => exact ih ((ClientOutput.isOpen_read state chunk).trans isOpen)

/-- The lines of an output are those of its chunks. -/
theorem allLines_foldl_take (output : Output) (events : List ClientEvent) :
    (events.foldl output.take {}).allLines = Text.LineSplitter.lines (output.chunks events) := by
  rw [foldl_take rfl]
  exact ClientOutput.allLines_foldl_read rfl _

end Output

/-! ## Runs -/

namespace CommandRun

variable {run : CommandRun}

theorem closed_of_not_isReading (closed : run.isReading = false) :
    run.stdout.isOpen = false ∧ run.stderr.isOpen = false :=
  Bool.or_eq_false_iff.mp closed

/-- Closed outputs have nothing to take in, so that waiting is no other than reading. -/
theorem await_eq_read (closed : run.isReading = false) (event : ClientEvent) :
    run.await event = run.read event := by
  rcases closed_of_not_isReading closed with ⟨stdout, stderr⟩
  cases event <;>
    simp [await, read, ClientOutput.read_of_closed, ClientOutput.close_of_closed, stdout, stderr]

theorem step_of_isOver (ended : run.isOver = true) (event : ClientEvent) : run.step event = run :=
  if_pos ended

theorem step_of_not_isOver (going : run.isOver = false) (event : ClientEvent) :
    run.step event = run.read event := by
  rw [step, going, if_neg Bool.false_ne_true]
  split
  next => rfl
  next closed => exact await_eq_read (Bool.not_eq_true _ ▸ closed) event

/-- An event in time changes what it is about, and nothing if that has come to its end. -/
theorem step_eq (going : run.timedOut = false) {event : ClientEvent}
    (early : event ≠ .deadline) :
    run.step event =
      { stdout := Output.stdout.take run.stdout event
        stderr := Output.stderr.take run.stderr event
        status := run.status.or event.status?
        timedOut := false } := by
  rcases run with ⟨stdout, stderr, status, _⟩
  subst going
  cases state : isOver ⟨stdout, stderr, status, false⟩ with
  | true =>
      rw [step_of_isOver state]
      rw [isOver, Bool.false_or, Bool.and_eq_true, Bool.not_eq_true'] at state
      rcases state with ⟨closed, ended⟩
      rcases closed_of_not_isReading closed with ⟨stdoutClosed, stderrClosed⟩
      rcases Option.isSome_iff_exists.mp ended with ⟨first, rfl⟩
      rw [Output.take_of_closed stdoutClosed, Output.take_of_closed stderrClosed]
      rfl
  | false =>
      rw [step_of_not_isOver state]
      cases event with
      | deadline => exact absurd rfl early
      | _ =>
          simp [read, noteEnd, Output.take, Output.closing, Output.chunk?, ClientEvent.status?]

/-- Events in time change what each of them is about. -/
theorem foldl_step_eq (going : run.timedOut = false) {events : List ClientEvent}
    (early : .deadline ∉ events) :
    events.foldl step run =
      { stdout := events.foldl Output.stdout.take run.stdout
        stderr := events.foldl Output.stderr.take run.stderr
        status := run.status.or (events.findSome? ClientEvent.status?)
        timedOut := false } := by
  induction events generalizing run with
  | nil =>
      rw [← going]
      simp
  | cons event events ih =>
      rw [List.mem_cons, not_or] at early
      rw [List.foldl_cons, step_eq going (Ne.symm early.1), ih rfl early.2, List.findSome?_cons,
        List.foldl_cons, List.foldl_cons, Option.or_assoc]
      cases event.status? <;> rfl

theorem foldl_step_of_isOver (ended : run.isOver = true) (events : List ClientEvent) :
    events.foldl step run = run := by
  induction events with
  | nil => rfl
  | cons event events ih => rw [List.foldl_cons, step_of_isOver ended, ih]

/-! ## From the beginning to the end -/

variable {events : List ClientEvent}

theorem ofEvents_of_early (early : .deadline ∉ events) :
    ofEvents events =
      { stdout := events.foldl Output.stdout.take {}
        stderr := events.foldl Output.stderr.take {}
        status := events.findSome? ClientEvent.status?
        timedOut := false } :=
  foldl_step_eq rfl early

theorem isSome_findSome?_status?_iff :
    (events.findSome? ClientEvent.status?).isSome = true ↔ ∃ status, .ended status ∈ events := by
  rw [List.findSome?_isSome_iff]
  constructor
  · rintro ⟨event, mem, ends⟩
    cases event with
    | ended status => exact ⟨status, mem⟩
    | _ => contradiction
  · rintro ⟨status, mem⟩
    exact ⟨.ended status, mem, rfl⟩

theorem isOver_of_early_iff (early : .deadline ∉ events) :
    (ofEvents events).isOver = true ↔ Finishes events := by
  rw [ofEvents_of_early early, isOver, isReading, Output.foldl_take rfl, Output.foldl_take rfl]
  simp only [Bool.false_or, Bool.and_eq_true, Bool.not_or, Bool.not_eq_true',
    decide_eq_false_iff_not, not_not, isSome_findSome?_status?_iff]
  constructor
  · rintro ⟨⟨stdout, stderr⟩, client⟩
    exact ⟨stdout, stderr, client⟩
  · rintro ⟨stdout, stderr, client⟩
    exact ⟨⟨stdout, stderr⟩, client⟩

theorem finishes_of_not_cutOff (ends : .deadline ∈ events ∨ Finishes events)
    (whole : ¬ CutOff events) : Finishes (inTime events) := by
  by_cases deadline : .deadline ∈ events
  · by_contra early
    exact whole ⟨deadline, early⟩
  · rw [inTime_of_not_mem deadline]
    exact ends.resolve_left deadline

/-- The deadline ends a run that is not over. -/
theorem ofEvents_of_cutOff (cutOff : CutOff events) :
    ofEvents events = { ofEvents (inTime events) with timedOut := true } := by
  rcases cutOff with ⟨deadline, early⟩
  rcases List.eq_append_cons_of_mem deadline with ⟨front, behind, rfl, noDeadline⟩
  rw [inTime_append noDeadline] at early ⊢
  -- What comes before the deadline has not ended the run, so the deadline does.
  have going : (ofEvents front).isOver = false := by
    rw [← Bool.not_eq_true, isOver_of_early_iff noDeadline]
    exact early
  rw [ofEvents, List.foldl_append, List.foldl_cons]
  change List.foldl step ((ofEvents front).step .deadline) behind = _
  rw [step_of_not_isOver going]
  exact foldl_step_of_isOver rfl behind

/-- A deadline that passes after the end makes no difference. -/
theorem ofEvents_of_not_cutOff (whole : ¬ CutOff events) :
    ofEvents events = ofEvents (inTime events) := by
  by_cases deadline : .deadline ∈ events
  · have ended := (isOver_of_early_iff (not_mem_inTime events)).mpr
      (finishes_of_not_cutOff (.inl deadline) whole)
    rcases List.eq_append_cons_of_mem deadline with ⟨front, behind, rfl, noDeadline⟩
    rw [inTime_append noDeadline] at ended ⊢
    rw [ofEvents, List.foldl_append]
    exact foldl_step_of_isOver ended _
  · rw [inTime_of_not_mem deadline]

theorem isOver_ofEvents_iff :
    (ofEvents events).isOver = true ↔ .deadline ∈ events ∨ Finishes events := by
  by_cases cutOff : CutOff events
  · rw [ofEvents_of_cutOff cutOff]
    exact iff_of_true rfl (.inl cutOff.deadline)
  · rw [ofEvents_of_not_cutOff cutOff, isOver_of_early_iff (not_mem_inTime events)]
    constructor
    · intro finishes
      by_cases deadline : .deadline ∈ events
      · exact .inl deadline
      · rw [inTime_of_not_mem deadline] at finishes
        exact .inr finishes
    · intro ends
      exact finishes_of_not_cutOff ends cutOff

/-- What comes in time makes of each output and of the client what is about it, and the deadline
cuts the rest off. -/
theorem ofEvents_eq (events : List ClientEvent) [Decidable (CutOff events)] :
    ofEvents events =
      { stdout := (inTime events).foldl Output.stdout.take {}
        stderr := (inTime events).foldl Output.stderr.take {}
        status := ending? events
        timedOut := decide (CutOff events) } := by
  have early := ofEvents_of_early (not_mem_inTime events)
  by_cases cutOff : CutOff events
  · rw [ofEvents_of_cutOff cutOff, early, decide_eq_true cutOff, ending?]
  · rw [ofEvents_of_not_cutOff cutOff, early, decide_eq_false cutOff, ending?]

/-! ## Reports -/

/-- The report with an exit code on what was read in time. -/
def reportOf (options : CommandOptions) (events : List ClientEvent) (exitCode : Int) :
    CommandOutput :=
  { exitCode
    stdoutLines := Output.stdout.lines events
    stderrLines := if options.separateStderr then Output.stderr.lines events else [] }

/-- The failure of the client, with what it wrote about it. -/
def failureOf (host : String) (events : List ClientEvent) : Error :=
  .connection
    ("ssh to " ++ host ++ " failed: " ++ Text.trim (String.join (Output.stderr.lines events)))

variable (host : String) (options : CommandOptions)

theorem result_eq (events : List ClientEvent) [Decidable (CutOff events)] :
    (ofEvents events).result host options =
      let exitCode :=
        if CutOff events then exitTimedOut
        else ((ending? events).bind ExitStatus.code?).getD exitTimedOut
      if exitCode = clientFailure then .error (failureOf host events)
      else .ok (reportOf options events exitCode) := by
  rw [ofEvents_eq, result]
  simp only [Output.allLines_foldl_take, decide_eq_true_eq]
  rfl

theorem natCast_eq_clientFailure (number : Nat) : (number : Int) = clientFailure ↔ number = 255 :=
  Int.ofNat_inj

theorem exitTimedOut_ne : exitTimedOut ≠ clientFailure := by
  decide

theorem result_of_cutOff (cutOff : CutOff events) :
    (ofEvents events).result host options = .ok (reportOf options events exitTimedOut) := by
  classical
  rw [result_eq, if_pos cutOff]
  exact if_neg exitTimedOut_ne

theorem result_of_code {number : Nat} (whole : ¬ CutOff events)
    (ends : ending? events = some (.code number)) :
    (ofEvents events).result host options =
      if number = 255 then .error (failureOf host events)
      else .ok (reportOf options events number) := by
  classical
  rw [result_eq, if_neg whole, ends, Option.bind_some, ExitStatus.code?, Option.getD_some]
  simp only [natCast_eq_clientFailure]

theorem result_of_killed (killed : Killed events) :
    (ofEvents events).result host options = .ok (reportOf options events exitTimedOut) := by
  classical
  rcases killed with ⟨whole, number, ends⟩
  rw [result_eq, if_neg whole, ends]
  exact if_neg exitTimedOut_ne

theorem exists_ending_of_not_cutOff (ends : .deadline ∈ events ∨ Finishes events)
    (whole : ¬ CutOff events) : ∃ status, ending? events = some status :=
  Option.isSome_iff_exists.mp
    (isSome_findSome?_status?_iff.mpr (finishes_of_not_cutOff ends whole).client)

/-- What the result of a command says about its events, whatever they are. -/
structure Tells (options : CommandOptions) (events : List ClientEvent)
    (result : Result CommandOutput) : Prop where
  timedOut_iff : (∃ output, result = .ok output ∧ output.timedOut = true) ↔
    CutOff events ∨ Killed events
  failed_iff : (∃ message, result = .error (.connection message)) ↔
    ¬ CutOff events ∧ ending? events = some (.code 255)
  exitCode : ¬ CutOff events → ∀ number, ending? events = some (.code number) → number ≠ 255 →
    ∃ output, result = .ok output ∧ output.exitCode = number
  stdout : ∀ output, result = .ok output → output.stdoutLines = Output.stdout.lines events
  stderr : ∀ output, result = .ok output → output.stderrLines =
    if options.separateStderr then Output.stderr.lines events else []

theorem not_killed_of_code {number : Nat} (ends : ending? events = some (.code number)) :
    ¬ Killed events := by
  rintro ⟨-, signal, other⟩
  rw [ends] at other
  cases other

variable {options}

theorem Tells.of_report {exitCode : Int}
    (timedOut : exitCode = exitTimedOut ↔ CutOff events ∨ Killed events)
    (code : ¬ CutOff events → ∀ number, ending? events = some (.code number) →
      number ≠ 255 ∧ exitCode = number) :
    Tells options events (.ok (reportOf options events exitCode)) := by
  constructor
  · rw [← timedOut]
    simp [CommandOutput.timedOut, reportOf]
  · apply iff_of_false
    · rintro ⟨message, failed⟩
      contradiction
    · rintro ⟨whole, failed⟩
      exact (code whole 255 failed).1 rfl
  · intro whole number ends _
    exact ⟨_, rfl, (code whole number ends).2⟩
  · rintro _ ⟨⟩
    rfl
  · rintro _ ⟨⟩
    rfl

theorem Tells.of_failure (whole : ¬ CutOff events) (failed : ending? events = some (.code 255)) :
    Tells options events (.error (failureOf host events)) := by
  constructor
  · apply iff_of_false
    · rintro ⟨output, reported, -⟩
      contradiction
    · exact not_or.mpr ⟨whole, not_killed_of_code failed⟩
  · exact iff_of_true ⟨_, rfl⟩ ⟨whole, failed⟩
  · intro _ number ends other
    rw [failed] at ends
    cases ends
    exact absurd rfl other
  · rintro _ ⟨⟩
  · rintro _ ⟨⟩

theorem tells_result (options : CommandOptions) (ends : .deadline ∈ events ∨ Finishes events) :
    Tells options events ((ofEvents events).result host options) := by
  by_cases cutOff : CutOff events
  · rw [result_of_cutOff host options cutOff]
    exact .of_report (iff_of_true rfl (.inl cutOff)) fun whole => absurd cutOff whole
  · rcases exists_ending_of_not_cutOff ends cutOff with ⟨number | number, status⟩
    · rw [result_of_code host options cutOff status]
      by_cases failed : number = 255
      · rw [failed] at status
        rw [if_pos failed]
        exact .of_failure host cutOff status
      · rw [if_neg failed]
        apply Tells.of_report
        · apply iff_of_false
          · rw [exitTimedOut]
            omega
          · exact not_or.mpr ⟨cutOff, not_killed_of_code status⟩
        · intro _ other ends
          rw [status] at ends
          cases ends
          exact ⟨failed, rfl⟩
    · have killed : Killed events := ⟨cutOff, number, status⟩
      rw [result_of_killed host options killed]
      apply Tells.of_report (iff_of_true rfl (.inr killed))
      intro _ code ends
      rw [status] at ends
      cases ends

/-- A run of events is over once the deadline passes, or both outputs are closed and the client
has ended.  Its result then tells what happened, and that the command missed its deadline
exactly if it did, unless a signal ended the client in time. -/
theorem result_tells (host : String) (options : CommandOptions) (events : List ClientEvent)
    (ends : .deadline ∈ events ∨ Finishes events) :
    let result := (ofEvents events).result host options
    (ofEvents events).isOver = true ∧ Tells options events result ∧
      (((∃ output, result = .ok output ∧ output.timedOut = true) ↔ CutOff events) ↔
        ¬ Killed events) := by
  intro result
  have tells := tells_result host options ends
  refine ⟨isOver_ofEvents_iff.mpr ends, tells, ?_⟩
  rw [tells.timedOut_iff]
  constructor
  · intro truthful killed
    exact killed.inTime (truthful.mp (.inr killed))
  · intro whole
    exact or_iff_left whole

theorem result_tells_interleaved :
    let events : List ClientEvent :=
      [.stdout [0x61, 0x0A], .stderr [0x62], .ended (.code 3), .stderrClosed, .stdout [0x63],
        .stdoutClosed]
    let result := (ofEvents events).result "127.0.0.1" {}
    result = .ok { exitCode := 3, stdoutLines := ["a\n", "c"], stderrLines := ["b"] } ∧
      Tells {} events result :=
  ⟨rfl, (result_tells "127.0.0.1" {} _ (.inr ⟨by decide, by decide, .code 3, by decide⟩)).2.1⟩

/-- A command whose client is killed long before the deadline is reported to have missed it. -/
theorem timedOut_of_killed :
    let events : List ClientEvent := [.stdoutClosed, .stderrClosed, .ended (.signal 9)]
    let output : CommandOutput := { exitCode := -1 }
    ¬ CutOff events ∧ (ofEvents events).result "127.0.0.1" {} = .ok output ∧
      output.timedOut = true :=
  ⟨fun cutOff => absurd cutOff.deadline (by decide), rfl, rfl⟩

/-! ## Clients that are processes -/

/-- A process ends in time, or else the deadline passes. -/
theorem ends_clientEvents (process : Process) (deadline : Span) :
    .deadline ∈ clientEvents process deadline ∨ Finishes (clientEvents process deadline) := by
  rw [clientEvents]
  cases process.ending with
  | stays stubborn => exact .inl (by simp)
  | exits status after =>
      dsimp only
      split
      next => exact .inr ⟨by simp, by simp, status, by simp⟩
      next => exact .inl (by simp)

end CommandRun

/-- A session tells what happened to the client of each command, if that can be started. -/
theorem runCommand_tells (endpoint : Endpoint) (session : SessionOptions) (command : String)
    (options : CommandOptions) (host : Host) :
    let result := ((runCommand endpoint session command options).perform host).1
    (∃ reason, result = .error (.commandFailed command reason)) ∨
      ∃ line process after, host.start line = (.ok process, after) ∧
        CommandRun.Tells options (clientEvents process (after.clock + options.maxExecTime))
          result := by
  rw [runCommand, Action.perform_ofFunction]
  dsimp only
  split
  next => exact .inl ⟨_, rfl⟩
  next process after started =>
    right
    exact ⟨_, process, after, started,
      CommandRun.tells_result _ _ (CommandRun.ends_clientEvents _ _)⟩

end Testbed.Ssh
