import Testbed.Trace.Capture

/-!
# Starts of captures

This file supplies what the start of a capture comes to in surroundings that may refuse any
step and in which a receiver may do anything.  Either there is a capture, or the failure is a
capture-start failure.

Two things are done again that the check of the settings has done: the filter is read and the
daemon of a stream is looked up.  A filter that cannot be read is a failure of another kind, but
neither fails for settings that were accepted.
-/

namespace Testbed.Trace

/-! ## Settings that were accepted -/

namespace CaptureConfig

variable {config : CaptureConfig}

/-- The filter of accepted settings can be read again. -/
theorem exists_filter_of_valid (valid : config.validate = .ok ()) :
    ∃ filter, config.filter.mapM Filter.ofText = .ok filter := by
  cases written : config.filter with
  | none => exact ⟨none, rfl⟩
  | some text =>
      cases reading : Filter.ofText text with
      | ok filter =>
          apply Exists.intro (some filter)
          rw [Option.mapM_some, reading]
          rfl
      | error fault =>
          -- The filter is what is checked last, so the settings are refused here or before.
          simp only [validate, written, reading] at valid
          split at valid
          · cases valid
          · cases stream : config.validateStream with
            | error fault => simp [stream, bind, Except.bind] at valid
            | ok =>
                simp only [stream, bind, Except.bind] at valid
                split at valid <;> cases valid

/-- Accepted settings of a stream name the host of the daemon. -/
theorem exists_target_of_valid (valid : config.validate = .ok ())
    (stream : config.transport = .tcp) : ∃ address, config.targetAddress = some address := by
  cases target : config.targetAddress with
  | some address => exact ⟨address, rfl⟩
  | none =>
      simp only [validate, validateStream, stream, target] at valid
      split at valid <;> cases valid

end CaptureConfig

namespace Capture

variable {σ : Type} [Surroundings σ] {config : CaptureConfig} {state : σ}

theorem peer_of_target {address : Net.Address} (target : config.targetAddress = some address) :
    peer config = .ok ⟨address, config.port⟩ := by
  rw [peer, target]

/-! ## Sockets -/

/-- The first of some steps that is refused, with the reason, and the surroundings by then. -/
def firstRefused? : List SocketStep → σ → Option (SocketStep × String) × σ
  | [], state => (none, state)
  | step :: steps, state =>
      match Surroundings.attempt step state with
      | (some reason, state) => (some (step, reason), state)
      | (none, state) => firstRefused? steps state

/-- Steps are taken up to the first that is refused, which is a capture-start failure. -/
theorem perform_takeSteps (steps : List SocketStep) (state : σ) :
    (steps.forM takeStep).perform state =
      match firstRefused? steps state with
      | (some (step, reason), state) => (.error (startFailure step.description reason), state)
      | (none, state) => (.ok (), state) := by
  induction steps generalizing state with
  | nil => rfl
  | cons step steps ih =>
      change (takeStep step >>= fun _ => steps.forM takeStep).perform state = _
      rw [Action.perform_bind, takeStep, Action.perform_ofFunction, firstRefused?]
      rcases Surroundings.attempt step state with ⟨refusal, state⟩
      cases refusal with
      | some reason => rfl
      | none => exact ih state

/-- The steps that open the socket of a capture. -/
def socketSteps (config : CaptureConfig) : List SocketStep :=
  match config.transport with
  | .udp => datagramSteps config
  | .tcp => config.targetAddress.toList.map fun address => .connect ⟨address, config.port⟩

/-- What arrives at the socket of a capture. -/
def arrivals (config : CaptureConfig) (state : σ) : CaptureSource :=
  match config.transport with
  | .udp => .datagrams (Surroundings.datagrams state)
  | .tcp => .connections (Surroundings.connections state)

/-- With accepted settings the socket is there unless one of its steps is refused. -/
theorem perform_openSocket (valid : config.validate = .ok ())
    (socket : config.receiver = .socket) :
    (openSource config).perform state =
      match firstRefused? (socketSteps config) state with
      | (some (step, reason), state) => (.error (startFailure step.description reason), state)
      | (none, state) => (.ok (arrivals config state), state) := by
  have opens (steps : List SocketStep) :
      (do
        steps.forM takeStep
        Action.observe (arrivals config) : Action σ CaptureSource).perform state =
        match firstRefused? steps state with
        | (some (step, reason), state) => (.error (startFailure step.description reason), state)
        | (none, state) => (.ok (arrivals config state), state) := by
    rw [Action.perform_bind, perform_takeSteps]
    rcases firstRefused? steps state with ⟨_ | ⟨step, reason⟩, state⟩ <;> rfl
  rw [← opens, openSource, socket, socketSteps]
  unfold arrivals
  cases transport : config.transport with
  | udp => rfl
  | tcp =>
      obtain ⟨address, target⟩ := config.exists_target_of_valid valid transport
      have one_step : (takeStep (.connect ⟨address, config.port⟩) : Action σ Unit) =
          [SocketStep.connect ⟨address, config.port⟩].forM takeStep :=
        (bind_pure _).symm
      change (openConnection config).perform state = _
      rw [openConnection, peer_of_target target, target]
      change (takeStep (.connect ⟨address, config.port⟩) >>= _).perform state = _
      rw [one_step]
      rfl

/-! ## Receivers -/

/-- A receiver that does not stay is a capture-start failure. -/
theorem ReceiverStart.source_cases (binary : String) (start : ReceiverStart) :
    (∃ process, start = .stays process ∧ start.source binary = .ok (.receiver process)) ∨
      (∀ process, start ≠ .stays process) ∧
        ∃ reason, start.source binary = .error (.captureStart reason) := by
  cases start with
  | stays process => exact .inl ⟨process, rfl, rfl⟩
  | notSpawned reason => exact .inr ⟨nofun, _, rfl⟩
  | exited status errors => exact .inr ⟨nofun, _, rfl⟩
  | notWatched reason => exact .inr ⟨nofun, _, rfl⟩
  | withoutOutput => exact .inr ⟨nofun, _, rfl⟩

theorem perform_openReceiver {binary : String} {arguments : Option (List String)}
    (reader : config.receiver = .process binary arguments) :
    (openSource config).perform state =
      match Surroundings.launch ⟨binary, config.processArguments⟩ state with
      | (start, state) => (start.source binary, state) := by
  rw [openSource, reader]
  rfl

/-! ## Starting -/

/-- Nothing keeps the source of a capture from being opened: no step of opening its socket is
refused, or its receiver stays. -/
def SourceOpens (config : CaptureConfig) (state : σ) : Prop :=
  match config.receiver with
  | .socket => (firstRefused? (socketSteps config) state).1 = none
  | .process binary _ =>
      ∃ process, (Surroundings.launch ⟨binary, config.processArguments⟩ state).1 = .stays process

theorem openSource_cases (valid : config.validate = .ok ()) (state : σ) :
    (SourceOpens config state ∧ ∃ source, ((openSource config).perform state).1 = .ok source) ∨
      ¬ SourceOpens config state ∧
        ∃ reason, ((openSource config).perform state).1 = .error (.captureStart reason) := by
  cases reader : config.receiver with
  | socket =>
      rw [perform_openSocket valid reader, SourceOpens, reader]
      rcases firstRefused? (socketSteps config) state with ⟨_ | ⟨step, reason⟩, state⟩
      · exact .inl ⟨rfl, _, rfl⟩
      · exact .inr ⟨nofun, _, rfl⟩
  | process binary arguments =>
      rw [perform_openReceiver reader, SourceOpens, reader]
      dsimp only
      rcases Surroundings.launch ⟨binary, config.processArguments⟩ state with ⟨start, state⟩
      rcases start.source_cases binary with ⟨process, rfl, opened⟩ | ⟨gone, failed⟩
      · exact .inl ⟨⟨process, rfl⟩, _, opened⟩
      · exact .inr ⟨fun ⟨process, stays⟩ => gone process stays, failed⟩

theorem perform_start_of_invalid {fault : Error} (invalid : config.validate = .error fault)
    (state : σ) :
    (start config).perform state =
      (.error (startFailure "invalid capture configuration" fault.message), state) := by
  rw [start, Action.perform_bind, Action.perform_give, invalid]
  rfl

theorem perform_start_of_valid {filter : Option Filter} (valid : config.validate = .ok ())
    (read : config.filter.mapM Filter.ofText = .ok filter) (state : σ) :
    (start config).perform state =
      match (openSource config).perform state with
      | (.ok source, state) => (.ok { source, filter }, state)
      | (.error error, state) => (.error error, state) := by
  rw [start, Action.perform_bind, Action.perform_give, valid]
  change (Action.give (config.filter.mapM Filter.ofText) >>= _).perform state = _
  rw [Action.perform_bind, Action.perform_give, read]
  change (openSource config >>= _).perform state = _
  rw [Action.perform_bind]
  rcases (openSource config).perform state with ⟨_ | _, _⟩ <;> rfl

/-- Starting a capture gives a capture with the filter of the settings or fails with a
capture-start failure, whatever the settings are and whatever sockets and receivers do.  There
is a capture exactly if the settings are valid and its source opens.

Once the settings are accepted, their filter can be read again, and a stream has its daemon. -/
theorem start_gives_capture_or_captureStart (config : CaptureConfig) (state : σ) :
    ((∃ fault, config.validate = .error fault) ∨
      (∃ filter, config.filter.mapM Filter.ofText = .ok filter) ∧
        (config.transport = .udp ∨ ∃ daemon, peer config = .ok daemon)) ∧
    ((∃ capture, ((start config).perform state).1 = .ok capture ∧
        config.filter.mapM Filter.ofText = .ok capture.filter) ∨
      ∃ reason, ((start config).perform state).1 = .error (.captureStart reason)) ∧
    ((∃ capture, ((start config).perform state).1 = .ok capture) ↔
      config.validate = .ok () ∧ SourceOpens config state) := by
  cases valid : config.validate with
  | error fault =>
      rw [perform_start_of_invalid valid]
      refine ⟨.inl ⟨fault, rfl⟩, .inr ⟨_, rfl⟩, ?_⟩
      simp
  | ok =>
      obtain ⟨filter, read⟩ := config.exists_filter_of_valid valid
      refine ⟨.inr ⟨⟨filter, read⟩, ?_⟩, ?_⟩
      · cases transport : config.transport with
        | udp => exact .inl rfl
        | tcp =>
            obtain ⟨address, target⟩ := config.exists_target_of_valid valid transport
            exact .inr ⟨_, peer_of_target target⟩
      · rw [perform_start_of_valid valid read]
        rcases openSource_cases valid state with ⟨opens, source, opened⟩ | ⟨closed, reason, failed⟩
        · rcases outcome : (openSource config).perform state with ⟨result, after⟩
          rw [outcome] at opened
          cases opened
          exact ⟨.inl ⟨_, rfl, read⟩, by simp [opens]⟩
        · rcases outcome : (openSource config).perform state with ⟨result, after⟩
          rw [outcome] at failed
          cases failed
          exact ⟨.inr ⟨_, rfl⟩, by simp [closed]⟩

end Capture

end Testbed.Trace
