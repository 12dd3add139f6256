import Testbed.Trace.Frame

/-!
# Decoding of octet streams

This file supplies the decoder that turns a stream of octets into frames.  A
bare stream is a sequence of messages; a stored stream has a storage header in
front of each, and its mark is what the decoder searches for when it has lost
the beginning of a message.

Malformed input never makes decoding fail.  What cannot be decoded is skipped,
counted and noted, and a search that needs more octets leaves the buffer as it is.
-/

namespace Testbed.Trace

/-- How messages follow each other in a stream. -/
inductive Framing where
  | bare
  | stored
  deriving DecidableEq, Repr

/-- Octets in front of each message. -/
def Framing.leadLength : Framing → Nat
  | bare => 0
  | stored => storageLength

/-- An anomaly met while decoding. -/
inductive Notice where
  | resynchronised (skipped : Nat)
  | noStorageHeader (skipped : Nat)
  | shortLength (length headers : Nat)
  | trailing (dropped : Nat)
  | argumentsStopped (stop : ArgumentsStopped)
  deriving DecidableEq, Repr

/-- The anomaly in words. -/
def Notice.message : Notice → String
  | resynchronised skipped =>
      "Skipped " ++ toString skipped ++ " bytes before next storage header"
  | noStorageHeader skipped =>
      "Skipped " ++ toString skipped ++ " bytes without storage header"
  | shortLength length headers =>
      "Message length " ++ toString length ++ " is shorter than its "
        ++ toString headers ++ " header bytes, skipping"
  | trailing dropped =>
      "Dropping " ++ toString dropped ++ " trailing bytes at end of stream"
  | argumentsStopped stop =>
      "Stopped decoding arguments of " ++ stop.apid ++ ":" ++ stop.ctid ++ " after "
        ++ toString stop.decoded ++ " of " ++ toString stop.announced ++ ": "
        ++ stop.fault.message

namespace Decoder

/-! ## Searching for a storage header -/

/-- Drop octets until the storage mark is in front or fewer than four are left:
the number dropped and the rest. -/
def seekMark : Octets → Nat × Octets
  | first :: second :: third :: fourth :: rest =>
      if [first, second, third, fourth] = storageMark then
        (0, first :: second :: third :: fourth :: rest)
      else
        let found := seekMark (second :: third :: fourth :: rest)
        (found.1 + 1, found.2)
  | short => (0, short)

/-- Searching loses no octet but those it counts. -/
theorem length_seekMark : (octets : Octets) →
    (seekMark octets).1 + (seekMark octets).2.length = octets.length
  | first :: second :: third :: fourth :: rest => by
      rw [seekMark]
      split
      · simp
      · have shorter := length_seekMark (second :: third :: fourth :: rest)
        rw [List.length_cons, ← shorter]
        exact Nat.add_right_comm ..
  | [] | [_] | [_, _] | [_, _, _] => by simp [seekMark]

/-- A buffer brought to the beginning of a message, as far as can be told. -/
structure Alignment where
  rest : Octets
  skipped : Nat
  notices : List Notice
  /-- Whether a message may begin at `rest`. -/
  found : Bool

/-- Whether a mark fits into the octets. -/
def hasMarkLength : Octets → Bool
  | _ :: _ :: _ :: _ :: _ => true
  | _ => false

/-- Skip to the beginning of a message.  A bare stream has no mark to search
for, so a message is taken to begin wherever the buffer does. -/
def align (framing : Framing) (buffer : Octets) : Alignment :=
  match framing with
  | .bare => ⟨buffer, 0, [], true⟩
  | .stored =>
      let (dropped, rest) := seekMark buffer
      let found := hasMarkLength rest
      let notices :=
        if dropped = 0 then []
        else if found then [Notice.resynchronised dropped]
        else [Notice.noStorageHeader dropped]
      ⟨rest, dropped, notices, found⟩

theorem length_rest_align_le (framing : Framing) (buffer : Octets) :
    (align framing buffer).rest.length ≤ buffer.length := by
  cases framing with
  | bare => simp [align]
  | stored =>
      have := length_seekMark buffer
      simp only [align]
      omega

/-! ## Decoding one frame -/

/-- What an attempt to decode one frame came to. -/
structure Attempt where
  frame : Option Frame
  rest : Octets
  skipped : Nat
  notices : List Notice
  deriving DecidableEq, Repr

/-- An attempt made after octets were skipped. -/
def Attempt.after (skipped : Nat) (notices : List Notice) (attempt : Attempt) :
    Attempt :=
  { attempt with
    skipped := skipped + attempt.skipped
    notices := notices ++ attempt.notices }

/-- An attempt that needs more octets. -/
def Attempt.wait (rest : Octets) : Attempt :=
  ⟨none, rest, 0, []⟩

/-- The standard header behind `lead` octets: flags and length. -/
def peek? (lead : Nat) (buffer : Octets) : Option (HeaderFlags × Nat) :=
  match buffer.drop lead with
  | octet :: _ :: high :: low :: _ =>
      some (⟨octet⟩, Octets.toNat .big [high, low])
  | _ => none

/-- Read the storage header of a stored stream. -/
def readStorage? (framing : Framing) (buffer : Octets) :
    Option (Option StorageHeader × Octets) :=
  match framing with
  | .bare => some (none, buffer)
  | .stored => (StorageHeader.read? buffer).map fun (header, rest) => (some header, rest)

/-- Take a message whose length is known off the front of the buffer. -/
def takeMessage? (framing : Framing) (length : Nat) (buffer : Octets) :
    Option Attempt := do
  let (storage, rest) ← readStorage? framing buffer
  let (message, rest) ← splitExactly? length rest
  let (frame, stopped) ← Frame.read? storage message
  pure ⟨some frame, rest, 0, (stopped.map Notice.argumentsStopped).toList⟩

theorem length_of_peek? {lead : Nat} {buffer : Octets} {found : HeaderFlags × Nat}
    (peeked : peek? lead buffer = some found) : lead + 4 ≤ buffer.length := by
  unfold peek? at peeked
  split at peeked
  next octet counter high low rest dropped =>
    have := congrArg List.length dropped
    simp only [List.length_drop, List.length_cons] at this
    omega
  next => simp at peeked

/-- Decode the next frame of a buffer.  A header whose length cannot hold the
headers it announces is skipped by its first four octets. -/
def decode (framing : Framing) (buffer : Octets) : Attempt :=
  match _aligned : align framing buffer with
  | ⟨rest, skipped, notices, false⟩ => (Attempt.wait rest).after skipped notices
  | ⟨rest, skipped, notices, true⟩ =>
      match peeked : peek? framing.leadLength rest with
      | none => (Attempt.wait rest).after skipped notices
      | some (flags, length) =>
          if length < flags.headerLength then
            (decode framing (rest.drop 4)).after (skipped + 4)
              (notices ++ [.shortLength length flags.headerLength])
          else
            ((takeMessage? framing length rest).getD (.wait rest)).after
              skipped notices
termination_by buffer.length
decreasing_by
  have enough := length_of_peek? peeked
  have shorter := length_rest_align_le framing buffer
  simp only [_aligned, List.length_drop] at shorter ⊢
  omega

/-! ## Runs -/

/-- A decoder between steps: octets not yet decoded and octets skipped so far. -/
structure State where
  buffer : Octets
  skipped : Nat
  deriving DecidableEq, Repr

/-- Frames and notices of a run, and the state after it. -/
structure Run where
  frames : List Frame
  notices : List Notice
  state : State

/-- Decode until nothing more is found.  Each frame takes at least four octets
off the buffer, which bounds the number of rounds by its length. -/
def drain (framing : Framing) (rounds : Nat) (state : State) : Run :=
  match rounds with
  | 0 => ⟨[], [], state⟩
  | rounds + 1 =>
      let attempt := decode framing state.buffer
      let next : State := ⟨attempt.rest, state.skipped + attempt.skipped⟩
      match attempt.frame with
      | none => ⟨[], attempt.notices, next⟩
      | some frame =>
          let run := drain framing rounds next
          ⟨frame :: run.frames, attempt.notices ++ run.notices, run.state⟩

/-- Decode every complete message of the buffer. -/
def decodeAvailable (framing : Framing) (state : State) : Run :=
  drain framing (state.buffer.length + 1) state

/-- Decode at the end of a stream: a frame, or else the remaining octets are
dropped. -/
def decodeAtEnd (framing : Framing) (state : State) : Attempt :=
  let attempt := decode framing state.buffer
  match attempt.frame with
  | some _ => attempt
  | none =>
      if attempt.rest.isEmpty then
        attempt
      else
        { attempt with
          rest := []
          skipped := attempt.skipped + attempt.rest.length
          notices := attempt.notices ++ [.trailing attempt.rest.length] }

/-- Decode the end of a stream until nothing is left. -/
def drainEnd (framing : Framing) (rounds : Nat) (state : State) : Run :=
  match rounds with
  | 0 => ⟨[], [], state⟩
  | rounds + 1 =>
      let attempt := decodeAtEnd framing state
      let next : State := ⟨attempt.rest, state.skipped + attempt.skipped⟩
      match attempt.frame with
      | none => ⟨[], attempt.notices, next⟩
      | some frame =>
          let run := drainEnd framing rounds next
          ⟨frame :: run.frames, attempt.notices ++ run.notices, run.state⟩

/-- Decode what is left when a stream ends. -/
def finish (framing : Framing) (state : State) : Run :=
  drainEnd framing (state.buffer.length + 1) state

/-- Append received octets and decode every complete message. -/
def feed (framing : Framing) (state : State) (chunk : Octets) : Run :=
  decodeAvailable framing { state with buffer := state.buffer ++ chunk }

/-- Decode a whole buffer, dropping what is left of it. -/
def decodeAll (framing : Framing) (skipped : Nat) (buffer : Octets) : Run :=
  let run := decodeAvailable framing ⟨buffer, skipped⟩
  let last := decodeAtEnd framing run.state
  ⟨run.frames ++ last.frame.toList, run.notices ++ last.notices,
    ⟨last.rest, run.state.skipped + last.skipped⟩⟩

/-- The frames of a whole stream. -/
def frames (framing : Framing) (octets : Octets) : List Frame :=
  (decodeAll framing 0 octets).frames

end Decoder

end Testbed.Trace
