import Testbed.Proofs.Trace.Accounting
import Testbed.Proofs.Trace.Writing

/-!
# Streams and back

This file supplies what a decoder makes of a stream that was encoded with its own framing.
Whether a storage header is on the wire is decided twice: the encoder goes by the draft, the
decoder by the framing.

In a stored stream the encoder adds the header where it is missing, so the two agree.  In a
bare stream it leaves the header where a draft has one, and the decoder takes the mark in
front of that header for the beginning of a message.
-/

namespace Testbed.Trace

/-- What a stream hands on of a message, whatever headers it has. -/
structure Imprint where
  version : UInt8
  counter : UInt8
  raw : Octets
  deriving DecidableEq, Repr

/-- The imprint of a frame that was found. -/
def Frame.imprint (frame : Frame) : Imprint :=
  ⟨frame.flags.version, frame.counter, frame.payload.raw⟩

namespace Draft

/-- The imprint of a message to be encoded, which is of the first version. -/
def imprint (draft : Draft) : Imprint :=
  ⟨1, draft.counter, draft.payload⟩

theorem imprint_arriving (draft : Draft) (fits : draft.length < 0x10000) :
    draft.arriving.imprint = draft.imprint := by
  have arrival := draft.arrival fits
  rw [Frame.imprint, imprint, arrival.version, arrival.counter, arrival.raw]

namespace Stamped

theorem imprint_framed (framing : Framing) (entry : Stamped) :
    (entry.framed framing).imprint = entry.draft.imprint := by
  unfold framed Draft.framed
  split <;> rfl

/-- A bare stream is encoded with the drafts as they are. -/
theorem framed_bare (entry : Stamped) : entry.framed .bare = entry.draft :=
  rfl

/-- In a stored stream every draft has a storage header. -/
theorem framing_framed_stored (entry : Stamped) : (entry.framed .stored).framing = .stored := by
  unfold framed Draft.framed
  split
  next => rfl
  next notMissing =>
    cases storage : entry.draft.storage with
    | none => exact absurd storage (notMissing rfl)
    | some header =>
        rw [Draft.framing, storage]
        rfl

/-- The framing of a draft is that of its stream, unless a bare stream has a draft with a
storage header. -/
theorem framing_framed {framing : Framing} {entry : Stamped}
    (agrees : framing = .bare → entry.draft.storage = none) :
    (entry.framed framing).framing = framing := by
  cases framing with
  | stored => exact entry.framing_framed_stored
  | bare =>
      rw [framed_bare, Draft.framing, agrees rfl]
      rfl

end Stamped

end Draft

namespace Decoder

open Draft (Stamped writeAll wires wires_cons)

/-! ## A mark in a bare stream -/

/-- A storage mark that is taken for the beginning of a message announces the second
version of the protocol and a length of 0x5401. -/
theorem decode_mark (rest : Octets) :
    decode .bare (storageMark ++ rest) = .wait (storageMark ++ rest) ∨
      ∃ frame, (decode .bare (storageMark ++ rest)).frame = some frame ∧
        frame.flags.version = 2 ∧ 0x5401 ≤ (storageMark ++ rest).length := by
  have turns := turns_turn .bare (storageMark ++ rest)
  cases turned : turn .bare (storageMark ++ rest) with
  | again rest skipped notices =>
      rw [turned] at turns
      cases turns with
      | short found peeked short =>
          cases peeked
          contradiction
  | stop attempt =>
      rw [turned] at turns
      rw [decode_of_stop turned]
      cases turns with
      | wait => exact .inl rfl
      | @taken _ _ attempt found peeked enough taken =>
          cases peeked
          right
          rcases frame_of_takeMessage? taken with ⟨frame, isFrame⟩
          have flags : frame.flags = ⟨0x44⟩ := (header_of_frame rfl (by decide) taken isFrame).1
          have counted : attempt.rest.length + (0 + 0x5401) = (storageMark ++ rest).length :=
            length_of_takeMessage? taken
          exact ⟨frame, isFrame, flags ▸ rfl, by omega⟩

/-- Where a frame of the first version is found in front of a bare buffer, the draft that
stands there has no storage header. -/
theorem storage_eq_none_of_version {draft : Draft} {rest : Octets} {frame : Frame}
    (isFrame : (decode .bare (draft.wire ++ rest)).frame = some frame)
    (version : frame.flags.version = 1) : draft.storage = none := by
  cases storage : draft.storage with
  | none => rfl
  | some header =>
      have marked : ∃ behind, draft.wire ++ rest = storageMark ++ behind := by
        rw [Draft.wire, storage, Option.elim_some, StorageHeader.write]
        simp only [List.append_assoc]
        exact ⟨_, rfl⟩
      rcases marked with ⟨behind, marked⟩
      rw [marked] at isFrame
      rcases decode_mark behind with waits | ⟨found, isFound, second, -⟩
      · rw [waits] at isFrame
        contradiction
      · cases isFound.symm.trans isFrame
        rw [version] at second
        contradiction

/-! ## Streams -/

/-- Calling the decoder takes the messages of a stream off one by one. -/
theorem drains_wires {framing : Framing} {entries : List Stamped}
    (fit : ∀ entry ∈ entries, entry.draft.length < 0x10000)
    (agree : framing = .bare → ∀ entry ∈ entries, entry.draft.storage = none) (skipped : Nat) :
    Drains framing ⟨wires framing entries, skipped⟩
      (entries.map fun entry => (entry.framed framing).arriving) ⟨[], skipped⟩ := by
  induction entries with
  | nil => exact drains_nil framing skipped
  | cons entry entries inductionHypothesis =>
      simp only [List.forall_mem_cons, forall_and] at fit agree
      rw [← Stamped.length_framed framing] at fit
      have found := decode_wire (entry.framed framing) fit.1 (wires framing entries)
      rw [Stamped.framing_framed agree.1] at found
      rw [wires_cons]
      apply Drains.frame (congrArg Attempt.frame found)
      rw [State.next, found]
      exact inductionHypothesis fit.2 agree.2

/-- Where the frames of a bare stream have the imprints of its drafts, none of the drafts
has a storage header. -/
theorem storage_eq_none_of_drains {entries : List Stamped} {frames : List Frame}
    {skipped : Nat} {final : State} (fit : ∀ entry ∈ entries, entry.draft.length < 0x10000)
    (drains : Drains .bare ⟨wires .bare entries, skipped⟩ frames final)
    (same : frames.map Frame.imprint = entries.map (·.draft.imprint)) :
    ∀ entry ∈ entries, entry.draft.storage = none := by
  induction entries generalizing frames with
  | nil => simp
  | cons entry entries inductionHypothesis =>
      rw [List.forall_mem_cons] at fit ⊢
      rw [wires_cons, Stamped.framed_bare] at drains
      cases drains with
      | settled => contradiction
      | frame isFrame further =>
          rw [List.map_cons, List.map_cons, List.cons.injEq] at same
          have bare : entry.draft.storage = none :=
            storage_eq_none_of_version isFrame (congrArg Imprint.version same.1)
          have framing : (entry.framed .bare).framing = .bare :=
            Stamped.framing_framed fun _ => bare
          rw [Stamped.framed_bare] at framing
          have found := decode_wire entry.draft fit.1 (wires .bare entries)
          rw [framing] at found
          rw [State.next, found] at further
          exact ⟨bare, inductionHypothesis fit.2 further same.2⟩

/-- A stream is decoded to what was encoded, message for message and without a loss, unless
it is a bare one with a storage header in it.  What is found at such a header is never the
message behind it.  The version stands beside the counter and the payload in what is
compared, since these two can be the same by chance. -/
theorem decodeAll_writeAll (framing : Framing) (entries : List Stamped) (octets : Octets)
    (skipped : Nat) (written : (writeAll framing entries).perform [] = (.ok (), octets)) :
    let run := decodeAll framing skipped octets
    (run.frames.map Frame.imprint = entries.map (·.draft.imprint) ∧ run.state = ⟨[], skipped⟩) ↔
      (framing = .bare → ∀ entry ∈ entries, entry.draft.storage = none) := by
  intro run
  rcases (Draft.perform_writeAll_eq_ok_iff framing entries [] octets).mp written with
    ⟨fit, whole⟩
  rw [List.nil_append] at whole
  subst whole
  constructor
  · rintro ⟨same, -⟩ rfl
    have drains := drains_decodeAvailable .bare ⟨wires .bare entries, skipped⟩
    rw [(decodeAll_of_drains drains).1] at same
    exact storage_eq_none_of_drains fit drains same
  · intro agree
    rcases decodeAll_of_drains (drains_wires fit agree skipped) with ⟨frames, state⟩
    constructor
    · rw [frames, List.map_map]
      apply List.map_congr_left
      intro entry member
      have fits : (entry.framed framing).length < 0x10000 := by
        rw [Stamped.length_framed]
        exact fit entry member
      exact (Draft.imprint_arriving _ fits).trans (Stamped.imprint_framed framing entry)
    · exact state

/-- Two messages of a stored stream, one of which brings its storage header. -/
theorem decodeAll_writeAll_stored :
    let draft := (Draft.log "APP1" "CTX1" .info).text "on"
    let entries : List Stamped := [⟨draft.storedAt 7 0, 9, 0⟩, ⟨draft, 9, 0⟩]
    ∃ octets, (writeAll .stored entries).perform [] = (.ok (), octets) ∧
      let run := decodeAll .stored 0 octets
      run.frames.map Frame.imprint = entries.map (·.draft.imprint) ∧ run.state = ⟨[], 0⟩ := by
  intro draft entries
  have fit : ∀ entry ∈ entries, entry.draft.length < 0x10000 := by decide
  have written : (writeAll .stored entries).perform [] = (.ok (), wires .stored entries) :=
    Draft.perform_writeAll_of_fit .stored fit []
  exact ⟨_, written, (decodeAll_writeAll .stored entries _ 0 written).mpr fun bare => by
    contradiction⟩

/-- A bare stream of one message that brings its storage header: the encoder accepts it,
and no frame is found in it. -/
theorem decodeAll_writeAll_ownHeader :
    let draft := (Draft.log "APP1" "CTX1" .info).text "on" |>.storedAt 7 0
    ∃ octets, (writeAll .bare [⟨draft, 9, 0⟩]).perform [] = (.ok (), octets) ∧
      let run := decodeAll .bare 0 octets
      run.frames = [] ∧ run.state = ⟨[], 43⟩ := by
  intro draft
  have fit : ∀ entry ∈ [(⟨draft, 9, 0⟩ : Stamped)], entry.draft.length < 0x10000 := by decide
  have written : (writeAll .bare [⟨draft, 9, 0⟩]).perform [] = (.ok (), draft.wire) := by
    rw [Draft.perform_writeAll_of_fit .bare fit, wires, List.flatMap_singleton]
    rfl
  have marked : draft.wire = storageMark ++ draft.wire.drop 4 := rfl
  have waits : decode .bare draft.wire = .wait draft.wire := by
    rw [marked]
    rcases decode_mark (draft.wire.drop 4) with waits | ⟨frame, -, -, long⟩
    · exact waits
    · rw [← marked] at long
      exact absurd long (by decide)
  have drains : Drains .bare ⟨draft.wire, 0⟩ [] (State.next .bare ⟨draft.wire, 0⟩) :=
    .settled (by rw [waits]; rfl)
  rcases decodeAll_of_drains drains with ⟨frames, state⟩
  refine ⟨draft.wire, written, frames, ?_⟩
  rw [state, State.next, waits]
  decide

end Decoder

end Testbed.Trace
