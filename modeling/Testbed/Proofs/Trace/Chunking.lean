import Testbed.Command.Traffic
import Testbed.Proofs.Trace.Drain

/-!
# Streams in pieces

This file supplies the independence of decoding from the way a stream is cut.  A cut
may fall anywhere, inside a mark, a header or a payload; whatever the decoder dropped
before the cut, it would have dropped without it.

The reading of a file, which arrives in pieces of some size or other, is thereby the
decoding of its content as a whole.
-/

namespace Testbed.Trace.Decoder

/-- Append the pieces of a stream one by one, and decode every complete message after
each. -/
def feedAll (framing : Framing) (state : State) : List Octets → Run
  | [] => ⟨[], [], state⟩
  | piece :: pieces =>
      let run := feed framing state piece
      let others := feedAll framing run.state pieces
      ⟨run.frames ++ others.frames, run.notices ++ others.notices, others.state⟩

/-- Decoding after each piece is decoding the pieces joined, for a decoder that has
nothing left to find. -/
theorem drains_feedAll (framing : Framing) (state : State) (pieces : List Octets)
    (settled : decode framing state.buffer = .wait state.buffer) :
    Drains framing ⟨state.buffer ++ pieces.flatten, state.skipped⟩
      (feedAll framing state pieces).frames (feedAll framing state pieces).state := by
  induction pieces generalizing state with
  | nil =>
      have stays : state.next framing = state := by
        rw [State.next, settled]
        rfl
      have ends : Drains framing state [] (state.next framing) :=
        .settled (congrArg Attempt.frame settled)
      rw [stays] at ends
      rw [List.flatten_nil, List.append_nil]
      exact ends
  | cons piece pieces ih =>
      -- What a piece leaves holds no frame, so the pieces behind it take up from there.
      have first := drains_feed framing state piece
      rw [List.flatten_cons, ← List.append_assoc]
      exact first.append (ih _ first.decode_final)

/-! ## Cuts -/

/-- However a stream is cut, calling the decoder after each piece until it yields no
frame yields the frames, skips the octets and keeps the buffer that decoding the whole
stream does.  With what the end of the stream adds it is the decoding of the whole as
one buffer, and so is the reading of a file that holds the pieces. -/
theorem feedAll_eq_whole (framing : Framing) (pieces : List Octets) :
    let arrived := feedAll framing ⟨[], 0⟩ pieces
    let whole := feed framing ⟨[], 0⟩ pieces.flatten
    let ending := finish framing arrived.state
    let all := decodeAll framing 0 pieces.flatten
    (∀ state piece, Drains framing ⟨state.buffer ++ piece, state.skipped⟩
        (feed framing state piece).frames (feed framing state piece).state) ∧
      (arrived.frames = whole.frames ∧ arrived.state = whole.state) ∧
      ((decodeAtEnd framing arrived.state).frame = none ∧
        arrived.frames ++ ending.frames = all.frames ∧ ending.state = all.state ∧
        all.state.buffer = []) ∧
      ∀ (files : FileTree) (file : String), framing = .stored →
        files.read file = .ok pieces.flatten →
        Command.readFrames files file = .ok (arrived.frames ++ ending.frames) := by
  intro arrived whole ending all
  have cut : Drains framing ⟨pieces.flatten, 0⟩ arrived.frames arrived.state :=
    drains_feedAll framing ⟨[], 0⟩ pieces (decode_nil framing)
  have uncut : Drains framing ⟨pieces.flatten, 0⟩ whole.frames whole.state :=
    drains_feed framing ⟨[], 0⟩ pieces.flatten
  obtain ⟨endFrames, endState⟩ := finish_of_settled cut.decode_final
  obtain ⟨allFrames, allState⟩ := decodeAll_of_drains cut
  have frames : arrived.frames ++ ending.frames = all.frames := by
    rw [endFrames, List.append_nil, allFrames]
  obtain ⟨noFrame, -, -⟩ := decodeAtEnd_of_settled cut.decode_final
  have ends : ending.state = all.state := endState.trans allState.symm
  refine ⟨drains_feed framing, cut.unique uncut, ⟨noFrame, frames, ends, ?_⟩, ?_⟩
  · exact congrArg State.buffer allState
  · intro files file stored content
    subst stored
    rw [frames, Command.readFrames, content]
    rfl

/-- A storage mark that arrives cut in two, with an octet in front. -/
theorem feedAll_eq_whole_mark :
    let files : FileTree := { files := [(["log"], [0x00, 0x44, 0x4C, 0x54, 0x01])] }
    let arrived := feedAll .stored ⟨[], 0⟩ [[0x00, 0x44], [0x4C, 0x54, 0x01]]
    let ending := finish .stored arrived.state
    files.read "log" = .ok [0x00, 0x44, 0x4C, 0x54, 0x01] ∧
      Command.readFrames files "log" = .ok (arrived.frames ++ ending.frames) := by
  intro files arrived ending
  have content : files.read "log" = .ok [0x00, 0x44, 0x4C, 0x54, 0x01] := by
    have parts : FileTree.pathParts "log" = ["log"] := by decide +kernel
    have origin : FileTree.origin "log" = [] := by decide +kernel
    rw [FileTree.read, FileTree.find, if_neg (by decide), parts, origin]
    rfl
  exact ⟨content, (feedAll_eq_whole .stored [[0x00, 0x44], [0x4C, 0x54, 0x01]]).2.2.2
    files "log" rfl content⟩

end Testbed.Trace.Decoder
