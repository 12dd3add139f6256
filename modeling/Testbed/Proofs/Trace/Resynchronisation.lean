import Testbed.Proofs.Trace.RoundTrip

/-!
# Finding the next message again

This file supplies what a stored stream loses to octets that do not belong to any
message: those octets and nothing else.  The storage mark does not overlap itself, so
it cannot begin in the noise in front of a message and end in the message.

A mark inside a payload does no harm either, since a message is taken off by its length.
-/

namespace Testbed.Trace.Decoder

/-! ## Noise -/

/-- Octets that no storage mark stands in. -/
def Quiet (noise : Octets) : Prop :=
  ¬ storageMark <:+: noise

instance (noise : Octets) : Decidable (Quiet noise) :=
  inferInstanceAs (Decidable (¬ storageMark <:+: noise))

theorem Quiet.tail {octet : UInt8} {noise : Octets} (quiet : Quiet (octet :: noise)) :
    Quiet noise :=
  fun inside => quiet (inside.trans (List.suffix_cons ..).isInfix)

/-- Noise is passed over up to the mark behind it. -/
theorem seekMark_noise (noise behind : Octets) (quiet : Quiet noise) :
    seekMark (noise ++ (storageMark ++ behind)) = (noise.length, storageMark ++ behind) := by
  induction noise with
  | nil => exact seekMark_of_prefix (List.prefix_append ..)
  | cons octet noise ih =>
      have further := ih quiet.tail
      match noise with
      | [] | [_] | [_, _] =>
          -- The four octets in front end in the mark, which does not overlap itself.
          simp [seekMark, storageMark]
      | second :: third :: fourth :: rest =>
          have differ : [octet, second, third, fourth] ≠ storageMark := by
            intro same
            exact quiet (same ▸ (List.prefix_append [octet, second, third, fourth] rest).isInfix)
          simp only [List.cons_append] at further ⊢
          rw [seekMark, if_neg differ]
          simp only [further, List.length_cons]

theorem seekMark_suffix (octets : Octets) : (seekMark octets).2 <:+ octets := by
  match octets with
  | first :: second :: third :: fourth :: rest =>
      rw [seekMark]
      split
      · exact List.suffix_rfl
      · exact (seekMark_suffix (second :: third :: fourth :: rest)).trans (List.suffix_cons ..)
  | [] | [_] | [_, _] | [_, _, _] => exact List.suffix_rfl

/-- No message begins in noise. -/
theorem not_found_of_quiet {noise : Octets} (quiet : Quiet noise) :
    (align .stored noise).found = false := by
  cases found : (align .stored noise).found with
  | false => rfl
  | true =>
      have mark := prefix_seekMark noise found
      exact absurd (mark.isInfix.trans (seekMark_suffix noise).isInfix) quiet

theorem decode_of_quiet {noise : Octets} (quiet : Quiet noise) :
    (decode .stored noise).frame = none ∧
      (decode .stored noise).skipped + (decode .stored noise).rest.length = noise.length := by
  rw [decode_of_stop (turn_of_not_found (not_found_of_quiet quiet))]
  exact ⟨rfl, (Nat.add_comm ..).trans (length_align .stored noise)⟩

/-- Noise in front of a mark is skipped, and the message behind it found. -/
theorem decode_noise_append {noise buffer : Octets} (quiet : Quiet noise)
    (marked : storageMark <+: buffer) :
    (decode .stored (noise ++ buffer)).silent =
      ((decode .stored buffer).after noise.length []).silent := by
  obtain ⟨behind, rfl⟩ := marked
  have aligned := seekMark_of_prefix (List.prefix_append storageMark behind)
  have turned : (turn .stored (noise ++ (storageMark ++ behind))).silent =
      ((turn .stored (storageMark ++ behind)).after noise.length []).silent := by
    simp only [turn, align, seekMark_noise noise behind quiet, aligned, Turn.silent_after,
      Turn.after_after, Nat.add_zero]
  rw [decode_eq, Turn.silent_resume _ turned, Turn.resume_after, ← decode_eq]

theorem decode_noise_wire {noise : Octets} (quiet : Quiet noise) {draft : Draft}
    (stored : draft.storage.isSome) (fits : draft.length < 0x10000) (rest : Octets) :
    let attempt := decode .stored (noise ++ (draft.wire ++ rest))
    attempt.frame = some draft.arriving ∧ attempt.rest = rest ∧
      attempt.skipped = noise.length := by
  obtain ⟨header, isStored⟩ := Option.isSome_iff_exists.mp stored
  have framing : draft.framing = .stored := if_pos stored
  have marked : storageMark <+: draft.wire ++ rest := by
    rw [Draft.wire, isStored]
    simp [StorageHeader.write]
  have found := decode_noise_append quiet marked
  rw [← framing, decode_wire draft fits rest, framing] at found
  exact ⟨congrArg Attempt.frame found, congrArg Attempt.rest found, congrArg Attempt.skipped found⟩

/-! ## Messages among noise -/

/-- A stored message with noise in front of it. -/
structure Stretch where
  noise : Octets
  quiet : Quiet noise
  draft : Draft
  stored : draft.storage.isSome
  octets : Octets
  encoded : draft.encode = .ok octets

namespace Stretch

/-- The octets of a stretch. -/
def wire (stretch : Stretch) : Octets :=
  stretch.noise ++ stretch.octets

theorem fits (stretch : Stretch) : stretch.draft.length < 0x10000 :=
  ((stretch.draft.encode_eq_ok_iff stretch.octets).mp stretch.encoded).1

theorem octets_eq (stretch : Stretch) : stretch.octets = stretch.draft.wire :=
  ((stretch.draft.encode_eq_ok_iff stretch.octets).mp stretch.encoded).2

/-- The message of a stretch by itself. -/
theorem decodeAll_octets (stretch : Stretch) :
    decodeAll .stored 0 stretch.octets = ⟨[stretch.draft.arriving], [], ⟨[], 0⟩⟩ := by
  have framing : stretch.draft.framing = .stored := if_pos stretch.stored
  rw [stretch.octets_eq, ← framing]
  exact decodeAll_wire stretch.draft stretch.fits

end Stretch

/-- Calling the decoder takes the messages off one by one, each with the noise in
front of it. -/
theorem drains_stretches (stretches : List Stretch) (tail : Octets) (quiet : Quiet tail)
    (skipped : Nat) :
    ∃ final : State,
      Drains .stored ⟨stretches.flatMap Stretch.wire ++ tail, skipped⟩
        (stretches.map (·.draft.arriving)) final ∧
      final.skipped + final.buffer.length =
        skipped + (stretches.flatMap (·.noise)).length + tail.length := by
  induction stretches generalizing skipped with
  | nil =>
      obtain ⟨noFrame, counted⟩ := decode_of_quiet quiet
      refine ⟨State.next .stored ⟨tail, skipped⟩, .settled noFrame, ?_⟩
      simp only [State.next, List.flatMap_nil, List.length_nil]
      omega
  | cons stretch stretches ih =>
      obtain ⟨final, further, counted⟩ := ih (skipped + stretch.noise.length)
      obtain ⟨isFrame, rest, dropped⟩ := decode_noise_wire stretch.quiet stretch.stored
        stretch.fits (stretches.flatMap Stretch.wire ++ tail)
      rw [← stretch.octets_eq, ← List.append_assoc] at isFrame rest dropped
      refine ⟨final, ?_, ?_⟩
      · rw [List.flatMap_cons, List.append_assoc]
        refine .frame isFrame ?_
        rw [State.next, Stretch.wire, rest, dropped]
        exact further
      · rw [List.flatMap_cons, List.length_append]
        omega

/-- Searching for the next storage mark loses no message: of messages with noise in
front of each and behind the last, every one is decoded as it would be by itself, in
order and nothing besides, and exactly the noise is skipped. -/
theorem decodeAll_stretches (stretches : List Stretch) (tail : Octets) (quiet : Quiet tail) :
    let run := decodeAll .stored 0 (stretches.flatMap Stretch.wire ++ tail)
    run.frames.length = stretches.length ∧
      (∀ (i : Nat) (stretch : Stretch), stretches[i]? = some stretch →
        ∃ frame, run.frames[i]? = some frame ∧
          decodeAll .stored 0 stretch.octets = ⟨[frame], [], ⟨[], 0⟩⟩) ∧
      run.state.buffer = [] ∧
      run.state.skipped = (stretches.flatMap (·.noise)).length + tail.length := by
  intro run
  obtain ⟨final, drains, counted⟩ := drains_stretches stretches tail quiet 0
  obtain ⟨frames, state⟩ := decodeAll_of_drains drains
  refine ⟨?_, ?_, congrArg State.buffer state, ?_⟩
  · rw [frames, List.length_map]
  · intro i stretch here
    refine ⟨stretch.draft.arriving, ?_, stretch.decodeAll_octets⟩
    rw [frames, List.getElem?_map, here]
    rfl
  · rw [state, counted, Nat.zero_add]

/-- A message with a mark in its text, behind the beginning of a mark and in front of
another. -/
theorem decodeAll_stretches_marks :
    let draft : Draft := (Draft.log "APP1" "CTX1" .info).text "DLT\x01" |>.storedAt 0 0
    ∃ octets frame, draft.encode = .ok octets ∧
      let run := decodeAll .stored 0 ([0x44, 0x4C, 0x54] ++ octets ++ [0x44, 0x4C])
      run.frames = [frame] ∧ run.state = ⟨[], 5⟩ := by
  intro draft
  have encoded : draft.encode = .ok draft.wire :=
    (draft.encode_eq_ok_iff draft.wire).mpr ⟨by decide, rfl⟩
  let stretch : Stretch :=
    { noise := [0x44, 0x4C, 0x54]
      quiet := by decide
      draft
      stored := rfl
      octets := draft.wire
      encoded }
  obtain ⟨count, -, buffer, skipped⟩ := decodeAll_stretches [stretch] [0x44, 0x4C] (by decide)
  obtain ⟨frame, only⟩ := List.length_eq_one_iff.mp count
  refine ⟨draft.wire, frame, encoded, ?_⟩
  rw [List.flatMap_singleton] at only buffer skipped
  exact ⟨only, congr (congrArg State.mk buffer) skipped⟩

end Testbed.Trace.Decoder
