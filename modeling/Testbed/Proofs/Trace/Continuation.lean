import Testbed.Proofs.Trace.Turn

/-!
# Decoding a buffer that has grown

This file supplies what octets behind a buffer can change about decoding it.  A frame
that was found is found again, and a search that ended without one is taken up where
it ended: what it dropped cannot have been the beginning of a message.

Only the notices depend on how far a buffer had grown when it was searched, so
comparisons are made on `silent` attempts.
-/

namespace Testbed.Trace.Decoder

/-! ## Searching in a longer buffer -/

/-- A search goes on from what an earlier search left. -/
theorem seekMark_append (buffer more : Octets) :
    seekMark (buffer ++ more) =
      ((seekMark buffer).1 + (seekMark ((seekMark buffer).2 ++ more)).1,
        (seekMark ((seekMark buffer).2 ++ more)).2) := by
  match buffer with
  | first :: second :: third :: fourth :: rest =>
      by_cases mark : [first, second, third, fourth] = storageMark
      · simp [seekMark, mark]
      · have further := seekMark_append (second :: third :: fourth :: rest) more
        simp only [List.cons_append] at further
        simp only [List.cons_append, seekMark, mark, if_false, further]
        rw [Nat.add_right_comm]
  | [] | [_] | [_, _] | [_, _, _] => simp [seekMark]

/-- What a search leaves is too short for a mark or begins with one. -/
theorem prefix_seekMark (buffer : Octets) (long : hasMarkLength (seekMark buffer).2 = true) :
    storageMark <+: (seekMark buffer).2 := by
  match buffer with
  | first :: second :: third :: fourth :: rest =>
      by_cases mark : [first, second, third, fourth] = storageMark
      · simp only [seekMark, mark, if_true]
        exact ⟨rest, by rw [← mark]; rfl⟩
      · simp only [seekMark, mark, if_false] at long ⊢
        exact prefix_seekMark (second :: third :: fourth :: rest) long
  | [] | [_] | [_, _] | [_, _, _] => simp [seekMark, hasMarkLength] at long

theorem seekMark_of_prefix {buffer : Octets} (mark : storageMark <+: buffer) :
    seekMark buffer = (0, buffer) := by
  obtain ⟨rest, rfl⟩ := mark
  simp [storageMark, seekMark]

theorem hasMarkLength_eq (octets : Octets) : hasMarkLength octets = decide (4 ≤ octets.length) := by
  match octets with
  | _ :: _ :: _ :: _ :: _ => simp [hasMarkLength]
  | [] | [_] | [_, _] | [_, _, _] => simp [hasMarkLength]

/-- More octets do not move an alignment that was found. -/
theorem align_append_of_found {framing : Framing} {buffer : Octets}
    (found : (align framing buffer).found = true) (more : Octets) :
    align framing (buffer ++ more) =
      { align framing buffer with rest := (align framing buffer).rest ++ more } := by
  cases framing with
  | bare => rfl
  | stored =>
      have mark := prefix_seekMark buffer found
      have marked := seekMark_of_prefix (mark.trans (List.prefix_append _ more))
      have long : hasMarkLength (seekMark buffer).2 = true := found
      have longer : hasMarkLength ((seekMark buffer).2 ++ more) = true := by
        rw [hasMarkLength_eq, decide_eq_true_eq] at long ⊢
        rw [List.length_append]
        exact Nat.le_add_right_of_le long
      simp only [align, seekMark_append, marked, long, longer]
      rfl

/-- A search in a longer buffer goes on from what the search in the buffer left. -/
theorem align_append (framing : Framing) (buffer more : Octets) :
    let first := align framing buffer
    let next := align framing (first.rest ++ more)
    (align framing (buffer ++ more)).rest = next.rest ∧
      (align framing (buffer ++ more)).skipped = first.skipped + next.skipped ∧
      (align framing (buffer ++ more)).found = next.found := by
  cases framing with
  | bare => simp [align]
  | stored => simp [align, seekMark_append buffer more]

/-! ## Reading in a longer buffer -/

theorem splitExactly?_append_right {α : Type} {count : Nat} {list taken rest : List α}
    (split : splitExactly? count list = some (taken, rest)) (more : List α) :
    splitExactly? count (list ++ more) = some (taken, rest ++ more) := by
  obtain ⟨rfl, counted⟩ := splitExactly?_eq_some_iff.mp split
  exact splitExactly?_eq_some_iff.mpr ⟨List.append_assoc .., counted⟩

theorem peek?_append {lead : Nat} {buffer : Octets} {header : HeaderFlags × Nat}
    (peeked : peek? lead buffer = some header) (more : Octets) :
    peek? lead (buffer ++ more) = some header := by
  have enough := length_of_peek? peeked
  unfold peek? at peeked ⊢
  rw [List.drop_append_of_le_length (by omega)]
  split at peeked
  next octet counter high low rest dropped =>
    rw [dropped]
    exact peeked
  next => contradiction

theorem storageHeader_read?_append {buffer rest : Octets} {header : StorageHeader}
    (read : StorageHeader.read? buffer = some (header, rest)) (more : Octets) :
    StorageHeader.read? (buffer ++ more) = some (header, rest ++ more) := by
  simp only [StorageHeader.read?, Option.bind_eq_bind, Option.bind_eq_some_iff,
    Prod.exists] at read
  obtain ⟨_, _, mark, _, _, seconds, _, _, microseconds, _, _, ecu, same⟩ := read
  cases same
  simp [StorageHeader.read?, splitExactly?_append_right mark,
    splitExactly?_append_right seconds, splitExactly?_append_right microseconds,
    splitExactly?_append_right ecu]

theorem readStorage?_append {framing : Framing} {buffer rest : Octets}
    {storage : Option StorageHeader}
    (read : readStorage? framing buffer = some (storage, rest)) (more : Octets) :
    readStorage? framing (buffer ++ more) = some (storage, rest ++ more) := by
  cases framing with
  | bare =>
      cases read
      rfl
  | stored =>
      obtain ⟨⟨header, behind⟩, stored, same⟩ := Option.map_eq_some_iff.mp read
      cases same
      simp [readStorage?, storageHeader_read?_append stored]

theorem takeMessage?_append {framing : Framing} {length : Nat} {buffer : Octets}
    {attempt : Attempt} (taken : takeMessage? framing length buffer = some attempt)
    (more : Octets) :
    takeMessage? framing length (buffer ++ more) =
      some { attempt with rest := attempt.rest ++ more } := by
  simp only [takeMessage?, Option.bind_eq_bind, Option.bind_eq_some_iff, Prod.exists] at taken
  obtain ⟨storage, rest, stored, message, behind, split, frame, stopped, read, same⟩ := taken
  cases same
  simp [takeMessage?, readStorage?_append stored, splitExactly?_append_right split, read]

/-! ## Turns in a longer buffer -/

/-- More octets behind it do not change a turn that skips a header. -/
theorem turn_append_of_again {framing : Framing} {buffer rest : Octets} {skipped : Nat}
    {notices : List Notice} (again : turn framing buffer = .again rest skipped notices)
    (more : Octets) :
    turn framing (buffer ++ more) = .again (rest ++ more) skipped notices := by
  have turns := turns_turn framing buffer
  rw [again] at turns
  cases turns with
  | short found peeked short =>
      have longer := align_append_of_found found more
      have there := peek?_append peeked more
      have enough := length_of_peek? peeked
      rw [turn_of_short (by rw [longer]; exact found) (by rw [longer]; exact there) short, longer,
        List.drop_append_of_le_length (by omega)]

/-- More octets behind it do not change a turn that finds a frame. -/
theorem turn_append_of_frame {framing : Framing} {buffer : Octets} {attempt : Attempt}
    {frame : Frame} (stops : turn framing buffer = .stop attempt)
    (isFrame : attempt.frame = some frame) (more : Octets) :
    turn framing (buffer ++ more) = .stop { attempt with rest := attempt.rest ++ more } := by
  have turns := turns_turn framing buffer
  rw [stops] at turns
  cases turns with
  | taken found peeked enough taken =>
      have longer := align_append_of_found found more
      have there := peek?_append peeked more
      have takes := takeMessage?_append taken more
      rw [turn_of_taken (by rw [longer]; exact found) (by rw [longer]; exact there) enough
        (by rw [longer]; exact takes), longer]
      rfl
  | wait => contradiction

/-! ## Notices aside -/

/-- An attempt without its notices, which alone depend on how a stream was cut. -/
def Attempt.silent (attempt : Attempt) : Attempt :=
  { attempt with notices := [] }

/-- A turn without its notices. -/
def Turn.silent : Turn → Turn
  | .stop attempt => .stop attempt.silent
  | .again rest skipped _ => .again rest skipped []

theorem Attempt.after_after (first second : Nat) (notices others : List Notice)
    (attempt : Attempt) :
    (attempt.after second others).after first notices =
      attempt.after (first + second) (notices ++ others) := by
  simp [Attempt.after, Nat.add_assoc, List.append_assoc]

theorem Attempt.silent_after (skipped : Nat) (notices : List Notice) (attempt : Attempt) :
    (attempt.after skipped notices).silent = attempt.silent.after skipped [] := rfl

theorem Turn.resume_after (search : Octets → Attempt) (skipped : Nat)
    (notices : List Notice) (turn : Turn) :
    (turn.after skipped notices).resume search =
      (turn.resume search).after skipped notices := by
  cases turn with
  | stop attempt => rfl
  | again rest more others => exact (Attempt.after_after ..).symm

theorem Turn.silent_resume (search : Octets → Attempt) {first second : Turn}
    (same : first.silent = second.silent) :
    (first.resume search).silent = (second.resume search).silent := by
  cases first with
  | stop attempt =>
      cases second with
      | stop other => exact Turn.stop.inj same
      | again => contradiction
  | again rest skipped notices =>
      cases second with
      | stop => contradiction
      | again =>
          cases same
          rfl

theorem Turn.after_after (first second : Nat) (notices others : List Notice) (turn : Turn) :
    (turn.after second others).after first notices =
      turn.after (first + second) (notices ++ others) := by
  cases turn with
  | stop attempt => exact congrArg Turn.stop (Attempt.after_after ..)
  | again rest skipped more => simp [Turn.after, Nat.add_assoc, List.append_assoc]

theorem Turn.silent_after (skipped : Nat) (notices : List Notice) (turn : Turn) :
    (turn.after skipped notices).silent = turn.silent.after skipped [] := by
  cases turn with
  | stop attempt => rfl
  | again rest more others => rfl

/-- A turn that waits has only moved on to where the next one begins. -/
theorem turn_append_of_wait {framing : Framing} {buffer : Octets} {attempt : Attempt}
    (stops : turn framing buffer = .stop attempt) (noFrame : attempt.frame = none)
    (more : Octets) :
    (turn framing (buffer ++ more)).silent =
      ((turn framing (attempt.rest ++ more)).after attempt.skipped []).silent := by
  have waits := eq_wait_of_turn stops noFrame
  obtain ⟨rest, skipped, found⟩ := align_append framing buffer more
  -- Both turns look at the same place; only how far they came differs.
  subst waits
  simp only [turn, rest, skipped, found, Turn.silent_after, Turn.after_after]
  rfl

/-! ## Frames from a longer buffer -/

/-- More octets behind it do not change a search that finds a frame. -/
theorem decode_append_of_frame (framing : Framing) (buffer more : Octets) {frame : Frame}
    (isFrame : (decode framing buffer).frame = some frame) :
    decode framing (buffer ++ more) =
      { decode framing buffer with rest := (decode framing buffer).rest ++ more } := by
  induction buffer using @turn_induction framing with
  | step buffer ih =>
      cases turned : turn framing buffer with
      | stop attempt =>
          rw [decode_of_stop turned] at isFrame ⊢
          rw [decode_of_stop (turn_append_of_frame turned isFrame more)]
      | again rest skipped notices =>
          rw [decode_of_again turned] at isFrame ⊢
          rw [decode_of_again (turn_append_of_again turned more),
            ih rest skipped notices turned isFrame]
          rfl

/-- A search without a frame is taken up where it ended. -/
theorem decode_append_of_none (framing : Framing) (buffer more : Octets)
    (noFrame : (decode framing buffer).frame = none) :
    (decode framing (buffer ++ more)).silent =
      ((decode framing ((decode framing buffer).rest ++ more)).after
        (decode framing buffer).skipped []).silent := by
  induction buffer using @turn_induction framing with
  | step buffer ih =>
      cases turned : turn framing buffer with
      | stop attempt =>
          rw [decode_of_stop turned] at noFrame ⊢
          rw [decode_eq, Turn.silent_resume _ (turn_append_of_wait turned noFrame more),
            Turn.resume_after, ← decode_eq]
      | again rest skipped notices =>
          rw [decode_of_again turned] at noFrame ⊢
          have further := ih rest skipped notices turned noFrame
          rw [decode_of_again (turn_append_of_again turned more), Attempt.silent_after, further,
            ← Attempt.silent_after skipped [], Attempt.after_after]
          rfl

end Testbed.Trace.Decoder
