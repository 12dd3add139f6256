import Testbed.Trace.Decoder

/-!
# The turns of a search

This file supplies the search for a frame as a sequence of turns.  A turn drops what
stands in front of the next storage mark and looks at the header behind it: it ends
the search or skips the header, and the search goes on with what is left.

What a turn can do is said once, in `Turns`; every fact about a search is carried
along its turns by `turn_induction`.
-/

namespace Testbed.Trace.Decoder

/-- One turn of the search for a frame: it ends with an attempt, or a header was
skipped and the search goes on. -/
inductive Turn where
  | stop (attempt : Attempt)
  | again (rest : Octets) (skipped : Nat) (notices : List Notice)
  deriving DecidableEq, Repr

namespace Turn

/-- A turn made after octets were skipped. -/
def after (skipped : Nat) (notices : List Notice) : Turn → Turn
  | stop attempt => stop (attempt.after skipped notices)
  | again rest more others => again rest (skipped + more) (notices ++ others)

/-- What a turn comes to when a search that goes on is made by `search`. -/
def resume (search : Octets → Attempt) : Turn → Attempt
  | stop attempt => attempt
  | again rest skipped notices => (search rest).after skipped notices

end Turn

/-- A turn at a place where a message may begin. -/
def turnAt (framing : Framing) (rest : Octets) : Turn :=
  match peek? framing.leadLength rest with
  | none => .stop (.wait rest)
  | some (flags, length) =>
      if length < flags.headerLength then
        .again (rest.drop 4) 4 [.shortLength length flags.headerLength]
      else
        .stop ((takeMessage? framing length rest).getD (.wait rest))

/-- One turn of the search for a frame. -/
def turn (framing : Framing) (buffer : Octets) : Turn :=
  let aligned := align framing buffer
  (if aligned.found then turnAt framing aligned.rest else .stop (.wait aligned.rest)).after
    aligned.skipped aligned.notices

/-- The search is its turns, one after the other. -/
theorem decode_eq (framing : Framing) (buffer : Octets) :
    decode framing buffer = (turn framing buffer).resume (decode framing) := by
  rw [decode]
  split
  next rest skipped notices aligned =>
    simp [turn, aligned, Turn.after, Turn.resume]
  next rest skipped notices aligned =>
    simp only [turn, aligned, if_true, turnAt]
    split
    next peeked => simp [Turn.after, Turn.resume, peeked]
    next flags length peeked =>
      split
      next short => simp [Turn.after, Turn.resume, peeked, short]
      next enough => simp [Turn.after, Turn.resume, peeked, enough]

/-! ## What a turn can do -/

section Cases

variable {framing : Framing} {buffer : Octets}

theorem turn_of_not_found (notFound : (align framing buffer).found = false) :
    turn framing buffer = .stop ((Attempt.wait (align framing buffer).rest).after
      (align framing buffer).skipped (align framing buffer).notices) := by
  rw [turn]
  simp only [notFound]
  rfl

/-- A header whose length cannot hold the headers it announces is skipped. -/
theorem turn_of_short {flags : HeaderFlags} {length : Nat}
    (found : (align framing buffer).found = true)
    (peeked : peek? framing.leadLength (align framing buffer).rest = some (flags, length))
    (short : length < flags.headerLength) :
    turn framing buffer = .again ((align framing buffer).rest.drop 4)
      ((align framing buffer).skipped + 4)
      ((align framing buffer).notices ++ [.shortLength length flags.headerLength]) := by
  rw [turn]
  simp only [found, if_true, turnAt, peeked, short]
  rfl

/-- A message that is there as a whole is taken off. -/
theorem turn_of_taken {flags : HeaderFlags} {length : Nat} {attempt : Attempt}
    (found : (align framing buffer).found = true)
    (peeked : peek? framing.leadLength (align framing buffer).rest = some (flags, length))
    (enough : flags.headerLength ≤ length)
    (taken : takeMessage? framing length (align framing buffer).rest = some attempt) :
    turn framing buffer =
      .stop (attempt.after (align framing buffer).skipped (align framing buffer).notices) := by
  rw [turn]
  simp only [found, if_true, turnAt, peeked, Nat.not_lt.mpr enough, if_false, taken]
  rfl

end Cases

/-- Everything that one turn can come to. -/
inductive Turns (framing : Framing) (buffer : Octets) : Turn → Prop where
  | short {flags : HeaderFlags} {length : Nat}
      (found : (align framing buffer).found = true)
      (peeked : peek? framing.leadLength (align framing buffer).rest = some (flags, length))
      (short : length < flags.headerLength) :
      Turns framing buffer (.again ((align framing buffer).rest.drop 4)
        ((align framing buffer).skipped + 4)
        ((align framing buffer).notices ++ [.shortLength length flags.headerLength]))
  | taken {flags : HeaderFlags} {length : Nat} {attempt : Attempt}
      (found : (align framing buffer).found = true)
      (peeked : peek? framing.leadLength (align framing buffer).rest = some (flags, length))
      (enough : flags.headerLength ≤ length)
      (taken : takeMessage? framing length (align framing buffer).rest = some attempt) :
      Turns framing buffer
        (.stop (attempt.after (align framing buffer).skipped (align framing buffer).notices))
  | wait : Turns framing buffer (.stop ((Attempt.wait (align framing buffer).rest).after
      (align framing buffer).skipped (align framing buffer).notices))

theorem turns_turn (framing : Framing) (buffer : Octets) :
    Turns framing buffer (turn framing buffer) := by
  cases found : (align framing buffer).found with
  | false =>
      rw [turn_of_not_found found]
      exact .wait
  | true =>
      cases peeked : peek? framing.leadLength (align framing buffer).rest with
      | none =>
          rw [turn]
          simp only [found, if_true, turnAt, peeked]
          exact .wait
      | some header =>
          rcases header with ⟨flags, length⟩
          by_cases short : length < flags.headerLength
          · rw [turn_of_short found peeked short]
            exact .short found peeked short
          have enough := Nat.le_of_not_lt short
          cases taken : takeMessage? framing length (align framing buffer).rest with
          | none =>
              rw [turn]
              simp only [found, if_true, turnAt, peeked, short, if_false, taken]
              exact .wait
          | some attempt =>
              rw [turn_of_taken found peeked enough taken]
              exact .taken found peeked enough taken

theorem frame_of_takeMessage? {framing : Framing} {length : Nat} {buffer : Octets}
    {attempt : Attempt} (taken : takeMessage? framing length buffer = some attempt) :
    ∃ frame, attempt.frame = some frame := by
  simp only [takeMessage?, Option.bind_eq_bind, Option.bind_eq_some_iff, Prod.exists] at taken
  obtain ⟨_, _, _, _, _, _, frame, _, _, same⟩ := taken
  cases same
  exact ⟨frame, rfl⟩

/-- A turn that ends without a frame leaves what the search for a mark left. -/
theorem eq_wait_of_turn {framing : Framing} {buffer : Octets} {attempt : Attempt}
    (stops : turn framing buffer = .stop attempt) (noFrame : attempt.frame = none) :
    attempt = (Attempt.wait (align framing buffer).rest).after
      (align framing buffer).skipped (align framing buffer).notices := by
  have turns := turns_turn framing buffer
  rw [stops] at turns
  cases turns with
  | taken _ _ _ taken =>
      obtain ⟨frame, isFrame⟩ := frame_of_takeMessage? taken
      exact absurd (isFrame.symm.trans noFrame) (by simp)
  | wait => rfl

/-! ## Along the turns -/

theorem length_align (framing : Framing) (buffer : Octets) :
    (align framing buffer).rest.length + (align framing buffer).skipped = buffer.length := by
  cases framing with
  | bare => rfl
  | stored => exact (Nat.add_comm ..).trans (length_seekMark buffer)

/-- A turn that goes on has skipped at least four octets, and lost none besides. -/
theorem length_turn {framing : Framing} {buffer rest : Octets} {skipped : Nat}
    {notices : List Notice} (again : turn framing buffer = .again rest skipped notices) :
    rest.length + skipped = buffer.length ∧ 4 ≤ skipped := by
  have aligned := length_align framing buffer
  have turns := turns_turn framing buffer
  rw [again] at turns
  cases turns with
  | short _ peeked _ =>
      have enough := length_of_peek? peeked
      rw [List.length_drop]
      omega

/-- Induction along the turns of a search. -/
theorem turn_induction {framing : Framing} {motive : Octets → Prop}
    (step : ∀ buffer, (∀ rest skipped notices,
      turn framing buffer = .again rest skipped notices → motive rest) → motive buffer)
    (buffer : Octets) : motive buffer := by
  induction counted : buffer.length using Nat.strongRecOn generalizing buffer with
  | ind count ih =>
      apply step
      intro rest skipped notices again
      obtain ⟨shorter, dropped⟩ := length_turn again
      exact ih rest.length (by omega) rest rfl

theorem decode_of_again {framing : Framing} {buffer rest : Octets} {skipped : Nat}
    {notices : List Notice} (again : turn framing buffer = .again rest skipped notices) :
    decode framing buffer = (decode framing rest).after skipped notices := by
  rw [decode_eq, again]
  rfl

theorem decode_of_stop {framing : Framing} {buffer : Octets} {attempt : Attempt}
    (stops : turn framing buffer = .stop attempt) : decode framing buffer = attempt := by
  rw [decode_eq, stops]
  rfl

end Testbed.Trace.Decoder
