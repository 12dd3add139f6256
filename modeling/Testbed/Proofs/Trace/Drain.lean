import Testbed.Proofs.Trace.Continuation

/-!
# Decoding until nothing more is found

This file supplies what decoding a buffer again and again comes to, as a relation
between states that mentions no bound on the number of rounds.  The runs of the
decoder are shown to be bounded generously enough, as each frame takes at least four
octets, and the relation is shown to be taken up by a buffer that grows.
-/

namespace Testbed.Trace.Decoder

/-! ## Progress -/

theorem four_le_headerLength (flags : HeaderFlags) : 4 ≤ flags.headerLength := by
  simp only [HeaderFlags.headerLength, HeaderFlags.standardLength]
  omega

theorem length_of_splitExactly? {α : Type} {count : Nat} {list taken rest : List α}
    (split : splitExactly? count list = some (taken, rest)) :
    rest.length + count = list.length := by
  obtain ⟨rfl, counted⟩ := splitExactly?_eq_some_iff.mp split
  rw [List.length_append, counted, Nat.add_comm]

theorem length_of_readStorage? {framing : Framing} {buffer rest : Octets}
    {storage : Option StorageHeader} (read : readStorage? framing buffer = some (storage, rest)) :
    rest.length + framing.leadLength = buffer.length := by
  cases framing with
  | bare =>
      cases read
      rfl
  | stored =>
      simp only [readStorage?, StorageHeader.read?, Option.bind_eq_bind, Option.map_eq_some_iff,
        Option.bind_eq_some_iff, Prod.exists] at read
      obtain ⟨_, _, ⟨_, _, mark, _, _, seconds, _, _, microseconds, _, _, ecu, same⟩, stored⟩ :=
        read
      cases same
      cases stored
      have markLength := length_of_splitExactly? mark
      have secondsLength := length_of_splitExactly? seconds
      have microsecondsLength := length_of_splitExactly? microseconds
      have ecuLength := length_of_splitExactly? ecu
      simp only [Framing.leadLength, storageLength]
      omega

theorem length_of_takeMessage? {framing : Framing} {length : Nat} {buffer : Octets}
    {attempt : Attempt} (taken : takeMessage? framing length buffer = some attempt) :
    attempt.rest.length + (framing.leadLength + length) = buffer.length := by
  simp only [takeMessage?, Option.bind_eq_bind, Option.bind_eq_some_iff, Prod.exists] at taken
  obtain ⟨storage, rest, stored, message, behind, split, frame, stopped, read, same⟩ := taken
  cases same
  have storedLength := length_of_readStorage? stored
  have splitLength := length_of_splitExactly? split
  simp only
  omega

/-- A turn that finds a frame takes at least four octets off the buffer. -/
theorem length_turn_of_frame {framing : Framing} {buffer : Octets} {attempt : Attempt}
    {frame : Frame} (stops : turn framing buffer = .stop attempt)
    (isFrame : attempt.frame = some frame) : attempt.rest.length + 4 ≤ buffer.length := by
  have aligned := length_align framing buffer
  have turns := turns_turn framing buffer
  rw [stops] at turns
  cases turns with
  | @taken flags _ _ _ _ enough taken =>
      have headers := four_le_headerLength flags
      have takenLength := length_of_takeMessage? taken
      simp only [Attempt.after]
      omega
  | wait => contradiction

/-- A frame takes at least four octets off the buffer. -/
theorem length_decode_of_frame {framing : Framing} {buffer : Octets} {frame : Frame}
    (isFrame : (decode framing buffer).frame = some frame) :
    (decode framing buffer).rest.length + 4 ≤ buffer.length := by
  induction buffer using @turn_induction framing with
  | step buffer ih =>
      cases turned : turn framing buffer with
      | stop attempt =>
          rw [decode_of_stop turned] at isFrame ⊢
          exact length_turn_of_frame turned isFrame
      | again rest skipped notices =>
          rw [decode_of_again turned] at isFrame ⊢
          have further : (decode framing rest).rest.length + 4 ≤ rest.length :=
            ih rest skipped notices turned isFrame
          obtain ⟨shorter, dropped⟩ := length_turn turned
          simp only [Attempt.after]
          omega

/-! ## Standstill -/

theorem notices_align {framing : Framing} {buffer : Octets}
    (nothing : (align framing buffer).skipped = 0) : (align framing buffer).notices = [] := by
  cases framing with
  | bare => rfl
  | stored =>
      simp only [align] at nothing ⊢
      rw [if_pos nothing]

/-- A search that ends without a frame and drops nothing has nothing to tell. -/
theorem eq_wait_of_decode {framing : Framing} {buffer : Octets}
    (noFrame : (decode framing buffer).frame = none)
    (nothing : (decode framing buffer).skipped = 0) :
    decode framing buffer = .wait (decode framing buffer).rest := by
  cases turned : turn framing buffer with
  | stop attempt =>
      rw [decode_of_stop turned] at noFrame nothing ⊢
      have waits := eq_wait_of_turn turned noFrame
      subst waits
      have unmoved : (align framing buffer).skipped = 0 := nothing
      rw [unmoved, notices_align unmoved]
      rfl
  | again rest skipped notices =>
      rw [decode_of_again turned] at nothing
      have dropped := (length_turn turned).2
      simp only [Attempt.after] at nothing
      omega

/-- A search that ends without a frame finds none in what it left, and drops nothing
more of it. -/
theorem decode_rest_of_none {framing : Framing} {buffer : Octets}
    (noFrame : (decode framing buffer).frame = none) :
    decode framing (decode framing buffer).rest = .wait (decode framing buffer).rest := by
  have taken := decode_append_of_none framing buffer [] noFrame
  rw [List.append_nil, List.append_nil] at taken
  have frames := congrArg Attempt.frame taken
  have rests := congrArg Attempt.rest taken
  have counts := congrArg Attempt.skipped taken
  simp only [Attempt.silent, Attempt.after] at frames rests counts
  rw [eq_wait_of_decode (frames ▸ noFrame) (by omega), ← rests]

theorem decode_nil (framing : Framing) : decode framing [] = .wait [] := by
  cases framing <;> rw [decode_eq] <;> rfl

/-! ## Rounds -/

/-- The state after one call of the decoder. -/
def State.next (framing : Framing) (state : State) : State :=
  let attempt := decode framing state.buffer
  ⟨attempt.rest, state.skipped + attempt.skipped⟩

/-- Calling the decoder until it yields no frame yields `frames` and ends in `final`. -/
inductive Drains (framing : Framing) : State → List Frame → State → Prop where
  | settled {state : State} (noFrame : (decode framing state.buffer).frame = none) :
      Drains framing state [] (state.next framing)
  | frame {state final : State} {found : Frame} {frames : List Frame}
      (isFrame : (decode framing state.buffer).frame = some found)
      (further : Drains framing (state.next framing) frames final) :
      Drains framing state (found :: frames) final

/-- Nothing is found in an empty buffer, and nothing is skipped. -/
theorem drains_nil (framing : Framing) (skipped : Nat) :
    Drains framing ⟨[], skipped⟩ [] ⟨[], skipped⟩ := by
  have settled : Drains framing ⟨[], skipped⟩ [] (State.next framing ⟨[], skipped⟩) :=
    .settled (by rw [decode_nil]; rfl)
  rw [State.next] at settled
  simp only [decode_nil] at settled
  exact settled

namespace Drains

variable {framing : Framing}

/-- The calls of the decoder determine what they come to. -/
theorem unique {state first second : State} {frames others : List Frame}
    (one : Drains framing state frames first) (other : Drains framing state others second) :
    frames = others ∧ first = second := by
  induction one generalizing others with
  | settled noFrame =>
      cases other with
      | settled => exact ⟨rfl, rfl⟩
      | frame isFrame => rw [noFrame] at isFrame; contradiction
  | @frame state final found frames isFrame further ih =>
      cases other with
      | settled noFrame => rw [isFrame] at noFrame; contradiction
      | frame isOther behind =>
          obtain ⟨rfl, rfl⟩ := ih behind
          cases isFrame.symm.trans isOther
          exact ⟨rfl, rfl⟩

/-- Nothing is found where the calls end. -/
theorem decode_final {state final : State} {frames : List Frame}
    (drains : Drains framing state frames final) :
    decode framing final.buffer = .wait final.buffer := by
  induction drains with
  | settled noFrame => exact decode_rest_of_none noFrame
  | frame _ _ ih => exact ih

/-- A call that comes to the same attempt, up to its notices, goes on in the same way. -/
theorem of_silent_eq {state other final : State} {frames : List Frame}
    (sameFrame : (decode framing state.buffer).frame = (decode framing other.buffer).frame)
    (sameNext : state.next framing = other.next framing)
    (drains : Drains framing other frames final) : Drains framing state frames final := by
  cases drains with
  | settled noFrame =>
      rw [← sameNext]
      exact .settled (sameFrame.trans noFrame)
  | frame isFrame further =>
      rw [← sameNext] at further
      exact .frame (sameFrame.trans isFrame) further

/-- What more octets add is decoded from where the decoder had come to. -/
theorem append {state middle final : State} {frames others : List Frame} {more : Octets}
    (before : Drains framing state frames middle)
    (behind : Drains framing ⟨middle.buffer ++ more, middle.skipped⟩ others final) :
    Drains framing ⟨state.buffer ++ more, state.skipped⟩ (frames ++ others) final := by
  induction before with
  | @settled state noFrame =>
      have taken := decode_append_of_none framing state.buffer more noFrame
      have sameFrame := congrArg Attempt.frame taken
      have rests := congrArg Attempt.rest taken
      have counts := congrArg Attempt.skipped taken
      simp only [Attempt.silent, Attempt.after] at sameFrame rests counts
      refine of_silent_eq sameFrame ?_ behind
      simp only [State.next, rests, counts, Nat.add_assoc]
  | @frame state final found frames isFrame further ih =>
      have taken := decode_append_of_frame framing state.buffer more isFrame
      refine .frame (taken ▸ isFrame) ?_
      rw [State.next, taken]
      exact ih behind

end Drains

/-! ## Runs -/

theorem drains_drain (framing : Framing) (rounds : Nat) (state : State)
    (enough : state.buffer.length < rounds) :
    Drains framing state (drain framing rounds state).frames
      (drain framing rounds state).state := by
  induction rounds generalizing state with
  | zero => omega
  | succ rounds ih =>
      rw [drain]
      cases isFrame : (decode framing state.buffer).frame with
      | none => exact .settled isFrame
      | some frame =>
          have shorter := length_decode_of_frame isFrame
          exact .frame isFrame (ih (state.next framing) (by simp only [State.next]; omega))

theorem drain_nil (framing : Framing) (rounds skipped : Nat) :
    drain framing rounds ⟨[], skipped⟩ = ⟨[], [], ⟨[], skipped⟩⟩ := by
  cases rounds with
  | zero => rfl
  | succ rounds =>
      rw [drain]
      simp only [decode_nil]
      rfl

/-- The rounds of a run are enough. -/
theorem drains_decodeAvailable (framing : Framing) (state : State) :
    Drains framing state (decodeAvailable framing state).frames
      (decodeAvailable framing state).state :=
  drains_drain framing (state.buffer.length + 1) state (Nat.lt_succ_self _)

theorem drains_feed (framing : Framing) (state : State) (piece : Octets) :
    Drains framing ⟨state.buffer ++ piece, state.skipped⟩ (feed framing state piece).frames
      (feed framing state piece).state :=
  drains_decodeAvailable ..

/-! ## The end of a stream -/

/-- A decoder that has nothing left to find drops what it holds. -/
theorem decodeAtEnd_of_settled {framing : Framing} {state : State}
    (settled : decode framing state.buffer = .wait state.buffer) :
    (decodeAtEnd framing state).frame = none ∧ (decodeAtEnd framing state).rest = [] ∧
      (decodeAtEnd framing state).skipped = state.buffer.length := by
  rw [decodeAtEnd, settled]
  cases state.buffer with
  | nil => exact ⟨rfl, rfl, rfl⟩
  | cons octet octets => exact ⟨rfl, rfl, Nat.zero_add _⟩

theorem finish_of_settled {framing : Framing} {state : State}
    (settled : decode framing state.buffer = .wait state.buffer) :
    (finish framing state).frames = [] ∧
      (finish framing state).state = ⟨[], state.skipped + state.buffer.length⟩ := by
  obtain ⟨noFrame, rest, skipped⟩ := decodeAtEnd_of_settled settled
  rw [finish, drainEnd]
  simp only [noFrame, rest, skipped, and_self]

/-- What decoding a whole buffer comes to. -/
theorem decodeAll_of_drains {framing : Framing} {buffer : Octets} {skipped : Nat}
    {frames : List Frame} {final : State}
    (drains : Drains framing ⟨buffer, skipped⟩ frames final) :
    (decodeAll framing skipped buffer).frames = frames ∧
      (decodeAll framing skipped buffer).state = ⟨[], final.skipped + final.buffer.length⟩ := by
  obtain ⟨rfl, rfl⟩ := drains.unique (drains_decodeAvailable framing ⟨buffer, skipped⟩)
  obtain ⟨noFrame, rest, dropped⟩ := decodeAtEnd_of_settled drains.decode_final
  rw [decodeAll]
  simp only [noFrame, rest, dropped, Option.toList_none, List.append_nil, and_self]

end Testbed.Trace.Decoder
