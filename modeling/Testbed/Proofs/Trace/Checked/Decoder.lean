import Testbed.Proofs.Trace.Checked.Message

/-!
# Decoding by position

This file supplies the decoder with every octet of the buffer taken by its position,
behind comparisons of lengths alone: the length field and the flags of a header come
from outside and say how far the reader goes.

No position is out of range, whatever the buffer holds, and no call of the decoder
fails to end or to make progress.
-/

namespace Testbed.Trace.Decoder

/-! ## Searching for a storage header -/

/-- The position of the first storage mark. -/
def firstMark? : Octets → Option Nat
  | [] => none
  | octet :: octets =>
      if storageMark.isPrefixOf (octet :: octets) then some 0
      else (firstMark? octets).map (· + 1)

/-- Advance to the first storage mark, or to the last three octets, which may be the
beginning of one. -/
def resync? (buffer : Octets) : Option Alignment :=
  if storageMark.isPrefixOf buffer then
    some ⟨buffer, 0, [], true⟩
  else
    match firstMark? buffer with
    | some offset => do
        let rest ← Octets.advance? buffer offset
        pure ⟨rest, offset, [.resynchronised offset], true⟩
    | none =>
        if 3 < buffer.length then do
          let dropped := buffer.length - 3
          let rest ← Octets.advance? buffer dropped
          pure ⟨rest, dropped, [.noStorageHeader dropped], false⟩
        else
          some ⟨buffer, 0, [], false⟩

/-- Skip to the beginning of a message. -/
def align? (framing : Framing) (buffer : Octets) : Option Alignment :=
  match framing with
  | .bare => some ⟨buffer, 0, [], true⟩
  | .stored => if buffer.length < 4 then some ⟨buffer, 0, [], false⟩ else resync? buffer

theorem firstMark?_le {buffer : Octets} {offset : Nat}
    (first : firstMark? buffer = some offset) : offset + 4 ≤ buffer.length := by
  induction buffer generalizing offset with
  | nil => contradiction
  | cons octet octets ih =>
      rw [firstMark?] at first
      split at first
      next mark =>
        cases first
        exact (List.isPrefixOf_iff_prefix.mp mark).length_le
      next =>
        obtain ⟨further, isFurther, rfl⟩ := Option.map_eq_some_iff.mp first
        have room := ih isFurther
        rw [List.length_cons]
        omega

theorem firstMark?_eq_zero_iff (buffer : Octets) :
    firstMark? buffer = some 0 ↔ storageMark.isPrefixOf buffer := by
  cases buffer with
  | nil => simp [firstMark?, storageMark]
  | cons octet octets =>
      rw [firstMark?]
      split
      next mark => simp [mark]
      next noMark => simp [noMark]

/-- Dropping octets until a mark is in front is looking for its position. -/
theorem seekMark_eq (buffer : Octets) :
    seekMark buffer =
      let offset := (firstMark? buffer).getD (buffer.length - 3)
      (offset, buffer.drop offset) := by
  match buffer with
  | first :: second :: third :: fourth :: rest =>
      have front : storageMark.isPrefixOf (first :: second :: third :: fourth :: rest) =
          decide ([first, second, third, fourth] = storageMark) := by
        rw [Bool.eq_iff_iff, List.isPrefixOf_iff_prefix, decide_eq_true_eq]
        simp [storageMark, eq_comm]
      by_cases mark : [first, second, third, fourth] = storageMark
      · simp [seekMark, firstMark?, front, mark]
      · have further := seekMark_eq (second :: third :: fourth :: rest)
        have counted : (first :: second :: third :: fourth :: rest).length - 3 =
            (second :: third :: fourth :: rest).length - 3 + 1 := by
          simp only [List.length_cons]
          omega
        rw [seekMark, if_neg mark, firstMark?, front, further, counted, decide_eq_false mark]
        cases firstMark? (second :: third :: fourth :: rest) <;> rfl
  | [] | [_] | [_, _] | [_, _, _] => simp [seekMark, firstMark?, storageMark]

/-- A search ends at the first mark, or else with three octets. -/
theorem align_stored (buffer : Octets) :
    align .stored buffer =
      match firstMark? buffer with
      | some offset =>
          ⟨buffer.drop offset, offset, if offset = 0 then [] else [.resynchronised offset], true⟩
      | none =>
          let dropped := buffer.length - 3
          ⟨buffer.drop dropped, dropped,
            if dropped = 0 then [] else [.noStorageHeader dropped], false⟩ := by
  cases first : firstMark? buffer with
  | some offset =>
      have room := firstMark?_le first
      have found : hasMarkLength (buffer.drop offset) = true := by
        rw [hasMarkLength_eq, List.length_drop, decide_eq_true_eq]
        omega
      simp [align, seekMark_eq, first, found]
  | none =>
      have notFound : hasMarkLength (buffer.drop (buffer.length - 3)) = false := by
        rw [hasMarkLength_eq, List.length_drop, decide_eq_false_iff_not]
        omega
      simp [align, seekMark_eq, first, notFound]

theorem align?_eq (framing : Framing) (buffer : Octets) :
    align? framing buffer = some (align framing buffer) := by
  cases framing with
  | bare => rfl
  | stored =>
      rw [align?, align_stored]
      cases first : firstMark? buffer with
      | some offset =>
          have room := firstMark?_le first
          rw [if_neg (by omega), resync?, first]
          cases offset with
          | zero =>
              rw [if_pos ((firstMark?_eq_zero_iff buffer).mp first)]
              rfl
          | succ offset =>
              have noMark : ¬storageMark.isPrefixOf buffer := by
                rw [← firstMark?_eq_zero_iff, first]
                simp
              rw [if_neg noMark]
              simp [Octets.advance?_of_le (by omega : offset + 1 ≤ buffer.length)]
      | none =>
          have noMark : ¬storageMark.isPrefixOf buffer := by
            rw [← firstMark?_eq_zero_iff, first]
            simp
          split
          next short =>
            have nothing : buffer.length - 3 = 0 := by omega
            simp [nothing]
          next enough =>
            have dropped : buffer.length - 3 ≠ 0 := by omega
            rw [resync?, if_neg noMark, first]
            simp only [(by omega : 3 < buffer.length), if_true, dropped, if_false,
              Octets.advance?_of_le (Nat.sub_le buffer.length 3)]
            rfl

/-! ## Decoding one frame -/

/-- Read the storage header in front of a message. -/
def readLead? (framing : Framing) (buffer : Octets) : Option (Option StorageHeader) :=
  match framing with
  | .bare => some none
  | .stored => do
      let octets ← Octets.slice? buffer 0 storageLength
      some <$> Checked.parseStorage? octets

/-- A turn at a place where a message may begin. -/
def turnAt? (framing : Framing) (buffer : Octets) : Option Turn := do
  let lead := framing.leadLength
  if buffer.length < lead + 4 then
    pure (.stop (.wait buffer))
  else
    let octet ← buffer[lead]?
    let field ← Octets.pick? buffer [lead + 2, lead + 3]
    let flags : HeaderFlags := ⟨octet⟩
    let length := Octets.toNat .big field
    if length < flags.headerLength then
      let rest ← Octets.advance? buffer 4
      pure (.again rest 4 [.shortLength length flags.headerLength])
    else if buffer.length < lead + length then
      pure (.stop (.wait buffer))
    else
      let storage ← readLead? framing buffer
      let behind ← Octets.advance? buffer lead
      let (message, rest) ← Octets.splitAt? behind length
      let (frame, stopped) ← Checked.readMessage? storage message
      pure (.stop ⟨some frame, rest, 0, (stopped.map Notice.argumentsStopped).toList⟩)

/-- One turn of the search for a frame. -/
def turn? (framing : Framing) (buffer : Octets) : Option Turn := do
  let aligned ← align? framing buffer
  let here ←
    if aligned.found then turnAt? framing aligned.rest else pure (.stop (.wait aligned.rest))
  pure (here.after aligned.skipped aligned.notices)

/-- A header that is there, octet by octet. -/
private theorem header_of_le {lead : Nat} {buffer : Octets} (room : lead + 4 ≤ buffer.length) :
    ∃ octet counter high low rest, buffer.drop lead = octet :: counter :: high :: low :: rest := by
  have long : 4 ≤ (buffer.drop lead).length := by
    rw [List.length_drop]
    omega
  match front : buffer.drop lead with
  | octet :: counter :: high :: low :: rest => exact ⟨octet, counter, high, low, rest, rfl⟩
  | [] | [_] | [_, _] | [_, _, _] => simp [front] at long

private theorem peek?_of_short {lead : Nat} {buffer : Octets}
    (short : buffer.length < lead + 4) : peek? lead buffer = none := by
  cases peeked : peek? lead buffer with
  | none => rfl
  | some header =>
      have enough := length_of_peek? peeked
      omega

private theorem takeMessage?_of_short {framing : Framing} {length : Nat} {buffer : Octets}
    (short : buffer.length < framing.leadLength + length) :
    takeMessage? framing length buffer = none := by
  cases taken : takeMessage? framing length buffer with
  | none => rfl
  | some attempt =>
      have enough := length_of_takeMessage? taken
      omega

theorem readLead?_eq {framing : Framing} {buffer : Octets}
    (room : framing.leadLength ≤ buffer.length) :
    ∃ storage, readLead? framing buffer = some storage ∧
      readStorage? framing buffer = some (storage, buffer.drop framing.leadLength) := by
  cases framing with
  | bare => exact ⟨none, rfl, rfl⟩
  | stored =>
      obtain ⟨header, parsed, read⟩ := Checked.parseStorage?_eq room
      have enough : 16 ≤ buffer.length := room
      have slice : Octets.slice? buffer 0 storageLength = some (buffer.take 16) :=
        Octets.slice?_of_le (by omega : 0 + 16 ≤ buffer.length)
      simp only [readLead?, slice, readStorage?, read, Option.bind_eq_bind, Option.bind_some,
        parsed]
      exact ⟨_, rfl, rfl⟩

/-- A turn takes no octet out of range. -/
theorem turnAt?_eq (framing : Framing) (buffer : Octets) :
    turnAt? framing buffer = some (turnAt framing buffer) := by
  rw [turnAt?, turnAt]
  by_cases short : buffer.length < framing.leadLength + 4
  · simp only [short, if_true, peek?_of_short short]
    rfl
  have room : framing.leadLength + 4 ≤ buffer.length := Nat.le_of_not_lt short
  obtain ⟨octet, counter, high, low, rest, header⟩ := header_of_le room
  have peeked : peek? framing.leadLength buffer =
      some (⟨octet⟩, Octets.toNat .big [high, low]) := by
    rw [peek?, header]
  have first : buffer[framing.leadLength]? = some octet := by
    have dropped : (buffer.drop framing.leadLength)[0]? = buffer[framing.leadLength + 0]? :=
      List.getElem?_drop
    rw [header] at dropped
    exact dropped.symm
  have field : Octets.pick? buffer [framing.leadLength + 2, framing.leadLength + 3] =
      some [high, low] := by
    have picked := Octets.pick?_range' (by omega : framing.leadLength + 2 + 2 ≤ buffer.length)
    rw [← List.drop_drop, header] at picked
    exact picked
  simp only [short, if_false, first, field, peeked, Option.bind_eq_bind, Option.bind_some]
  generalize Octets.toNat .big [high, low] = length
  by_cases tooShort : length < HeaderFlags.headerLength ⟨octet⟩
  · simp only [tooShort, if_true, Octets.advance?_of_le (by omega : 4 ≤ buffer.length)]
    rfl
  by_cases incomplete : buffer.length < framing.leadLength + length
  · simp only [tooShort, if_false, incomplete, if_true, takeMessage?_of_short incomplete]
    rfl
  have headers := four_le_headerLength ⟨octet⟩
  obtain ⟨storage, lead, stored⟩ := readLead?_eq (by omega : framing.leadLength ≤ buffer.length)
  have long : length ≤ (buffer.drop framing.leadLength).length := by
    rw [List.length_drop]
    omega
  have message : (buffer.drop framing.leadLength).take length =
      octet :: counter :: high :: low :: rest.take (length - 4) := by
    obtain ⟨behind, rfl⟩ : ∃ behind, length = behind + 4 := ⟨length - 4, by omega⟩
    rw [header]
    rfl
  obtain ⟨read, checked, plain⟩ := Checked.readMessage?_eq storage ⟨octet⟩ counter high low
    (rest.take (length - 4)) (by
      rw [← message, List.length_take_of_le long]
      omega)
  simp only [tooShort, if_false, incomplete, lead, Octets.splitAt?_of_le long, message, checked,
    Octets.advance?_of_le (by omega : framing.leadLength ≤ buffer.length), takeMessage?, stored,
    splitExactly?_of_le long, plain, Option.bind_eq_bind, Option.bind_some]
  rfl

theorem turn?_eq (framing : Framing) (buffer : Octets) :
    turn? framing buffer = some (turn framing buffer) := by
  rw [turn?, align?_eq, turn]
  simp only [Option.bind_eq_bind, Option.bind_some, turnAt?_eq]
  split <;> rfl

/-! ## Decoding a buffer -/

/-- The turns of a search, none of which takes an octet out of range, end with an
attempt. -/
inductive Decodes (framing : Framing) : Octets → Attempt → Prop where
  | stop {buffer : Octets} {attempt : Attempt}
      (stops : turn? framing buffer = some (.stop attempt)) : Decodes framing buffer attempt
  | again {buffer rest : Octets} {skipped : Nat} {notices : List Notice} {attempt : Attempt}
      (again : turn? framing buffer = some (.again rest skipped notices))
      (further : Decodes framing rest attempt) :
      Decodes framing buffer (attempt.after skipped notices)

theorem decodes_decode (framing : Framing) (buffer : Octets) :
    Decodes framing buffer (decode framing buffer) := by
  induction buffer using @turn_induction framing with
  | step buffer ih =>
      have checked := turn?_eq framing buffer
      cases turned : turn framing buffer with
      | stop attempt =>
          rw [turned] at checked
          rw [decode_of_stop turned]
          exact .stop checked
      | again rest skipped notices =>
          rw [turned] at checked
          rw [decode_of_again turned]
          exact .again checked (ih rest skipped notices turned)

/-- Decoding is total, whatever a buffer holds.  No octet is taken out of range, and
the turns of a search come to an end; each that goes on removes four octets or more,
and so does each frame.  A call that finds none finds none in what it leaves either,
and drops nothing more.  Decoding a whole buffer is finitely many calls and leaves
nothing of it. -/
theorem decode_total (framing : Framing) (buffer : Octets) (skipped : Nat) :
    Decodes framing buffer (decode framing buffer) ∧
      (∀ rest dropped notices, turn? framing buffer = some (.again rest dropped notices) →
        rest.length + 4 ≤ buffer.length) ∧
      (∀ frame, (decode framing buffer).frame = some frame →
        (decode framing buffer).rest.length + 4 ≤ buffer.length) ∧
      ((decode framing buffer).frame = none →
        decode framing (decode framing buffer).rest = .wait (decode framing buffer).rest) ∧
      ∃ final, Drains framing ⟨buffer, skipped⟩ (decodeAll framing skipped buffer).frames final ∧
        (decodeAll framing skipped buffer).state =
          ⟨[], final.skipped + final.buffer.length⟩ := by
  constructor
  · exact decodes_decode framing buffer
  constructor
  · intro rest dropped notices again
    rw [turn?_eq] at again
    rcases length_turn (Option.some.inj again) with ⟨lost, enough⟩
    omega
  constructor
  · intro frame isFrame
    exact length_decode_of_frame isFrame
  constructor
  · exact decode_rest_of_none
  · have drains := drains_decodeAvailable framing ⟨buffer, skipped⟩
    rcases decodeAll_of_drains drains with ⟨frames, state⟩
    rw [frames]
    exact ⟨_, drains, state⟩

/-- A bare header that announces less than its own length, twice over. -/
theorem decode_total_shortLength :
    let header : Octets := [0x21, 0, 0, 4]
    turn? .bare (header ++ header) = some (.again header 4 [.shortLength 4 14]) ∧
      header.length + 4 ≤ (header ++ header).length ∧
      (decode .bare header).frame = none ∧
      decode .bare (decode .bare header).rest = .wait (decode .bare header).rest := by
  intro header
  have again : turn? .bare (header ++ header) = some (.again header 4 [.shortLength 4 14]) := by
    decide +kernel
  have noFrame : (decode .bare header).frame = none := by
    have turned : turn .bare header = .again [] 4 [.shortLength 4 14] := by decide
    rw [decode_of_again turned, decode_nil]
    rfl
  exact ⟨again, (decode_total .bare (header ++ header) 0).2.1 header 4 _ again, noFrame,
    (decode_total .bare header 0).2.2.2.1 noFrame⟩

end Testbed.Trace.Decoder
