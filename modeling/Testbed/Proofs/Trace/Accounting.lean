import Mathlib.Algebra.GroupWithZero.Nat
import Testbed.Proofs.Trace.Drain

/-!
# What becomes of every octet

This file supplies the account of a stream: the messages and the skips that the calls of
a decoder have made of it, one behind the other, up to the octets still in the buffer.
No octet is missing from the account and none stands in it twice.

A skip has a cause.  The search for a storage mark passes over none, however the stream
goes on behind the buffer; what else is skipped is the beginning of a message whose
length cannot hold its headers.
-/

namespace Testbed.Trace.Decoder

/-! ## Entries -/

/-- What became of a stretch of a stream. -/
inductive Entry where
  | message (frame : Frame)
  | skip (count : Nat)
  /-- Octets left over at the end of the stream. -/
  | tail (count : Nat)
  deriving DecidableEq, Repr

namespace Entry

/-- The octets of a stretch. -/
def size (framing : Framing) : Entry → Nat
  | message frame => framing.leadLength + frame.length.toNat
  | skip count => count
  | tail count => count

/-- The octets of a stretch that went into no frame. -/
def dropped : Entry → Nat
  | message _ => 0
  | skip count => count
  | tail count => count

/-- The frame of a message. -/
def frame? : Entry → Option Frame
  | message frame => some frame
  | skip _ => none
  | tail _ => none

/-- The stretch whose loss a notice tells of. -/
def ofNotice? : Notice → Option Entry
  | .resynchronised skipped => some (skip skipped)
  | .noStorageHeader skipped => some (skip skipped)
  | .shortLength _ _ => some (skip 4)
  | .trailing dropped => some (tail dropped)
  | .argumentsStopped _ => none

end Entry

/-- A message begins in front whose length cannot hold the headers it announces. -/
def BeginsShort (framing : Framing) (octets : Octets) : Prop :=
  ∃ flags length, peek? framing.leadLength octets = some (flags, length) ∧
    length < flags.headerLength

/-- The first `count` octets were skipped with cause.  In a bare stream they are the
standard header of a short message; in a stored stream any mark that begins among them
opens one, and the octets that such a mark would take up are all there. -/
def Skippable (count : Nat) (octets : Octets) : Framing → Prop
  | .bare => count = 4 ∧ BeginsShort .bare octets
  | .stored => count + 3 ≤ octets.length ∧
      ∀ position < count, storageMark <+: octets.drop position →
        BeginsShort .stored (octets.drop position)

/-- The entry tells what becomes of the octets in front. -/
def Entry.Explains (framing : Framing) (octets : Octets) : Entry → Prop
  | message frame => ∃ rest notices,
      takeMessage? framing frame.length.toNat octets = some ⟨some frame, rest, 0, notices⟩
  | skip count => Skippable count octets framing
  | tail _ => True

/-- Entries account for the octets in front of `rest`, one behind the other. -/
inductive Accounts (framing : Framing) : Octets → List Entry → Octets → Prop where
  | nil (octets : Octets) : Accounts framing octets [] octets
  | cons {octets rest : Octets} {entry : Entry} {entries : List Entry}
      (room : entry.size framing ≤ octets.length)
      (explains : entry.Explains framing octets)
      (behind : Accounts framing (octets.drop (entry.size framing)) entries rest) :
      Accounts framing octets (entry :: entries) rest

/-! ## Octets behind an account -/

theorem BeginsShort.append {framing : Framing} {octets : Octets}
    (short : BeginsShort framing octets) (more : Octets) :
    BeginsShort framing (octets ++ more) := by
  rcases short with ⟨flags, length, peeked, tooShort⟩
  exact ⟨flags, length, peek?_append peeked more, tooShort⟩

/-- More octets do not make a mark of what was skipped. -/
theorem Skippable.append {framing : Framing} {count : Nat} {octets : Octets}
    (skippable : Skippable count octets framing) (more : Octets) :
    Skippable count (octets ++ more) framing := by
  cases framing with
  | bare =>
      rcases skippable with ⟨four, short⟩
      exact ⟨four, short.append more⟩
  | stored =>
      rcases skippable with ⟨room, cause⟩
      constructor
      · rw [List.length_append]
        exact Nat.le_add_right_of_le room
      · intro position inside mark
        have within : position + 4 ≤ octets.length := by omega
        rw [List.drop_append_of_le_length (by omega)] at mark ⊢
        -- The mark that begins here has its four octets in front of the new ones.
        have marked : storageMark <+: octets.drop position := by
          refine List.prefix_of_prefix_length_le mark (List.prefix_append _ more) ?_
          rw [List.length_drop]
          exact Nat.le_sub_of_add_le' within
        exact (cause position inside marked).append more

theorem Entry.Explains.append {framing : Framing} {octets : Octets} {entry : Entry}
    (explains : entry.Explains framing octets) (more : Octets) :
    entry.Explains framing (octets ++ more) := by
  cases entry with
  | message frame =>
      rcases explains with ⟨rest, notices, taken⟩
      exact ⟨rest ++ more, notices, takeMessage?_append taken more⟩
  | skip count => exact Skippable.append explains more
  | tail count => trivial

namespace Accounts

variable {framing : Framing} {octets middle rest : Octets} {entries others : List Entry}

/-- An account holds of a stream that goes on. -/
theorem append (accounts : Accounts framing octets entries rest) (more : Octets) :
    Accounts framing (octets ++ more) entries (rest ++ more) := by
  induction accounts with
  | nil => exact .nil _
  | cons room explains _ ih =>
      refine .cons ?_ (explains.append more) ?_
      · rw [List.length_append]
        exact Nat.le_add_right_of_le room
      · rw [List.drop_append_of_le_length room]
        exact ih

/-- Accounts are joined end to end. -/
theorem trans (first : Accounts framing octets entries middle)
    (second : Accounts framing middle others rest) :
    Accounts framing octets (entries ++ others) rest := by
  induction first with
  | nil => exact second
  | cons room explains _ ih => exact .cons room explains (ih second)

theorem single {entry : Entry} (room : entry.size framing ≤ octets.length)
    (explains : entry.Explains framing octets)
    (left : octets.drop (entry.size framing) = rest) :
    Accounts framing octets [entry] rest := by
  refine .cons room explains ?_
  rw [left]
  exact .nil rest

/-- The sizes of the entries add up. -/
theorem length_eq (accounts : Accounts framing octets entries rest) :
    octets.length = (entries.map (Entry.size framing)).sum + rest.length := by
  induction accounts with
  | nil => simp
  | cons room _ _ ih =>
      rw [List.length_drop] at ih
      rw [List.map_cons, List.sum_cons]
      omega

/-- What is left begins behind the entries. -/
theorem drop_eq (accounts : Accounts framing octets entries rest) :
    octets.drop (entries.map (Entry.size framing)).sum = rest := by
  induction accounts with
  | nil => simp
  | cons _ _ _ ih =>
      rw [List.map_cons, List.sum_cons, ← List.drop_drop]
      exact ih

/-- An entry explains the octets at its place, which is behind the entries before it. -/
theorem explains_at {before behind : List Entry} {entry : Entry}
    (accounts : Accounts framing octets entries rest)
    (split : entries = before ++ entry :: behind) :
    entry.Explains framing (octets.drop (before.map (Entry.size framing)).sum) := by
  induction accounts generalizing before with
  | nil => simp at split
  | cons _ explains _ ih =>
      cases before with
      | nil =>
          cases split
          exact explains
      | cons first before =>
          rw [List.cons_append, List.cons.injEq] at split
          rcases split with ⟨rfl, split⟩
          rw [List.map_cons, List.sum_cons, ← List.drop_drop]
          exact ih split

end Accounts

/-! ## Searching for a mark -/

/-- The search for a storage mark passes over none. -/
theorem seekMark_passes (octets : Octets) :
    octets.drop (seekMark octets).1 = (seekMark octets).2 ∧
      ∀ position < (seekMark octets).1, ¬ storageMark <+: octets.drop position := by
  match octets with
  | first :: second :: third :: fourth :: rest =>
      by_cases mark : [first, second, third, fourth] = storageMark
      · simp [seekMark, mark]
      · rcases seekMark_passes (second :: third :: fourth :: rest) with ⟨left, passed⟩
        simp only [seekMark, mark, if_false, List.drop_succ_cons]
        refine ⟨left, fun position inside => ?_⟩
        cases position with
        | zero =>
            intro front
            have four := List.prefix_iff_eq_take.mp front
            exact mark four.symm
        | succ position =>
            rw [List.drop_succ_cons]
            exact passed position (Nat.lt_of_succ_lt_succ inside)
  | [] | [_] | [_, _] | [_, _, _] => simp [seekMark]

/-- A search that drops anything leaves three octets or more. -/
theorem three_le_of_seekMark {octets : Octets} (moved : (seekMark octets).1 ≠ 0) :
    3 ≤ (seekMark octets).2.length := by
  match octets with
  | first :: second :: third :: fourth :: rest =>
      by_cases mark : [first, second, third, fourth] = storageMark
      · simp [seekMark, mark] at moved
      · simp only [seekMark, mark, if_false]
        by_cases further : (seekMark (second :: third :: fourth :: rest)).1 = 0
        · have counted := length_seekMark (second :: third :: fourth :: rest)
          simp only [List.length_cons] at counted
          omega
        · exact three_le_of_seekMark further
  | [] | [_] | [_, _] | [_, _, _] => simp [seekMark] at moved

/-! ## Attempts -/

/-- What an attempt made of the octets in front of what it left. -/
def Attempt.entries (attempt : Attempt) : List Entry :=
  attempt.notices.filterMap Entry.ofNotice? ++ (attempt.frame.map Entry.message).toList

theorem Attempt.entries_after (skipped : Nat) (notices : List Notice) (attempt : Attempt) :
    (attempt.after skipped notices).entries =
      notices.filterMap Entry.ofNotice? ++ attempt.entries := by
  simp [Attempt.entries, Attempt.after]

/-- An attempt accounts for the octets of a buffer, those it skipped included. -/
structure Attempt.Sound (framing : Framing) (buffer : Octets) (attempt : Attempt) : Prop where
  accounts : Accounts framing buffer attempt.entries attempt.rest
  skipped_eq : attempt.skipped = (attempt.entries.map Entry.dropped).sum

theorem Attempt.Sound.after {framing : Framing} {buffer middle : Octets} {attempt : Attempt}
    {skipped : Nat} {notices : List Notice}
    (first : Accounts framing buffer (notices.filterMap Entry.ofNotice?) middle)
    (counted : skipped = ((notices.filterMap Entry.ofNotice?).map Entry.dropped).sum)
    (sound : attempt.Sound framing middle) :
    (attempt.after skipped notices).Sound framing buffer := by
  constructor
  · rw [Attempt.entries_after]
    exact first.trans sound.accounts
  · rw [Attempt.entries_after, List.map_append, List.sum_append, ← counted, ← sound.skipped_eq]
    rfl

theorem Attempt.sound_wait (framing : Framing) (buffer : Octets) :
    (Attempt.wait buffer).Sound framing buffer :=
  ⟨.nil buffer, rfl⟩

/-- The search for the beginning of a message accounts for what it skips. -/
theorem accounts_align (framing : Framing) (buffer : Octets) :
    let aligned := align framing buffer
    Accounts framing buffer (aligned.notices.filterMap Entry.ofNotice?) aligned.rest ∧
      aligned.skipped = ((aligned.notices.filterMap Entry.ofNotice?).map Entry.dropped).sum := by
  cases framing with
  | bare => exact ⟨.nil buffer, rfl⟩
  | stored =>
      rcases seekMark_passes buffer with ⟨left, passed⟩
      have counted := length_seekMark buffer
      by_cases moved : (seekMark buffer).1 = 0
      · have whole : (seekMark buffer).2 = buffer := by
          rw [← left, moved]
          rfl
        simp only [align, moved, whole, if_true]
        exact ⟨.nil buffer, rfl⟩
      have kept := three_le_of_seekMark moved
      have skipped : Accounts .stored buffer [.skip (seekMark buffer).1] (seekMark buffer).2 := by
        refine .single ?_ ⟨?_, ?_⟩ left
        · simp only [Entry.size]
          omega
        · omega
        · intro position inside mark
          exact absurd mark (passed position inside)
      simp only [align, moved, if_false]
      split
      · exact ⟨skipped, rfl⟩
      · exact ⟨skipped, rfl⟩

/-- A header that is skipped for its length is one that a message begins with. -/
theorem skippable_short {framing : Framing} {octets : Octets} {flags : HeaderFlags}
    {length : Nat} (peeked : peek? framing.leadLength octets = some (flags, length))
    (short : length < flags.headerLength)
    (mark : framing = .stored → storageMark <+: octets) :
    Skippable 4 octets framing := by
  have begins : BeginsShort framing octets := ⟨flags, length, peeked, short⟩
  cases framing with
  | bare => exact ⟨rfl, begins⟩
  | stored =>
      have room := length_of_peek? peeked
      refine ⟨Nat.le_trans (by decide) room, ?_⟩
      intro position inside marked
      rcases mark rfl with ⟨rest, rfl⟩
      -- The mark does not overlap itself, so the one in front is the only one.
      match position, inside with
      | 0, _ => exact begins
      | 1, _ | 2, _ | 3, _ => simp [storageMark] at marked

/-! ## The header of a frame -/

theorem drop_of_splitExactly? {α : Type} {count : Nat} {list taken rest : List α}
    (split : splitExactly? count list = some (taken, rest)) : list.drop count = rest := by
  rcases splitExactly?_eq_some_iff.mp split with ⟨rfl, counted⟩
  exact List.drop_left' counted

/-- A message begins behind its storage header. -/
theorem drop_of_readStorage? {framing : Framing} {octets rest : Octets}
    {storage : Option StorageHeader} (read : readStorage? framing octets = some (storage, rest)) :
    octets.drop framing.leadLength = rest := by
  cases framing with
  | bare =>
      cases read
      rfl
  | stored =>
      simp only [readStorage?, StorageHeader.read?, Option.bind_eq_bind, Option.map_eq_some_iff,
        Option.bind_eq_some_iff, Prod.exists] at read
      rcases read with
        ⟨_, _, ⟨_, _, mark, _, _, seconds, _, _, microseconds, _, _, ecu, same⟩, stored⟩
      cases same
      cases stored
      rw [← drop_of_splitExactly? ecu, ← drop_of_splitExactly? microseconds,
        ← drop_of_splitExactly? seconds, ← drop_of_splitExactly? mark]
      simp only [List.drop_drop]
      rfl

theorem header_of_read? {storage : Option StorageHeader} {octet counter high low : UInt8}
    {rest : Octets} {frame : Frame} {stopped : Option ArgumentsStopped}
    (read : Frame.read? storage (octet :: counter :: high :: low :: rest) =
      some (frame, stopped)) :
    frame.flags = ⟨octet⟩ ∧ frame.length.toNat = Octets.toNat .big [high, low] := by
  simp only [Frame.read?, Option.bind_eq_bind, Option.bind_eq_some_iff, Prod.exists] at read
  rcases read with ⟨_, _, _, _, _, _, _, _, _, _, _, _, same⟩
  cases same
  exact ⟨rfl, UInt16.toNat_ofNat_of_lt (Octets.toNat_lt .big [high, low])⟩

/-- The flags and the length of a frame are those that were looked at before it was taken
off. -/
theorem header_of_frame {framing : Framing} {octets : Octets} {flags : HeaderFlags}
    {length : Nat} {attempt : Attempt} {frame : Frame}
    (peeked : peek? framing.leadLength octets = some (flags, length)) (four : 4 ≤ length)
    (taken : takeMessage? framing length octets = some attempt)
    (isFrame : attempt.frame = some frame) :
    frame.flags = flags ∧ frame.length.toNat = length := by
  simp only [takeMessage?, Option.bind_eq_bind, Option.bind_eq_some_iff, Prod.exists] at taken
  rcases taken with ⟨storage, rest, stored, message, behind, split, found, stopped, read, same⟩
  cases same
  cases isFrame
  unfold peek? at peeked
  rw [drop_of_readStorage? stored] at peeked
  rcases splitExactly?_eq_some_iff.mp split with ⟨rfl, counted⟩
  -- The four octets that were looked at are the first four of the message.
  rcases message with _ | ⟨octet, _ | ⟨counter, _ | ⟨high, _ | ⟨low, more⟩⟩⟩⟩
  case cons.cons.cons.cons =>
      simp only [List.cons_append, Option.some.injEq, Prod.mk.injEq] at peeked
      rw [← peeked.1, ← peeked.2]
      exact header_of_read? read
  all_goals
    simp only [List.length_nil, List.length_cons] at counted
    omega

/-- What taking a message off the front of a buffer comes to. -/
theorem eq_of_takeMessage? {framing : Framing} {length : Nat} {octets : Octets}
    {attempt : Attempt} (taken : takeMessage? framing length octets = some attempt) :
    ∃ (frame : Frame) (stopped : Option ArgumentsStopped), attempt =
      ⟨some frame, octets.drop (framing.leadLength + length), 0,
        (stopped.map Notice.argumentsStopped).toList⟩ := by
  simp only [takeMessage?, Option.bind_eq_bind, Option.bind_eq_some_iff, Prod.exists] at taken
  rcases taken with ⟨storage, rest, stored, message, behind, split, frame, stopped, read, same⟩
  cases same
  refine ⟨frame, stopped, ?_⟩
  rw [← List.drop_drop, drop_of_readStorage? stored, drop_of_splitExactly? split]

/-! ## Calls account for the octets of a buffer -/

/-- A message that is taken off accounts for its octets and those of its lead. -/
theorem sound_takeMessage? {framing : Framing} {octets : Octets} {flags : HeaderFlags}
    {length : Nat} {attempt : Attempt}
    (peeked : peek? framing.leadLength octets = some (flags, length))
    (enough : flags.headerLength ≤ length)
    (taken : takeMessage? framing length octets = some attempt) :
    attempt.Sound framing octets := by
  have four := Nat.le_trans (four_le_headerLength flags) enough
  have counted := length_of_takeMessage? taken
  rcases eq_of_takeMessage? taken with ⟨frame, stopped, rfl⟩
  have sized : frame.length.toNat = length := (header_of_frame peeked four taken rfl).2
  have entries : Attempt.entries ⟨some frame, octets.drop (framing.leadLength + length), 0,
      (stopped.map Notice.argumentsStopped).toList⟩ = [.message frame] := by
    cases stopped <;> rfl
  constructor
  · rw [entries]
    subst sized
    exact .single (by simp only [Entry.size]; omega) ⟨_, _, taken⟩ rfl
  · rw [entries]
    rfl

/-- A turn that goes on accounts for the octets that it skipped. -/
theorem accounts_again {framing : Framing} {buffer rest : Octets} {skipped : Nat}
    {notices : List Notice} (again : turn framing buffer = .again rest skipped notices) :
    Accounts framing buffer (notices.filterMap Entry.ofNotice?) rest ∧
      skipped = ((notices.filterMap Entry.ofNotice?).map Entry.dropped).sum := by
  rcases accounts_align framing buffer with ⟨aligned, counted⟩
  have turns := turns_turn framing buffer
  rw [again] at turns
  cases turns with
  | @short flags length found peeked short =>
      have mark : framing = .stored → storageMark <+: (align framing buffer).rest := by
        rintro rfl
        exact prefix_seekMark buffer found
      have room := length_of_peek? peeked
      have header : Accounts framing (align framing buffer).rest [.skip 4]
          ((align framing buffer).rest.drop 4) :=
        .single (by simp only [Entry.size]; omega) (skippable_short peeked short mark) rfl
      rw [List.filterMap_append]
      constructor
      · exact aligned.trans header
      · rw [List.map_append, List.sum_append, ← counted]
        rfl

/-- A turn that ends the search accounts for the octets up to what it leaves. -/
theorem sound_stop {framing : Framing} {buffer : Octets} {attempt : Attempt}
    (stops : turn framing buffer = .stop attempt) : attempt.Sound framing buffer := by
  rcases accounts_align framing buffer with ⟨aligned, counted⟩
  have turns := turns_turn framing buffer
  rw [stops] at turns
  cases turns with
  | taken found peeked enough taken =>
      exact (sound_takeMessage? peeked enough taken).after aligned counted
  | wait => exact (Attempt.sound_wait framing _).after aligned counted

theorem sound_decode (framing : Framing) (buffer : Octets) :
    (decode framing buffer).Sound framing buffer := by
  induction buffer using @turn_induction framing with
  | step buffer ih =>
      cases turned : turn framing buffer with
      | stop attempt =>
          rw [decode_of_stop turned]
          exact sound_stop turned
      | again rest skipped notices =>
          rcases accounts_again turned with ⟨accounts, counted⟩
          rw [decode_of_again turned]
          exact (ih rest skipped notices turned).after accounts counted

theorem sound_decodeAtEnd (framing : Framing) (state : State) :
    (decodeAtEnd framing state).Sound framing state.buffer := by
  have sound := sound_decode framing state.buffer
  rw [decodeAtEnd]
  split
  next => exact sound
  next noFrame =>
      split
      next => exact sound
      next =>
          -- The tail is one more entry behind those of the call.
          have entries : Attempt.entries
              { decode framing state.buffer with
                rest := []
                skipped := (decode framing state.buffer).skipped
                  + (decode framing state.buffer).rest.length
                notices := (decode framing state.buffer).notices
                  ++ [.trailing (decode framing state.buffer).rest.length] } =
              (decode framing state.buffer).entries
                ++ [.tail (decode framing state.buffer).rest.length] := by
            simp [Attempt.entries, noFrame, Entry.ofNotice?]
          constructor
          · rw [entries]
            exact sound.accounts.trans (.single (Nat.le_refl _) trivial List.drop_length)
          · rw [entries, List.map_append, List.sum_append, ← sound.skipped_eq]
            rfl

/-! ## Tails -/

/-- Only the end of a stream leaves octets over. -/
theorem trailing_not_mem_notices (framing : Framing) (buffer : Octets) (count : Nat) :
    .trailing count ∉ (decode framing buffer).notices := by
  have notAligned (octets : Octets) : .trailing count ∉ (align framing octets).notices := by
    cases framing with
    | bare => simp [align]
    | stored =>
        simp only [align]
        split
        · simp
        · split <;> simp
  induction buffer using @turn_induction framing with
  | step buffer ih =>
      have turns := turns_turn framing buffer
      cases turned : turn framing buffer with
      | stop attempt =>
          rw [decode_of_stop turned]
          rw [turned] at turns
          cases turns with
          | taken _ _ _ taken =>
              rcases eq_of_takeMessage? taken with ⟨frame, stopped, rfl⟩
              simp [Attempt.after, notAligned]
          | wait => simp [Attempt.after, Attempt.wait, notAligned]
      | again rest skipped notices =>
          rw [decode_of_again turned]
          rw [turned] at turns
          have further := ih rest skipped notices turned
          cases turns with
          | short => simp [Attempt.after, notAligned, further]

theorem tail_not_mem_entries (framing : Framing) (buffer : Octets) (count : Nat) :
    .tail count ∉ (decode framing buffer).entries := by
  intro left
  rw [Attempt.entries, List.mem_append] at left
  rcases left with noted | framed
  · rcases List.mem_filterMap.mp noted with ⟨notice, told, tells⟩
    cases notice with
    | trailing dropped => exact trailing_not_mem_notices framing buffer dropped told
    | _ => simp [Entry.ofNotice?] at tells
  · simp at framed

/-! ## Runs of calls -/

/-- A call on a decoder and its buffer. -/
inductive Call where
  | append (octets : Octets)
  | decode
  | decodeAtEnd
  deriving DecidableEq, Repr

/-- The octets that a call appends. -/
def Call.octets : Call → Octets
  | append octets => octets
  | decode => []
  | decodeAtEnd => []

/-- What the calls on a decoder have come to. -/
structure Ledger where
  frames : List Frame := []
  entries : List Entry := []
  state : State := ⟨[], 0⟩

namespace Ledger

/-- Enter what a call came to. -/
def enter (ledger : Ledger) (attempt : Attempt) : Ledger where
  frames := ledger.frames ++ attempt.frame.toList
  entries := ledger.entries ++ attempt.entries
  state := ⟨attempt.rest, ledger.state.skipped + attempt.skipped⟩

/-- Make one more call. -/
def call (framing : Framing) (ledger : Ledger) : Call → Ledger
  | .append octets =>
      { ledger with state := { ledger.state with buffer := ledger.state.buffer ++ octets } }
  | .decode => ledger.enter (Decoder.decode framing ledger.state.buffer)
  | .decodeAtEnd => ledger.enter (Decoder.decodeAtEnd framing ledger.state)

/-- The calls on a new decoder with an empty buffer. -/
def ofCalls (framing : Framing) (calls : List Call) : Ledger :=
  calls.foldl (call framing) {}

/-- The entries of a ledger account for a stream up to the buffer, and its totals are
those of the entries. -/
structure Balances (framing : Framing) (stream : Octets) (ledger : Ledger) : Prop where
  accounts : Accounts framing stream ledger.entries ledger.state.buffer
  frames_eq : ledger.frames = ledger.entries.filterMap Entry.frame?
  skipped_eq : ledger.state.skipped = (ledger.entries.map Entry.dropped).sum

variable {framing : Framing} {stream : Octets} {ledger : Ledger}

theorem filterMap_frame?_entries (attempt : Attempt) :
    attempt.entries.filterMap Entry.frame? = attempt.frame.toList := by
  have noFrame (notice : Notice) : (Entry.ofNotice? notice).bind Entry.frame? = none := by
    cases notice <;> rfl
  rw [Attempt.entries, List.filterMap_append, List.filterMap_filterMap]
  cases attempt.frame <;> simp [noFrame, Entry.frame?]

theorem Balances.enter (balances : ledger.Balances framing stream) {attempt : Attempt}
    (sound : attempt.Sound framing ledger.state.buffer) :
    (ledger.enter attempt).Balances framing stream := by
  constructor
  · exact balances.accounts.trans sound.accounts
  · rw [Ledger.enter, List.filterMap_append, filterMap_frame?_entries, balances.frames_eq]
  · rw [Ledger.enter, List.map_append, List.sum_append, ← balances.skipped_eq, sound.skipped_eq]

theorem Balances.call (balances : ledger.Balances framing stream) (call : Call) :
    (ledger.call framing call).Balances framing (stream ++ call.octets) := by
  cases call with
  | append octets =>
      constructor
      · exact balances.accounts.append octets
      · exact balances.frames_eq
      · exact balances.skipped_eq
  | decode =>
      rw [Call.octets, List.append_nil]
      exact balances.enter (sound_decode framing ledger.state.buffer)
  | decodeAtEnd =>
      rw [Call.octets, List.append_nil]
      exact balances.enter (sound_decodeAtEnd framing ledger.state)

theorem Balances.calls (balances : ledger.Balances framing stream) (calls : List Call) :
    (calls.foldl (Ledger.call framing) ledger).Balances framing
      (stream ++ calls.flatMap Call.octets) := by
  induction calls generalizing ledger stream with
  | nil =>
      rw [List.flatMap_nil, List.append_nil]
      exact balances
  | cons call calls ih =>
      rw [List.flatMap_cons, ← List.append_assoc]
      exact ih (balances.call call)

theorem balances_ofCalls (framing : Framing) (calls : List Call) :
    (ofCalls framing calls).Balances framing (calls.flatMap Call.octets) := by
  have start : Balances framing [] {} := ⟨.nil [], rfl, rfl⟩
  exact start.calls calls

/-- Without a call at the end of the stream nothing is left over. -/
theorem tail_not_mem_calls (calls : List Call) (ongoing : .decodeAtEnd ∉ calls) (count : Nat)
    (none : .tail count ∉ ledger.entries) :
    .tail count ∉ (calls.foldl (Ledger.call framing) ledger).entries := by
  induction calls generalizing ledger with
  | nil => exact none
  | cons call calls ih =>
      rw [List.mem_cons, not_or] at ongoing
      apply ih ongoing.2
      cases call with
      | append octets => exact none
      | decode =>
          rw [Ledger.call, Ledger.enter, List.mem_append, not_or]
          exact ⟨none, tail_not_mem_entries framing ledger.state.buffer count⟩
      | decodeAtEnd => exact absurd rfl ongoing.1

/-- The sizes of entries, taken together by what became of them. -/
theorem sum_size (framing : Framing) (entries : List Entry) :
    (entries.map (Entry.size framing)).sum =
      ((entries.filterMap Entry.frame?).map fun frame =>
          framing.leadLength + frame.length.toNat).sum
        + (entries.map Entry.dropped).sum := by
  induction entries with
  | nil => rfl
  | cons entry entries ih =>
      cases entry <;>
        simp only [List.map_cons, List.sum_cons, List.filterMap_cons, Entry.frame?, Entry.size,
          Entry.dropped, ih] <;> omega

/-- Every octet is accounted for, and none is dropped without cause.  Whatever calls are
made, the octets appended are those of the frames yielded, with what stands in front of
each, those skipped, and those in the buffer.  The ledger's entries lie end to end in
the stream, and only a call at its end leaves a tail.  A skip in a bare stream is one
standard header of a message too short for its headers; a mark that begins within a skip
in a stored stream heads such a message. -/
theorem octets_accounted_for (framing : Framing) (calls : List Call) :
    let stream := calls.flatMap Call.octets
    let ledger := ofCalls framing calls
    stream.length =
        (ledger.frames.map fun frame => framing.leadLength + frame.length.toNat).sum
          + ledger.state.skipped + ledger.state.buffer.length ∧
      (ledger.frames = ledger.entries.filterMap Entry.frame? ∧
        ledger.state.skipped = (ledger.entries.map Entry.dropped).sum ∧
        ledger.state.buffer = stream.drop (ledger.entries.map (Entry.size framing)).sum ∧
        ∀ count, .tail count ∈ ledger.entries → .decodeAtEnd ∈ calls) ∧
      ∀ before count behind, ledger.entries = before ++ .skip count :: behind →
        let place := (before.map (Entry.size framing)).sum
        (framing = .bare → count = 4 ∧ BeginsShort framing (stream.drop place)) ∧
          (framing = .stored → ∀ position, place ≤ position → position < place + count →
            storageMark <+: stream.drop position →
            BeginsShort framing (stream.drop position)) := by
  intro stream ledger
  have balances : ledger.Balances framing stream := balances_ofCalls framing calls
  refine ⟨?_, ⟨balances.frames_eq, balances.skipped_eq, balances.accounts.drop_eq.symm, ?_⟩, ?_⟩
  · rw [balances.accounts.length_eq, sum_size, ← balances.frames_eq, ← balances.skipped_eq]
  · intro count left
    by_cases ended : .decodeAtEnd ∈ calls
    · exact ended
    · exact absurd left (tail_not_mem_calls calls ended count List.not_mem_nil)
  · intro before count behind split place
    have explains : Skippable count (stream.drop place) framing :=
      balances.accounts.explains_at split
    constructor
    · rintro rfl
      exact explains
    · rintro rfl position behindPlace inside mark
      rcases Nat.le.dest behindPlace with ⟨offset, rfl⟩
      rw [← List.drop_drop] at mark ⊢
      exact explains.2 offset (Nat.lt_of_add_lt_add_left inside) mark

/-- A stored message that announces less than its headers is skipped by its mark, and
what follows up to the last three octets for want of another. -/
theorem octets_accounted_for_short :
    let octets := storageMark ++ List.replicate 12 0 ++ [0x21, 0, 0, 4]
    let ledger := ofCalls .stored [.append octets, .decode]
    ledger.entries = [.skip 4, .skip 13] ∧ ledger.state = ⟨[0, 0, 4], 17⟩ ∧
      storageMark <+: octets.drop 0 ∧ BeginsShort .stored (octets.drop 0) := by
  intro octets ledger
  have first : turn .stored octets = .again (octets.drop 4) 4 [.shortLength 4 14] := by decide
  have second : turn .stored (octets.drop 4) =
      .stop ⟨none, [0, 0, 4], 13, [.noStorageHeader 13]⟩ := by decide
  have decoded : decode .stored octets =
      ⟨none, [0, 0, 4], 17, [.shortLength 4 14, .noStorageHeader 13]⟩ := by
    rw [decode_of_again first, decode_of_stop second]
    rfl
  have reached : ledger = ({} : Ledger).enter (Decoder.decode .stored octets) := rfl
  have entries : ledger.entries = [.skip 4, .skip 13] := by
    rw [reached, decoded]
    rfl
  have state : ledger.state = ⟨[0, 0, 4], 17⟩ := by
    rw [reached, decoded]
    rfl
  have mark : storageMark <+: octets.drop 0 := by decide
  have causes := (octets_accounted_for .stored [.append octets, .decode]).2.2
  exact ⟨entries, state, mark,
    (causes [] 4 [.skip 13] entries).2 rfl 0 (Nat.le_refl 0) (by decide) mark⟩

end Ledger

end Testbed.Trace.Decoder
