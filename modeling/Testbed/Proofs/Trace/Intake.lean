import Testbed.Proofs.Trace.Accounting
import Testbed.Proofs.Trace.Chunking
import Testbed.Trace.Intake

/-!
# What an intake takes in

This file supplies what a capture makes of all that reaches it.  Datagrams share a
decoder, which carries nothing from one to the next but a count of octets skipped, so
each is decoded as if it were the only one.  A connection has a decoder of its own, so
it is decoded as a whole, whatever the pieces in which it arrives, and what it leaves
incomplete ends with it.

All of this is about a record that is not sealed meanwhile.
-/

namespace Testbed.Trace

namespace Decoder

variable {framing : Framing}

/-- Octets skipped earlier make no difference to what is decoded. -/
theorem Drains.recount {state final : State} {found : List Frame}
    (drains : Drains framing state found final) (skipped : Nat) :
    ∃ total, Drains framing ⟨state.buffer, skipped⟩ found ⟨final.buffer, total⟩ := by
  induction drains generalizing skipped with
  | settled noFrame => exact ⟨_, .settled noFrame⟩
  | frame isFrame _ ih =>
      rcases ih _ with ⟨total, further⟩
      exact ⟨total, .frame isFrame further⟩

theorem frames_eq_of_drains {octets : Octets} {skipped : Nat} {found : List Frame} {final : State}
    (drains : Drains framing ⟨octets, skipped⟩ found final) : frames framing octets = found := by
  rcases drains.recount 0 with ⟨total, fresh⟩
  exact (decodeAll_of_drains fresh).1

theorem frames_decodeAll (framing : Framing) (skipped : Nat) (octets : Octets) :
    (decodeAll framing skipped octets).frames = frames framing octets := by
  have drains := drains_decodeAvailable framing ⟨octets, skipped⟩
  rw [(decodeAll_of_drains drains).1, frames_eq_of_drains drains]

/-! ## Messages that have not arrived whole -/

/-- The octets begin a message and end before it does. -/
def CutOff (framing : Framing) (part : Octets) : Prop :=
  ∃ missing frame notices, missing ≠ [] ∧
    decode framing (part ++ missing) = ⟨some frame, [], 0, notices⟩

/-- Nothing is found in a message that has not arrived whole, and nothing is dropped. -/
theorem CutOff.decode_eq {part : Octets} (cutOff : CutOff framing part) :
    decode framing part = .wait part := by
  rcases cutOff with ⟨missing, frame, notices, someMissing, whole⟩
  cases isFrame : (decode framing part).frame with
  | some found =>
      have longer := decode_append_of_frame framing part missing isFrame
      have nothingLeft := congrArg Attempt.rest (whole.symm.trans longer)
      exact absurd (List.append_eq_nil_iff.mp nothingLeft.symm).2 someMissing
  | none =>
      have longer := congrArg Attempt.skipped (decode_append_of_none framing part missing isFrame)
      rw [whole] at longer
      have noneSkipped : (decode framing part).skipped = 0 :=
        (Nat.add_eq_zero_iff.mp longer.symm).1
      have waits := eq_wait_of_decode isFrame noneSkipped
      have accounts := (sound_decode framing part).accounts
      rw [waits] at accounts
      -- Without a frame or a notice there is no entry, so all that was there is left.
      have untouched : part = (decode framing part).rest := accounts.drop_eq
      rw [waits, ← untouched]

/-- A message cut off at the end of a stream is dropped. -/
theorem frames_append_of_cutOff {whole part : Octets}
    (complete : (feed framing ⟨[], 0⟩ whole).state.buffer = []) (cutOff : CutOff framing part) :
    frames framing (whole ++ part) = frames framing whole := by
  have before : Drains framing ⟨whole, 0⟩ _ _ := drains_feed framing ⟨[], 0⟩ whole
  let behind : State :=
    ⟨(feed framing ⟨[], 0⟩ whole).state.buffer ++ part, (feed framing ⟨[], 0⟩ whole).state.skipped⟩
  have noneFound : (decode framing behind.buffer).frame = none := by
    have leftPart : behind.buffer = part := by
      rw [show behind.buffer = _ ++ part from rfl, complete, List.nil_append]
    rw [leftPart]
    exact congrArg Attempt.frame cutOff.decode_eq
  have both := before.append (.settled noneFound)
  rw [frames_eq_of_drains both, List.append_nil, frames_eq_of_drains before]

end Decoder

namespace Intake

/-! ## Reconnections -/

section Reconnections

variable (intake : Intake)

theorem reconnects_publish (frame : Frame) :
    (intake.publish frame).stats.reconnects = intake.stats.reconnects := by
  rw [publish]
  dsimp only
  split
  · split <;> rfl
  · rfl

theorem reconnects_publishAll (frames : List Frame) :
    (intake.publishAll frames).stats.reconnects = intake.stats.reconnects := by
  induction frames generalizing intake with
  | nil => rfl
  | cons frame rest ih => exact (ih _).trans (reconnects_publish intake frame)

theorem reconnects_readDatagrams (skipped : Nat) (datagrams : List Octets) :
    (datagrams.foldl readDatagram (skipped, intake)).2.stats.reconnects =
      intake.stats.reconnects := by
  induction datagrams generalizing intake skipped with
  | nil => rfl
  | cons datagram rest ih => exact (ih _ _).trans (reconnects_publishAll intake _)

theorem reconnects_readPieces (framing : Framing) (state : Decoder.State)
    (pieces : List Octets) :
    (pieces.foldl (readPiece framing) (state, intake)).2.stats.reconnects =
      intake.stats.reconnects := by
  induction pieces generalizing intake state with
  | nil => rfl
  | cons piece rest ih => exact (ih _ _).trans (reconnects_publishAll intake _)

theorem reconnects_readStream (framing : Framing) (pieces : List Octets) :
    (intake.readStream framing pieces).stats.reconnects = intake.stats.reconnects :=
  (reconnects_publishAll _ _).trans (reconnects_readPieces intake framing _ pieces)

/-- Every connection that replaces another is counted. -/
theorem reconnects_readConnections (connections : List (List Octets)) :
    (intake.readConnections connections).stats.reconnects =
      intake.stats.reconnects + (connections.length - 1) := by
  cases connections with
  | nil => rfl
  | cons pieces rest =>
      rw [readConnections, List.length_cons, Nat.add_sub_cancel,
        ← reconnects_readStream intake .bare pieces]
      generalize intake.readStream .bare pieces = first
      induction rest generalizing first with
      | nil => rfl
      | cons pieces rest ih =>
          rw [List.foldl_cons, ih, reconnects_readStream, List.length_cons,
            Nat.add_comm rest.length, ← Nat.add_assoc]
          rfl

end Reconnections

/-! ## Frames taken in -/

/-- An intake has become another by taking in frames. -/
structure TakesIn (intake later : Intake) (frames : List Frame) : Prop where
  filter_eq : later.filter = intake.filter
  isSealed_eq : later.record.isSealed = intake.record.isSealed
  frames_eq : later.record.frames.toList =
    intake.record.frames.toList ++ frames.filter (Filter.permits intake.filter)
  received_eq : later.stats.received = intake.stats.received + frames.length
  recorded_eq : later.stats.recorded =
    intake.stats.recorded + frames.countP (Filter.permits intake.filter)
  filtered_eq : later.stats.filtered =
    intake.stats.filtered + frames.countP (!Filter.permits intake.filter ·)

namespace TakesIn

theorem refl (intake : Intake) : intake.TakesIn intake [] := by
  constructor <;> simp

theorem trans {intake middle later : Intake} {frames others : List Frame}
    (first : intake.TakesIn middle frames) (second : middle.TakesIn later others) :
    intake.TakesIn later (frames ++ others) where
  filter_eq := second.filter_eq.trans first.filter_eq
  isSealed_eq := second.isSealed_eq.trans first.isSealed_eq
  frames_eq := by
    rw [second.frames_eq, first.frames_eq, first.filter_eq, List.filter_append, List.append_assoc]
  received_eq := by
    rw [second.received_eq, first.received_eq, List.length_append, Nat.add_assoc]
  recorded_eq := by
    rw [second.recorded_eq, first.recorded_eq, first.filter_eq, List.countP_append, Nat.add_assoc]
  filtered_eq := by
    rw [second.filtered_eq, first.filtered_eq, first.filter_eq, List.countP_append, Nat.add_assoc]

theorem countReconnect (intake : Intake) : intake.TakesIn intake.countReconnect [] :=
  ⟨rfl, rfl, (refl intake).frames_eq, rfl, rfl, rfl⟩

variable {intake : Intake}

theorem publish (unsealed : intake.record.isSealed = false) (frame : Frame) :
    intake.TakesIn (intake.publish frame) [frame] := by
  rw [Intake.publish, Record.append_of_unsealed unsealed]
  cases permitted : Filter.permits intake.filter frame <;>
    constructor <;>
    simp [permitted, Record.push, CaptureStats.countReceived, CaptureStats.countRecorded,
      CaptureStats.countFiltered]

theorem publishAll (unsealed : intake.record.isSealed = false) (frames : List Frame) :
    intake.TakesIn (intake.publishAll frames) frames := by
  induction frames generalizing intake with
  | nil => exact .refl intake
  | cons frame rest ih =>
      have first := publish unsealed frame
      exact first.trans (ih (first.isSealed_eq.trans unsealed))

/-! ## Datagrams -/

/-- One after the other, datagrams are decoded as if each were the only one. -/
theorem readDatagrams (unsealed : intake.record.isSealed = false) (datagrams : List Octets)
    (skipped : Nat) :
    intake.TakesIn (datagrams.foldl readDatagram (skipped, intake)).2
      (datagrams.flatMap (Decoder.frames .bare)) := by
  induction datagrams generalizing intake skipped with
  | nil => exact .refl intake
  | cons datagram rest ih =>
      have first := publishAll unsealed (Decoder.decodeAll .bare skipped datagram).frames
      have others := ih (first.isSealed_eq.trans unsealed)
        (Decoder.decodeAll .bare skipped datagram).state.skipped
      rw [Decoder.frames_decodeAll] at first others
      rw [List.foldl_cons, readDatagram, Decoder.frames_decodeAll, List.flatMap_cons]
      exact first.trans others

/-! ## Streams -/

/-- Pieces of a stream are taken in as they are decoded. -/
theorem readPieces (unsealed : intake.record.isSealed = false) (framing : Framing)
    (state : Decoder.State) (pieces : List Octets) :
    let (ended, later) := pieces.foldl (readPiece framing) (state, intake)
    ended = (Decoder.feedAll framing state pieces).state ∧
      intake.TakesIn later (Decoder.feedAll framing state pieces).frames := by
  induction pieces generalizing intake state with
  | nil => exact ⟨rfl, .refl intake⟩
  | cons piece rest ih =>
      have first := publishAll unsealed (Decoder.feed framing state piece).frames
      rcases ih (first.isSealed_eq.trans unsealed) (Decoder.feed framing state piece).state with
        ⟨ended, others⟩
      exact ⟨ended, first.trans others⟩

/-- A stream is decoded as a whole, whatever the pieces in which it arrives. -/
theorem readStream (unsealed : intake.record.isSealed = false) (framing : Framing)
    (pieces : List Octets) :
    intake.TakesIn (intake.readStream framing pieces) (Decoder.frames framing pieces.flatten) := by
  have drains : Decoder.Drains framing ⟨pieces.flatten, 0⟩ _ _ :=
    Decoder.drains_feedAll framing ⟨[], 0⟩ pieces (Decoder.decode_nil framing)
  have noneLeft := (Decoder.finish_of_settled drains.decode_final).1
  rcases readPieces unsealed framing ⟨[], 0⟩ pieces with ⟨ended, taken⟩
  rw [Decoder.frames_eq_of_drains drains, Intake.readStream]
  dsimp only
  rw [ended, noneLeft]
  exact taken

/-- So is every connection, by a decoder of its own. -/
theorem readConnections (unsealed : intake.record.isSealed = false)
    (connections : List (List Octets)) :
    intake.TakesIn (intake.readConnections connections)
      (connections.flatMap fun pieces => Decoder.frames .bare pieces.flatten) := by
  cases connections with
  | nil => exact .refl intake
  | cons pieces rest =>
      rw [Intake.readConnections, List.flatMap_cons]
      have first := readStream unsealed .bare pieces
      refine first.trans ?_
      have still := first.isSealed_eq.trans unsealed
      generalize intake.readStream .bare pieces = middle at still
      induction rest generalizing middle with
      | nil => exact .refl middle
      | cons pieces rest ih =>
          rw [List.foldl_cons, List.flatMap_cons]
          have counted := countReconnect middle
          have next := counted.trans (readStream (counted.isSealed_eq.trans still) .bare pieces)
          exact next.trans (ih _ (next.isSealed_eq.trans still))

/-! ## Counts -/

/-- A record that is filled by one capture holds what it held and what was recorded, and
what was received was either recorded or filtered. -/
theorem counts {record : Record} {filter : Option Filter} {later : Intake} {frames : List Frame}
    (taken : ({ record, filter } : Intake).TakesIn later frames) :
    later.stats.received = frames.length ∧
      later.record.size = record.size + later.stats.recorded ∧
      later.stats.recorded + later.stats.filtered = later.stats.received := by
  have recorded : later.stats.recorded = frames.countP (Filter.permits filter) :=
    taken.recorded_eq.trans (Nat.zero_add _)
  have filtered : later.stats.filtered = frames.countP (!Filter.permits filter ·) :=
    taken.filtered_eq.trans (Nat.zero_add _)
  have received : later.stats.received = frames.length :=
    taken.received_eq.trans (Nat.zero_add _)
  refine ⟨received, ?_, ?_⟩
  · rw [Record.size, ← Array.length_toList, taken.frames_eq, List.length_append,
      ← List.countP_eq_length_filter, recorded]
    rfl
  · rw [recorded, filtered, received, List.length_eq_countP_add_countP (Filter.permits filter)]
    simp only [Bool.not_eq_true, Bool.decide_eq_false]

end TakesIn

/-! ## Captures -/

/-- A capture of datagrams records, in the order of their arrival, the frames of each that
the filter permits, decoded as if it were the only one.  What it counts as received is
what it decodes, each recorded or filtered.  Putting another datagram in the place of one
changes the frames of that one and no others. -/
theorem readDatagrams_alone (record : Record) (unsealed : record.isSealed = false)
    (filter : Option Filter) (datagrams : List Octets) :
    let decoded := datagrams.flatMap (Decoder.frames .bare)
    let ended := ({ record, filter } : Intake).readDatagrams datagrams
    ended.record.frames.toList =
        record.frames.toList ++ decoded.filter (Filter.permits filter) ∧
      (ended.stats.received = decoded.length ∧
        ended.record.size = record.size + ended.stats.recorded ∧
        ended.stats.recorded + ended.stats.filtered = ended.stats.received ∧
        ended.stats.reconnects = 0) ∧
      ∀ before behind, ∃ front back, ∀ datagram,
        (({ record, filter } : Intake).readDatagrams
            (before ++ datagram :: behind)).record.frames.toList =
          front ++ (Decoder.frames .bare datagram).filter (Filter.permits filter) ++ back := by
  intro decoded ended
  let start : Intake := { record, filter }
  have taken (arrived : List Octets) :
      start.TakesIn (start.readDatagrams arrived) (arrived.flatMap (Decoder.frames .bare)) :=
    TakesIn.readDatagrams unsealed arrived 0
  rcases (taken datagrams).counts with ⟨received, recorded, filtered⟩
  refine ⟨(taken datagrams).frames_eq,
    ⟨received, recorded, filtered, reconnects_readDatagrams start 0 datagrams⟩, ?_⟩
  intro before behind
  let kept (arrived : List Octets) : List Frame :=
    (arrived.flatMap (Decoder.frames .bare)).filter (Filter.permits filter)
  refine ⟨record.frames.toList ++ kept before, kept behind, fun datagram => ?_⟩
  rw [(taken _).frames_eq, List.flatMap_append, List.flatMap_cons, List.filter_append,
    List.filter_append, ← List.append_assoc, ← List.append_assoc]

/-- A message, one that is cut off, and another message. -/
theorem readDatagrams_alone_cutOff :
    let datagrams : List Octets := [[0x20, 0, 0, 4], [0x20, 1, 0], [0x20, 2, 0, 4]]
    let ended := ({} : Intake).readDatagrams datagrams
    Record.empty.isSealed = false ∧
      ended.record.frames.toList =
        (datagrams.flatMap (Decoder.frames .bare)).filter (Filter.permits none) ∧
      ended.stats.received = 2 ∧ ended.stats.recorded + ended.stats.filtered = 2 := by
  intro datagrams ended
  rcases readDatagrams_alone .empty rfl none datagrams with
    ⟨frames, ⟨received, -, counted, -⟩, -⟩
  have two : (datagrams.flatMap (Decoder.frames .bare)).length = 2 := by decide +kernel
  rw [two] at received
  exact ⟨rfl, frames, received, counted.trans received⟩

/-- A capture of connections records, one connection after the other, the frames of each
that the filter permits, decoded as a whole whatever the pieces in which it arrived.  Every
connection but the first is counted as one that replaces another.  A message that is cut off
at the end of a connection leaves no trace, neither there nor in the next. -/
theorem readConnections_whole (record : Record) (unsealed : record.isSealed = false)
    (filter : Option Filter) (connections : List (List Octets)) :
    let decoded := connections.flatMap fun pieces => Decoder.frames .bare pieces.flatten
    let ended := ({ record, filter } : Intake).readConnections connections
    ended.record.frames.toList =
        record.frames.toList ++ decoded.filter (Filter.permits filter) ∧
      (ended.stats.received = decoded.length ∧
        ended.record.size = record.size + ended.stats.recorded ∧
        ended.stats.recorded + ended.stats.filtered = ended.stats.received ∧
        ended.stats.reconnects = connections.length - 1) ∧
      ∀ before pieces behind whole part, connections = before ++ pieces :: behind →
        pieces.flatten = whole ++ part →
        (Decoder.feed .bare ⟨[], 0⟩ whole).state.buffer = [] → Decoder.CutOff .bare part →
        (({ record, filter } : Intake).readConnections
            (before ++ [whole] :: behind)).record.frames = ended.record.frames := by
  intro decoded ended
  let start : Intake := { record, filter }
  have taken (arrived : List (List Octets)) :
      start.TakesIn (start.readConnections arrived)
        (arrived.flatMap fun pieces => Decoder.frames .bare pieces.flatten) :=
    TakesIn.readConnections unsealed arrived
  rcases (taken connections).counts with ⟨received, recorded, filtered⟩
  have reconnects : ended.stats.reconnects = connections.length - 1 :=
    (reconnects_readConnections start connections).trans (Nat.zero_add _)
  refine ⟨(taken connections).frames_eq, ⟨received, recorded, filtered, reconnects⟩, ?_⟩
  rintro before pieces behind whole part rfl split complete cutOff
  have same : Decoder.frames .bare [whole].flatten = Decoder.frames .bare pieces.flatten := by
    rw [split, Decoder.frames_append_of_cutOff complete cutOff, List.flatten_singleton]
  apply Array.toList_inj.mp
  calc (start.readConnections (before ++ [whole] :: behind)).record.frames.toList
      = record.frames.toList ++ ((before ++ [whole] :: behind).flatMap fun pieces =>
          Decoder.frames .bare pieces.flatten).filter (Filter.permits filter) :=
        (taken _).frames_eq
    _ = record.frames.toList ++ ((before ++ pieces :: behind).flatMap fun pieces =>
          Decoder.frames .bare pieces.flatten).filter (Filter.permits filter) := by
        simp only [List.flatMap_append, List.flatMap_cons, same]
    _ = ended.record.frames.toList := (taken _).frames_eq.symm

/-- A connection that ends within a message, and one that begins with what would have been
the rest of it. -/
theorem readConnections_whole_cutOff :
    let connections : List (List Octets) :=
      [[[0x20, 0, 0], [4, 0x20, 1]], [[0, 4, 0x20], [2, 0, 4]]]
    let ended := ({} : Intake).readConnections connections
    Record.empty.isSealed = false ∧
      (Decoder.feed .bare ⟨[], 0⟩ [0x20, 0, 0, 4]).state.buffer = [] ∧
      Decoder.CutOff .bare [0x20, 1] ∧
      ended.stats.received = 1 ∧ ended.stats.reconnects = 1 ∧
      (({} : Intake).readConnections
        [[[0x20, 0, 0, 4]], [[0, 4, 0x20], [2, 0, 4]]]).record.frames = ended.record.frames := by
  intro connections ended
  have complete : (Decoder.feed .bare ⟨[], 0⟩ [0x20, 0, 0, 4]).state.buffer = [] := by
    decide +kernel
  have cutOff : Decoder.CutOff .bare [0x20, 1] := by
    have arrives : Decoder.turn .bare [0x20, 1, 0, 4] = .stop _ := rfl
    exact ⟨[0, 4], _, _, by decide, Decoder.decode_of_stop arrives⟩
  rcases readConnections_whole .empty rfl none connections with
    ⟨-, ⟨received, -, -, reconnects⟩, dropped⟩
  have one : (connections.flatMap fun pieces =>
      Decoder.frames .bare pieces.flatten).length = 1 := by decide +kernel
  rw [one] at received
  exact ⟨rfl, complete, cutOff, received, reconnects,
    dropped [] _ _ [0x20, 0, 0, 4] [0x20, 1] rfl rfl complete cutOff⟩

end Intake

end Testbed.Trace
