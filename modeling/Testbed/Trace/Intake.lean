import Testbed.Trace.Decoder
import Testbed.Trace.Filter
import Testbed.Trace.Record

/-!
# The intake of a capture

This file supplies what a capture makes of the octets that reach it: they are
decoded, the frames that a filter permits are appended to a record, and all are
counted.

Datagrams are decoded one at a time, and streams as a whole, whatever the pieces
in which they arrive.  A daemon that closes its connection is connected to again,
and a message that the first connection leaves incomplete is dropped.
-/

namespace Testbed.Trace

/-- Counts of a capture. -/
structure CaptureStats where
  /-- Frames decoded. -/
  received : Nat := 0
  /-- Frames appended to the record. -/
  recorded : Nat := 0
  /-- Frames that the filter kept out. -/
  filtered : Nat := 0
  /-- Connections after the first. -/
  reconnects : Nat := 0
  deriving DecidableEq, Repr

namespace CaptureStats

/-- Count a decoded frame. -/
def countReceived (stats : CaptureStats) : CaptureStats :=
  { stats with received := stats.received + 1 }

/-- Count a frame that the record took. -/
def countRecorded (stats : CaptureStats) : CaptureStats :=
  { stats with recorded := stats.recorded + 1 }

/-- Count a frame that the filter held back. -/
def countFiltered (stats : CaptureStats) : CaptureStats :=
  { stats with filtered := stats.filtered + 1 }

end CaptureStats

/-- A record that is being filled. -/
structure Intake where
  record : Record := .empty
  /-- The filter; without one every frame is recorded. -/
  filter : Option Filter := none
  stats : CaptureStats := {}

namespace Intake

/-- Count a frame, and record it if the filter permits. -/
def publish (intake : Intake) (frame : Frame) : Intake :=
  let stats := intake.stats.countReceived
  if Filter.permits intake.filter frame then
    let (added, record) := intake.record.append frame
    { intake with record, stats := if added then stats.countRecorded else stats }
  else
    { intake with stats := stats.countFiltered }

/-- Publish frames in order. -/
def publishAll (intake : Intake) (frames : List Frame) : Intake :=
  frames.foldl publish intake

/-! ## Datagrams -/

/-- Decode a datagram by a decoder that has skipped some octets so far. -/
def readDatagram (reading : Nat × Intake) (datagram : Octets) : Nat × Intake :=
  let run := Decoder.decodeAll .bare reading.1 datagram
  (run.state.skipped, reading.2.publishAll run.frames)

/-- Decode datagrams, one decoder for all. -/
def readDatagrams (intake : Intake) (datagrams : List Octets) : Intake :=
  (datagrams.foldl readDatagram (0, intake)).2

/-! ## Streams -/

/-- Decode a piece of a stream. -/
def readPiece (framing : Framing) (reading : Decoder.State × Intake) (piece : Octets) :
    Decoder.State × Intake :=
  let run := Decoder.feed framing reading.1 piece
  (run.state, reading.2.publishAll run.frames)

/-- Decode a stream up to its end by a decoder of its own. -/
def readStream (framing : Framing) (intake : Intake) (pieces : List Octets) : Intake :=
  let (state, intake) := pieces.foldl (readPiece framing) (⟨[], 0⟩, intake)
  intake.publishAll (Decoder.finish framing state).frames

/-- Count a connection that replaces a closed one. -/
def countReconnect (intake : Intake) : Intake :=
  { intake with stats := { intake.stats with reconnects := intake.stats.reconnects + 1 } }

/-- Decode what arrives over one connection after the other. -/
def readConnections (intake : Intake) : List (List Octets) → Intake
  | [] => intake
  | pieces :: rest =>
      rest.foldl (fun intake pieces => intake.countReconnect.readStream .bare pieces)
        (intake.readStream .bare pieces)

end Intake

end Testbed.Trace
