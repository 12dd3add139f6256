import Testbed.Trace.Query

/-!
# Records of captured frames

This file supplies the append-only record that a capture fills and its readers
query.  An index of positions by application makes queries that pin down one
application independent of the number of other frames.

Appending consists of two steps, `admits` and `push`, so that what happens when a
record is sealed between them can be stated.
-/

namespace Testbed.Trace

/-- Captured frames in the order of their capture. -/
structure Record where
  frames : Array Frame := #[]
  /-- Positions of the frames of each application, in ascending order. -/
  index : List (String × Array Nat) := []
  /-- Whether the record has stopped accepting frames. -/
  isSealed : Bool := false

namespace Record

/-- The record without frames. -/
def empty : Record :=
  {}

/-- How many frames the record holds. -/
def size (record : Record) : Nat :=
  record.frames.size

/-! ## Appending -/

/-- Whether a frame may be appended. -/
def admits (record : Record) : Bool :=
  !record.isSealed

/-- Add a position to the entry of an application. -/
def addPosition (apid : String) (position : Nat) :
    List (String × Array Nat) → List (String × Array Nat)
  | [] => [(apid, #[position])]
  | (other, positions) :: rest =>
      if other = apid then
        (other, positions.push position) :: rest
      else
        (other, positions) :: addPosition apid position rest

/-- Add a frame and its index entry. -/
def push (record : Record) (frame : Frame) : Record :=
  { record with
    frames := record.frames.push frame
    index := addPosition frame.apid record.frames.size record.index }

/-- Append a frame, unless the record is sealed. -/
def append (record : Record) (frame : Frame) : Bool × Record :=
  if record.admits then (true, record.push frame) else (false, record)

/-- A record that is not sealed accepts a frame and adds it behind the others. -/
theorem append_of_unsealed {record : Record} (unsealed : record.isSealed = false)
    (frame : Frame) : record.append frame = (true, record.push frame) := by
  rw [append, admits, unsealed]
  rfl

/-- A sealed record refuses a frame and stays as it is. -/
theorem append_of_sealed {record : Record} (closed : record.isSealed = true) (frame : Frame) :
    record.append frame = (false, record) := by
  rw [append, admits, closed]
  rfl

/-- Stop accepting frames. -/
def close (record : Record) : Record :=
  { record with isSealed := true }

/-! ## Queries -/

/-- Positions that a query has to look at. -/
def candidates (record : Record) (query : Option Query) : List Nat :=
  match query.bind Query.exactApid? with
  | some apid => ((record.index.lookup apid).getD #[]).toList
  | none => List.range record.frames.size

/-- Positions of the frames that a query selects; without a query, all. -/
def positions (record : Record) (query : Option Query) : List Nat :=
  let query := query.filter (!·.isEmpty)
  (record.candidates query).filter fun position =>
    match query, record.frames[position]? with
    | some query, some frame => query.selects frame
    | none, _ => true
    | _, none => false

/-- The frames that a query selects, in the order of their capture. -/
def find (record : Record) (query : Option Query) : List Frame :=
  (record.positions query).filterMap fun position => record.frames[position]?

/-- How many frames a query selects. -/
def count (record : Record) (query : Option Query) : Nat :=
  (record.positions query).length

/-- The applications seen so far, sorted. -/
def apids (record : Record) : List String :=
  (record.index.map (·.1)).mergeSort fun first second => !decide (second < first)

/-- A summary of the record. -/
def summary (record : Record) : String :=
  "DltRecord \x7b frames: " ++ toString record.size ++ ", sealed: "
    ++ (if record.isSealed then "true" else "false") ++ " \x7d"

end Record

end Testbed.Trace
