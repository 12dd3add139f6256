import Testbed.Trace.Capture
import Testbed.Trace.Record.Timeline

/-!
# Capture windows

This file supplies windows, which are captures with a beginning and an end.  Closing
a window stops its capture and seals its record, which stays readable.  A window
around an action is closed whatever comes of the action, whose failure goes before
a failure of the capture.
-/

namespace Testbed.Trace

/-- A capture and the record it fills. -/
structure Window where
  capture : Capture

namespace Window

/-- Start a capture in a window. -/
def start (config : CaptureConfig) : Action Host Window := do
  let capture ← Capture.start config
  pure { capture }

/-- The record as it is now. -/
def record (window : Window) : Action Host Record :=
  .observe fun host => window.capture.recordAt host.clock

/-- Let time pass up to each arrival until a wait is over. -/
def follow (window : Window) (timeline : Timeline) : List Span → Timeline
  | [] => timeline
  | time :: rest =>
      if timeline.isOver then
        timeline
      else
        let record := window.capture.recordAt time
        window.follow ({ timeline with now := time }.change record) rest

/-- Wait for frames that a query selects: their positions. -/
def waitFor (window : Window) (query : Query) (count : Nat) (allowed : Span) :
    Action Host (List Nat) :=
  .ofFunction fun host =>
    let times := window.capture.arrivalTimes.filter fun time =>
      decide (host.clock < time ∧ time ≤ host.clock + allowed)
    let timeline : Timeline :=
      { record := window.capture.recordAt host.clock, now := host.clock }
    let (result, timeline) :=
      (window.follow (timeline.beginWait query count allowed) times).endWait
    (result.getD (.error (.timeout allowed)), host.advanceTo timeline.now)

/-- Stop the capture and seal the record. -/
def finish (window : Window) (host : Host) : CaptureEnd × Host :=
  let (ending, host) := window.capture.stop host
  ({ ending with record := ending.record.close }, host)

/-- Close a window: its sealed record. -/
def close (window : Window) : Action Host Record :=
  .ofFunction fun host =>
    let (ending, host) := window.finish host
    (ending.outcome.map fun _ => ending.record, host)

/-- Start a window, perform an action and close the window. -/
def during {α : Type} (config : CaptureConfig) (body : Window → Action Host α) :
    Action Host α := do
  let window ← start config
  let outcome ← (body window).attempt
  let closed ← window.close.attempt
  let value ← .give outcome
  discard (.give closed)
  pure value

end Window

end Testbed.Trace
