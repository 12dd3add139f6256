import Testbed.Trace.Record.Waiter

/-!
# Records in time

This file supplies a record together with the time and the waits that are under
way.  A change of the record wakes every wait; a wait that has not ended when its
time is up ends then.  The clock only moves when somebody waits for the end of a
wait.
-/

namespace Testbed.Trace

/-- A wait that is under way, or over. -/
structure Wait where
  waiter : Waiter
  allowed : Span
  /-- The time at which the wait is given up. -/
  deadline : Span

/-- A record, the time, and the waits that are under way, the latest first. -/
structure Timeline where
  record : Record := .empty
  now : Span := .zero
  waits : List Wait := []

namespace Wait

/-- Whether a wait has ended. -/
def isOver (wait : Wait) : Bool :=
  wait.waiter.outcome?.isSome

/-- Give up a wait whose time is up. -/
def expireAt (now : Span) (wait : Wait) : Wait :=
  if wait.deadline ≤ now then { wait with waiter := wait.waiter.expire } else wait

/-- The result of a wait; one that has not ended has run out of time. -/
def result (wait : Wait) : Result (List Nat) :=
  wait.waiter.result wait.allowed (wait.waiter.outcome?.getD .timedOut)

end Wait

namespace Timeline

/-! ## Changes of the record -/

/-- Replace the record and wake every wait. -/
def change (timeline : Timeline) (record : Record) : Timeline :=
  { timeline with
    record
    waits := timeline.waits.map fun wait =>
      { wait with waiter := wait.waiter.wake record } }

/-- Append frames one by one: which were accepted. -/
def appendEach (timeline : Timeline) (frames : List Frame) : List Bool × Timeline :=
  let (accepted, record) := frames.foldl
    (fun (accepted, record) frame =>
      let (added, record) := record.append frame
      (accepted ++ [added], record))
    ([], timeline.record)
  (accepted, timeline.change record)

/-- Seal the record. -/
def close (timeline : Timeline) : Timeline :=
  timeline.change timeline.record.close

/-! ## Time -/

/-- Move the clock forward; waits whose time is up are given up. -/
def advance (timeline : Timeline) (now : Span) : Timeline :=
  let now := if timeline.now ≤ now then now else timeline.now
  { timeline with now, waits := timeline.waits.map (·.expireAt now) }

/-- Begin to wait for a number of frames. -/
def beginWait (timeline : Timeline) (query : Query) (count : Nat) (allowed : Span) :
    Timeline :=
  let wait : Wait :=
    { waiter := .settle timeline.record { query, count }
      allowed
      deadline := timeline.now + allowed }
  { timeline with waits := wait.expireAt timeline.now :: timeline.waits }

/-- Whether the latest wait is over. -/
def isOver (timeline : Timeline) : Bool :=
  (timeline.waits.head?.map Wait.isOver).getD true

/-- Wait for the end of the latest wait. -/
def endWait (timeline : Timeline) : Option (Result (List Nat)) × Timeline :=
  match timeline.waits with
  | [] => (none, timeline)
  | wait :: _ =>
      let timeline :=
        if wait.isOver then timeline else timeline.advance wait.deadline
      (timeline.waits.head?.map Wait.result,
        { timeline with waits := timeline.waits.drop 1 })

/-- Wait for a number of frames while nothing else happens. -/
def waitFor (timeline : Timeline) (query : Query) (count : Nat) (allowed : Span) :
    Result (List Nat) × Timeline :=
  let (result, timeline) := (timeline.beginWait query count allowed).endWait
  (result.getD (.error (.timeout allowed)), timeline)

end Timeline

end Testbed.Trace
