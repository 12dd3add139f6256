import Testbed.Trace.Record

/-!
# Waiting for frames

This file supplies the waiter, which waits until a record holds enough frames
that a query selects.  It works in separate steps: it registers for notification,
takes a snapshot, reads whether the record is sealed, and parks until an append or
the sealing notifies it.  Between any two of these steps the record may change.

`Waiter.settle` runs the steps without interruption.
-/

namespace Testbed.Trace

/-- How waiting ended. -/
inductive WaitOutcome where
  /-- Positions of at least as many frames as were asked for. -/
  | found (positions : List Nat)
  /-- The record was sealed with fewer frames. -/
  | short (found : Nat)
  | timedOut
  deriving DecidableEq, Repr

/-- Where a waiter stands. -/
inductive WaitPhase where
  /-- About to register. -/
  | entering
  /-- Registered, about to take a snapshot. -/
  | registered
  /-- About to read whether the record is sealed. -/
  | looked (positions : List Nat)
  /-- Waiting to be notified. -/
  | parked
  | finished (outcome : WaitOutcome)
  deriving DecidableEq, Repr

/-- One call that waits for frames. -/
structure Waiter where
  query : Query
  count : Nat
  phase : WaitPhase := .entering
  /-- Whether a notification arrived since the waiter registered. -/
  notified : Bool := false

namespace Waiter

/-! ## Steps -/

/-- Register for notification. -/
def register (waiter : Waiter) : Waiter :=
  match waiter.phase with
  | .entering => { waiter with phase := .registered, notified := false }
  | _ => waiter

/-- Take a snapshot; enough frames end the wait. -/
def look (record : Record) (waiter : Waiter) : Waiter :=
  match waiter.phase with
  | .registered =>
      let positions := record.positions (some waiter.query)
      if waiter.count ≤ positions.length then
        { waiter with phase := .finished (.found positions) }
      else
        { waiter with phase := .looked positions }
  | _ => waiter

/-- Read whether the record is sealed; if so, the wait ends with the snapshot
taken before. -/
def judge (record : Record) (waiter : Waiter) : Waiter :=
  match waiter.phase with
  | .looked positions =>
      if record.isSealed then
        { waiter with phase := .finished (.short positions.length) }
      else
        { waiter with phase := .parked }
  | _ => waiter

/-- Start over once notified. -/
def resume (waiter : Waiter) : Waiter :=
  match waiter.phase with
  | .parked => if waiter.notified then { waiter with phase := .entering } else waiter
  | _ => waiter

/-- Receive a notification, which counts from registration on. -/
def notify (waiter : Waiter) : Waiter :=
  match waiter.phase with
  | .registered | .looked _ | .parked => { waiter with notified := true }
  | _ => waiter

/-- Give up when the time allowed has passed. -/
def expire (waiter : Waiter) : Waiter :=
  match waiter.phase with
  | .parked => { waiter with phase := .finished .timedOut }
  | _ => waiter

/-! ## Uninterrupted runs -/

/-- Register, look and judge without a change of the record in between. -/
def settle (record : Record) (waiter : Waiter) : Waiter :=
  ((waiter.register).look record).judge record

/-- Notify a waiter and let it run until it parks or ends. -/
def wake (record : Record) (waiter : Waiter) : Waiter :=
  waiter.notify.resume.settle record

/-- How the wait ended, if it has. -/
def outcome? (waiter : Waiter) : Option WaitOutcome :=
  match waiter.phase with
  | .finished outcome => some outcome
  | _ => none

/-- The result of a wait that was allowed some time. -/
def result (waiter : Waiter) (allowed : Span) : WaitOutcome → Result (List Nat)
  | .found positions => .ok positions
  | .short found =>
      .error (.notFound
        (toString found ++ " of " ++ toString waiter.count ++ " frames matching "
          ++ waiter.query.render ++ " before the record was sealed"))
  | .timedOut => .error (.timeout allowed)

end Waiter

namespace Record

/-- Wait while nothing changes the record: only the time allowed can pass. -/
def waitFor (record : Record) (query : Query) (count : Nat) (allowed : Span) :
    Result (List Nat) :=
  let waiter := (Waiter.settle record { query, count }).expire
  waiter.result allowed (waiter.outcome?.getD .timedOut)

end Record

end Testbed.Trace
