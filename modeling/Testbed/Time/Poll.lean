import Testbed.Action
import Testbed.Document.Reader

/-!
# Bounded polling

This file supplies checks that are repeated until they succeed or a time limit
has passed.  Between two checks the poller pauses for its interval, or for the
time that is left if that is less.

What bounds the number of checks is the time that passes in the pauses.  A poller
without an interval, where neither checks nor pauses take time, goes on for ever.
-/

namespace Testbed

/-- How long to poll, and how long to pause between two checks. -/
structure PollPolicy where
  timeout : Span := .ofSeconds 180
  interval : Span := .ofSeconds 1
  deriving DecidableEq, Repr

namespace PollPolicy

/-- The failure of a poll that found nothing in time. -/
def overdue (policy : PollPolicy) (subject : String) (elapsed : Span) : Error :=
  .reachabilityTimeout subject elapsed policy.timeout

/-- How long to pause when part of the time has passed. -/
def pauseAfter (policy : PollPolicy) (elapsed : Span) : Span :=
  policy.interval.min (policy.timeout - elapsed)

/-- Check once: the state before the next check, or what the polling that began at `start`
comes to if there is none. -/
def check {σ : Type} [Timed σ] (policy : PollPolicy) (subject : String)
    (probe : σ → Bool × σ) (start : Span) (state : σ) : σ ⊕ (Result Span × σ) :=
  let (answer, state) := probe state
  let elapsed := Timed.now state - start
  if answer then
    .inr (.ok elapsed, state)
  else if policy.timeout ≤ elapsed then
    .inr (.error (policy.overdue subject elapsed), state)
  else
    .inl (Timed.pause (policy.pauseAfter elapsed) state)

/-- Check until a check succeeds or the time is up, the polling having begun at
`start`. -/
def poll {σ : Type} [Timed σ] (policy : PollPolicy) (subject : String)
    (probe : σ → Bool × σ) (start : Span) (state : σ) : Result Span × σ :=
  -- Any outcome will do: `repeatM` only asks for one because a loop may never end.
  have : Nonempty (Result Span × σ) := ⟨(.ok start, state)⟩
  Id.run (repeatM (fun state => pure (policy.check subject probe start state)) state)

/-- A poll checks once, and starts over unless that was the end of it. -/
theorem poll_eq {σ : Type} [Timed σ] (policy : PollPolicy) (subject : String)
    (probe : σ → Bool × σ) (start : Span) (state : σ) :
    policy.poll subject probe start state =
      match policy.check subject probe start state with
      | .inl next => policy.poll subject probe start next
      | .inr outcome => outcome := by
  have : Nonempty (Result Span × σ) := ⟨(.ok start, state)⟩
  rw [poll, repeatM_eq_of_monadTail, repeatM.body, pure_bind]
  cases policy.check subject probe start state with
  | inl next => rfl
  | inr outcome => rfl

/-- Poll until a check succeeds: the time it took. -/
def waitUntil {σ : Type} [Timed σ] (policy : PollPolicy) (subject : String)
    (probe : σ → Bool × σ) : Action σ Span :=
  .ofFunction fun state => policy.poll subject probe (Timed.now state) state

/-- Poll until a check fails. -/
def waitUntilLost {σ : Type} [Timed σ] (policy : PollPolicy) (subject : String)
    (probe : σ → Bool × σ) : Action σ Span :=
  policy.waitUntil ("loss of " ++ subject) fun state =>
    let (answer, state) := probe state
    (!answer, state)

end PollPolicy

end Testbed
