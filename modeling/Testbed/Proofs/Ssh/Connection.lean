import Mathlib.Logic.Function.Iterate
import Testbed.Proofs.Ssh.CommandRun

/-!
# Attempts to connect

This file supplies how often connecting to an endpoint is tried and what comes of it, whatever
the attempts come to.  Attempts are made up to the first one that is taken for a connection, at
least one and at most as many as the options allow, with a pause between any two of them.  If
none is a connection, the failure names their number and what went wrong in the last one.

An attempt whose client is ended by a signal is taken for a connection, although nobody has
answered.  Connecting is what it should be exactly if that does not happen before an attempt has
been answered or the attempts are used up.
-/

namespace Testbed.Ssh

/-! ## Outcomes of attempts -/

namespace AttemptOutcome

/-- The client ends by itself and reports no failure of its own. -/
def Answered (outcome : AttemptOutcome) : Prop :=
  ∃ number, outcome = .ended (.code number) ∧ number ≠ 255

/-- A signal ends the client. -/
def Killed (outcome : AttemptOutcome) : Prop :=
  ∃ number, outcome = .ended (.signal number)

theorem not_answered_of_killed {outcome : AttemptOutcome} (killed : outcome.Killed) :
    ¬ outcome.Answered := by
  rcases killed with ⟨signal, rfl⟩
  rintro ⟨number, ends, -⟩
  cases ends

theorem connects_iff {outcome : AttemptOutcome} :
    outcome.connects = true ↔ outcome.Answered ∨ outcome.Killed := by
  cases outcome with
  | notStarted reason => simp [connects, Answered, Killed]
  | unanswered => simp [connects, Answered, Killed]
  | ended status =>
      cases status with
      | signal number => simp [connects, Answered, Killed, ExitStatus.code?]
      | code number =>
          simp [connects, Answered, Killed, ExitStatus.code?, CommandRun.natCast_eq_clientFailure]

end AttemptOutcome

/-- The outcome at a place is the first with a property. -/
structure FirstAt (property : AttemptOutcome → Prop) (outcomes : Nat → AttemptOutcome)
    (place : Nat) : Prop where
  here : property (outcomes place)
  before : ∀ earlier < place, ¬ property (outcomes earlier)

theorem exists_firstAt_or_none (property : AttemptOutcome → Prop)
    (outcomes : Nat → AttemptOutcome) (count : Nat) :
    (∃ place < count, FirstAt property outcomes place) ∨
      ∀ place < count, ¬ property (outcomes place) := by
  induction count with
  | zero => exact .inr fun place inTime => absurd inTime place.not_lt_zero
  | succ count ih =>
      rcases ih with ⟨place, inTime, first⟩ | none
      · exact .inl ⟨place, inTime.trans count.lt_succ_self, first⟩
      · by_cases here : property (outcomes count)
        · exact .inl ⟨count, count.lt_succ_self, here, none⟩
        · right
          intro place inTime
          rcases Nat.lt_succ_iff_lt_or_eq.mp inTime with earlier | rfl
          · exact none place earlier
          · exact here

/-! ## Attempts in any surroundings -/

section Connecting

variable {σ : Type} [Timed σ] {options : SessionOptions} {attempt : σ → AttemptOutcome × σ}

/-- An attempt and the pause behind it. -/
def round (options : SessionOptions) (attempt : σ → AttemptOutcome × σ) (state : σ) : σ :=
  Timed.pause options.retryInterval (attempt state).2

/-- What the attempts come to that are made one after the other. -/
def outcomeOf (options : SessionOptions) (attempt : σ → AttemptOutcome × σ) (state : σ)
    (number : Nat) : AttemptOutcome :=
  (attempt ((round options attempt)^[number] state)).1

variable {state : σ} (lastReason : String)

theorem attempts_of_connects (connected : (attempt state).1.connects = true) (count : Nat) :
    attempts options attempt lastReason (count + 1) state = (none, (attempt state).2) := by
  rw [attempts]
  exact if_pos connected

theorem attempts_one (failed : ¬ (attempt state).1.connects = true) :
    attempts options attempt lastReason 1 state =
      (some ((attempt state).1.describe (attemptBound options)), (attempt state).2) := by
  rw [attempts]
  exact if_neg failed

theorem attempts_succ (failed : ¬ (attempt state).1.connects = true) (count : Nat) :
    attempts options attempt lastReason (count + 2) state =
      attempts options attempt ((attempt state).1.describe (attemptBound options)) (count + 1)
        (round options attempt state) := by
  rw [attempts]
  exact if_neg failed

/-- Attempts go on to the first connection. -/
theorem attempts_of_firstAt {place count : Nat} (inTime : place < count)
    (first : FirstAt (·.connects = true) (outcomeOf options attempt state) place) :
    attempts options attempt lastReason count state =
      (none, (attempt ((round options attempt)^[place] state)).2) := by
  -- The attempts that are left begin with a round done, so the state is not kept fixed.
  induction place generalizing count state lastReason with
  | zero =>
      rcases Nat.exists_eq_add_one.mpr inTime with ⟨count, rfl⟩
      exact attempts_of_connects lastReason first.here count
  | succ place ih =>
      have failed : ¬ (attempt state).1.connects = true := first.before 0 place.succ_pos
      rcases Nat.exists_eq_add_of_le' inTime with ⟨more, rfl⟩
      change attempts options attempt lastReason (more + place + 2) state = _
      rw [attempts_succ lastReason failed]
      apply ih _ (Nat.lt_succ_of_le (Nat.le_add_left place more))
      constructor
      · exact first.here
      · intro earlier lt
        exact first.before (earlier + 1) (Nat.succ_lt_succ lt)

/-- Without a connection all attempts are made, and the last one is the one told about. -/
theorem attempts_of_none {count : Nat}
    (failed : ∀ number < count + 1, ¬ (outcomeOf options attempt state number).connects = true) :
    attempts options attempt lastReason (count + 1) state =
      (some ((outcomeOf options attempt state count).describe (attemptBound options)),
        (attempt ((round options attempt)^[count] state)).2) := by
  induction count generalizing state lastReason with
  | zero => exact attempts_one lastReason (failed 0 Nat.one_pos)
  | succ count ih =>
      have first : ¬ (attempt state).1.connects = true := failed 0 (Nat.succ_pos _)
      rw [attempts_succ lastReason first]
      apply ih
      intro number lt
      exact failed (number + 1) (Nat.succ_lt_succ lt)

theorem attemptCount_eq (options : SessionOptions) :
    attemptCount options = attemptCount options - 1 + 1 := by
  rw [attemptCount]
  omega

variable (endpoint : Endpoint)

theorem perform_connectBy_of_firstAt {place : Nat} (inTime : place < attemptCount options)
    (first : FirstAt (·.connects = true) (outcomeOf options attempt state) place) :
    (connectBy attempt endpoint options).perform state =
      (.ok (), (attempt ((round options attempt)^[place] state)).2) := by
  rw [connectBy, Action.perform_ofFunction, attempts_of_firstAt "" inTime first]

theorem perform_connectBy_of_none
    (failed : ∀ number < attemptCount options,
      ¬ (outcomeOf options attempt state number).connects = true) :
    (connectBy attempt endpoint options).perform state =
      (.error (unreachable endpoint options
          ((outcomeOf options attempt state (attemptCount options - 1)).describe
            (attemptBound options))),
        (attempt ((round options attempt)^[attemptCount options - 1] state)).2) := by
  rw [attemptCount_eq] at failed
  rw [connectBy, Action.perform_ofFunction, attemptCount_eq, attempts_of_none "" failed]
  rfl

end Connecting

/-! ## Attempts written down -/

/-- What is done to connect. -/
inductive Deed where
  | attempt
  | pause (span : Span)
  deriving DecidableEq, Repr

/-- Attempts with the pauses between them. -/
def deeds (interval : Span) (count : Nat) : List Deed :=
  (List.replicate count .attempt).intersperse (.pause interval)

/-- Surroundings in which attempts come to given outcomes and what is done is written down. -/
structure Scripted where
  outcome : Nat → AttemptOutcome
  done : List Deed := []

namespace Scripted

instance : Timed Scripted where
  now _ := .zero
  pause span state := { state with done := state.done ++ [.pause span] }

/-- The next attempt. -/
def attempt (state : Scripted) : AttemptOutcome × Scripted :=
  (state.outcome (state.done.count .attempt), { state with done := state.done ++ [.attempt] })

end Scripted

/-- Attempts, each with a pause behind it. -/
def rounds (interval : Span) (count : Nat) : List Deed :=
  (List.replicate count [.attempt, .pause interval]).flatten

theorem rounds_succ (interval : Span) (count : Nat) :
    rounds interval (count + 1) = rounds interval count ++ [.attempt, .pause interval] := by
  rw [rounds, List.replicate_succ', List.flatten_append, List.flatten_singleton, rounds]

theorem count_rounds (interval : Span) (count : Nat) :
    (rounds interval count).count .attempt = count := by
  induction count with
  | zero => rfl
  | succ count ih =>
      rw [rounds_succ, List.count_append, ih]
      simp

/-- The pauses stand behind all attempts but the last. -/
theorem deeds_succ (interval : Span) (count : Nat) :
    deeds interval (count + 1) = rounds interval count ++ [.attempt] := by
  induction count with
  | zero => rfl
  | succ count ih => exact congrArg (.attempt :: .pause interval :: ·) ih

theorem count_deeds (interval : Span) (count : Nat) :
    (deeds interval count).count .attempt = count := by
  cases count with
  | zero => rfl
  | succ count =>
      rw [deeds_succ, List.count_append, count_rounds]
      rfl

/-- Lists of deeds are told apart by the number of attempts. -/
theorem deeds_inj {interval : Span} {first second : Nat} :
    deeds interval first = deeds interval second ↔ first = second := by
  constructor
  · intro same
    rw [← count_deeds interval first, same, count_deeds]
  · rintro rfl
    rfl

theorem iterate_round_scripted (options : SessionOptions) (outcomes : Nat → AttemptOutcome)
    (count : Nat) :
    (round options Scripted.attempt)^[count] ⟨outcomes, []⟩ =
      ⟨outcomes, rounds options.retryInterval count⟩ := by
  induction count with
  | zero => rfl
  | succ count ih =>
      rw [Function.iterate_succ_apply', ih, rounds_succ, List.append_cons]
      rfl

theorem outcomeOf_scripted (options : SessionOptions) (outcomes : Nat → AttemptOutcome)
    (number : Nat) :
    outcomeOf options Scripted.attempt ⟨outcomes, []⟩ number = outcomes number := by
  rw [outcomeOf, iterate_round_scripted, Scripted.attempt, count_rounds]

/-- What connecting comes to with attempts of some outcomes, and what is done for it. -/
def connecting (endpoint : Endpoint) (options : SessionOptions)
    (outcomes : Nat → AttemptOutcome) : Result Unit × List Deed :=
  let (result, state) := (connectBy Scripted.attempt endpoint options).perform ⟨outcomes, []⟩
  (result, state.done)

/-- Connecting is right about what a connection is: it ends with the first one, if that is among
the attempts that may be made, and fails otherwise. -/
structure Faithful (connected : AttemptOutcome → Prop) (endpoint : Endpoint)
    (options : SessionOptions) (outcomes : Nat → AttemptOutcome) : Prop where
  success : ∀ place < attemptCount options, FirstAt connected outcomes place →
    connecting endpoint options outcomes = (.ok (), deeds options.retryInterval (place + 1))
  failure : (∀ place < attemptCount options, ¬ connected (outcomes place)) →
    connecting endpoint options outcomes =
      (.error (unreachable endpoint options
          ((outcomes (attemptCount options - 1)).describe (attemptBound options))),
        deeds options.retryInterval (attemptCount options))

theorem faithful_connects (endpoint : Endpoint) (options : SessionOptions)
    (outcomes : Nat → AttemptOutcome) :
    Faithful (·.connects = true) endpoint options outcomes := by
  have same : outcomeOf options Scripted.attempt ⟨outcomes, []⟩ = outcomes :=
    funext (outcomeOf_scripted options outcomes)
  constructor
  · intro place inTime first
    rw [← same] at first
    rw [connecting, perform_connectBy_of_firstAt endpoint inTime first, iterate_round_scripted,
      deeds_succ]
    rfl
  · intro failed
    rw [← same] at failed
    rw [connecting, perform_connectBy_of_none endpoint failed, iterate_round_scripted, same,
      attemptCount_eq options, deeds_succ]
    rfl

/-- What connecting from a host comes to depends on nothing but what the attempts come to. -/
theorem perform_connect (endpoint : Endpoint) (options : SessionOptions) (host : Host) :
    ((connect endpoint options).perform host).1 =
      (connecting endpoint options (outcomeOf options (attempt endpoint options) host)).1 := by
  let outcomes := outcomeOf options (attempt endpoint options) host
  have faithful := faithful_connects endpoint options outcomes
  rcases exists_firstAt_or_none (·.connects = true) outcomes (attemptCount options) with
    ⟨place, inTime, first⟩ | failed
  · rw [connect, perform_connectBy_of_firstAt endpoint inTime first,
      faithful.success place inTime first]
  · rw [connect, perform_connectBy_of_none endpoint failed, faithful.failure failed]

/-- A signal ends an attempt that may be made, and no client has answered before it. -/
def Misled (options : SessionOptions) (outcomes : Nat → AttemptOutcome) : Prop :=
  ∃ place < attemptCount options, FirstAt (·.connects = true) outcomes place ∧
    (outcomes place).Killed

variable {endpoint : Endpoint} {options : SessionOptions} {outcomes : Nat → AttemptOutcome}

/-- Unless a signal misleads, nothing is taken for a connection before a client answers. -/
theorem not_connects_of_not_answered (right : ¬ Misled options outcomes) {count : Nat}
    (may : count ≤ attemptCount options)
    (silent : ∀ place < count, ¬ (outcomes place).Answered) :
    ∀ place < count, ¬ (outcomes place).connects = true := by
  intro place
  induction place using Nat.strongRecOn with
  | ind place ih =>
      intro inTime connected
      -- The first attempt that is taken for a connection would be that of a killed client.
      rcases AttemptOutcome.connects_iff.mp connected with answered | killed
      · exact silent place inTime answered
      · apply right
        refine ⟨place, Nat.lt_of_lt_of_le inTime may, ⟨connected, ?_⟩, killed⟩
        intro earlier lt
        exact ih earlier lt (lt.trans inTime)

theorem faithful_answered_of_not_misled (right : ¬ Misled options outcomes) :
    Faithful AttemptOutcome.Answered endpoint options outcomes := by
  have faithful := faithful_connects endpoint options outcomes
  constructor
  · intro place inTime first
    apply faithful.success place inTime
    constructor
    · exact AttemptOutcome.connects_iff.mpr (.inl first.here)
    · exact not_connects_of_not_answered right inTime.le first.before
  · intro silent
    exact faithful.failure (not_connects_of_not_answered right le_rfl silent)

theorem not_misled_of_faithful_answered
    (answered : Faithful AttemptOutcome.Answered endpoint options outcomes) :
    ¬ Misled options outcomes := by
  rintro ⟨place, inTime, first, killed⟩
  have connected := (faithful_connects endpoint options outcomes).success place inTime first
  rcases exists_firstAt_or_none AttemptOutcome.Answered outcomes (attemptCount options) with
    ⟨other, may, answers⟩ | silent
  · rw [answered.success other may answers, Prod.mk.injEq, deeds_inj] at connected
    rcases Nat.add_right_cancel connected.2 with rfl
    exact AttemptOutcome.not_answered_of_killed killed answers.here
  · rw [answered.failure silent] at connected
    cases connected

/-- Connecting is right about what a connection is if that is a client that ends, and not with
the status for failures of its own; it is so if that is a client that answers, too, exactly
unless a signal ends an attempt that may be made before any client has answered. -/
theorem connecting_faithful_iff (endpoint : Endpoint) (options : SessionOptions)
    (outcomes : Nat → AttemptOutcome) :
    Faithful (·.connects = true) endpoint options outcomes ∧
      (Faithful AttemptOutcome.Answered endpoint options outcomes ↔ ¬ Misled options outcomes) := by
  constructor
  · exact faithful_connects endpoint options outcomes
  · exact ⟨not_misled_of_faithful_answered, faithful_answered_of_not_misled⟩

/-- Clients that are all killed are taken for a connection at the first attempt. -/
theorem connecting_killed :
    let killed : AttemptOutcome := .ended (.signal 9)
    ¬ killed.Answered ∧
      connecting { host := "127.0.0.1", port := 22 } { retries := 2 } (fun _ => killed) =
        (.ok (), [.attempt]) := by
  constructor
  · exact AttemptOutcome.not_answered_of_killed ⟨9, rfl⟩
  · rfl

end Testbed.Ssh
