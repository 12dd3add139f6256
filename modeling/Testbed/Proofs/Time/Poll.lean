import Mathlib.Algebra.Order.Floor.Div
import Mathlib.Logic.Function.Iterate
import Testbed.Host.Machine
import Testbed.Time.Poll

/-!
# Polling as rounds

This file supplies what a poll does as a list of rounds, each a check, a look at the clock
and, unless it is the last, a pause.  A poll is described by its rounds if it ends, and it
goes on for ever otherwise.

Nothing is said of how long checks take, and a pause may last longer than asked.  All the
same the pauses use the time up: each is the whole interval, or all the time that is left.
-/

namespace Testbed

/-- Surroundings in which a pause lasts at least as long as asked. -/
class SteadyClock (σ : Type) [Timed σ] : Prop where
  now_pause : ∀ (span : Span) (state : σ),
    Timed.now state + span ≤ Timed.now (Timed.pause span state)

instance : SteadyClock Host where
  now_pause _ _ := Nat.le_add_right ..

namespace PollPolicy

variable {σ : Type} [Timed σ] (policy : PollPolicy) (subject : String)
  (probe : σ → Bool × σ) (start : Span)

/-! ## Rounds -/

/-- What is seen of a round of polling. -/
structure Round where
  answer : Bool
  /-- The time since the beginning, read behind the check. -/
  elapsed : Span
  /-- The pause behind the check, unless it was the last. -/
  pause : Option Span

/-- The time that has passed behind a check made at a state. -/
def elapsedAt (state : σ) : Span :=
  Timed.now (probe state).2 - start

/-- A check fails with time left. -/
def GoesOn (state : σ) : Prop :=
  (probe state).1 = false ∧ elapsedAt probe start state < policy.timeout

/-- The state before the next check. -/
def resume (state : σ) : σ :=
  Timed.pause (policy.pauseAfter (elapsedAt probe start state)) (probe state).2

/-- The rounds of a poll that ends, what it gives and the state after it. -/
inductive Polls : σ → List Round → Result Span × σ → Prop where
  | found {state : σ} (answer : (probe state).1 = true) :
      Polls state [⟨true, elapsedAt probe start state, none⟩]
        (.ok (elapsedAt probe start state), (probe state).2)
  | overdue {state : σ} (answer : (probe state).1 = false)
      (late : policy.timeout ≤ elapsedAt probe start state) :
      Polls state [⟨false, elapsedAt probe start state, none⟩]
        (.error (policy.overdue subject (elapsedAt probe start state)), (probe state).2)
  | again {state : σ} {rounds : List Round} {outcome : Result Span × σ}
      (goesOn : policy.GoesOn probe start state)
      (rest : Polls (policy.resume probe start state) rounds outcome) :
      Polls state
        (⟨false, elapsedAt probe start state,
          some (policy.pauseAfter (elapsedAt probe start state))⟩ :: rounds)
        outcome

/-- Every check fails, each with time left. -/
def PollsForever (state : σ) : Prop :=
  ∀ count, policy.GoesOn probe start ((policy.resume probe start)^[count] state)

section Turns

variable {policy subject probe start} {state : σ}

theorem poll_of_found (answer : (probe state).1 = true) :
    policy.poll subject probe start state =
      (.ok (elapsedAt probe start state), (probe state).2) := by
  have checked : policy.check subject probe start state =
      .inr (.ok (elapsedAt probe start state), (probe state).2) := if_pos answer
  rw [poll_eq, checked]

theorem poll_of_overdue (answer : (probe state).1 = false)
    (late : policy.timeout ≤ elapsedAt probe start state) :
    policy.poll subject probe start state =
      (.error (policy.overdue subject (elapsedAt probe start state)), (probe state).2) := by
  have checked : policy.check subject probe start state =
      .inr (.error (policy.overdue subject (elapsedAt probe start state)), (probe state).2) :=
    (if_neg (Bool.eq_false_iff.mp answer)).trans (if_pos late)
  rw [poll_eq, checked]

theorem poll_of_goesOn (goesOn : policy.GoesOn probe start state) :
    policy.poll subject probe start state =
      policy.poll subject probe start (policy.resume probe start state) := by
  rcases goesOn with ⟨answer, early⟩
  have checked : policy.check subject probe start state =
      .inl (policy.resume probe start state) :=
    (if_neg (Bool.eq_false_iff.mp answer)).trans (if_neg (Nat.not_le.mpr early))
  rw [poll_eq, checked]

/-- A poll that ends gives what its rounds come to. -/
theorem Polls.poll_eq_outcome {rounds : List Round} {outcome : Result Span × σ}
    (polls : policy.Polls subject probe start state rounds outcome) :
    policy.poll subject probe start state = outcome := by
  induction polls with
  | found answer => exact poll_of_found answer
  | overdue answer late => exact poll_of_overdue answer late
  | again goesOn _ further => exact (poll_of_goesOn goesOn).trans further

theorem exists_polls_of_stops (stops : ¬policy.GoesOn probe start state) :
    ∃ rounds outcome, policy.Polls subject probe start state rounds outcome := by
  cases answer : (probe state).1 with
  | true => exact ⟨_, _, .found answer⟩
  | false =>
      have late : policy.timeout ≤ elapsedAt probe start state := by
        apply Nat.le_of_not_lt
        intro early
        exact stops ⟨answer, early⟩
      exact ⟨_, _, .overdue answer late⟩

theorem exists_polls_of_resume (goesOn : policy.GoesOn probe start state)
    (further : ∃ rounds outcome,
      policy.Polls subject probe start (policy.resume probe start state) rounds outcome) :
    ∃ rounds outcome, policy.Polls subject probe start state rounds outcome := by
  rcases further with ⟨rounds, outcome, polls⟩
  exact ⟨_, _, .again goesOn polls⟩

/-- A poll ends if it stops after some number of rounds. -/
theorem exists_polls_of_iterate_stops (count : Nat) (state : σ)
    (stops : ¬policy.GoesOn probe start ((policy.resume probe start)^[count] state)) :
    ∃ rounds outcome, policy.Polls subject probe start state rounds outcome := by
  induction count generalizing state with
  | zero => exact exists_polls_of_stops stops
  | succ count ih =>
      by_cases goesOn : policy.GoesOn probe start state
      · exact exists_polls_of_resume goesOn (ih (policy.resume probe start state) stops)
      · exact exists_polls_of_stops goesOn

variable (policy subject probe start state) in
/-- A poll ends or goes on for ever. -/
theorem exists_polls_or_pollsForever :
    (∃ rounds outcome, policy.Polls subject probe start state rounds outcome) ∨
      policy.PollsForever probe start state := by
  by_cases forever : policy.PollsForever probe start state
  · exact .inr forever
  · rcases not_forall.mp forever with ⟨count, stops⟩
    exact .inl (exists_polls_of_iterate_stops count state stops)

end Turns

/-! ## Time -/

/-- The nanoseconds left before a check. -/
def nanosLeft (state : σ) : Nat :=
  policy.timeout.nanos - (Timed.now state - start).nanos

section Time

variable [SteadyClock σ] {policy subject probe start} {state : σ}

/-- A round with a pause uses up the interval, or else all the time that is left. -/
theorem nanosLeft_resume (passes : ∀ state, Timed.now state ≤ Timed.now (probe state).2)
    (begun : start ≤ Timed.now state) (goesOn : policy.GoesOn probe start state) :
    start ≤ Timed.now (policy.resume probe start state) ∧
      0 < policy.nanosLeft start state ∧
      policy.nanosLeft start (policy.resume probe start state) ≤
        policy.nanosLeft start state - policy.interval.nanos := by
  have paused : Timed.now (probe state).2 + policy.pauseAfter (elapsedAt probe start state) ≤
      Timed.now (policy.resume probe start state) := SteadyClock.now_pause ..
  have checked := passes state
  have early := goesOn.2
  simp only [Span.le_iff, Span.lt_iff, elapsedAt, pauseAfter, nanosLeft, Span.nanos_add,
    Span.nanos_sub, Span.nanos_min] at begun checked paused early ⊢
  omega

/-- With an interval, every poll ends. -/
theorem exists_polls_of_interval (passes : ∀ state, Timed.now state ≤ Timed.now (probe state).2)
    (positive : 0 < policy.interval.nanos) (begun : start ≤ Timed.now state) :
    ∃ rounds outcome, policy.Polls subject probe start state rounds outcome := by
  induction left : policy.nanosLeft start state using Nat.strongRecOn generalizing state with
  | ind count ih =>
      by_cases goesOn : policy.GoesOn probe start state
      · rcases nanosLeft_resume passes begun goesOn with ⟨begunAgain, some, less⟩
        exact exists_polls_of_resume goesOn (ih _ (by omega) begunAgain rfl)
      · exact exists_polls_of_stops goesOn

/-- Where an interval less is left, a round less is to come. -/
private theorem ceilDiv_lt {left fewer interval : Nat} (some : 0 < left) (positive : 0 < interval)
    (less : fewer ≤ left - interval) : fewer ⌈/⌉ interval + 1 ≤ left ⌈/⌉ interval := by
  have enough : left ≤ interval * (left ⌈/⌉ interval) :=
    (ceilDiv_le_iff_le_mul positive).mp (Nat.le_refl _)
  have atLeastOne : left ⌈/⌉ interval ≠ 0 := by
    intro none
    rw [none] at enough
    omega
  have oneLess : fewer ⌈/⌉ interval ≤ left ⌈/⌉ interval - 1 := by
    rw [ceilDiv_le_iff_le_mul positive, Nat.mul_sub_one]
    omega
  omega

/-- A poll has a round for each interval that fits into the time, and one more. -/
theorem Polls.length_le {rounds : List Round} {outcome : Result Span × σ}
    (polls : policy.Polls subject probe start state rounds outcome)
    (passes : ∀ state, Timed.now state ≤ Timed.now (probe state).2)
    (positive : 0 < policy.interval.nanos) (begun : start ≤ Timed.now state) :
    rounds.length ≤ policy.nanosLeft start state ⌈/⌉ policy.interval.nanos + 1 := by
  induction polls with
  | found | overdue => exact Nat.le_add_left ..
  | @again state rounds _ goesOn _ ih =>
      rcases nanosLeft_resume passes begun goesOn with ⟨begunAgain, some, less⟩
      calc
        rounds.length + 1
        _ ≤ policy.nanosLeft start (policy.resume probe start state) ⌈/⌉
            policy.interval.nanos + 1 + 1 := Nat.add_le_add_right (ih begunAgain) 1
        _ ≤ policy.nanosLeft start state ⌈/⌉ policy.interval.nanos + 1 :=
            Nat.add_le_add_right (ceilDiv_lt some positive less) 1

end Time

/-! ## What a poll reports -/

theorem pauseAfter_le (elapsed : Span) :
    policy.pauseAfter elapsed ≤ policy.interval ∧
      policy.pauseAfter elapsed ≤ policy.timeout - elapsed := by
  constructor
  · rw [Span.le_iff, pauseAfter, Span.nanos_min]
    exact Nat.min_le_left ..
  · rw [Span.le_iff, pauseAfter, Span.nanos_min]
    exact Nat.min_le_right ..

/-- What the rounds of a poll say of its result, and of the pauses. -/
structure Honest (rounds : List Round) (result : Result Span) : Prop where
  checked : rounds ≠ []
  earlier : ∀ round ∈ rounds.dropLast, round.answer = false
  isOk_iff : result.isOk = true ↔ ∃ last, rounds.getLast? = some last ∧ last.answer = true
  overdue : ∀ error, result = .error error →
    (∀ round ∈ rounds, round.answer = false) ∧
      ∃ elapsed, error = .reachabilityTimeout subject elapsed policy.timeout ∧
        policy.timeout ≤ elapsed
  /-- A pause is only made with time left, and is no longer than that. -/
  pauses : ∀ round ∈ rounds, ∀ pause, round.pause = some pause →
    round.elapsed < policy.timeout ∧ pause ≤ policy.interval ∧
      pause ≤ policy.timeout - round.elapsed

variable {policy subject} in
theorem Honest.cons {rounds : List Round} {result : Result Span} {round : Round}
    (honest : policy.Honest subject rounds result) (answer : round.answer = false)
    (paused : ∀ pause, round.pause = some pause →
      round.elapsed < policy.timeout ∧ pause ≤ policy.interval ∧
        pause ≤ policy.timeout - round.elapsed) :
    policy.Honest subject (round :: rounds) result where
  checked := List.cons_ne_nil _ _
  earlier := by
    rw [List.dropLast_cons_of_ne_nil honest.checked]
    exact List.forall_mem_cons.mpr ⟨answer, honest.earlier⟩
  isOk_iff := by
    have last : (round :: rounds).getLast? = rounds.getLast? := by
      rw [List.getLast?_cons, List.getLast?_eq_some_getLast honest.checked]
      rfl
    rw [last]
    exact honest.isOk_iff
  overdue error failed := by
    rcases honest.overdue error failed with ⟨failures, late⟩
    exact ⟨List.forall_mem_cons.mpr ⟨answer, failures⟩, late⟩
  pauses := List.forall_mem_cons.mpr ⟨paused, honest.pauses⟩

variable {policy subject probe start} in
theorem Polls.honest {state : σ} {rounds : List Round} {outcome : Result Span × σ}
    (polls : policy.Polls subject probe start state rounds outcome) :
    policy.Honest subject rounds outcome.1 := by
  induction polls with
  | found answer =>
      refine ⟨List.cons_ne_nil _ _, by simp, ?_, by simp, by simp⟩
      exact iff_of_true rfl ⟨_, rfl, rfl⟩
  | overdue answer late =>
      refine ⟨List.cons_ne_nil _ _, by simp, ?_, ?_, by simp⟩
      · simp [Except.isOk, Except.toBool]
      · rintro error ⟨⟩
        exact ⟨by simp, _, rfl, late⟩
  | again goesOn _ ih =>
      apply ih.cons rfl
      rintro pause ⟨⟩
      exact ⟨goesOn.2, policy.pauseAfter_le _⟩

/-- Polling is bounded and honest, whatever the checks answer and however long they take, where
the clock does not go back and a pause lasts at least as long as asked.  A poll has at least
one check.  It succeeds exactly if its last check does, and no other check does.  It reports
that the time is up only if no check succeeded, and with a time that is no less than the time
limit.  Each pause is made with time left, and is no longer than that or the interval.  With
an interval a poll ends, with a check for each interval that fits into the time limit and one
more at most; without one it may go on for ever, every check failing with time left.  Polling
for a loss is polling with the opposite answers. -/
theorem waitUntil_bounded_and_honest [SteadyClock σ] (policy : PollPolicy) (subject : String)
    (probe : σ → Bool × σ) (passes : ∀ state, Timed.now state ≤ Timed.now (probe state).2)
    (state : σ) :
    let start := Timed.now state
    let ran := (policy.waitUntil subject probe).perform state
    ((∃ rounds, policy.Polls subject probe start state rounds ran ∧
        policy.Honest subject rounds ran.1 ∧
        (0 < policy.interval.nanos →
          rounds.length ≤ policy.timeout.nanos ⌈/⌉ policy.interval.nanos + 1)) ∨
      policy.interval = .zero ∧ policy.PollsForever probe start state) ∧
    policy.waitUntilLost subject probe =
      policy.waitUntil ("loss of " ++ subject) fun state => (!(probe state).1, (probe state).2) := by
  intro start ran
  refine ⟨?_, rfl⟩
  have ends : (∃ rounds outcome, policy.Polls subject probe start state rounds outcome) ∨
      policy.interval = .zero ∧ policy.PollsForever probe start state := by
    rcases Nat.eq_zero_or_pos policy.interval.nanos with none | positive
    · rcases policy.exists_polls_or_pollsForever subject probe start state with ended | forever
      · exact .inl ended
      · exact .inr ⟨congrArg Span.mk none, forever⟩
    · exact .inl (exists_polls_of_interval passes positive (Nat.le_refl _))
  rcases ends with ⟨rounds, outcome, polls⟩ | forever
  · have same : ran = outcome := polls.poll_eq_outcome
    rw [same]
    refine .inl ⟨rounds, polls, polls.honest, ?_⟩
    intro positive
    have counted := polls.length_le passes positive (Nat.le_refl _)
    rwa [nanosLeft, Span.nanos_sub, Nat.sub_self, Nat.sub_zero] at counted
  · exact .inr forever

/-- Checks of a millisecond each that never succeed: there are at most five in ten milliseconds
with an interval of three. -/
theorem waitUntil_bounded_and_honest_overdue :
    let policy : PollPolicy := { timeout := .ofMillis 10, interval := .ofMillis 3 }
    let probe : Host → Bool × Host := fun host =>
      (false, { host with clock := host.clock + .ofMillis 1 })
    let ran := (policy.waitUntil "port" probe).perform {}
    (∀ host, Timed.now host ≤ Timed.now (probe host).2) ∧ 0 < policy.interval.nanos ∧
      policy.timeout.nanos ⌈/⌉ policy.interval.nanos + 1 = 5 ∧
      ∃ rounds, policy.Polls "port" probe .zero {} rounds ran ∧
        policy.Honest "port" rounds ran.1 ∧ rounds.length ≤ 5 := by
  intro policy probe ran
  have passes : ∀ host, Timed.now host ≤ Timed.now (probe host).2 :=
    fun host => Nat.le_add_right ..
  have positive : 0 < policy.interval.nanos := by decide
  have limit : policy.timeout.nanos ⌈/⌉ policy.interval.nanos + 1 = 5 := by
    rw [Nat.ceilDiv_eq_add_pred_div]
    decide
  rcases waitUntil_bounded_and_honest policy "port" probe passes {} with
    ⟨⟨rounds, polls, honest, counted⟩ | ⟨none, -⟩, -⟩
  · exact ⟨passes, positive, limit, rounds, polls, honest, limit ▸ counted positive⟩
  · exact absurd none (by decide)

end PollPolicy

end Testbed
