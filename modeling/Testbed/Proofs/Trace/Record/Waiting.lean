import Mathlib.Data.List.Induction
import Testbed.Proofs.Trace.Record.Sealing

/-!
# Waiting on a shared record

This file supplies what the outcome of a wait says about the record.  A waiter takes its
snapshot before it reads whether the record is sealed, and the record may grow between
the two steps.  A wait that ends because the record is sealed therefore reports what the
record held at the snapshot; the record holds more by the selected frames that came after.
-/

namespace Testbed.Trace

namespace Waiter

theorem outcome?_eq_some_iff (waiter : Waiter) (outcome : WaitOutcome) :
    waiter.outcome? = some outcome ↔ waiter.phase = .finished outcome := by
  cases phase : waiter.phase <;> simp [outcome?, phase]

theorem notify_eq (waiter : Waiter) :
    ∃ notified, waiter.notify = { waiter with notified } := by
  rcases waiter with ⟨query, count, phase, notified⟩
  cases phase with
  | registered | looked _ | parked => exact ⟨true, rfl⟩
  | entering | finished _ => exact ⟨notified, rfl⟩

end Waiter

namespace SharedRecord

section Waits

variable {start : SharedRecord} {index : Nat} {query : Query} {count : Nat}

/-- What the phase of a waiter says about the schedule that has led to it: when its last
snapshot was taken, and when the flag was read after it. -/
def Justifies (start : SharedRecord) (index : Nat) (query : Query) (count : Nat)
    (schedule : List Actor) : WaitPhase → Prop
  | .looked positions =>
      ∃ before after, schedule = before ++ .waiter index :: after ∧
        positions = (start.run before).record.positions (some query) ∧
        positions.length < count
  | .finished (.found positions) =>
      ∃ before after, schedule = before ++ .waiter index :: after ∧
        positions = (start.run before).record.positions (some query) ∧
        count ≤ positions.length
  | .finished (.short found) =>
      ∃ before between after,
        schedule = before ++ .waiter index :: between ++ .waiter index :: after ∧
        (start.run (before ++ .waiter index :: between)).record.isSealed = true ∧
        found = (start.run before).record.count (some query) ∧ found < count
  | _ => True

theorem Justifies.append {schedule : List Actor} {phase : WaitPhase}
    (justifies : Justifies start index query count schedule phase) (more : List Actor) :
    Justifies start index query count (schedule ++ more) phase := by
  match phase with
  | .looked positions =>
      rcases justifies with ⟨before, after, rfl, taken, few⟩
      exact ⟨before, after ++ more, by simp, taken, few⟩
  | .finished (.found positions) =>
      rcases justifies with ⟨before, after, rfl, taken, enough⟩
      exact ⟨before, after ++ more, by simp, taken, enough⟩
  | .finished (.short found) =>
      rcases justifies with ⟨before, between, after, rfl, isSealed, counted, few⟩
      exact ⟨before, between, after ++ more, by simp, isSealed, counted, few⟩
  | .entering | .registered | .parked | .finished .timedOut => trivial

/-- The next step of a waiter leads to a phase that is justified as well. -/
theorem Justifies.next {schedule : List Actor} {phase : WaitPhase}
    (justifies : Justifies start index query count schedule phase) (notified : Bool) :
    ∃ later heard,
      Waiter.next (start.run schedule).record { query, count, phase, notified } =
        { query, count, phase := later, notified := heard } ∧
      Justifies start index query count (schedule ++ [.waiter index]) later := by
  match phase with
  | .entering => exact ⟨.registered, false, rfl, trivial⟩
  | .registered =>
      by_cases enough :
          count ≤ ((start.run schedule).record.positions (some query)).length
      · refine ⟨.finished (.found _), notified, ?_, schedule, [], rfl, rfl, enough⟩
        rw [Waiter.next, Waiter.look]
        exact if_pos enough
      · refine ⟨.looked _, notified, ?_, schedule, [], rfl, rfl, Nat.lt_of_not_le enough⟩
        rw [Waiter.next, Waiter.look]
        exact if_neg enough
  | .looked positions =>
      rcases justifies with ⟨before, after, rfl, rfl, few⟩
      by_cases isSealed :
          (start.run (before ++ .waiter index :: after)).record.isSealed = true
      · refine ⟨.finished (.short _), notified, ?_, before, after, [], rfl, isSealed, rfl, few⟩
        rw [Waiter.next, Waiter.judge]
        exact if_pos isSealed
      · refine ⟨.parked, notified, ?_, trivial⟩
        rw [Waiter.next, Waiter.judge]
        exact if_neg isSealed
  | .parked =>
      cases notified with
      | true => exact ⟨.entering, true, rfl, trivial⟩
      | false => exact ⟨.parked, false, rfl, trivial⟩
  | .finished outcome => exact ⟨.finished outcome, notified, rfl, justifies.append _⟩

/-- Whatever a schedule does, the phase that a waiter has reached is justified. -/
theorem justifies_run (asked : start.waiters[index]? = some { query, count })
    (schedule : List Actor) :
    ∃ phase notified,
      (start.run schedule).waiters[index]? = some { query, count, phase, notified } ∧
      Justifies start index query count schedule phase := by
  induction schedule using List.reverseRecOn with
  | nil => exact ⟨.entering, false, asked, trivial⟩
  | append_singleton schedule actor ih =>
      rcases ih with ⟨phase, notified, there, justifies⟩
      rw [run_append, run_cons, run_nil]
      rcases waiter_step there actor with same | hears | ⟨rfl, steps⟩ | expires
      · exact ⟨phase, notified, same, justifies.append _⟩
      · rcases Waiter.notify_eq { query, count, phase, notified } with ⟨heard, notify⟩
        exact ⟨phase, heard, notify ▸ hears, justifies.append _⟩
      · rcases justifies.next notified with ⟨later, heard, next, justified⟩
        exact ⟨later, heard, next ▸ steps, justified⟩
      · match phase with
        | .parked => exact ⟨_, notified, expires, trivial⟩
        | .entering | .registered | .looked _ | .finished _ =>
            exact ⟨_, notified, expires, justifies.append _⟩

/-- A waiter that ends because the record is sealed reports what its snapshot selected,
which was less than it waited for.  The record has since grown by the frames that came
after the snapshot, so it is short of what was waited for exactly when too few of these
are selected; and none came when the record was sealed by then and no append pending. -/
theorem short_iff (indexed : start.record.Indexed)
    (asked : start.waiters[index]? = some { query, count }) (schedule : List Actor)
    {found : Nat}
    (ended : (start.run schedule).waiters[index]?.bind Waiter.outcome? = some (.short found)) :
    let last := (start.run schedule).record
    last.isSealed = true ∧
      ∃ before between after late,
        schedule = before ++ .waiter index :: between ++ .waiter index :: after ∧
        last.frames.toList = (start.run before).record.frames.toList ++ late ∧
        (found = (start.run before).record.count (some query) ∧ found < count) ∧
        (last.count (some query) < count ↔
          (late.filter query.selects).length < count - found) ∧
        ((start.run before).record.isSealed = true → (start.run before).pending = [] →
          late = []) := by
  intro last
  rcases justifies_run asked schedule with ⟨phase, notified, there, justifies⟩
  rw [there, Option.bind_some, Waiter.outcome?_eq_some_iff] at ended
  cases ended
  rcases justifies with ⟨before, between, after, split, isSealed, counted, few⟩
  have afterJudging : start.run schedule =
      (start.run (before ++ .waiter index :: between)).run (.waiter index :: after) := by
    rw [← run_append, ← split]
  have afterLooking : start.run schedule = (start.run before).run
      (.waiter index :: between ++ .waiter index :: after) := by
    rw [← run_append, ← List.append_assoc, ← split]
  rcases count_run (indexed_run indexed before) query
    (.waiter index :: between ++ .waiter index :: after) with ⟨late, grown, total⟩
  rw [← afterLooking] at grown total
  rw [← counted] at total
  constructor
  · rw [show last = _ from congrArg record afterJudging]
    exact isSealed_run isSealed _
  refine ⟨before, between, after, late, split, grown, ⟨counted, few⟩, ?_, ?_⟩
  · rw [total]
    exact (Nat.lt_sub_iff_add_lt').symm
  · intro closed noneLeft
    have same := congrArg (·.frames.toList) (record_run closed noneLeft
      (.waiter index :: between ++ .waiter index :: after))
    rw [← afterLooking, grown] at same
    exact List.append_right_eq_self.mp same

end Waits

/-- On a record that was sealed before, the report of a shortage holds. -/
theorem short_iff_sealed :
    let start : SharedRecord :=
      { closers := [.entering], waiters := [{ query := .empty, count := 1 }] }
    let schedule := [.closer 0, .closer 0, .waiter 0, .waiter 0, .waiter 0]
    (start.run schedule).waiters[0]?.bind Waiter.outcome? = some (.short 0) ∧
      (start.run schedule).record.count (some .empty) < 1 := by
  intro start schedule
  have ended : (start.run schedule).waiters[0]?.bind Waiter.outcome? = some (.short 0) := rfl
  refine ⟨ended, ?_⟩
  rcases short_iff Record.indexed_empty rfl schedule ended with
    ⟨-, before, between, after, late, -, grown, -, short, -⟩
  have none : late = [] := (List.append_eq_nil_iff.mp grown.symm).2
  exact short.mpr (none ▸ Nat.one_pos)

/-- A waiter looks at the empty record; the frame that it waits for is appended and the
record sealed before it reads the flag, and it reports that the record held no such
frame. -/
theorem short_of_enough :
    let start : SharedRecord :=
      { appends := [{ frame := .shortest }]
        closers := [.entering]
        waiters := [{ query := .empty, count := 1 }] }
    let schedule := [.waiter 0, .waiter 0, .appender 0, .appender 0, .appender 0,
      .closer 0, .closer 0, .waiter 0]
    let last := start.run schedule
    start.Fresh ∧ last.appends = [⟨.shortest, .finished true⟩] ∧ last.closers = [.finished] ∧
      last.record.isSealed = true ∧
      last.waiters[0]?.bind Waiter.outcome? = some (.short 0) ∧
      last.record.count (some .empty) = 1 := by
  intro start schedule last
  have fresh : start.Fresh := ⟨by decide, by decide, by simp [start]⟩
  exact ⟨fresh, by decide, by decide, by decide, by decide, by decide⟩

end SharedRecord

end Testbed.Trace
