import Mathlib.Data.List.Induction
import Testbed.Proofs.Trace.Record.Waiting

/-!
# Notification of waiters

This file supplies why a waiter that nobody notifies is right to go on waiting.  A waiter
registers before it looks, and a call that changes the record notifies after the change.
So a change is either seen by the look, or its notification is still to come, or it has
arrived: a parked waiter that has heard nothing and has nothing to hear waits on an open
record that is short of what it waits for.

It also supplies that a wait which succeeds gives what the record held at its last look,
however the record has grown since.
-/

namespace Testbed.Trace

/-! ## Positions in a record that grows -/

namespace Record

theorem lt_size_of_mem_positions {record : Record} {query : Option Query} {position : Nat}
    (selected : position ∈ record.positions query) : position < record.size := by
  rcases List.mem_filter.mp selected with ⟨candidate, kept⟩
  cases asked : query.filter (!·.isEmpty) with
  | none =>
      rw [asked] at candidate
      exact List.mem_range.mp candidate
  | some query =>
      cases there : record.frames[position]? with
      | none => simp [asked, there] at kept
      | some frame => exact (Array.getElem?_eq_some_iff.mp there).1

/-- What a query has found stays at its positions while the record grows. -/
theorem filterMap_positions {earlier later : Record} (query : Option Query)
    (grown : earlier.frames.toList <+: later.frames.toList) :
    ((earlier.positions query).filterMap fun position => later.frames[position]?) =
      earlier.find query := by
  apply List.filterMap_congr
  intro position selected
  have bound : position < earlier.frames.toList.length := lt_size_of_mem_positions selected
  rcases grown with ⟨added, whole⟩
  rw [← Array.getElem?_toList, ← Array.getElem?_toList, ← whole, List.getElem?_append_left bound]

theorem length_find (record : Record) (query : Option Query) :
    (record.find query).length = (record.positions query).length := by
  rw [find, List.length_filterMap_eq_countP, List.countP_eq_length]
  intro position selected
  rw [Array.getElem?_eq_getElem (lt_size_of_mem_positions selected), Option.isSome_some]

end Record

/-! ## The looks of a waiter -/

namespace Waiter

variable {record : Record} {query : Query} {count : Nat} {positions : List Nat} {notified : Bool}

theorem next_of_enough (enough : count ≤ (record.positions (some query)).length) :
    Waiter.next record ⟨query, count, .registered, notified⟩ =
      ⟨query, count, .finished (.found (record.positions (some query))), notified⟩ :=
  if_pos enough

theorem next_of_short (short : ¬count ≤ (record.positions (some query)).length) :
    Waiter.next record ⟨query, count, .registered, notified⟩ =
      ⟨query, count, .looked (record.positions (some query)), notified⟩ :=
  if_neg short

theorem next_of_sealed (isSealed : record.isSealed = true) :
    Waiter.next record ⟨query, count, .looked positions, notified⟩ =
      ⟨query, count, .finished (.short positions.length), notified⟩ :=
  if_pos isSealed

theorem next_of_open (isOpen : ¬record.isSealed = true) :
    Waiter.next record ⟨query, count, .looked positions, notified⟩ =
      ⟨query, count, .parked, notified⟩ :=
  if_neg isOpen

end Waiter

namespace SharedRecord

/-! ## News -/

/-- A call has changed the record and is about to notify the waiters. -/
def News (shared : SharedRecord) : Prop :=
  (∃ call ∈ shared.appends, call.notifies = true) ∨ ∃ call ∈ shared.closers, call.notifies = true

private theorem mem_set_of_ne {α : Type} {list : List α} {index : Nat} {old other : α}
    (there : list[index]? = some old) (here : other ∈ list) (differ : other ≠ old) (new : α) :
    other ∈ list.set index new := by
  rcases List.getElem?_of_mem here with ⟨place, found⟩
  have apart : index ≠ place := by
    rintro rfl
    exact differ (Option.some.inj (found.symm.trans there))
  exact List.mem_of_getElem? ((List.getElem?_set_ne apart).trans found)

private theorem mem_set_self {α : Type} {list : List α} {index : Nat} {old : α}
    (there : list[index]? = some old) (new : α) : new ∈ list.set index new := by
  rcases List.getElem?_eq_some_iff.mp there with ⟨bound, _⟩
  exact List.mem_of_getElem? (List.getElem?_set_self bound)

/-- A step makes news, or tells every waiter, or leaves the record alone and no news
untold. -/
theorem news_step (shared : SharedRecord) (actor : Actor) :
    (shared.step actor).News ∨
      (shared.step actor).waiters = shared.waiters.map Waiter.notify ∨
      (shared.step actor).record = shared.record ∧ (shared.News → (shared.step actor).News) := by
  cases actor with
  | appender index =>
      cases there : shared.appends[index]? with
      | none =>
          rw [step, there]
          exact .inr (.inr ⟨rfl, id⟩)
      | some call =>
          rw [step_appender there]
          -- An append that is silent can be replaced without loss of other news.
          have kept (silent : call.notifies = false) (news : shared.News) :
              (∃ other ∈ shared.appends.set index (call.next shared.record),
                other.notifies = true) ∨ ∃ other ∈ shared.closers, other.notifies = true := by
            rcases news with ⟨other, here, tells⟩ | sealing
            · refine .inl ⟨other, mem_set_of_ne there here ?_ _, tells⟩
              rintro rfl
              rw [silent] at tells
              contradiction
            · exact .inr sealing
          cases phase : call.phase with
          | entering | finished _ =>
              refine .inr (.inr ⟨?_, kept ?_⟩)
              · simp [AppendCall.change, phase]
              · simp [AppendCall.notifies, phase]
          | admitted =>
              refine .inl (.inl ⟨call.next shared.record, mem_set_self there _, ?_⟩)
              simp [AppendCall.notifies, AppendCall.next, phase]
          | pushed =>
              refine .inr (.inl ?_)
              simp [announce, AppendCall.notifies, phase]
  | closer index =>
      cases there : shared.closers[index]? with
      | none =>
          rw [step, there]
          exact .inr (.inr ⟨rfl, id⟩)
      | some call =>
          rw [step, there]
          cases call with
          | entering => exact .inl (.inr ⟨.closed, mem_set_self there _, rfl⟩)
          | closed => exact .inr (.inl rfl)
          | finished =>
              refine .inr (.inr ⟨rfl, ?_⟩)
              rintro (appending | ⟨other, here, tells⟩)
              · exact .inl appending
              · refine .inr ⟨other, mem_set_of_ne there here ?_ _, tells⟩
                rintro rfl
                contradiction
  | waiter index | clock index =>
      rw [step]
      split <;> exact .inr (.inr ⟨rfl, id⟩)

/-! ## What a waiter knows -/

/-- What a waiter has seen of the record still holds of it, unless there is something that
the waiter has heard or is about to hear. -/
def Informed (shared : SharedRecord) (waiter : Waiter) : Prop :=
  match waiter.phase with
  | .looked _ =>
      waiter.notified = true ∨ shared.News ∨
        shared.record.count (some waiter.query) < waiter.count
  | .parked =>
      waiter.notified = true ∨ shared.News ∨
        (shared.record.isSealed = false ∧ shared.record.count (some waiter.query) < waiter.count)
  | _ => True

variable {shared : SharedRecord}

theorem informed_of_news (news : shared.News) (waiter : Waiter) : shared.Informed waiter := by
  unfold Informed
  split
  · exact .inr (.inl news)
  · exact .inr (.inl news)
  · trivial

theorem informed_notify (shared : SharedRecord) (waiter : Waiter) :
    shared.Informed waiter.notify := by
  rcases waiter with ⟨query, count, phase, notified⟩
  cases phase with
  | looked _ | parked => exact .inl rfl
  | entering | registered | finished _ => trivial

/-- The next step of a waiter keeps it informed. -/
theorem Informed.next {waiter : Waiter} (informed : shared.Informed waiter) :
    shared.Informed (waiter.next shared.record) := by
  rcases waiter with ⟨query, count, phase, notified⟩
  cases phase with
  | entering | finished _ => trivial
  | registered =>
      by_cases enough : count ≤ (shared.record.positions (some query)).length
      · rw [Waiter.next_of_enough enough]
        trivial
      · rw [Waiter.next_of_short enough]
        exact .inr (.inr (Nat.lt_of_not_le enough))
  | looked positions =>
      by_cases isSealed : shared.record.isSealed = true
      · rw [Waiter.next_of_sealed isSealed]
        trivial
      · rw [Waiter.next_of_open isSealed]
        rcases informed with heard | news | short
        · exact .inl heard
        · exact .inr (.inl news)
        · exact .inr (.inr ⟨Bool.eq_false_iff.mpr isSealed, short⟩)
  | parked =>
      cases notified with
      | true => trivial
      | false => exact informed

theorem Informed.expire {waiter : Waiter} (informed : shared.Informed waiter) :
    shared.Informed waiter.expire := by
  rcases waiter with ⟨query, count, phase, notified⟩
  cases phase with
  | parked => trivial
  | entering | registered | looked _ | finished _ => exact informed

/-- A waiter stays informed while the record is left alone and no news goes untold. -/
theorem Informed.of_record_eq {later : SharedRecord} {waiter : Waiter}
    (informed : shared.Informed waiter) (same : later.record = shared.record)
    (kept : shared.News → later.News) : later.Informed waiter := by
  rcases waiter with ⟨query, count, phase, notified⟩
  cases phase with
  | entering | registered | finished _ => trivial
  | looked _ | parked =>
      rcases informed with heard | news | short
      · exact .inl heard
      · exact .inr (.inl (kept news))
      · exact .inr (.inr (same ▸ short))

/-- Whatever a step does, it leaves a waiter informed. -/
theorem Informed.step {index : Nat} {waiter : Waiter} (informed : shared.Informed waiter)
    (there : shared.waiters[index]? = some waiter) (actor : Actor) :
    ∃ later, (shared.step actor).waiters[index]? = some later ∧
      (shared.step actor).Informed later := by
  have stays := waiter_step there actor
  rcases news_step shared actor with news | told | ⟨same, kept⟩
  · rcases stays with there | there | ⟨-, there⟩ | there <;>
      exact ⟨_, there, informed_of_news news _⟩
  · refine ⟨waiter.notify, ?_, informed_notify ..⟩
    rw [told, List.getElem?_map, there, Option.map_some]
  · rcases stays with there | there | ⟨-, there⟩ | there
    · exact ⟨_, there, informed.of_record_eq same kept⟩
    · exact ⟨_, there, informed_notify ..⟩
    · exact ⟨_, there, informed.next.of_record_eq same kept⟩
    · exact ⟨_, there, informed.expire.of_record_eq same kept⟩

theorem Informed.run {index : Nat} {waiter : Waiter} (informed : shared.Informed waiter)
    (there : shared.waiters[index]? = some waiter) (schedule : List Actor) :
    ∃ later, (shared.run schedule).waiters[index]? = some later ∧
      (shared.run schedule).Informed later := by
  induction schedule generalizing shared waiter with
  | nil => exact ⟨waiter, there, informed⟩
  | cons actor schedule ih =>
      rcases informed.step there actor with ⟨later, here, still⟩
      exact ih still here

/-! ## Waits that succeed -/

end SharedRecord

namespace Waiter

variable {record : Record} {waiter : Waiter} {positions : List Nat}

theorem result_eq_ok_iff {allowed : Span} {outcome : WaitOutcome} :
    waiter.result allowed outcome = .ok positions ↔ outcome = .found positions := by
  cases outcome <;> simp [result]

theorem outcome?_notify : waiter.notify.outcome? = waiter.outcome? := by
  rcases notify_eq waiter with ⟨notified, notify⟩
  rw [notify]
  rfl

theorem found_of_expire (found : waiter.expire.outcome? = some (.found positions)) :
    waiter.outcome? = some (.found positions) := by
  rcases waiter with ⟨query, count, phase, notified⟩
  cases phase with
  | parked => cases found
  | entering | registered | looked _ | finished _ => exact found

/-- The step with which a wait succeeds is a look at the record. -/
theorem found_of_next (found : (waiter.next record).outcome? = some (.found positions)) :
    waiter.outcome? = some (.found positions) ∨
      (waiter.phase = .registered ∧ positions = record.positions (some waiter.query) ∧
        waiter.count ≤ positions.length) := by
  rcases waiter with ⟨query, count, phase, notified⟩
  cases phase with
  | entering => cases found
  | registered =>
      right
      by_cases enough : count ≤ (record.positions (some query)).length
      · rw [next_of_enough enough] at found
        cases found
        exact ⟨rfl, rfl, enough⟩
      · rw [next_of_short enough] at found
        cases found
  | looked positions =>
      by_cases isSealed : record.isSealed = true
      · rw [next_of_sealed isSealed] at found
        cases found
      · rw [next_of_open isSealed] at found
        cases found
  | parked => cases notified <;> cases found
  | finished outcome => exact .inl found

end Waiter

namespace SharedRecord

section Success

variable {start : SharedRecord} {index : Nat} {query : Query} {count : Nat}

/-- A wait that has succeeded looked at the record in its last step, and gives what that
look found. -/
theorem found_run (asked : start.waiters[index]? = some { query, count })
    {schedule : List Actor} {positions : List Nat}
    (found : (start.run schedule).waiters[index]?.bind Waiter.outcome? =
      some (.found positions)) :
    ∃ before after, schedule = before ++ .waiter index :: after ∧
      (start.run before).waiters[index]?.map (·.phase) = some .registered ∧
      positions = (start.run before).record.positions (some query) ∧
      count ≤ positions.length := by
  induction schedule using List.reverseRecOn with
  | nil =>
      rw [run_nil, asked] at found
      cases found
  | append_singleton schedule actor ih =>
      rcases justifies_run asked schedule with ⟨phase, notified, there, -⟩
      -- A wait that had succeeded before this step took its last look before it.
      have already (found : Waiter.outcome? { query, count, phase, notified } =
          some (.found positions)) :
          ∃ before after, schedule ++ [actor] = before ++ .waiter index :: after ∧
            (start.run before).waiters[index]?.map (·.phase) = some .registered ∧
            positions = (start.run before).record.positions (some query) ∧
            count ≤ positions.length := by
        rcases ih (by rw [there, Option.bind_some, found]) with
          ⟨before, after, rfl, looking, taken, enough⟩
        exact ⟨before, after ++ [actor], by simp, looking, taken, enough⟩
      rw [run_append, run_cons, run_nil] at found
      rcases waiter_step there actor with same | hears | ⟨rfl, steps⟩ | expires
      · rw [same] at found
        exact already found
      · rw [hears, Option.bind_some, Waiter.outcome?_notify] at found
        exact already found
      · rw [steps] at found
        rcases Waiter.found_of_next found with before | ⟨looking, taken, enough⟩
        · exact already before
        · exact ⟨schedule, [], rfl, by rw [there, Option.map_some, looking], taken, enough⟩
      · rw [expires] at found
        exact already (Waiter.found_of_expire found)

/-- A waiter that is parked without notification, while no call has a change of the record
still to tell, waits on an open record that holds fewer of the selected frames than it
waits for.  A wait that succeeds gives at least as many as it waits for, and these are
the frames that its query found in the record when the wait took its last look. -/
theorem parked_only_while_short (asked : start.waiters[index]? = some { query, count })
    (schedule : List Actor) :
    let last := start.run schedule
    ∃ waiter, last.waiters[index]? = some waiter ∧
      (waiter.phase = .parked → waiter.notified = false →
        (∀ call ∈ last.appends, call.phase ≠ .pushed) → .closed ∉ last.closers →
        last.record.isSealed = false ∧ last.record.count (some query) < count) ∧
      ∀ allowed positions,
        waiter.outcome?.map (waiter.result allowed) = some (.ok positions) →
        ∃ before after, schedule = before ++ .waiter index :: after ∧
          (start.run before).waiters[index]?.map (·.phase) = some .registered ∧
          (positions.filterMap fun position => last.record.frames[position]?) =
            (start.run before).record.find (some query) ∧
          count ≤ ((start.run before).record.find (some query)).length := by
  intro last
  rcases justifies_run asked schedule with ⟨phase, notified, there, -⟩
  refine ⟨_, there, ?_, ?_⟩
  · rintro rfl rfl noAppend noSealing
    have entering : start.Informed { query, count } := trivial
    rcases entering.run asked schedule with ⟨waiter, here, informed⟩
    cases Option.some.inj (there.symm.trans here)
    rcases informed with heard | (⟨call, pushed, tells⟩ | ⟨call, closed, tells⟩) | short
    · cases heard
    · exact absurd (of_decide_eq_true tells) (noAppend call pushed)
    · exact absurd (of_decide_eq_true tells ▸ closed) noSealing
    · exact short
  · intro allowed positions success
    rcases Option.map_eq_some_iff.mp success with ⟨outcome, ended, given⟩
    rw [Waiter.result_eq_ok_iff] at given
    subst given
    have found : last.waiters[index]?.bind Waiter.outcome? = some (.found positions) := by
      rw [there]
      exact ended
    rcases found_run asked found with ⟨before, after, split, looking, taken, enough⟩
    have grown : (start.run before).record.frames.toList <+: last.record.frames.toList := by
      have later : last = (start.run before).run (.waiter index :: after) := by
        rw [← run_append, ← split]
      rw [later]
      exact frames_run _ _
    refine ⟨before, after, split, looking, ?_, ?_⟩
    · rw [taken]
      exact Record.filterMap_positions _ grown
    · rw [Record.length_find, ← taken]
      exact enough

end Success

/-- Two waiters park and a frame is appended: the one that waits for one frame is given
it, and the other parks again, with the second frame still to come. -/
theorem parked_only_while_short_second :
    let start : SharedRecord :=
      { appends := [{ frame := .shortest }]
        waiters := [{ query := .empty, count := 1 }, { query := .empty, count := 2 }] }
    let schedule := [.waiter 0, .waiter 0, .waiter 0, .waiter 1, .waiter 1, .waiter 1,
      .appender 0, .appender 0, .appender 0, .waiter 0, .waiter 0, .waiter 0,
      .waiter 1, .waiter 1, .waiter 1, .waiter 1]
    (∃ before, (start.run before).record.find (some .empty) = [.shortest]) ∧
      (start.run schedule).record.isSealed = false ∧
      (start.run schedule).record.count (some .empty) < 2 := by
  intro start schedule
  constructor
  · have asked : start.waiters[0]? = some { query := .empty, count := 1 } := rfl
    rcases parked_only_while_short asked schedule with
      ⟨waiter, there, -, success⟩
    have found : (start.run schedule).waiters[0]?.bind Waiter.outcome? =
        some (.found [0]) := by decide
    have ended : waiter.outcome? = some (.found [0]) := by rw [← found, there, Option.bind_some]
    rcases success .zero [0] (by rw [ended]; rfl) with ⟨before, after, -, -, same, -⟩
    exact ⟨before, same.symm.trans (by decide)⟩
  · have asked : start.waiters[1]? = some { query := .empty, count := 2 } := rfl
    rcases parked_only_while_short asked schedule with
      ⟨waiter, there, short, -⟩
    have parked : (start.run schedule).waiters[1]?.map (·.phase) = some .parked := by decide
    have unheard : (start.run schedule).waiters[1]?.map (·.notified) = some false := by decide
    rw [there] at parked unheard
    exact short (Option.some.inj parked) (Option.some.inj unheard) (by decide) (by decide)

end SharedRecord

end Testbed.Trace
