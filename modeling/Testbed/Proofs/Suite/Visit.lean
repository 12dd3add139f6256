import Mathlib.Data.List.Nodup
import Mathlib.Data.List.Range
import Testbed.Proofs.Suite.Journal

/-!
# What a journal can say

This file supplies what a run can do for a test, once and for all, as a relation between the
events that it notes for the test and the result of it; and the journals that come of one
test after the other.  What holds of every such journal is derived from that.

Targets go by their numbers.  A target is approved when a check of it has succeeded.  It is
spoiled when a check of it has failed or a body has reported that the environment failed.
-/

namespace Testbed

variable {σ : Type}

/-! ## Results -/

/-- What a test comes to whose body came to a result. -/
def TestOutcome.ofResult : Result Unit → TestOutcome
  | .ok () => .passed
  | .error error =>
      if error.isEnvironment then .environmentError error.message else .failed error.message

/-- What a test comes to by the fate of its body. -/
def Fate.outcome (fate : Fate) : Except PanicPayload TestOutcome :=
  fate.caught.map .ofResult

section Mapping

variable {ε α β : Type} {f : α → β} {result : Except ε α}

theorem map_eq_error_iff {error : ε} : result.map f = .error error ↔ result = .error error := by
  cases result <;> simp [Except.map]

theorem map_eq_ok_iff {later : β} :
    result.map f = .ok later ↔ ∃ value, result = .ok value ∧ f value = later := by
  cases result <;> simp [Except.map]

end Mapping

theorem Fate.outcome_eq_error_iff {fate : Fate} {payload : PanicPayload} :
    fate.outcome = .error payload ↔ fate = .stillborn payload := by
  rw [outcome, map_eq_error_iff]
  cases fate <;> simp [caught]

namespace Suite

/-! ## Events -/

namespace Event

/-- Whether a target is asked for. -/
def isAsked : Event σ → Bool
  | asked .. => true
  | _ => false

/-- Whether a body is started. -/
def isStarted : Event σ → Bool
  | started _ => true
  | _ => false

/-- The target that has to do with an event. -/
def target? : Event σ → Option (Target σ)
  | asked _ given => given.toOption
  | checked target _ | started target | ended target _ => some target

/-- The number of a target that a check has found in order. -/
def approved? : Event σ → Option Nat
  | checked target (.ok _) => some target.id
  | _ => none

/-- The number of a target that can no longer be trusted. -/
def spoiled? : Event σ → Option Nat
  | checked target (.error _) => some target.id
  | ended target (.returned (.error error)) =>
      if error.isEnvironment then some target.id else none
  | _ => none

/-- Nothing is done with the target of a number, which is torn down by the time another is
asked for. -/
def Avoids (number : Nat) : Event σ → Prop
  | asked tornDown given =>
      number ∈ tornDown ∧ ∀ target, given = .ok target → target.id ≠ number
  | checked target _ | started target | ended target _ => target.id ≠ number

end Event

section Journals

variable (journal : List (Nat × Event σ))

/-- The tests for which something of some kind was done, the latest first. -/
def testsWith (kind : Event σ → Bool) : List Nat :=
  (journal.filter (kind ·.2)).map (·.1)

/-- The numbers of the targets that were found in order, the latest first. -/
def approved : List Nat :=
  journal.filterMap (·.2.approved?)

/-- The numbers of the targets that can no longer be trusted, the latest first. -/
def spoiled : List Nat :=
  journal.filterMap (·.2.spoiled?)

end Journals

/-! ## Visits -/

/-- What a run can do for a test on a target that its gate accepts, the latest first, and
what the test comes to. -/
inductive Trial (preflight : Option Preflight) (approved : List Nat) (target : Target σ) :
    List (Event σ) → Except PanicPayload TestOutcome → Prop where
  /-- The target does not stand up to the check. -/
  | refused {error : Error} (configured : preflight ≠ none) (fresh : target.id ∉ approved) :
      Trial preflight approved target [.checked target (.error error)]
        (.ok (.environmentError error.message))
  | trusted {fate : Fate} (known : preflight ≠ none → target.id ∈ approved) :
      Trial preflight approved target [.ended target fate, .started target] fate.outcome
  | passed {fate : Fate} (configured : preflight ≠ none) (fresh : target.id ∉ approved) :
      Trial preflight approved target
        [.ended target fate, .started target, .checked target (.ok ())] fate.outcome

/-- What a run can do for a test, the latest first, and the result of the test. -/
inductive Visit (preflight : Option Preflight) (test : TestCase σ)
    (tornDown approved : List Nat) :
    List (Event σ) → Except PanicPayload TestResult → Prop where
  | unavailable {error : Error} :
      Visit preflight test tornDown approved [.asked tornDown (.error error)]
        (.ok ⟨test.name, .environmentError error.message, none⟩)
  | skipped {target : Target σ} {missing : List Capability} (stands : target.id ∉ tornDown)
      (held : test.gate.evaluate target.capabilities = .skip missing) :
      Visit preflight test tornDown approved [.asked tornDown (.ok target)]
        (.ok ⟨test.name, .skipped missing, some target.id⟩)
  | tried {target : Target σ} {events : List (Event σ)}
      {outcome : Except PanicPayload TestOutcome} (stands : target.id ∉ tornDown)
      (passes : test.gate.evaluate target.capabilities = .run)
      (trial : Trial preflight approved target events outcome) :
      Visit preflight test tornDown approved (events ++ [.asked tornDown (.ok target)])
        (outcome.map fun outcome => ⟨test.name, outcome, some target.id⟩)

/-- The journals of runs through tests, and the results of the tests.  A panic that is not
caught leaves no results, and nothing is done after it. -/
inductive Recounts (preflight : Option Preflight) :
    List (TestCase σ) → List (Nat × Event σ) → Except PanicPayload (List TestResult) → Prop where
  | start : Recounts preflight [] [] (.ok [])
  | visit {tests : List (TestCase σ)} {journal : List (Nat × Event σ)}
      {results : List TestResult} {test : TestCase σ} {tornDown : List Nat}
      {events : List (Event σ)} {result : Except PanicPayload TestResult}
      (past : Recounts preflight tests journal (.ok results))
      (settled : ∀ number ∈ spoiled journal, number ∈ tornDown)
      (visit : Visit preflight test tornDown (approved journal) events result) :
      Recounts preflight (tests ++ [test]) (events.map (tests.length, ·) ++ journal)
        (result.map fun result => results ++ [result])

/-! ## Entries of a visit -/

section Entries

variable {events : List (Event σ)} {event : Event σ} {place number : Nat}
variable {journal earlier : List (Nat × Event σ)}

theorem mem_visited_iff (past : ∀ entry ∈ journal, entry.1 < place) :
    (number, event) ∈ events.map (place, ·) ++ journal ↔
      (number = place ∧ event ∈ events) ∨ (number < place ∧ (number, event) ∈ journal) := by
  have below : (number, event) ∈ journal ↔ number < place ∧ (number, event) ∈ journal :=
    ⟨fun here => ⟨past _ here, here⟩, And.right⟩
  rw [List.mem_append, List.mem_map, ← below]
  apply or_congr_left
  constructor
  · rintro ⟨_, here, same⟩
    cases same
    exact ⟨rfl, here⟩
  · rintro ⟨rfl, here⟩
    exact ⟨event, here, rfl⟩

theorem mem_visited_now (past : ∀ entry ∈ journal, entry.1 < place) :
    (place, event) ∈ events.map (place, ·) ++ journal ↔ event ∈ events := by
  rw [mem_visited_iff past]
  simp

theorem mem_visited_before (past : ∀ entry ∈ journal, entry.1 < place) (below : number < place) :
    (number, event) ∈ events.map (place, ·) ++ journal ↔ (number, event) ∈ journal := by
  rw [mem_visited_iff past]
  simp [below, Nat.ne_of_lt below]

/-- What was done before an event of a visit is the rest of the visit and what was done
before that. -/
theorem suffix_visited_iff (past : ∀ entry ∈ journal, entry.1 < place) :
    (number, event) :: earlier <:+ events.map (place, ·) ++ journal ↔
      (number = place ∧ ∃ part, event :: part <:+ events ∧
        earlier = part.map (place, ·) ++ journal) ∨
      (number < place ∧ (number, event) :: earlier <:+ journal) := by
  have below : (number, event) :: earlier <:+ journal ↔
      number < place ∧ (number, event) :: earlier <:+ journal :=
    ⟨fun behind => ⟨past _ (behind.subset List.mem_cons_self), behind⟩, And.right⟩
  induction events with
  | nil => simpa using below
  | cons first rest ih =>
      rw [List.map_cons, List.cons_append, List.suffix_cons_iff]
      constructor
      · rintro (here | behind)
        · cases here
          exact .inl ⟨rfl, rest, List.suffix_rfl, rfl⟩
        · rcases ih.mp behind with ⟨here, part, within, rest⟩ | further
          · exact .inl ⟨here, part, within.trans (List.suffix_cons ..), rest⟩
          · exact .inr further
      · rintro (⟨rfl, part, within, rfl⟩ | further)
        · rcases List.suffix_cons_iff.mp within with same | within
          · cases same
            exact .inl rfl
          · exact .inr (ih.mpr (.inl ⟨rfl, part, within, rfl⟩))
        · exact .inr (ih.mpr (.inr further))

theorem testsWith_visited (kind : Event σ → Bool) :
    testsWith (events.map (place, ·) ++ journal) kind =
      List.replicate (events.countP kind) place ++ testsWith journal kind := by
  rw [testsWith, testsWith, List.filter_append, List.map_append, List.filter_map, List.map_map,
    List.countP_eq_length_filter]
  exact congrArg (· ++ _) (List.map_const' ..)

theorem approved_visited :
    approved (events.map (place, ·) ++ journal) =
      events.filterMap Event.approved? ++ approved journal := by
  rw [approved, List.filterMap_append, List.filterMap_map]
  rfl

theorem spoiled_visited :
    spoiled (events.map (place, ·) ++ journal) =
      events.filterMap Event.spoiled? ++ spoiled journal := by
  rw [spoiled, List.filterMap_append, List.filterMap_map]
  rfl

end Entries

/-! ## One visit -/

/-- Everything that is done on a target is done with it. -/
theorem Trial.target?_eq {preflight : Option Preflight} {approved : List Nat}
    {target : Target σ} {events : List (Event σ)} {outcome : Except PanicPayload TestOutcome}
    (trial : Trial preflight approved target events outcome) {event : Event σ}
    (here : event ∈ events) : event.target? = some target := by
  cases trial <;> grind [Event.target?]

namespace Visit

variable {preflight : Option Preflight} {test : TestCase σ} {tornDown approved : List Nat}
variable {events : List (Event σ)} {result : Except PanicPayload TestResult}

theorem countP_isAsked (visit : Visit preflight test tornDown approved events result) :
    events.countP Event.isAsked = 1 := by
  cases visit with
  | unavailable => rfl
  | skipped => rfl
  | tried _ _ trial => cases trial <;> rfl

theorem countP_isStarted_le (visit : Visit preflight test tornDown approved events result) :
    events.countP Event.isStarted ≤ 1 := by
  cases visit with
  | unavailable => exact Nat.zero_le 1
  | skipped => exact Nat.zero_le 1
  | tried _ _ trial =>
      cases trial with
      | refused => exact Nat.zero_le 1
      | trusted => exact Nat.le_refl 1
      | passed => exact Nat.le_refl 1

/-- A target is asked for first. -/
theorem asked_suffix_iff (visit : Visit preflight test tornDown approved events result)
    {register : List Nat} {given : Result (Target σ)} {part : List (Event σ)} :
    .asked register given :: part <:+ events ↔
      part = [] ∧ register = tornDown ∧ .asked tornDown given ∈ events := by
  cases visit with
  | unavailable => grind [List.suffix_cons_iff]
  | skipped => grind [List.suffix_cons_iff]
  | tried _ _ trial => cases trial <;> grind [List.suffix_cons_iff]

theorem started_iff (visit : Visit preflight test tornDown approved events result)
    (target : Target σ) :
    .started target ∈ events ↔ .asked tornDown (.ok target) ∈ events ∧
      test.gate.evaluate target.capabilities = .run ∧
      (preflight ≠ none → target.id ∈ approved ∨ .checked target (.ok ()) ∈ events) := by
  cases visit with
  | unavailable => grind
  | skipped => grind
  | tried _ _ trial => cases trial <;> grind

/-- A body is started on a target that has been approved, if there are checks. -/
theorem approved_of_started (visit : Visit preflight test tornDown approved events result)
    (configured : preflight ≠ none) {target : Target σ} {part : List (Event σ)}
    (within : .started target :: part <:+ events) :
    target.id ∈ part.filterMap Event.approved? ++ approved := by
  cases visit with
  | unavailable => grind [List.suffix_cons_iff]
  | skipped => grind [List.suffix_cons_iff]
  | tried _ _ trial => cases trial <;> grind [List.suffix_cons_iff, Event.approved?]

theorem nodup_approved (visit : Visit preflight test tornDown approved events result)
    (distinct : approved.Nodup) : (events.filterMap Event.approved? ++ approved).Nodup := by
  cases visit with
  | unavailable => exact distinct
  | skipped => exact distinct
  | tried _ _ trial =>
      cases trial with
      | refused => exact distinct
      | trusted => exact distinct
      | passed _ fresh => exact List.nodup_cons.mpr ⟨fresh, distinct⟩

/-- A target is checked for a test whose gate accepts it. -/
theorem of_checked (visit : Visit preflight test tornDown approved events result)
    {target : Target σ} {checked : Result Unit} (here : .checked target checked ∈ events) :
    .asked tornDown (.ok target) ∈ events ∧ test.gate.evaluate target.capabilities = .run := by
  cases visit with
  | unavailable => grind
  | skipped => grind
  | tried _ passes trial => cases trial <;> grind

/-- What spoils a target is the last that is done for a test. -/
theorem spoiled_eq_nil (visit : Visit preflight test tornDown approved events result)
    {event : Event σ} {part : List (Event σ)} (within : event :: part <:+ events) :
    part.filterMap Event.spoiled? = [] := by
  cases visit with
  | unavailable => grind [List.suffix_cons_iff]
  | skipped => grind [List.suffix_cons_iff]
  | tried _ _ trial => cases trial <;> grind [List.suffix_cons_iff, Event.spoiled?]

theorem avoids (visit : Visit preflight test tornDown approved events result)
    {event : Event σ} (here : event ∈ events) {number : Nat} (listed : number ∈ tornDown) :
    event.Avoids number := by
  cases visit with
  | unavailable => grind [Event.Avoids]
  | skipped stands => grind [Event.Avoids]
  | tried stands _ trial => cases trial <;> grind [Event.Avoids]

theorem name_eq {done : TestResult}
    (visit : Visit preflight test tornDown approved events (.ok done)) :
    done.name = test.name := by
  generalize finished : (.ok done : Except PanicPayload TestResult) = result at visit
  cases visit with
  | unavailable => cases finished; rfl
  | skipped => cases finished; rfl
  | @tried _ _ outcome _ _ _ =>
      cases outcome with
      | error payload => exact nomatch finished
      | ok outcome => cases finished; rfl

/-- A test comes to what its body comes to. -/
theorem outcome_of_ended (visit : Visit preflight test tornDown approved events result)
    {target : Target σ} {fate : Fate} (here : .ended target fate ∈ events) :
    fate.outcome = result.map (·.outcome) := by
  cases visit with
  | unavailable => grind
  | skipped => grind
  | @tried _ _ outcome _ _ trial =>
      have outcome_eq : fate.outcome = outcome := by
        cases trial <;> grind
      rw [outcome_eq]
      cases outcome <;> rfl

/-- There is no result if the body panics at its start, and only then. -/
theorem error_iff (visit : Visit preflight test tornDown approved events result)
    (payload : PanicPayload) :
    result = .error payload ↔ ∃ target, .ended target (.stillborn payload) ∈ events := by
  cases visit with
  | unavailable => grind
  | skipped => grind
  | @tried _ _ outcome _ _ trial =>
      rw [map_eq_error_iff]
      cases trial <;> grind [Fate.outcome_eq_error_iff]

theorem head?_of_ended (visit : Visit preflight test tornDown approved events result)
    {target : Target σ} {fate : Fate} (here : .ended target fate ∈ events) :
    events.head? = some (.ended target fate) := by
  cases visit with
  | unavailable => grind
  | skipped => grind
  | tried _ _ trial => cases trial <;> grind

end Visit

/-! ## One visit after the other -/

namespace Recounts

variable {preflight : Option Preflight} {tests : List (TestCase σ)}
variable {journal earlier : List (Nat × Event σ)}
variable {results : Except PanicPayload (List TestResult)}
variable {number : Nat} {target : Target σ}

theorem lt_length (recounts : Recounts preflight tests journal results) :
    ∀ entry ∈ journal, entry.1 < tests.length := by
  induction recounts with
  | start => exact fun _ none => absurd none List.not_mem_nil
  | visit past _ _ ih =>
      intro entry here
      rw [List.length_append, List.length_singleton]
      rcases List.mem_append.mp here with visited | before
      · rcases List.mem_map.mp visited with ⟨event, -, rfl⟩
        exact Nat.lt_succ_self _
      · exact Nat.lt_succ_of_lt (ih entry before)

/-- A target is asked for once for each test, in order. -/
theorem testsWith_isAsked (recounts : Recounts preflight tests journal results) :
    testsWith journal Event.isAsked = (List.range tests.length).reverse := by
  induction recounts with
  | start => rfl
  | visit _ _ visit ih =>
      rw [testsWith_visited, visit.countP_isAsked, ih, List.length_append, List.length_singleton,
        List.range_succ, List.reverse_concat]
      rfl

theorem nodup_testsWith_isStarted (recounts : Recounts preflight tests journal results) :
    (testsWith journal Event.isStarted).Nodup := by
  induction recounts with
  | start => exact .nil
  | @visit tests journal _ _ _ events _ past _ visit ih =>
      rw [testsWith_visited]
      have once := visit.countP_isStarted_le
      rcases Nat.le_one_iff_eq_zero_or_eq_one.mp once with never | once
      · rw [never]
        exact ih
      · rw [once]
        apply List.nodup_cons.mpr
        refine ⟨?_, ih⟩
        -- Everything in the past was done for tests of smaller numbers.
        intro listed
        rcases List.mem_map.mp listed with ⟨entry, here, same⟩
        have below := past.lt_length entry (List.mem_filter.mp here).1
        exact absurd same (Nat.ne_of_lt below)

theorem nodup_approved (recounts : Recounts preflight tests journal results) :
    (approved journal).Nodup := by
  induction recounts with
  | start => exact .nil
  | visit _ _ visit ih =>
      rw [approved_visited]
      exact visit.nodup_approved ih

/-- A body is started just when a target was given that the gate of the test accepts and that
is approved, if there are checks. -/
theorem started_iff (recounts : Recounts preflight tests journal results) :
    (number, .started target) ∈ journal ↔
      ∃ test tornDown earlier, tests[number]? = some test ∧
        (number, .asked tornDown (.ok target)) :: earlier <:+ journal ∧
        test.gate.evaluate target.capabilities = .run ∧
        (preflight ≠ none →
          target.id ∈ approved earlier ∨ (number, .checked target (.ok ())) ∈ journal) := by
  induction recounts with
  | start => simp
  | @visit tests journal _ test tornDown events _ past _ visit ih =>
      have below := past.lt_length
      rw [mem_visited_iff below]
      constructor
      · rintro (⟨rfl, here⟩ | ⟨earlier, before⟩)
        · rcases (visit.started_iff target).mp here with ⟨asked, passes, trusted⟩
          have first := visit.asked_suffix_iff.mpr ⟨rfl, rfl, asked⟩
          exact ⟨test, tornDown, journal, List.getElem?_concat_length,
            (suffix_visited_iff below).mpr (.inl ⟨rfl, [], first, rfl⟩), passes,
            fun configured => (trusted configured).imp_right (mem_visited_now below).mpr⟩
        · rcases ih.mp before with ⟨test, tornDown, behind, listed, asked, passes, trusted⟩
          rw [← List.getElem?_append_left earlier] at listed
          exact ⟨test, tornDown, behind, listed,
            (suffix_visited_iff below).mpr (.inr ⟨earlier, asked⟩), passes,
            fun configured => (trusted configured).imp_right (mem_visited_before below earlier).mpr⟩
      · rintro ⟨_, _, behind, listed, asked, passes, trusted⟩
        rcases (suffix_visited_iff below).mp asked with ⟨rfl, _, within, rfl⟩ | ⟨earlier, asked⟩
        · rcases visit.asked_suffix_iff.mp within with ⟨rfl, rfl, given⟩
          rw [List.getElem?_concat_length] at listed
          cases listed
          have started := (visit.started_iff target).mpr ⟨given, passes,
            fun configured => (trusted configured).imp_right (mem_visited_now below).mp⟩
          exact .inl ⟨rfl, started⟩
        · rw [List.getElem?_append_left earlier] at listed
          have started := ih.mpr ⟨_, _, behind, listed, asked, passes,
            fun configured => (trusted configured).imp_right (mem_visited_before below earlier).mp⟩
          exact .inr ⟨earlier, started⟩

/-- The check of a target comes before any body is started on it. -/
theorem approved_of_started (recounts : Recounts preflight tests journal results)
    (configured : preflight ≠ none) (behind : (number, .started target) :: earlier <:+ journal) :
    target.id ∈ approved earlier := by
  induction recounts with
  | start => exact nomatch List.suffix_nil.mp behind
  | visit past _ visit ih =>
      rcases (suffix_visited_iff past.lt_length).mp behind with
        ⟨rfl, part, within, rfl⟩ | ⟨-, behind⟩
      · rw [approved_visited]
        exact visit.approved_of_started configured within
      · exact ih behind

/-- A target is checked for a test whose gate accepts it. -/
theorem of_checked (recounts : Recounts preflight tests journal results) {result : Result Unit}
    (here : (number, .checked target result) ∈ journal) :
    ∃ test tornDown, tests[number]? = some test ∧
      (number, .asked tornDown (.ok target)) ∈ journal ∧
      test.gate.evaluate target.capabilities = .run := by
  induction recounts with
  | start => exact absurd here List.not_mem_nil
  | @visit tests journal _ test tornDown events _ past _ visit ih =>
      have below := past.lt_length
      rcases (mem_visited_iff below).mp here with ⟨rfl, checked⟩ | ⟨earlier, before⟩
      · rcases visit.of_checked checked with ⟨asked, passes⟩
        exact ⟨test, tornDown, List.getElem?_concat_length, (mem_visited_now below).mpr asked,
          passes⟩
      · rcases ih before with ⟨test, tornDown, listed, asked, passes⟩
        rw [← List.getElem?_append_left earlier] at listed
        exact ⟨test, tornDown, listed, (mem_visited_before below earlier).mpr asked, passes⟩

/-- Nothing more is done with a target that can no longer be trusted. -/
theorem avoids (recounts : Recounts preflight tests journal results) {entry : Nat × Event σ}
    (behind : entry :: earlier <:+ journal) (spoilt : number ∈ spoiled earlier) :
    entry.2.Avoids number := by
  induction recounts with
  | start => exact nomatch List.suffix_nil.mp behind
  | visit past settled visit ih =>
      rcases entry with ⟨place, event⟩
      rcases (suffix_visited_iff past.lt_length).mp behind with
        ⟨rfl, part, within, rfl⟩ | ⟨-, behind⟩
      · -- Nothing in this visit has spoiled a target so far, so it was done in the past.
        rw [spoiled_visited, visit.spoiled_eq_nil within] at spoilt
        have here := within.subset List.mem_cons_self
        exact visit.avoids here (settled number spoilt)
      · exact ih behind

/-! ## Results -/

theorem map_name_eq {done : List TestResult}
    (recounts : Recounts preflight tests journal (.ok done)) :
    done.map (·.name) = tests.map (·.name) := by
  generalize finished : (.ok done : Except PanicPayload (List TestResult)) = results at recounts
  induction recounts generalizing done with
  | start => cases finished; rfl
  | visit _ _ visit ih =>
      rcases map_eq_ok_iff.mp finished.symm with ⟨result, rfl, rfl⟩
      rw [List.map_append, List.map_append, ih rfl, List.map_singleton, List.map_singleton,
        visit.name_eq]

/-- Each test comes to what its body comes to. -/
theorem outcome_of_ended {done : List TestResult}
    (recounts : Recounts preflight tests journal (.ok done)) {fate : Fate}
    (here : (number, .ended target fate) ∈ journal) :
    ∃ result, done[number]? = some result ∧ fate.outcome = .ok result.outcome := by
  generalize finished : (.ok done : Except PanicPayload (List TestResult)) = results at recounts
  induction recounts generalizing done with
  | start => exact absurd here List.not_mem_nil
  | @visit tests _ results _ _ _ _ past _ visit ih =>
      rcases map_eq_ok_iff.mp finished.symm with ⟨result, rfl, rfl⟩
      have lengths : results.length = tests.length := by
        have named := congrArg List.length past.map_name_eq
        rwa [List.length_map, List.length_map] at named
      rcases (mem_visited_iff past.lt_length).mp here with ⟨rfl, ended⟩ | ⟨earlier, before⟩
      · rw [← lengths, List.getElem?_concat_length]
        exact ⟨result, rfl, visit.outcome_of_ended ended⟩
      · rw [List.getElem?_append_left (lengths ▸ earlier)]
        exact ih before rfl

/-- There are no results if a body panics at its start, and only then. -/
theorem error_iff (recounts : Recounts preflight tests journal results) (payload : PanicPayload) :
    results = .error payload ↔
      ∃ number target, (number, .ended target (.stillborn payload)) ∈ journal := by
  induction recounts with
  | start => simp
  | visit past _ visit ih =>
      rw [map_eq_error_iff, visit.error_iff]
      constructor
      · rintro ⟨target, here⟩
        exact ⟨_, target, (mem_visited_now past.lt_length).mpr here⟩
      · rintro ⟨number, target, here⟩
        rcases (mem_visited_iff past.lt_length).mp here with ⟨-, here⟩ | ⟨-, here⟩
        · exact ⟨target, here⟩
        · exact nomatch ih.mpr ⟨number, target, here⟩

/-- Nothing is done once a body has panicked at its start. -/
theorem head?_of_stillborn (recounts : Recounts preflight tests journal results)
    {payload : PanicPayload} (here : (number, .ended target (.stillborn payload)) ∈ journal) :
    journal.head? = some (number, .ended target (.stillborn payload)) := by
  cases recounts with
  | start => exact absurd here List.not_mem_nil
  | visit past _ visit =>
      rcases (mem_visited_iff past.lt_length).mp here with ⟨rfl, ended⟩ | ⟨-, before⟩
      · rw [List.head?_append, List.head?_map, visit.head?_of_ended ended]
        rfl
      · exact nomatch (past.error_iff payload).mpr ⟨number, target, before⟩

end Recounts

end Suite

end Testbed
