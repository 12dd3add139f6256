import Testbed.Proofs.Suite.Advance
import Testbed.Proofs.Target.Gate

/-!
# Trusted targets

This file supplies that the journal of a run recounts the tests one after the other.  The
register of checked targets lists those that were approved, and a target that is spoiled is
in the register of torn down targets before another one is asked for, so it is never handed
out again.
-/

namespace Testbed

variable {σ : Type}

namespace Suite

namespace Chronicle

variable {chronicle : Chronicle σ} {built : List (Target σ)} {preflight : Option Preflight}

/-! ## Runs -/

/-- A run has come to a journal and results for tests, when some targets have been
constructed. -/
structure Sound (preflight : Option Preflight) (tests : List (TestCase σ))
    (chronicle : Chronicle σ) (results : Except PanicPayload (List TestResult))
    (built : List (Target σ)) : Prop where
  recounts : Recounts preflight tests chronicle.journal results
  checked_eq : chronicle.progress.checked = approved chronicle.journal
  accounts : chronicle.progress.pool.Accounts built
  spoiled_subset : spoiled chronicle.journal ⊆ chronicle.progress.pool.site.tornDown
  mem_built : ∀ entry ∈ chronicle.journal, ∀ target, entry.2.target? = some target →
    target ∈ built

namespace Sound

variable {tests : List (TestCase σ)} {done : List TestResult}

/-- Before the first test there is nothing in the journal. -/
theorem start {pool : Pool σ} (accounts : pool.Accounts built) (preflight : Option Preflight) :
    Sound preflight [] { progress := { pool } } (.ok []) built where
  recounts := .start
  checked_eq := rfl
  accounts := accounts
  spoiled_subset := List.nil_subset _
  mem_built _ none := absurd none List.not_mem_nil

/-- One more test. -/
theorem runTest (sound : Sound preflight tests chronicle (.ok done) built)
    (place : chronicle.number = tests.length) (test : TestCase σ) :
    let ran := chronicle.runTest preflight test
    ran.2.number = tests.length ∧
      ∃ built', Sound preflight (tests ++ [test]) ran.2 (ran.1.map (done ++ [·])) built' := by
  intro ran
  rcases exists_visit sound.accounts preflight test with
    ⟨built', events, known, visit, advances, tornDown, visited⟩
  have journal_eq := advances.journal_eq
  rw [place] at journal_eq
  rw [sound.checked_eq] at visit
  refine ⟨advances.number_eq.trans place, built', ?_, ?_, advances.accounts, ?_, ?_⟩
  · rw [journal_eq]
    exact .visit sound.recounts sound.spoiled_subset visit
  · rw [advances.checked_eq, journal_eq, approved_visited, sound.checked_eq]
  · rw [journal_eq, spoiled_visited]
    apply List.append_subset.mpr
    exact ⟨tornDown, List.Subset.trans sound.spoiled_subset advances.tornDown_subset⟩
  · rw [journal_eq]
    intro entry here target about
    rcases List.mem_append.mp here with now | before
    · rcases List.mem_map.mp now with ⟨event, within, rfl⟩
      exact visited event within target about
    · exact known (sound.mem_built entry before target about)

/-- A run of tests comes to an end with the last of them, or where a panic ends it. -/
theorem runTests (sound : Sound preflight tests chronicle (.ok done) built)
    (place : chronicle.number = tests.length) (more : List (TestCase σ)) :
    let ran := chronicle.runTests preflight more
    ∃ reached built', reached <+: more ∧
      Sound preflight (tests ++ reached) ran.2 (ran.1.map (done ++ ·)) built' ∧
      ∀ results, ran.1 = .ok results → reached = more := by
  induction more generalizing tests done chronicle built with
  | nil =>
      refine ⟨[], built, List.prefix_rfl, ?_, fun _ _ => rfl⟩
      rw [Chronicle.runTests, Except.map, List.append_nil, List.append_nil]
      exact sound
  | cons test rest ih =>
      rcases sound.runTest place test with ⟨placed, built', later⟩
      rw [Chronicle.runTests]
      rcases ran : chronicle.runTest preflight test with ⟨result, after⟩
      rw [ran] at placed later
      cases result with
      | error payload =>
          -- The panic ends the run, so that the rest is not reached.
          refine ⟨[test], built', ⟨rest, rfl⟩, later, ?_⟩
          rintro results ⟨⟩
      | ok result =>
          have onward : Sound preflight (tests ++ [test]) after.next
              (.ok (done ++ [result])) built' :=
            ⟨later.recounts, later.checked_eq, later.accounts, later.spoiled_subset,
              later.mem_built⟩
          have placeNext : after.next.number = (tests ++ [test]).length := by
            rw [List.length_append, List.length_singleton, Chronicle.next, placed]
          rcases ih onward placeNext with ⟨reached, built'', within, last, whole⟩
          have joined (results : Except PanicPayload (List TestResult)) :
              (results.map (result :: ·)).map (done ++ ·) =
                results.map (done ++ [result] ++ ·) := by
            cases results <;> simp [Except.map]
          refine ⟨test :: reached, built'', (List.prefix_cons_inj test).mpr within, ?_, ?_⟩
          · rw [joined, List.append_cons]
            exact last
          · intro all finished
            rcases map_eq_ok_iff.mp finished with ⟨results, finished, -⟩
            rw [whole results finished]

end Sound

end Chronicle

/-- The journal of a suite recounts the tests that the run has reached, which are all of them
if it comes to results. -/
theorem sound_chronicle {pool : Pool σ} {built : List (Target σ)} (accounts : pool.Accounts built)
    (suite : Suite σ) :
    let ran := suite.chronicle pool
    ∃ reached built', reached <+: suite.tests ∧
      Chronicle.Sound suite.preflight reached ran.2 ran.1 built' ∧
      ∀ results, ran.1 = .ok results → reached = suite.tests := by
  intro ran
  rcases (Chronicle.Sound.start accounts suite.preflight).runTests rfl suite.tests with
    ⟨reached, built', within, sound, whole⟩
  refine ⟨reached, built', within, ?_, whole⟩
  have same (results : Except PanicPayload (List TestResult)) :
      results.map ([] ++ ·) = results := by
    cases results <;> rfl
  rw [same] at sound
  exact sound

/-- Bodies run on targets that can be trusted, whatever constructions, checks, bodies and hooks
do.  One target is asked for for each test that the run reaches, and its body is started at
most once.  That happens just when a target is given that has all the gate requires and that a
check has approved, before or now, if there are checks.  A target is approved at most once, and
it is checked only for tests whose gate accepts it.  A target that a check or a body has found
wanting is torn down before the next one is asked for, and nothing is done with it again. -/
theorem bodies_run_on_trusted_targets (suite : Suite σ) (scope : Scope) (factory : Factory σ)
    (world : σ) :
    let pool := Pool.start scope factory world
    let ran := suite.chronicle pool
    let journal := ran.2.journal
    runTests suite.preflight suite.tests { pool } = (ran.1, ran.2.progress) ∧
      (∃ reached ≤ suite.tests.length,
        testsWith journal Event.isAsked = (List.range reached).reverse ∧
        ∀ results, ran.1 = .ok results → reached = suite.tests.length) ∧
      (∀ one ∈ journal, ∀ other ∈ journal, ∀ first second, one.2.target? = some first →
        other.2.target? = some second → first.id = second.id → first = second) ∧
      (testsWith journal Event.isStarted).Nodup ∧
      (∀ number target, (number, .started target) ∈ journal ↔
        ∃ test tornDown earlier, suite.tests[number]? = some test ∧
          (number, .asked tornDown (.ok target)) :: earlier <:+ journal ∧
          test.gate.required.names ⊆ target.capabilities.names ∧
          (suite.preflight ≠ none →
            target.id ∈ approved earlier ∨ (number, .checked target (.ok ())) ∈ journal)) ∧
      (suite.preflight ≠ none → ∀ number target earlier,
        (number, .started target) :: earlier <:+ journal → target.id ∈ approved earlier) ∧
      (approved journal).Nodup ∧
      (∀ number target result, (number, .checked target result) ∈ journal →
        ∃ test tornDown, suite.tests[number]? = some test ∧
          (number, .asked tornDown (.ok target)) ∈ journal ∧
          test.gate.required.names ⊆ target.capabilities.names) ∧
      ∀ entry earlier, entry :: earlier <:+ journal →
        ∀ number ∈ spoiled earlier, entry.2.Avoids number := by
  intro pool ran journal
  have begun : pool.Accounts [] := Pool.accounts_start scope factory world
  rcases sound_chronicle begun suite with ⟨reached, built, ⟨rest, whole⟩, sound, all⟩
  have recounts : Recounts suite.preflight reached journal ran.1 := sound.recounts
  -- A test of the part that was reached is the test of that number in the suite.
  have listed_iff {number : Nat} (below : number < reached.length) (test : TestCase σ) :
      suite.tests[number]? = some test ↔ reached[number]? = some test := by
    rw [← whole, List.getElem?_append_left below]
  have below {number : Nat} {event : Event σ} (here : (number, event) ∈ journal) :
      number < reached.length := recounts.lt_length _ here
  refine ⟨suite.runTests_eq_chronicle pool, ?_, ?_, recounts.nodup_testsWith_isStarted, ?_, ?_,
    recounts.nodup_approved, ?_, ?_⟩
  · refine ⟨reached.length, ?_, recounts.testsWith_isAsked, ?_⟩
    · rw [← whole, List.length_append]
      exact Nat.le_add_right ..
    · exact fun results finished => congrArg List.length (all results finished)
  · intro one oneHere other otherHere first second firstIs secondIs same
    have firstBuilt := sound.mem_built one oneHere first firstIs
    have secondBuilt := sound.mem_built other otherHere second secondIs
    exact sound.accounts.eq_of_id_eq firstBuilt secondBuilt same
  · intro number target
    rw [recounts.started_iff]
    constructor
    · rintro ⟨test, tornDown, earlier, listed, asked, passes, trusted⟩
      have reachedHere := below (asked.subset List.mem_cons_self)
      exact ⟨test, tornDown, earlier, (listed_iff reachedHere test).mpr listed, asked,
        Gate.evaluate_eq_run_iff.mp passes, trusted⟩
    · rintro ⟨test, tornDown, earlier, listed, asked, required, trusted⟩
      have reachedHere := below (asked.subset List.mem_cons_self)
      exact ⟨test, tornDown, earlier, (listed_iff reachedHere test).mp listed, asked,
        Gate.evaluate_eq_run_iff.mpr required, trusted⟩
  · exact fun configured _ _ _ behind => recounts.approved_of_started configured behind
  · intro number target result here
    rcases recounts.of_checked here with ⟨test, tornDown, listed, asked, passes⟩
    exact ⟨test, tornDown, (listed_iff (below here) test).mpr listed, asked,
      Gate.evaluate_eq_run_iff.mp passes⟩
  · exact fun _ _ behind _ spoilt => recounts.avoids behind spoilt

/-- Boards of which only the first does not answer. -/
def firstSilent : Factory (List BoardNote) :=
  boards fun number => number != 0

/-- A suite that loses a target to a check and one to a body. -/
def losesTargets : Suite (List BoardNote) where
  name := "loses targets"
  tests :=
    [{ name := "is held back", gate := .ofList ["console"],
       body := fun _ notes => (.started [], notes) },
     { name := "gets no answer", body := fun _ notes => (.started [], notes) },
     { name := "loses its target",
       body := fun target notes =>
         (.started [.finish (.fail (.environment target.name "no answer"))], notes) },
     { name := "passes", body := fun _ notes => (.started [], notes) },
     { name := "passes again", body := fun _ notes => (.started [], notes) }]
  preflight := some {}

/-- The hooks of the two boards that were lost have been called, each before another board was
built. -/
theorem bodies_run_on_trusted_targets_losesTargets :
    let pool := Pool.start .session firstSilent []
    let journal := losesTargets.journal pool
    testsWith journal Event.isAsked = [4, 3, 2, 1, 0] ∧
      testsWith journal Event.isStarted = [4, 3, 2] ∧
      approved journal = [2, 1] ∧ spoiled journal = [1, 0] ∧
      (runTests losesTargets.preflight losesTargets.tests { pool }).2.pool.site.world =
        [.built 2, .hookCalled 1, .built 1, .hookCalled 0, .built 0] ∧
      ∀ entry earlier, entry :: earlier <:+ journal →
        ∀ number ∈ spoiled earlier, entry.2.Avoids number := by
  rcases bodies_run_on_trusted_targets losesTargets .session firstSilent [] with
    ⟨-, -, -, -, -, -, -, -, avoids⟩
  exact ⟨rfl, rfl, rfl, rfl, rfl, avoids⟩

end Suite

end Testbed
