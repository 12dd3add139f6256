import Testbed.Proofs.Suite.Run
import Testbed.Proofs.Suite.Trust

/-!
# Completion of runs

This file supplies when a run of a suite comes to its end.  A body that panics in one of its
turns only fails its test, and the run goes on to the last test and shuts the pool down.  A
body that panics when it is started is not caught: it is the last that the run does, and
the pool is left as it stands.
-/

namespace Testbed.Suite

variable {σ : Type} {suite : Suite σ} {pool : Pool σ}

theorem run_of_error {payload : PanicPayload}
    (panicked : (suite.chronicle pool).1 = .error payload) :
    (suite.run pool).1 = .error payload := by
  rw [run, runTests_eq_chronicle, panicked]

theorem run_of_ok {results : List TestResult}
    (finished : (suite.chronicle pool).1 = .ok results) :
    (∃ report, (suite.run pool).1 = .ok report ∧ report.results = results) ∧
      (suite.run pool).2 = (suite.chronicle pool).2.progress.pool.shutdown.2 := by
  rw [run, runTests_eq_chronicle, finished]
  exact ⟨⟨_, rfl, rfl⟩, rfl⟩

/-- The failure that a panic in a turn is reported as. -/
theorem outcome_panicked (payload : PanicPayload) :
    (Fate.panicked payload).outcome =
      .ok (.failed ("Internal error: panicked: " ++ payload.text)) := by
  have joined : "Internal error: " ++ "panicked: " = "Internal error: panicked: " := by decide
  rw [← joined, String.append_assoc]
  rfl

/-- A run comes to a report unless a body panics when it is started.  If one does, the run ends
there with that panic.  If none does, every test is run, a body that panics in one of its turns
fails its test with the text of the panic, and each constructed target has been torn down once
when the run is over. -/
theorem run_completes_iff (suite : Suite σ) (scope : Scope) (factory : Factory σ) (world : σ) :
    let pool := Pool.start scope factory world
    let ran := suite.run pool
    let journal := suite.journal pool
    ((∃ report, ran.1 = .ok report) ↔
        ∀ number target payload, (number, .ended target (.stillborn payload)) ∉ journal) ∧
      (∀ number target payload, (number, .ended target (.stillborn payload)) ∈ journal →
        ran.1 = .error payload ∧
          journal.head? = some (number, .ended target (.stillborn payload))) ∧
      ∀ report, ran.1 = .ok report →
        report.results.map (·.name) = suite.tests.map (·.name) ∧
        testsWith journal Event.isAsked = (List.range suite.tests.length).reverse ∧
        (∀ number target payload, (number, .ended target (.panicked payload)) ∈ journal →
          ∃ result, report.results[number]? = some result ∧
            result.outcome = .failed ("Internal error: panicked: " ++ payload.text)) ∧
        ran.2.live = [] ∧ ran.2.site.tornDown.Perm (List.range ran.2.site.constructed) := by
  intro pool ran journal
  have begun : pool.Accounts [] := Pool.accounts_start scope factory world
  rcases sound_chronicle begun suite with ⟨reached, built, -, sound, whole⟩
  have recounts : Recounts suite.preflight reached journal (suite.chronicle pool).1 :=
    sound.recounts
  cases outcome : (suite.chronicle pool).1 with
  | error payload =>
      have panicked : ran.1 = .error payload := run_of_error outcome
      rw [outcome] at recounts
      rcases (recounts.error_iff payload).mp rfl with ⟨number, target, here⟩
      refine ⟨iff_of_false ?_ ?_, ?_, ?_⟩
      · rintro ⟨report, finished⟩
        exact nomatch panicked.symm.trans finished
      · exact fun none => none number target payload here
      · intro number target _ here
        cases (recounts.error_iff _).mpr ⟨number, target, here⟩
        exact ⟨panicked, recounts.head?_of_stillborn here⟩
      · exact fun report finished => nomatch panicked.symm.trans finished
  | ok results =>
      rcases run_of_ok outcome with ⟨⟨report, finished, results_eq⟩, closed⟩
      cases whole results outcome
      rw [outcome] at recounts
      have noneStillborn number target payload :
          (number, .ended target (.stillborn payload)) ∉ journal := by
        intro here
        exact nomatch (recounts.error_iff payload).mpr ⟨number, target, here⟩
      refine ⟨iff_of_true ⟨report, finished⟩ noneStillborn, ?_, ?_⟩
      · exact fun number target payload here => absurd here (noneStillborn number target payload)
      · intro other finishedToo
        cases finished.symm.trans finishedToo
        rw [results_eq, closed]
        refine ⟨recounts.map_name_eq, recounts.testsWith_isAsked, ?_,
          sound.accounts.shutdown_leaves⟩
        intro number target payload here
        rcases recounts.outcome_of_ended here with ⟨result, listed, failed⟩
        rw [outcome_panicked] at failed
        exact ⟨result, listed, (Except.ok.inj failed).symm⟩

theorem run_completes_iff_variousEndings :
    let ran := variousEndings.run (.start .session countedHooks 0)
    ∃ report result, ran.1 = .ok report ∧ report.results[1]? = some result ∧
      result.outcome = .failed "Internal error: panicked: test panicked" ∧
      ran.2.live = [] ∧ ran.2.site.tornDown.Perm (List.range 2) := by
  rcases run_completes_iff variousEndings .session countedHooks 0 with ⟨-, -, completes⟩
  rcases completes _ rfl with ⟨-, -, panicked, live, tornDown⟩
  rcases panicked 1 _ .other (List.mem_of_getElem? (i := 9) rfl) with ⟨result, listed, failed⟩
  exact ⟨_, result, rfl, listed, failed, live, tornDown⟩

/-- A suite whose first body panics when it is started. -/
def panicsAtStart : Suite Nat where
  name := "panics at its start"
  tests :=
    [{ name := "panics", body := fun _ world => (.panicked (.message "boom"), world) },
     { name := "passes", body := fun _ world => (.started [], world) }]

/-- The panic is the end of the run: the other test is not run, and a target is left standing. -/
theorem panicsAtStart_not_completed :
    let pool := Pool.start .session countedHooks 0
    let ran := panicsAtStart.run pool
    (¬∃ report, ran.1 = .ok report) ∧
      testsWith (panicsAtStart.journal pool) Event.isAsked = [0] ∧
      ran.2.live.map (·.id) = [0] ∧ ran.2.site.constructed = 1 ∧ ran.2.site.tornDown = [] :=
  ⟨nofun, rfl, rfl, rfl, rfl⟩

end Testbed.Suite
