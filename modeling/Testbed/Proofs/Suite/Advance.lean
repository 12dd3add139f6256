import Testbed.Proofs.Pool.Accounts
import Testbed.Proofs.Suite.Visit

/-!
# What a run does for a test

This file supplies that all a run does for a test is a visit that its journal can recount.
A visit is put together from pieces, asking for a target, checking it, running a body and
settling both, each of which adds to the journal, leaves the accounts of the pool right and
takes nothing from the register of the targets that have been torn down.  A target that is
spoiled is in that register at the end of the visit.
-/

namespace Testbed

variable {σ : Type}

/-! ## Dropping targets -/

namespace Pool

variable {pool : Pool σ}

theorem tornDown_subset_release (pool : Pool σ) (target : Target σ) :
    pool.site.tornDown ⊆ (pool.release target).2.site.tornDown := by
  rw [release]
  split
  next => exact List.Subset.refl _
  next => exact Site.tornDown_subset_teardown pool.site target

theorem tornDown_subset_discard (pool : Pool σ) (target : Target σ) :
    pool.site.tornDown ⊆ (pool.discard target).2.site.tornDown := by
  rw [discard]
  split
  next =>
    rw [invalidate]
    split
    next kept _ => exact Site.tornDown_subset_teardown pool.site kept
    next => exact List.Subset.refl _
  next => exact tornDown_subset_release pool target

/-- A target that is dropped is torn down, if it is the one that is kept in session scope. -/
theorem isTornDown_discard {target : Target σ}
    (kept : pool.scope = .session → pool.session = some target) :
    (pool.discard target).2.site.isTornDown target = true := by
  rw [discard]
  split
  next session =>
    rw [invalidate, kept session]
    exact Site.isTornDown_teardown
  next perTest =>
    rw [release, perTest]
    exact Site.isTornDown_teardown

/-- Dropping a target leaves the accounts right. -/
theorem Accounts.discard {built : List (Target σ)} {target : Target σ}
    (accounts : pool.Accounts built) (here : target ∈ built) :
    (pool.discard target).2.Accounts built := by
  rw [Pool.discard]
  split
  next => exact accounts.invalidate
  next => exact accounts.release here

/-! ## Bodies -/

section Bodies

variable {built : List (Target σ)} {target : Target σ}

/-- A body can only change the surroundings and tear its target down. -/
theorem Accounts.followTurns (accounts : pool.Accounts built) (here : target ∈ built)
    (limit : Option Span) (elapsed : Span) (turns : List (Turn σ)) :
    let site := (Testbed.followTurns target limit elapsed turns pool.site).2
    { pool with site }.Accounts built ∧ pool.site.tornDown ⊆ site.tornDown := by
  induction turns generalizing pool elapsed with
  | nil => exact ⟨accounts, List.Subset.refl _⟩
  | cons turn rest ih =>
      rw [Testbed.followTurns]
      cases limit.filter (· < elapsed + turn.delay) with
      | some limit => exact ⟨accounts, List.Subset.refl _⟩
      | none =>
        rcases turn.act pool.site.world with ⟨turnEnd, world⟩
        have moved := accounts.inWorld world
        cases turnEnd with
        | goOn => exact ih moved _
        | tearDown =>
            have tornDown := moved.teardown here
            have grown := Site.tornDown_subset_teardown (pool.inWorld world).site target
            rw [Pool.teardown] at tornDown
            rcases outcome : (pool.inWorld world).site.teardown target with ⟨result, site⟩
            rw [outcome] at tornDown grown
            rw [Pool.inWorld] at outcome
            dsimp only at outcome ⊢
            rw [outcome]
            cases result with
            | ok _ =>
                rcases ih tornDown _ with ⟨further, grownFurther⟩
                exact ⟨further, List.Subset.trans grown grownFurther⟩
            | error error => exact ⟨tornDown, grown⟩
        | fail error => exact ⟨moved, List.Subset.refl _⟩
        | panic payload => exact ⟨moved, List.Subset.refl _⟩

theorem Accounts.followBody (accounts : pool.Accounts built) (here : target ∈ built)
    (test : TestCase σ) :
    let site := (Testbed.followBody test target pool.site).2
    { pool with site }.Accounts built ∧ pool.site.tornDown ⊆ site.tornDown := by
  rw [Testbed.followBody]
  rcases test.body target pool.site.world with ⟨start, world⟩
  have moved := accounts.inWorld world
  cases start with
  | panicked payload => exact ⟨moved, List.Subset.refl _⟩
  | started turns => exact moved.followTurns here test.limit .zero turns

end Bodies

end Pool

namespace Suite

/-- A body spoils its target when it reports that the environment failed. -/
theorem of_spoiled_body {target : Target σ} {fate : Fate} {number : Nat}
    (spoilt : number ∈ [.ended target fate, .started target].filterMap Event.spoiled?) :
    number = target.id ∧ ∃ error, fate.caught = .ok (.error error) ∧ error.isEnvironment := by
  rcases List.mem_filterMap.mp spoilt with ⟨event, here, spoilt⟩
  rcases List.mem_pair.mp here with rfl | rfl
  · cases fate with
    | returned result =>
        cases result with
        | ok _ => exact nomatch spoilt
        | error error =>
            rcases Option.ite_none_right_eq_some.mp spoilt with ⟨environment, same⟩
            exact ⟨(Option.some.inj same).symm, error, rfl, environment⟩
    | _ => exact nomatch spoilt
  · exact nomatch spoilt

/-- A target is dropped after a body that spoils it, and handed back after any other. -/
theorem settle_cases (progress : Progress σ) (target : Target σ) (result : Result Unit) :
    (∀ error, result = .error error → ¬error.isEnvironment) ∧
        settle progress target result = (.ofResult result, progress.release target) ∨
      settle progress target result = (.ofResult result, progress.discard target) := by
  cases result with
  | ok _ =>
      left
      constructor
      · rintro error ⟨⟩
      · rfl
  | error error =>
      rw [settle, TestOutcome.ofResult]
      split
      next => exact .inr rfl
      next harmless =>
        left
        constructor
        · rintro other ⟨⟩
          exact harmless
        · rfl

namespace Chronicle

variable {chronicle : Chronicle σ} {built : List (Target σ)} {target : Target σ}
variable {preflight : Option Preflight} {test : TestCase σ}

/-! ## Pieces of a run -/

/-- A run has gone on from one point to another, doing some things for one test, the latest
first, when some targets have been constructed. -/
structure Advances (built : List (Target σ)) (before : Chronicle σ) (events : List (Event σ))
    (after : Chronicle σ) : Prop where
  number_eq : after.number = before.number
  journal_eq : after.journal = events.map (before.number, ·) ++ before.journal
  checked_eq : after.progress.checked =
    events.filterMap Event.approved? ++ before.progress.checked
  accounts : after.progress.pool.Accounts built
  tornDown_subset : before.progress.pool.site.tornDown ⊆ after.progress.pool.site.tornDown

/-- One piece after the other. -/
theorem Advances.trans {before middle after : Chronicle σ} {constructed : List (Target σ)}
    {first second : List (Event σ)} (begun : Advances constructed before first middle)
    (ended : Advances built middle second after) :
    Advances built before (second ++ first) after where
  number_eq := ended.number_eq.trans begun.number_eq
  journal_eq := by
    rw [ended.journal_eq, begun.journal_eq, begun.number_eq, List.map_append, List.append_assoc]
  checked_eq := by
    rw [ended.checked_eq, begun.checked_eq, List.filterMap_append, List.append_assoc]
  accounts := ended.accounts
  tornDown_subset := List.Subset.trans begun.tornDown_subset ended.tornDown_subset

/-- A run has a target to go on with. -/
structure Holds (chronicle : Chronicle σ) (built : List (Target σ)) (target : Target σ) :
    Prop where
  accounts : chronicle.progress.pool.Accounts built
  here : target ∈ built
  kept : chronicle.progress.pool.scope = .session →
    chronicle.progress.pool.session = some target

theorem exists_advances_acquire (accounts : chronicle.progress.pool.Accounts built) :
    ∃ built', built ⊆ built' ∧
      Advances built' chronicle
        [.asked chronicle.progress.pool.site.tornDown chronicle.acquire.1] chronicle.acquire.2 ∧
      ∀ target, chronicle.acquire.1 = .ok target →
        chronicle.acquire.2.Holds built' target ∧
          target.id ∉ chronicle.progress.pool.site.tornDown := by
  rcases accounts.acquire with ⟨built', known, acquired, handed⟩
  rcases chronicle.progress.pool.acquire_leaves with ⟨-, tornDown⟩
  refine ⟨built', known, ?_, ?_⟩
  · exact ⟨rfl, rfl, rfl, acquired, tornDown ▸ List.Subset.refl _⟩
  · intro target given
    rcases accounts.of_acquire given with ⟨stands, kept⟩
    rw [Site.isTornDown_eq_false_iff, tornDown] at stands
    exact ⟨⟨acquired, handed target given, kept⟩, stands⟩

namespace Holds

variable (holds : chronicle.Holds built target)

include holds

theorem advances_release :
    Advances built chronicle [] (chronicle.goOn (chronicle.progress.release target)) :=
  ⟨rfl, rfl, rfl, holds.accounts.release holds.here,
    chronicle.progress.pool.tornDown_subset_release target⟩

theorem advances_discard :
    Advances built chronicle [] (chronicle.goOn (chronicle.progress.discard target)) :=
  ⟨rfl, rfl, rfl, holds.accounts.discard holds.here,
    chronicle.progress.pool.tornDown_subset_discard target⟩

theorem tornDown_discard :
    target.id ∈ (chronicle.progress.discard target).pool.site.tornDown :=
  Site.isTornDown_iff.mp (Pool.isTornDown_discard holds.kept)

/-- A check that is made is noted; if it succeeds the target is approved. -/
theorem advances_checkTarget (preflight : Option Preflight) :
    let checked := chronicle.checkTarget preflight target
    checked.2.Holds built target ∧
      (checked.1 = .ok () ∧ Advances built chronicle [] checked.2 ∧
          (preflight ≠ none → target.id ∈ chronicle.progress.checked) ∨
        preflight ≠ none ∧ target.id ∉ chronicle.progress.checked ∧
          Advances built chronicle [.checked target checked.1] checked.2) := by
  have still : Advances built chronicle [] chronicle :=
    ⟨rfl, rfl, rfl, holds.accounts, List.Subset.refl _⟩
  cases preflight with
  | none => exact ⟨holds, .inl ⟨rfl, still, absurd rfl⟩⟩
  | some preflight =>
      rw [checkTarget]
      split
      next known => exact ⟨holds, .inl ⟨rfl, still, fun _ => List.contains_iff_mem.mp known⟩⟩
      next unknown =>
        have fresh : target.id ∉ chronicle.progress.checked := mt List.contains_iff_mem.mpr unknown
        rw [Progress.perform, Site.perform]
        rcases (preflight.run target).perform chronicle.progress.pool.site.world with
          ⟨result, world⟩
        have moved := holds.accounts.inWorld world
        cases result <;>
          exact ⟨⟨moved, holds.here, holds.kept⟩,
            .inr ⟨Option.some_ne_none _, fresh, rfl, rfl, rfl, moved, List.Subset.refl _⟩⟩

theorem advances_runBody (test : TestCase σ) :
    let ran := chronicle.runBody test target
    ran.2.Holds built target ∧
      Advances built chronicle [.ended target ran.1, .started target] ran.2 := by
  rcases holds.accounts.followBody holds.here test with ⟨ended, grown⟩
  exact ⟨⟨ended, holds.here, holds.kept⟩, rfl, rfl, rfl, ended, grown⟩

theorem advances_settle (result : Result Unit) :
    let settled := settle chronicle.progress target result
    settled.1 = .ofResult result ∧ Advances built chronicle [] (chronicle.goOn settled.2) ∧
      ∀ error, result = .error error → error.isEnvironment →
        target.id ∈ settled.2.pool.site.tornDown := by
  rcases settle_cases chronicle.progress target result with ⟨harmless, settled_eq⟩ | settled_eq
  · rw [settled_eq]
    exact ⟨rfl, holds.advances_release, fun error failed environment =>
      absurd environment (harmless error failed)⟩
  · rw [settled_eq]
    exact ⟨rfl, holds.advances_discard, fun _ _ _ => holds.tornDown_discard⟩

/-- Running a body and settling it.  If the body spoils the target, that is torn down. -/
theorem advances_runAndSettle (test : TestCase σ) :
    let ran := chronicle.runAndSettle test target
    ∃ fate, ran.1 = fate.outcome ∧
      Advances built chronicle [.ended target fate, .started target] ran.2 ∧
      [.ended target fate, .started target].filterMap Event.spoiled? ⊆
        ran.2.progress.pool.site.tornDown := by
  have ended := holds.advances_runBody test
  rw [runAndSettle]
  rcases body : chronicle.runBody test target with ⟨fate, later⟩
  rw [body] at ended
  rcases ended with ⟨holdsLater, advances⟩
  refine ⟨fate, ?_⟩
  dsimp only
  cases caught : fate.caught with
  | error payload =>
      rw [Fate.outcome, caught]
      refine ⟨rfl, advances, ?_⟩
      -- A panic that ends the run says nothing about the environment.
      intro number spoilt
      rcases of_spoiled_body spoilt with ⟨-, error, reported, -⟩
      cases caught.symm.trans reported
  | ok result =>
      rcases holdsLater.advances_settle result with ⟨outcome, settled, dropped⟩
      rw [Fate.outcome, caught]
      refine ⟨congrArg Except.ok outcome, advances.trans settled, ?_⟩
      intro number spoilt
      rcases of_spoiled_body spoilt with ⟨rfl, error, reported, environment⟩
      cases caught.symm.trans reported
      exact dropped error rfl environment

end Holds

/-! ## Tests -/

/-- What a run does for a test on a target that the gate accepts. -/
theorem Holds.exists_trial (holds : chronicle.Holds built target) (preflight : Option Preflight)
    (test : TestCase σ) :
    let ran := chronicle.runOn preflight test target
    ∃ events, Trial preflight chronicle.progress.checked target events ran.1 ∧
      Advances built chronicle events ran.2 ∧
      events.filterMap Event.spoiled? ⊆ ran.2.progress.pool.site.tornDown := by
  have checks := holds.advances_checkTarget preflight
  rw [runOn]
  rcases check : chronicle.checkTarget preflight target with ⟨result, checked⟩
  rw [check] at checks
  rcases checks with ⟨holdsChecked, ⟨rfl, still, trusted⟩ | ⟨configured, fresh, advances⟩⟩
  · rcases holdsChecked.advances_runAndSettle test with ⟨fate, outcome, ran, tornDown⟩
    dsimp only
    rw [outcome]
    exact ⟨_, .trusted trusted, still.trans ran, tornDown⟩
  · cases result with
    | error error =>
        have tornDown := holdsChecked.tornDown_discard
        exact ⟨_, .refused configured fresh, advances.trans holdsChecked.advances_discard,
          List.cons_subset.mpr ⟨tornDown, List.nil_subset _⟩⟩
    | ok _ =>
        rcases holdsChecked.advances_runAndSettle test with ⟨fate, outcome, ran, tornDown⟩
        dsimp only
        rw [outcome]
        exact ⟨_, .passed configured fresh, advances.trans ran, tornDown⟩

/-- What a run does for a test. -/
theorem exists_visit (accounts : chronicle.progress.pool.Accounts built)
    (preflight : Option Preflight) (test : TestCase σ) :
    let ran := chronicle.runTest preflight test
    ∃ built' events, built ⊆ built' ∧
      Visit preflight test chronicle.progress.pool.site.tornDown chronicle.progress.checked
        events ran.1 ∧
      Advances built' chronicle events ran.2 ∧
      events.filterMap Event.spoiled? ⊆ ran.2.progress.pool.site.tornDown ∧
      ∀ event ∈ events, ∀ target, event.target? = some target → target ∈ built' := by
  rcases exists_advances_acquire accounts with ⟨built', known, asked, handed⟩
  rw [runTest]
  rcases acquired : chronicle.acquire with ⟨given, later⟩
  rw [acquired] at asked handed
  cases given with
  | error error =>
      refine ⟨built', _, known, .unavailable, asked, List.nil_subset _, ?_⟩
      intro event here target about
      cases List.mem_singleton.mp here
      exact absurd about (Option.some_ne_none target).symm
  | ok target =>
      rcases handed target rfl with ⟨holds, stands⟩
      dsimp only
      cases decision : test.gate.evaluate target.capabilities with
      | skip missing =>
          refine ⟨built', _, known, .skipped stands decision, asked.trans holds.advances_release,
            List.nil_subset _, ?_⟩
          intro event here other about
          cases List.mem_singleton.mp here
          cases about
          exact holds.here
      | run =>
          rcases holds.exists_trial preflight test with ⟨events, trial, advances, tornDown⟩
          rw [asked.checked_eq] at trial
          refine ⟨built', _, known, .tried stands decision trial, asked.trans advances, ?_, ?_⟩
          · rw [List.filterMap_append]
            exact List.append_subset.mpr ⟨tornDown, List.nil_subset _⟩
          · intro event here other about
            have same : event.target? = some target := by
              rcases List.mem_append.mp here with tried | first
              · exact trial.target?_eq tried
              · cases List.mem_singleton.mp first
                rfl
            cases same.symm.trans about
            exact holds.here

end Chronicle

end Suite

end Testbed
