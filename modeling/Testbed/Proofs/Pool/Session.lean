import Testbed.Proofs.Pool.Custody

/-!
# Sessions

This file supplies what holds of a pool in session scope after any calls: every target
that stands is the one it keeps.  So no two targets stand at a time, the kept target is in
service, and a target that is handed out stands.

The calls may come from any number of clients.  A pool makes them one after the other, so
they are a list, in whatever order the clients get their turns.
-/

namespace Testbed

variable {σ : Type}

namespace Pool

variable {pool : Pool σ} {built : List (Target σ)}

theorem isTornDown_of_unusable {target : Target σ} (session : pool.scope = .session)
    (unusable : pool.usable? = none) (kept : pool.session = some target) :
    pool.site.isTornDown target = true := by
  rw [← Bool.not_eq_false]
  intro stands
  have usable := (usable?_eq_some_iff pool target).mpr ⟨session, kept, stands⟩
  exact nomatch unusable.symm.trans usable

/-- Every target that stands is the kept one. -/
def KeepsStanding (pool : Pool σ) (built : List (Target σ)) : Prop :=
  ∀ target ∈ built, pool.site.isTornDown target = false → pool.session = some target

namespace KeepsStanding

theorem teardown (keeps : pool.KeepsStanding built) (target : Target σ) :
    (pool.teardown target).2.KeepsStanding built :=
  fun other here stands => keeps other here (Site.standing_of_teardown stands)

theorem release (keeps : pool.KeepsStanding built) (session : pool.scope = .session)
    (target : Target σ) : (pool.release target).2.KeepsStanding built := by
  rw [Pool.release, session]
  exact keeps

/-- The kept target is forgotten and torn down, so that none stands. -/
theorem invalidate (keeps : pool.KeepsStanding built) :
    pool.invalidate.2.KeepsStanding built := by
  rw [Pool.invalidate]
  split
  next target kept =>
      intro other here stands
      have keptToo := keeps other here (Site.standing_of_teardown stands)
      cases kept.symm.trans keptToo
      exact absurd stands (Site.not_standing Site.isTornDown_teardown)
  next => exact keeps

theorem shutdown (accounts : pool.Accounts built) : pool.shutdown.2.KeepsStanding built := by
  intro target here stands
  exact absurd stands (Site.not_standing (accounts.isTornDown_shutdown here))

/-- If the kept target cannot be used, no target stands. -/
theorem isTornDown (keeps : pool.KeepsStanding built) (session : pool.scope = .session)
    (unusable : pool.usable? = none) {target : Target σ} (here : target ∈ built) :
    pool.site.isTornDown target = true := by
  cases standing : pool.site.isTornDown target with
  | true => rfl
  | false =>
      rw [← standing]
      exact isTornDown_of_unusable session unusable (keeps target here standing)

theorem enroll (session : pool.scope = .session)
    (tornDown : ∀ target ∈ built, pool.site.isTornDown target = true) (rig : Rig σ) :
    (pool.enroll rig).2.KeepsStanding ((pool.enroll rig).1 :: built) := by
  rcases enroll_eq pool rig with ⟨-, -, -, site, -⟩
  intro target here stands
  rcases List.mem_cons.mp here with rfl | here
  · rw [session_enroll, session]
  · rw [site] at stands
    exact absurd stands (Site.not_standing (tornDown target here))

end KeepsStanding

/-- A target that is handed out in session scope stands, and is kept. -/
theorem Accounts.standing_of_acquire (accounts : pool.Accounts built)
    (session : pool.scope = .session) {target : Target σ} (given : pool.acquire.1 = .ok target) :
    pool.acquire.2.site.isTornDown target = false ∧ pool.acquire.2.session = some target := by
  rcases accounts.of_acquire given with ⟨stands, kept⟩
  have scope : pool.acquire.2.scope = .session := (acquire_leaves pool).1.trans session
  exact ⟨stands, kept scope⟩

end Pool

namespace Custody

namespace Sound

variable {start : Pool σ} {custody : Custody σ}

theorem keepsStanding_acquire (sound : custody.Sound start) (session : custody.pool.scope = .session)
    (keeps : custody.pool.KeepsStanding custody.held) :
    (custody.call .acquire).pool.KeepsStanding (custody.call .acquire).held := by
  have acquires := Pool.acquire_cases custody.pool
  rw [Custody.call]
  generalize custody.pool.acquire = outcome at acquires ⊢
  cases acquires with
  | kept usable =>
      rw [sound.receive_kept usable]
      exact keeps
  | @constructed rig world unusable =>
      rw [sound.receive_enrolled rig world]
      have tornDown : ∀ target ∈ custody.held,
          (custody.pool.inWorld world).site.isTornDown target = true :=
        fun _ here => keeps.isTornDown session unusable here
      have scope : (custody.pool.inWorld world).scope = .session := session
      exact .enroll scope tornDown rig
  | failed unusable =>
      intro target here stands
      have tornDown := keeps.isTornDown session unusable here
      exact absurd stands (Site.not_standing tornDown)

theorem keepsStanding_call (sound : custody.Sound start) (session : custody.pool.scope = .session)
    (keeps : custody.pool.KeepsStanding custody.held) (call : Call) :
    (custody.call call).pool.KeepsStanding (custody.call call).held := by
  cases call with
  | acquire => exact sound.keepsStanding_acquire session keeps
  | release number =>
      rw [Custody.call]
      split
      next target _ => exact keeps.release session target
      next => exact keeps
  | invalidate => exact keeps.invalidate
  | shutdown => exact .shutdown sound.accounts
  | teardown number =>
      rw [Custody.call]
      split
      next target _ => exact keeps.teardown target
      next => exact keeps

theorem keepsStanding_calls (sound : custody.Sound start) (session : start.scope = .session)
    (keeps : custody.pool.KeepsStanding custody.held) (calls : List Call) :
    let later := calls.foldl Custody.call custody
    later.pool.KeepsStanding later.held := by
  induction calls generalizing custody with
  | nil => exact keeps
  | cons next calls ih =>
      have keepsNext := sound.keepsStanding_call (sound.does.scope_eq.trans session) keeps next
      exact ih (sound.call next) keepsNext

end Sound

theorem keepsStanding_ofCalls (factory : Factory σ) (world : σ) (calls : List Call) :
    let custody := ofCalls .session factory world calls
    custody.pool.KeepsStanding custody.held := by
  have sound := sound_ofCalls .session factory world []
  exact sound.keepsStanding_calls rfl (fun _ none => absurd none List.not_mem_nil) calls

/-- After any calls on a pool in session scope, and however constructions and hooks go, at
most one of the constructed targets stands, and a kept target is in service.  The kept
target is handed out again while it stands, and nothing else happens.  Otherwise a target
is constructed, taken into service and kept; if that fails, a failure of the environment
is the result, nothing is kept, and the targets in service stay the same.  Whatever is
handed out stands. -/
theorem at_most_one_stands (factory : Factory σ) (world : σ) (calls : List Call) :
    let pool := (ofCalls .session factory world calls).pool
    (∀ first < pool.site.constructed, ∀ second < pool.site.constructed,
        first ∉ pool.site.tornDown → second ∉ pool.site.tornDown → first = second) ∧
      (∀ target, pool.session = some target → target ∈ pool.live) ∧
      (∀ target, pool.session = some target → pool.site.isTornDown target = false →
        pool.acquire = (.ok target, pool)) ∧
      ((∀ target, pool.session = some target → pool.site.isTornDown target = true) →
        match factory.create.perform pool.site.world with
        | (.ok rig, world) =>
            let target : Target σ := { toRig := rig, id := pool.site.constructed }
            pool.acquire.1 = .ok target ∧ pool.acquire.2.session = some target ∧
              pool.acquire.2.live = target :: pool.live ∧
              pool.acquire.2.site =
                { pool.site with world, constructed := pool.site.constructed + 1 }
        | (.error _, world) =>
            (∃ name reason, pool.acquire.1 = .error (.environment name reason)) ∧
              pool.acquire.2.session = none ∧ pool.acquire.2.live = pool.live ∧
              pool.acquire.2.site = { pool.site with world }) ∧
      ∀ target, pool.acquire.1 = .ok target →
        pool.acquire.2.site.isTornDown target = false := by
  intro pool
  have sound := sound_ofCalls .session factory world calls
  have keeps := keepsStanding_ofCalls factory world calls
  have accounts : pool.Accounts (ofCalls .session factory world calls).held := sound.accounts
  have session : pool.scope = .session := sound.does.scope_eq
  have backend : pool.factory = factory := sound.does.factory_eq
  refine ⟨?_, accounts.session_mem, ?_, ?_, ?_⟩
  · intro first firstBuilt second secondBuilt firstStands secondStands
    rcases accounts.exists_of_lt firstBuilt with ⟨one, oneHere, rfl⟩
    rcases accounts.exists_of_lt secondBuilt with ⟨other, otherHere, rfl⟩
    have oneKept := keeps one oneHere (Site.isTornDown_eq_false_iff.mpr firstStands)
    have otherKept := keeps other otherHere (Site.isTornDown_eq_false_iff.mpr secondStands)
    rw [Option.some.inj (oneKept.symm.trans otherKept)]
  · intro target kept stands
    have usable := (Pool.usable?_eq_some_iff pool target).mpr ⟨session, kept, stands⟩
    rw [Pool.acquire, usable]
  · intro tornDown
    have acquires := Pool.acquire_cases pool
    generalize pool.acquire = outcome at acquires ⊢
    cases acquires with
    | @kept target usable =>
        rw [Pool.usable?_eq_some_iff] at usable
        exact absurd usable.2.2 (Site.not_standing (tornDown target usable.2.1))
    | @constructed rig later unusable success =>
        rcases Pool.enroll_eq (pool.inWorld later) rig with ⟨target, -, -, site, live⟩
        have scope : (pool.inWorld later).scope = .session := session
        rw [backend] at success
        rw [success]
        refine ⟨congrArg Except.ok target, ?_, ?_, site⟩
        · rw [Pool.session_enroll, scope, target]
          rfl
        · rw [live, target]
          rfl
    | @failed error later unusable failure =>
        rw [backend] at failure
        rw [failure]
        refine ⟨?_, rfl, rfl, rfl⟩
        cases error with
        | environment name reason => exact ⟨name, reason, rfl⟩
        | _ => exact ⟨pool.factory.name, _, rfl⟩
  · exact fun target given => (accounts.standing_of_acquire session given).1

/-- The first board is torn down by the pool, the second by somebody else, who tries it with
the first once more.  Each hook has been called once, before the next board was built. -/
theorem at_most_one_stands_boards :
    let calls := [.acquire, .invalidate, .teardown 0, .acquire, .teardown 1, .acquire]
    let pool := (ofCalls .session (boards fun _ => true) [] calls).pool
    pool.site.world =
        [.built 2, .hookCalled 1, .built 1, .hookCalled 0, .built 0] ∧
      pool.site.constructed = 3 ∧ pool.site.tornDown = [1, 0] ∧
      pool.session.map (·.id) = some 2 ∧ pool.live.map (·.id) = [2, 1] ∧
      ∀ first < 3, ∀ second < 3,
        first ∉ pool.site.tornDown → second ∉ pool.site.tornDown → first = second := by
  intro calls pool
  rcases at_most_one_stands (boards fun _ => true) [] calls with ⟨alone, -⟩
  exact ⟨rfl, rfl, rfl, rfl, rfl, alone⟩

end Custody

end Testbed
