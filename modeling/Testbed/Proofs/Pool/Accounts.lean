import Mathlib.Data.List.Nodup
import Mathlib.Data.List.Perm.Subperm
import Mathlib.Data.List.Range
import Testbed.Proofs.Pool.Deed

/-!
# The targets of a pool

This file supplies the accounts of a pool: which of the targets that it has constructed
are in service, kept, and torn down.  Every target that still stands is in service, and
the targets in service are in the order of their construction, so shutting the pool down
tears down whatever stands, the newest first.

Each operation of a pool keeps its accounts, whatever constructions and hooks do.
-/

namespace Testbed.Pool

variable {σ : Type} {pool : Pool σ} {built : List (Target σ)} {target : Target σ}

/-! ## Handing out as a relation -/

/-- The pool in other surroundings. -/
def inWorld (pool : Pool σ) (world : σ) : Pool σ :=
  { pool with site := { pool.site with world } }

theorem session_enroll (pool : Pool σ) (rig : Rig σ) :
    (pool.enroll rig).2.session =
      match pool.scope with
      | .session => some (pool.enroll rig).1
      | .perTest => pool.session := by
  rw [enroll]
  cases pool.scope <;> rfl

theorem enroll_eq (pool : Pool σ) (rig : Rig σ) :
    (pool.enroll rig).1 = { toRig := rig, id := pool.site.constructed } ∧
      (pool.enroll rig).2.scope = pool.scope ∧
      (pool.enroll rig).2.factory = pool.factory ∧
      (pool.enroll rig).2.site = { pool.site with constructed := pool.site.constructed + 1 } ∧
      (pool.enroll rig).2.live = (pool.enroll rig).1 :: pool.live := by
  rw [enroll]
  cases pool.scope <;> exact ⟨rfl, rfl, rfl, rfl, rfl⟩

theorem usable?_eq_some_iff (pool : Pool σ) (target : Target σ) :
    pool.usable? = some target ↔
      pool.scope = .session ∧ pool.session = some target ∧
        pool.site.isTornDown target = false := by
  rw [usable?]
  cases pool.scope with
  | session => simp [Option.filter_eq_some_iff]
  | perTest => simp

/-- What handing a target out can do. -/
inductive Acquires (pool : Pool σ) : Result (Target σ) × Pool σ → Prop where
  /-- The kept target is handed out again. -/
  | kept {target : Target σ} (usable : pool.usable? = some target) :
      Acquires pool (.ok target, pool)
  | constructed {rig : Rig σ} {world : σ} (unusable : pool.usable? = none)
      (success : pool.factory.create.perform pool.site.world = (.ok rig, world)) :
      Acquires pool (.ok ((pool.inWorld world).enroll rig).1, ((pool.inWorld world).enroll rig).2)
  | failed {error : Error} {world : σ} (unusable : pool.usable? = none)
      (failure : pool.factory.create.perform pool.site.world = (.error error, world)) :
      Acquires pool
        (.error (pool.constructionError error),
          { pool.inWorld world with lastFailure := some error.message, session := none })

theorem acquire_cases (pool : Pool σ) : Acquires pool pool.acquire := by
  rw [acquire]
  cases usable : pool.usable? with
  | some target => exact .kept usable
  | none =>
      rcases outcome : pool.factory.create.perform pool.site.world with ⟨result, world⟩
      rw [construct, Site.perform, outcome]
      cases result with
      | ok rig => exact .constructed usable outcome
      | error error => exact .failed usable outcome

/-- Handing a target out leaves the scope as it is and tears no target down. -/
theorem acquire_leaves (pool : Pool σ) :
    pool.acquire.2.scope = pool.scope ∧
      pool.acquire.2.site.tornDown = pool.site.tornDown := by
  have acquires := acquire_cases pool
  generalize pool.acquire = outcome at acquires ⊢
  cases acquires with
  | kept => exact ⟨rfl, rfl⟩
  | @constructed rig world =>
      rcases enroll_eq (pool.inWorld world) rig with ⟨-, scope, -, site, -⟩
      have tornDown := congrArg Site.tornDown site
      exact ⟨scope, tornDown⟩
  | failed => exact ⟨rfl, rfl⟩

/-! ## Accounts -/

/-- The accounts of a pool that has constructed some targets, listed newest first. -/
structure Accounts (pool : Pool σ) (built : List (Target σ)) : Prop where
  numbered : built.map (·.id) = (List.range pool.site.constructed).reverse
  live_sublist : pool.live.Sublist built
  mem_live : ∀ target ∈ built, pool.site.isTornDown target = false → target ∈ pool.live
  session_mem : ∀ target, pool.session = some target → target ∈ pool.live
  session_of_perTest : pool.scope = .perTest → pool.session = none
  nodup_tornDown : pool.site.tornDown.Nodup
  lt_constructed : ∀ number ∈ pool.site.tornDown, number < pool.site.constructed

theorem accounts_start (scope : Scope) (factory : Factory σ) (world : σ) :
    (start scope factory world).Accounts [] where
  numbered := rfl
  live_sublist := .slnil
  mem_live _ none := absurd none List.not_mem_nil
  session_mem _ none := nomatch none
  session_of_perTest _ := rfl
  nodup_tornDown := .nil
  lt_constructed _ none := absurd none List.not_mem_nil

namespace Accounts

/-! ## Numbers -/

theorem nodup (accounts : pool.Accounts built) : (built.map (·.id)).Nodup := by
  rw [accounts.numbered]
  exact List.nodup_reverse.mpr List.nodup_range

theorem id_lt (accounts : pool.Accounts built) (here : target ∈ built) :
    target.id < pool.site.constructed := by
  have listed : target.id ∈ built.map (·.id) := List.mem_map_of_mem here
  rw [accounts.numbered, List.mem_reverse] at listed
  exact List.mem_range.mp listed

theorem exists_of_lt (accounts : pool.Accounts built) {number : Nat}
    (constructed : number < pool.site.constructed) : ∃ target ∈ built, target.id = number := by
  have listed : number ∈ built.map (·.id) := by
    rw [accounts.numbered, List.mem_reverse]
    exact List.mem_range.mpr constructed
  exact List.mem_map.mp listed

theorem eq_of_id_eq (accounts : pool.Accounts built) {other : Target σ} (here : target ∈ built)
    (there : other ∈ built) (same : target.id = other.id) : target = other :=
  List.inj_on_of_nodup_map accounts.nodup here there same

theorem session_mem_built (accounts : pool.Accounts built) (kept : pool.session = some target) :
    target ∈ built :=
  accounts.live_sublist.mem (accounts.session_mem target kept)

/-! ## Tearing targets down -/

/-- The accounts do not depend on the surroundings. -/
theorem inWorld (accounts : pool.Accounts built) (world : σ) :
    (pool.inWorld world).Accounts built :=
  ⟨accounts.numbered, accounts.live_sublist, accounts.mem_live, accounts.session_mem,
    accounts.session_of_perTest, accounts.nodup_tornDown, accounts.lt_constructed⟩

theorem teardown (accounts : pool.Accounts built) (here : target ∈ built) :
    (pool.teardown target).2.Accounts built := by
  have mem_live : ∀ other ∈ built, (pool.teardown target).2.site.isTornDown other = false →
      other ∈ pool.live :=
    fun other there stands => accounts.mem_live other there (Site.standing_of_teardown stands)
  cases standing : pool.site.isTornDown target with
  | true =>
      rw [Pool.teardown, Site.teardown_of_tornDown standing]
      exact accounts
  | false =>
      rw [Pool.teardown, Site.teardown_of_standing standing] at mem_live ⊢
      refine ⟨accounts.numbered, accounts.live_sublist, mem_live, accounts.session_mem,
        accounts.session_of_perTest, ?_, ?_⟩
      · rw [Site.isTornDown_eq_false_iff] at standing
        exact List.nodup_cons.mpr ⟨standing, accounts.nodup_tornDown⟩
      · intro number listed
        rcases List.mem_cons.mp listed with rfl | listed
        · exact accounts.id_lt here
        · exact accounts.lt_constructed number listed

/-! ## Taking targets out of service -/

/-- The accounts stay right when no target is kept any more. -/
theorem forget (accounts : pool.Accounts built) (lastFailure : Option String) :
    { pool with session := none, lastFailure }.Accounts built :=
  ⟨accounts.numbered, accounts.live_sublist, accounts.mem_live, fun _ none => (nomatch none),
    fun _ => rfl, accounts.nodup_tornDown, accounts.lt_constructed⟩

/-- A target that is torn down and not kept can be taken out of service. -/
theorem withdraw (accounts : pool.Accounts built) (here : target ∈ built)
    (tornDown : pool.site.isTornDown target = true) (notKept : pool.session = none) :
    (pool.withdraw target).Accounts built := by
  refine ⟨accounts.numbered, List.filter_sublist.trans accounts.live_sublist, ?_, ?_,
    accounts.session_of_perTest, accounts.nodup_tornDown, accounts.lt_constructed⟩
  · intro other there stands
    refine List.mem_filter.mpr ⟨accounts.mem_live other there stands, ?_⟩
    rw [bne_iff_ne]
    intro same
    rw [accounts.eq_of_id_eq there here same] at stands
    exact absurd stands (Site.not_standing tornDown)
  · intro other kept
    exact nomatch notKept.symm.trans kept

/-- It makes no difference whether a target is first taken out of service and then torn
down, or the other way round. -/
theorem teardown_withdraw (pool : Pool σ) (target : Target σ) :
    (pool.withdraw target).teardown target =
      ((pool.teardown target).1, (pool.teardown target).2.withdraw target) :=
  rfl

/-- A target that is not kept can be taken out of service and torn down. -/
theorem retire (accounts : pool.Accounts built) (here : target ∈ built)
    (notKept : pool.session = none) :
    ((pool.withdraw target).teardown target).2.Accounts built := by
  rw [teardown_withdraw]
  exact (accounts.teardown here).withdraw here Site.isTornDown_teardown notKept

theorem release (accounts : pool.Accounts built) (here : target ∈ built) :
    (pool.release target).2.Accounts built := by
  rw [Pool.release]
  split
  next => exact accounts
  next perTest => exact accounts.retire here (accounts.session_of_perTest perTest)

theorem invalidate (accounts : pool.Accounts built) : pool.invalidate.2.Accounts built := by
  rw [Pool.invalidate]
  split
  next target kept => exact (accounts.forget _).retire (accounts.session_mem_built kept) rfl
  next => exact accounts

/-! ## Constructing targets -/

theorem enroll (accounts : pool.Accounts built) (rig : Rig σ) :
    (pool.enroll rig).2.Accounts ((pool.enroll rig).1 :: built) := by
  rcases enroll_eq pool rig with ⟨target, scope, -, site, live⟩
  refine ⟨?_, ?_, ?_, ?_, ?_, ?_, ?_⟩
  · rw [site, List.map_cons, accounts.numbered, target, List.range_succ, List.reverse_concat]
  · rw [live]
    exact accounts.live_sublist.cons_cons _
  · intro other there stands
    rw [live]
    rcases List.mem_cons.mp there with rfl | there
    · exact List.mem_cons_self
    · refine List.mem_cons_of_mem _ (accounts.mem_live other there ?_)
      rw [site] at stands
      exact stands
  · intro other kept
    rw [live]
    rw [session_enroll] at kept
    split at kept
    next => cases kept; exact List.mem_cons_self
    next => exact List.mem_cons_of_mem _ (accounts.session_mem other kept)
  · intro perTest
    rw [scope] at perTest
    rw [session_enroll, perTest]
    exact accounts.session_of_perTest perTest
  · rw [site]
    exact accounts.nodup_tornDown
  · intro number listed
    rw [site] at listed ⊢
    exact Nat.lt_succ_of_lt (accounts.lt_constructed number listed)

/-! ## Handing targets out -/

/-- Handing a target out constructs at most one, and hands out one that is constructed. -/
theorem acquire (accounts : pool.Accounts built) :
    ∃ built', built ⊆ built' ∧ pool.acquire.2.Accounts built' ∧
      ∀ target, pool.acquire.1 = .ok target → target ∈ built' := by
  have acquires := acquire_cases pool
  generalize pool.acquire = outcome at acquires ⊢
  cases acquires with
  | kept usable =>
      refine ⟨built, List.Subset.refl built, accounts, ?_⟩
      rintro target ⟨⟩
      rw [usable?_eq_some_iff] at usable
      exact accounts.session_mem_built usable.2.1
  | constructed =>
      refine ⟨_, List.subset_cons_self .., (accounts.inWorld _).enroll _, ?_⟩
      rintro target ⟨⟩
      exact List.mem_cons_self
  | failed =>
      exact ⟨built, List.Subset.refl built, (accounts.inWorld _).forget _,
        fun _ none => nomatch none⟩

/-- A target that is handed out stands, and is kept in session scope. -/
theorem of_acquire (accounts : pool.Accounts built) (given : pool.acquire.1 = .ok target) :
    pool.acquire.2.site.isTornDown target = false ∧
      (pool.acquire.2.scope = .session → pool.acquire.2.session = some target) := by
  have acquires := acquire_cases pool
  generalize pool.acquire = outcome at acquires given ⊢
  cases acquires with
  | kept usable =>
      cases given
      rw [usable?_eq_some_iff] at usable
      exact ⟨usable.2.2, fun _ => usable.2.1⟩
  | @constructed rig world =>
      cases given
      rcases enroll_eq (pool.inWorld world) rig with ⟨target, scope, -, site, -⟩
      constructor
      · -- The number of a target that has just been constructed is not in the register.
        rw [Site.isTornDown_eq_false_iff, site, target]
        exact fun listed => Nat.lt_irrefl _ (accounts.lt_constructed _ listed)
      · intro session
        rw [session_enroll, ← scope, session]
  | failed => exact nomatch given

/-! ## Shutting down -/

/-- The targets in service that stand are all that stand. -/
theorem filter_live (accounts : pool.Accounts built) :
    pool.live.filter (!pool.site.isTornDown ·) = built.filter (!pool.site.isTornDown ·) := by
  have sublist := accounts.live_sublist.filter (!pool.site.isTornDown ·)
  refine sublist.eq_of_length_le ?_
  have distinct : (built.filter (!pool.site.isTornDown ·)).Nodup :=
    accounts.nodup.of_map.filter _
  refine (distinct.subperm ?_).length_le
  intro target here
  rcases List.mem_filter.mp here with ⟨here, stands⟩
  rw [Bool.not_eq_true'] at stands
  exact List.mem_filter.mpr ⟨accounts.mem_live target here stands, by rw [stands]; rfl⟩

/-- Shutting a pool down calls the hooks of the targets that stand, the newest first, and
nothing is left in service. -/
theorem shutdown_eq (accounts : pool.Accounts built) :
    let standing := built.filter (!pool.site.isTornDown ·)
    pool.shutdown =
      (firstFailure (callHooks standing pool.site.world).1,
        { pool with
          site :=
            { pool.site with
              world := (callHooks standing pool.site.world).2
              tornDown := (standing.map (·.id)).reverse ++ pool.site.tornDown }
          session := none
          live := [] }) := by
  have distinct : (pool.live.map (·.id)).Nodup :=
    (accounts.live_sublist.map _).nodup accounts.nodup
  rw [Pool.shutdown, teardownAll_eq pool.site distinct, accounts.filter_live]

/-- After a pool has been shut down no target stands. -/
theorem isTornDown_shutdown (accounts : pool.Accounts built) (here : target ∈ built) :
    pool.shutdown.2.site.isTornDown target = true := by
  rw [accounts.shutdown_eq, Site.isTornDown_iff, List.mem_append, List.mem_reverse]
  cases stands : pool.site.isTornDown target with
  | true => exact .inr (Site.isTornDown_iff.mp stands)
  | false =>
      exact .inl (List.mem_map_of_mem (List.mem_filter.mpr ⟨here, by rw [stands]; rfl⟩))

theorem shutdown (accounts : pool.Accounts built) : pool.shutdown.2.Accounts built := by
  have standing_sublist :
      (built.filter (!pool.site.isTornDown ·)).Sublist built := List.filter_sublist
  refine ⟨?_, ?_, ?_, ?_, ?_, ?_, ?_⟩
  · rw [accounts.shutdown_eq]
    exact accounts.numbered
  · rw [accounts.shutdown_eq]
    exact List.nil_sublist _
  · intro target here stands
    exact absurd stands (Site.not_standing (accounts.isTornDown_shutdown here))
  · rw [accounts.shutdown_eq]
    exact fun _ none => nomatch none
  · rw [accounts.shutdown_eq]
    exact fun _ => rfl
  · rw [accounts.shutdown_eq]
    refine List.nodup_append.mpr ⟨?_, accounts.nodup_tornDown, ?_⟩
    · exact List.nodup_reverse.mpr ((standing_sublist.map _).nodup accounts.nodup)
    · intro number standing other listed same
      rw [List.mem_reverse, List.mem_map] at standing
      rcases standing with ⟨target, here, rfl⟩
      have stands := (List.mem_filter.mp here).2
      rw [Bool.not_eq_true', Site.isTornDown_eq_false_iff] at stands
      exact stands (same ▸ listed)
  · rw [accounts.shutdown_eq]
    intro number listed
    rcases List.mem_append.mp listed with standing | listed
    · rw [List.mem_reverse, List.mem_map] at standing
      rcases standing with ⟨target, here, rfl⟩
      exact accounts.id_lt (standing_sublist.mem here)
    · exact accounts.lt_constructed number listed

/-- The register of a pool without standing targets lists each constructed one once. -/
theorem perm_tornDown (accounts : pool.Accounts built)
    (tornDown : ∀ target ∈ built, pool.site.isTornDown target = true) :
    pool.site.tornDown.Perm (List.range pool.site.constructed) := by
  refine (List.perm_ext_iff_of_nodup accounts.nodup_tornDown List.nodup_range).mpr ?_
  intro number
  constructor
  · intro listed
    exact List.mem_range.mpr (accounts.lt_constructed number listed)
  · intro constructed
    rcases accounts.exists_of_lt (List.mem_range.mp constructed) with ⟨target, here, rfl⟩
    exact Site.isTornDown_iff.mp (tornDown target here)

/-- Shutting a pool down leaves no target in service, and each constructed one has then been
torn down once. -/
theorem shutdown_leaves (accounts : pool.Accounts built) :
    let closed := pool.shutdown.2
    closed.live = [] ∧ closed.site.tornDown.Perm (List.range closed.site.constructed) := by
  constructor
  · rw [accounts.shutdown_eq]
  · exact accounts.shutdown.perm_tornDown fun _ here => accounts.isTornDown_shutdown here

end Accounts

end Testbed.Pool
