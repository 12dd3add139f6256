import Testbed.Proofs.Pool.Accounts

/-!
# Custody of targets

This file supplies what becomes of the targets of a pool, whatever calls are made on the
pool and on the targets it has handed out.  Everything a pool does at its site is a list
of deeds in which no target's hook is called twice, and a target that still stands is in
service until it is torn down.  Shutting the pool down ends the custody of all of them.
-/

namespace Testbed

variable {σ : Type}

namespace Pool

/-! ## Deeds of a pool -/

/-- A pool has become another by deeds at its site, which call hooks of some targets. -/
structure Does (pool later : Pool σ) (targets : List (Target σ)) : Prop where
  scope_eq : later.scope = pool.scope
  factory_eq : later.factory = pool.factory
  exists_deeds : ∃ deeds, later.site = pool.site.afterAll pool.factory.create deeds ∧
    ∀ target ∈ Deed.hooked deeds, target ∈ targets

namespace Does

variable {pool : Pool σ} {targets : List (Target σ)}

theorem refl (pool : Pool σ) (targets : List (Target σ)) : pool.Does pool targets :=
  ⟨rfl, rfl, [], rfl, fun _ none => absurd none List.not_mem_nil⟩

theorem trans {middle later : Pool σ} (first : pool.Does middle targets)
    (second : middle.Does later targets) : pool.Does later targets := by
  rcases first.exists_deeds with ⟨before, reached, known⟩
  rcases second.exists_deeds with ⟨behind, passed, knownToo⟩
  refine ⟨second.scope_eq.trans first.scope_eq, second.factory_eq.trans first.factory_eq,
    before ++ behind, ?_, ?_⟩
  · rw [passed, first.factory_eq, reached, Site.afterAll_append]
  · intro target hooked
    rw [Deed.hooked, List.filterMap_append] at hooked
    rcases List.mem_append.mp hooked with hooked | hooked
    · exact known target hooked
    · exact knownToo target hooked

theorem mono {later : Pool σ} {others : List (Target σ)} (does : pool.Does later targets)
    (known : targets ⊆ others) : pool.Does later others := by
  rcases does.exists_deeds with ⟨deeds, reached, hooked⟩
  exact ⟨does.scope_eq, does.factory_eq, deeds, reached, fun target here =>
    known (hooked target here)⟩

theorem teardown (pool : Pool σ) {target : Target σ} (here : target ∈ targets) :
    pool.Does (pool.teardown target).2 targets := by
  cases standing : pool.site.isTornDown target with
  | true =>
      rw [Pool.teardown, Site.teardown_of_tornDown standing]
      exact .refl pool targets
  | false =>
      rw [Pool.teardown, Site.teardown_of_standing standing]
      refine ⟨rfl, rfl, [.callHook target], rfl, ?_⟩
      intro other hooked
      rw [List.mem_singleton.mp hooked]
      exact here

theorem release (pool : Pool σ) {target : Target σ} (here : target ∈ targets) :
    pool.Does (pool.release target).2 targets := by
  rw [Pool.release]
  split
  next => exact .refl pool targets
  next =>
      have does := teardown (pool.withdraw target) here
      exact ⟨does.scope_eq, does.factory_eq, does.exists_deeds⟩

theorem invalidate (kept : ∀ target, pool.session = some target → target ∈ targets) :
    pool.Does pool.invalidate.2 targets := by
  rw [Pool.invalidate]
  split
  next target session =>
      have does := teardown ({ pool with session := none }.withdraw target) (kept target session)
      exact ⟨does.scope_eq, does.factory_eq, does.exists_deeds⟩
  next => exact .refl pool targets

/-- Handing a target out attempts at most one construction. -/
theorem acquire (pool : Pool σ) (targets : List (Target σ)) :
    pool.Does pool.acquire.2 targets := by
  have acquires := acquire_cases pool
  generalize pool.acquire = outcome at acquires ⊢
  have silent : ∀ target ∈ Deed.hooked [Deed.construct], target ∈ targets :=
    fun _ none => absurd none List.not_mem_nil
  cases acquires with
  | kept => exact .refl pool targets
  | @constructed rig world unusable success =>
      rcases enroll_eq (pool.inWorld world) rig with ⟨-, scope, factory, site, -⟩
      exact ⟨scope, factory, [.construct], site.trans (Site.attempt_of_ok success).symm, silent⟩
  | failed unusable failure =>
      exact ⟨rfl, rfl, [.construct], (Site.attempt_of_error failure).symm, silent⟩

theorem afterAll_callHook (create : Action σ (Rig σ)) (site : Site σ)
    (targets : List (Target σ)) :
    site.afterAll create (targets.map .callHook) =
      { site with
        world := (callHooks targets site.world).2
        tornDown := (targets.map (·.id)).reverse ++ site.tornDown } := by
  induction targets generalizing site with
  | nil => rfl
  | cons target rest ih =>
      have again := ih (site.callHook target)
      rw [List.map_cons, Site.afterAll, List.foldl_cons, ← Site.afterAll, Site.after, again]
      simp only [callHooks, List.map_cons, List.reverse_cons, List.append_assoc,
        List.singleton_append]
      rfl

theorem shutdown (accounts : pool.Accounts targets) : pool.Does pool.shutdown.2 targets := by
  rw [accounts.shutdown_eq]
  refine ⟨rfl, rfl, (targets.filter (!pool.site.isTornDown ·)).map .callHook, ?_, ?_⟩
  · rw [afterAll_callHook]
  · intro target hooked
    have whole : Deed.hooked ((targets.filter (!pool.site.isTornDown ·)).map .callHook) =
        targets.filter (!pool.site.isTornDown ·) := by
      rw [Deed.hooked, List.filterMap_map]
      exact List.filterMap_some
    rw [whole] at hooked
    exact List.mem_of_mem_filter hooked

end Does

end Pool

/-! ## Calls -/

/-- A call on a pool, or on a target that the pool has handed out.  Targets go by the
numbers of their construction. -/
inductive Call where
  | acquire
  | release (number : Nat)
  | invalidate
  | shutdown
  /-- A target is torn down by somebody it was handed out to. -/
  | teardown (number : Nat)
  deriving DecidableEq, Repr

/-- A pool and the targets that it has handed out, the newest first and each once. -/
structure Custody (σ : Type) where
  pool : Pool σ
  held : List (Target σ) := []

namespace Custody

/-- The target of a number, if it has been handed out. -/
def find? (custody : Custody σ) (number : Nat) : Option (Target σ) :=
  custody.held.find? (·.id = number)

/-- Note a target that has been handed out, unless it was before. -/
def note (held : List (Target σ)) (target : Target σ) : List (Target σ) :=
  if held.any (·.id = target.id) then held else target :: held

/-- Take what the pool hands out. -/
def receive (custody : Custody σ) : Result (Target σ) × Pool σ → Custody σ
  | (.ok target, pool) => { pool, held := note custody.held target }
  | (.error _, pool) => { custody with pool }

/-- Make a call; one on a target that was not handed out cannot be made. -/
def call (custody : Custody σ) : Call → Custody σ
  | .acquire => custody.receive custody.pool.acquire
  | .release number =>
      match custody.find? number with
      | some target => { custody with pool := (custody.pool.release target).2 }
      | none => custody
  | .invalidate => { custody with pool := custody.pool.invalidate.2 }
  | .shutdown => { custody with pool := custody.pool.shutdown.2 }
  | .teardown number =>
      match custody.find? number with
      | some target => { custody with pool := (custody.pool.teardown target).2 }
      | none => custody

/-- The calls on a new pool, one after the other. -/
def ofCalls (scope : Scope) (factory : Factory σ) (world : σ) (calls : List Call) : Custody σ :=
  calls.foldl call { pool := .start scope factory world }

/-- The custody of a pool that began as another: its accounts are about the targets it has
handed out, and it called no other hooks. -/
structure Sound (start : Pool σ) (custody : Custody σ) : Prop where
  accounts : custody.pool.Accounts custody.held
  does : start.Does custody.pool custody.held

namespace Sound

variable {start : Pool σ} {custody : Custody σ}

theorem mem_of_find? {number : Nat} {target : Target σ}
    (found : custody.find? number = some target) : target ∈ custody.held :=
  List.mem_of_find?_eq_some found

/-- A target that is handed out again is not noted again. -/
theorem receive_kept {target : Target σ} (sound : custody.Sound start)
    (usable : custody.pool.usable? = some target) :
    custody.receive (.ok target, custody.pool) = custody := by
  rw [Pool.usable?_eq_some_iff] at usable
  have known : target ∈ custody.held := sound.accounts.session_mem_built usable.2.1
  rw [receive, note, if_pos]
  exact List.any_eq_true.mpr ⟨target, known, decide_eq_true rfl⟩

/-- A target that has just been constructed is noted. -/
theorem receive_enrolled (sound : custody.Sound start) (rig : Rig σ) (world : σ) :
    let enrolled := (custody.pool.inWorld world).enroll rig
    custody.receive (.ok enrolled.1, enrolled.2) =
      { pool := enrolled.2, held := enrolled.1 :: custody.held } := by
  rcases Pool.enroll_eq (custody.pool.inWorld world) rig with ⟨numbered, -⟩
  dsimp only
  rw [receive, note, if_neg]
  intro known
  rcases List.any_eq_true.mp known with ⟨other, here, same⟩
  rw [decide_eq_true_eq, numbered] at same
  exact absurd same (Nat.ne_of_lt (sound.accounts.id_lt here))

theorem acquire (sound : custody.Sound start) : (custody.call .acquire).Sound start := by
  have acquires := Pool.acquire_cases custody.pool
  have does := sound.does.trans (.acquire custody.pool custody.held)
  rw [call]
  generalize custody.pool.acquire = outcome at acquires does ⊢
  cases acquires with
  | kept usable =>
      rw [sound.receive_kept usable]
      exact sound
  | @constructed rig world =>
      rw [sound.receive_enrolled rig world]
      exact ⟨(sound.accounts.inWorld world).enroll rig, does.mono (List.subset_cons_self ..)⟩
  | failed => exact ⟨(sound.accounts.inWorld _).forget _, does⟩

theorem call (sound : custody.Sound start) (call : Call) : (custody.call call).Sound start := by
  cases call with
  | acquire => exact sound.acquire
  | release number =>
      rw [Custody.call]
      split
      next target found =>
          have here := mem_of_find? found
          exact ⟨sound.accounts.release here, sound.does.trans (.release custody.pool here)⟩
      next => exact sound
  | invalidate =>
      refine ⟨sound.accounts.invalidate, sound.does.trans (.invalidate ?_)⟩
      exact fun _ kept => sound.accounts.session_mem_built kept
  | shutdown =>
      exact ⟨sound.accounts.shutdown, sound.does.trans (.shutdown sound.accounts)⟩
  | teardown number =>
      rw [Custody.call]
      split
      next target found =>
          have here := mem_of_find? found
          exact ⟨sound.accounts.teardown here, sound.does.trans (.teardown custody.pool here)⟩
      next => exact sound

theorem calls (sound : custody.Sound start) (calls : List Call) :
    (calls.foldl Custody.call custody).Sound start := by
  induction calls generalizing custody with
  | nil => exact sound
  | cons next calls ih => exact ih (sound.call next)

end Sound

theorem sound_ofCalls (scope : Scope) (factory : Factory σ) (world : σ) (calls : List Call) :
    (ofCalls scope factory world calls).Sound (.start scope factory world) := by
  have sound : Sound (.start scope factory world) { pool := .start scope factory world } :=
    ⟨Pool.accounts_start scope factory world, .refl _ _⟩
  exact sound.calls calls

/-- Whatever calls are made on a pool and its targets, and however constructions and hooks
go, the pool does nothing at its site but attempt constructions and call hooks of targets
that it has handed out, no hook twice.  It has handed out what it has constructed, and what
still stands is in service.  Shutting it down calls the hooks of the targets that stand,
the newest first and whatever becomes of each, gives the first failure, leaves nothing in
service, and then no target stands. -/
theorem hooks_once_newest_first (scope : Scope) (factory : Factory σ) (world : σ)
    (calls : List Call) :
    let custody := ofCalls scope factory world calls
    let pool := custody.pool
    custody.held.map (·.id) = (List.range pool.site.constructed).reverse ∧
      (∃ deeds, pool.site = Site.afterAll factory.create { world } deeds ∧
        (∀ target ∈ Deed.hooked deeds, target ∈ custody.held) ∧
        ((Deed.hooked deeds).map (·.id)).Nodup) ∧
      (∀ target ∈ custody.held, pool.site.isTornDown target = false → target ∈ pool.live) ∧
      let standing := custody.held.filter (!pool.site.isTornDown ·)
      let (results, left) := callHooks standing pool.site.world
      let (result, closed) := pool.shutdown
      standing.Pairwise (fun first next => next.id < first.id) ∧
        closed.site.world = left ∧ result = firstFailure results ∧ closed.live = [] ∧
        closed.site.tornDown = (standing.map (·.id)).reverse ++ pool.site.tornDown ∧
        ∀ target ∈ custody.held, closed.site.isTornDown target = true := by
  intro custody pool
  have sound := sound_ofCalls scope factory world calls
  have accounts : pool.Accounts custody.held := sound.accounts
  have closing := accounts.shutdown_eq
  refine ⟨accounts.numbered, ?_, accounts.mem_live, ?_, ?_, ?_, ?_, ?_, ?_⟩
  · rcases sound.does.exists_deeds with ⟨deeds, reached, hooked⟩
    refine ⟨deeds, reached, hooked, ?_⟩
    have register : pool.site.tornDown = ((Deed.hooked deeds).map (·.id)).reverse := by
      rw [show pool.site = _ from reached, Site.tornDown_afterAll]
      exact List.append_nil _
    exact List.nodup_reverse.mp (register ▸ accounts.nodup_tornDown)
  · have descending : (custody.held.map (·.id)).Pairwise fun first next => next < first := by
      rw [accounts.numbered]
      exact List.pairwise_reverse.mpr List.pairwise_lt_range
    exact (List.pairwise_map.mp descending).filter _
  · exact congrArg (·.2.site.world) closing
  · exact congrArg Prod.fst closing
  · exact congrArg (·.2.live) closing
  · exact congrArg (·.2.site.tornDown) closing
  · exact fun target here => accounts.isTornDown_shutdown here

end Custody

end Testbed
