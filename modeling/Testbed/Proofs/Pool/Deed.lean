import Testbed.Pool

/-!
# Deeds at a site

This file supplies what can be done at a site: a construction is attempted, or the hook of
a target is called.  Tearing a target down calls its hook and enters the target in the
register, and does nothing if the target has been entered before.  So what a pool does at
its site can be written down as a list of deeds, and the register lists the hooks among
them.

Tearing several targets down calls the hooks of those that are still standing, one after
the other and whatever becomes of each.

Boards that note for themselves when they are built and when their hooks are called show
all this apart from the register.
-/

namespace Testbed

variable {σ : Type}

/-- What tearing a target down does in its surroundings.  What goes wrong is a failure of
the environment. -/
def Target.hook (target : Target σ) : Action σ Unit :=
  match target.teardown with
  | some hook => hook.mapFailure fun error => .environment target.name error.message
  | none => pure ()

/-- Something that is done at a site. -/
inductive Deed (σ : Type) where
  /-- A construction is attempted. -/
  | construct
  /-- The hook of a target is called, whether or not it was before. -/
  | callHook (target : Target σ)

/-- The target whose hook is called. -/
def Deed.hooked? : Deed σ → Option (Target σ)
  | construct => none
  | callHook target => some target

/-- The targets whose hooks are called, in order. -/
def Deed.hooked (deeds : List (Deed σ)) : List (Target σ) :=
  deeds.filterMap Deed.hooked?

namespace Site

/-! ## Deeds -/

/-- Attempt a construction and count it if it succeeds. -/
def attempt (create : Action σ (Rig σ)) (site : Site σ) : Site σ :=
  match create.perform site.world with
  | (.ok _, world) => { site with world, constructed := site.constructed + 1 }
  | (.error _, world) => { site with world }

/-- Call the hook of a target and enter the target in the register. -/
def callHook (site : Site σ) (target : Target σ) : Site σ :=
  { site with
    world := (target.hook.perform site.world).2
    tornDown := target.id :: site.tornDown }

/-- The site after a deed, where targets are constructed in a given way. -/
def after (create : Action σ (Rig σ)) (site : Site σ) : Deed σ → Site σ
  | .construct => site.attempt create
  | .callHook target => site.callHook target

/-- The site after deeds in order. -/
def afterAll (create : Action σ (Rig σ)) (site : Site σ) (deeds : List (Deed σ)) : Site σ :=
  deeds.foldl (after create) site

section Deeds

variable {create : Action σ (Rig σ)} {site : Site σ}

theorem attempt_of_ok {rig : Rig σ} {world : σ}
    (success : create.perform site.world = (.ok rig, world)) :
    site.attempt create = { site with world, constructed := site.constructed + 1 } := by
  rw [attempt, success]

theorem attempt_of_error {error : Error} {world : σ}
    (failure : create.perform site.world = (.error error, world)) :
    site.attempt create = { site with world } := by
  rw [attempt, failure]

theorem tornDown_attempt : (site.attempt create).tornDown = site.tornDown := by
  rw [attempt]
  split <;> rfl

theorem afterAll_append (first second : List (Deed σ)) :
    site.afterAll create (first ++ second) = (site.afterAll create first).afterAll create second :=
  List.foldl_append

/-- The register lists the targets whose hooks were called, the latest first. -/
theorem tornDown_afterAll (deeds : List (Deed σ)) :
    (site.afterAll create deeds).tornDown =
      ((Deed.hooked deeds).map (·.id)).reverse ++ site.tornDown := by
  induction deeds generalizing site with
  | nil => rfl
  | cons deed deeds ih =>
      rw [afterAll, List.foldl_cons, ← afterAll, ih]
      cases deed with
      | construct => rw [after, tornDown_attempt]; rfl
      | callHook target => simp [Deed.hooked, Deed.hooked?, after, callHook]

end Deeds

/-! ## Tearing targets down -/

section Teardown

variable {site : Site σ} {target : Target σ}

theorem teardown_of_tornDown (tornDown : site.isTornDown target = true) :
    site.teardown target = (.ok (), site) := by
  rw [teardown, if_pos tornDown]

/-- A target that stands is torn down by calling its hook. -/
theorem teardown_of_standing (standing : site.isTornDown target = false) :
    site.teardown target = ((target.hook.perform site.world).1, site.callHook target) := by
  rw [teardown, standing, callHook, Target.hook]
  cases target.teardown <;> rfl

theorem isTornDown_iff : site.isTornDown target = true ↔ target.id ∈ site.tornDown :=
  List.contains_iff_mem

theorem isTornDown_eq_false_iff : site.isTornDown target = false ↔ target.id ∉ site.tornDown := by
  rw [← isTornDown_iff, Bool.not_eq_true]

theorem not_standing (tornDown : site.isTornDown target = true) :
    ¬site.isTornDown target = false :=
  fun stands => Bool.false_ne_true (stands.symm.trans tornDown)

theorem isTornDown_callHook (other : Target σ) :
    (site.callHook target).isTornDown other = (other.id == target.id || site.isTornDown other) :=
  List.contains_cons

theorem isTornDown_teardown : (site.teardown target).2.isTornDown target = true := by
  cases standing : site.isTornDown target with
  | true =>
      rw [teardown_of_tornDown standing]
      exact standing
  | false =>
      rw [teardown_of_standing standing, isTornDown_callHook, beq_self_eq_true, Bool.true_or]

/-- What has been torn down stays on record. -/
theorem tornDown_subset_teardown (site : Site σ) (target : Target σ) :
    site.tornDown ⊆ (site.teardown target).2.tornDown := by
  cases standing : site.isTornDown target with
  | true =>
      rw [teardown_of_tornDown standing]
      exact List.Subset.refl _
  | false =>
      rw [teardown_of_standing standing]
      exact List.subset_cons_self ..

/-- What stands after a teardown stood before. -/
theorem standing_of_teardown {other : Target σ}
    (stands : (site.teardown target).2.isTornDown other = false) :
    site.isTornDown other = false := by
  rw [isTornDown_eq_false_iff] at stands ⊢
  exact fun listed => stands (tornDown_subset_teardown site target listed)

end Teardown

end Site

/-! ## Tearing several targets down -/

/-- Call the hooks of targets in order, whatever becomes of each: what they give, and the
surroundings after them. -/
def callHooks : List (Target σ) → σ → List (Result Unit) × σ
  | [], world => ([], world)
  | target :: rest, world =>
      let (first, world) := target.hook.perform world
      let (others, world) := callHooks rest world
      (first :: others, world)

/-- The first failure, if there is one. -/
def firstFailure (results : List (Result Unit)) : Result Unit :=
  (results.find? (!·.isOk)).getD (.ok ())

theorem firstFailure_cons (first : Result Unit) (others : List (Result Unit)) :
    firstFailure (first :: others) = first.bind fun _ => firstFailure others := by
  cases first <;> rfl

theorem firstFailure_append (first second : List (Result Unit)) :
    firstFailure (first ++ second) = (firstFailure first).bind fun _ => firstFailure second := by
  induction first with
  | nil => rfl
  | cons result first ih =>
      rw [List.cons_append, firstFailure_cons, firstFailure_cons, ih]
      cases result <;> rfl

theorem firstFailure_eq_ok_iff {results : List (Result Unit)} :
    firstFailure results = .ok () ↔ ∀ result ∈ results, result = .ok () := by
  induction results with
  | nil => simp [firstFailure]
  | cons result results ih =>
      rw [firstFailure_cons, List.forall_mem_cons, ← ih]
      cases result <;> simp [Except.bind]

/-- Tearing down targets with different numbers calls the hooks of those that stand, each
once; the first failure is the result. -/
theorem Pool.teardownAll_eq (site : Site σ) {targets : List (Target σ)}
    (distinct : (targets.map (·.id)).Nodup) :
    let standing := targets.filter (!site.isTornDown ·)
    Pool.teardownAll site targets =
      (firstFailure (callHooks standing site.world).1,
        { site with
          world := (callHooks standing site.world).2
          tornDown := (standing.map (·.id)).reverse ++ site.tornDown }) := by
  induction targets generalizing site with
  | nil => rfl
  | cons target rest ih =>
      rw [List.map_cons, List.nodup_cons] at distinct
      rcases distinct with ⟨fresh, distinct⟩
      cases stands : site.isTornDown target with
      | true =>
          simp only [List.filter_cons, stands, Bool.not_true, Bool.false_eq_true, if_false]
          rw [Pool.teardownAll, Site.teardown_of_tornDown stands]
          exact ih site distinct
      | false =>
          -- Tearing the first one down leaves the others as they stand.
          have others : rest.filter (!(site.callHook target).isTornDown ·) =
              rest.filter (!site.isTornDown ·) := by
            apply List.filter_congr
            intro other here
            have differ : other.id ≠ target.id := by
              intro same
              exact fresh (same ▸ List.mem_map_of_mem here)
            rw [Site.isTornDown_callHook, beq_eq_false_iff_ne.mpr differ, Bool.false_or]
          have again := ih (site.callHook target) distinct
          simp only [others] at again
          simp only [List.filter_cons, stands, Bool.not_false, if_true]
          rw [Pool.teardownAll, Site.teardown_of_standing stands]
          simp only [again, callHooks, firstFailure_cons, List.map_cons, List.reverse_cons,
            List.append_assoc, List.singleton_append]
          rfl

/-! ## Boards that leave notes -/

/-- What is noted of a board by its number. -/
inductive BoardNote where
  | built (number : Nat)
  | hookCalled (number : Nat)
  deriving DecidableEq, Repr

/-- The number of the next board after some notes, the latest first. -/
def BoardNote.nextNumber : List BoardNote → Nat
  | [] => 0
  | built number :: _ => number + 1
  | hookCalled _ :: notes => nextNumber notes

/-- Boards of which some answer.  Notes are taken when one is built and when its hook is
called, the latest first, so that the hooks show apart from the register. -/
def boards (answers : Nat → Bool) : Factory (List BoardNote) where
  name := "boards"
  create := .ofFunction fun notes =>
    let number := BoardNote.nextNumber notes
    let ping : Action (List BoardNote) Unit :=
      .give (if answers number then .ok () else .error (.timeout .zero))
    let rig : Rig (List BoardNote) :=
      { name := "board", teardown := some (.change (.hookCalled number :: ·)) }
    (.ok (rig.withPing { ping := fun _ => ping, pingLost := fun _ => pure () }),
      .built number :: notes)

end Testbed
