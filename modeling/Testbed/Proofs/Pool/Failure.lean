import Testbed.Proofs.Pool.Custody

/-!
# Failed constructions

This file supplies what a pool remembers of the constructions that it has attempted.  A
failure is remembered in either scope.  In session scope the next construction that succeeds
wipes it out, so the pool tells how its last attempt went.  In test scope nothing wipes it
out but another failure, so once a construction has failed, the pool tells of a failure
however many targets it has constructed since.
-/

namespace Testbed

variable {σ : Type}

/-- Why something failed, if it did. -/
def reason? {α : Type} : Result α → Option String
  | .ok _ => none
  | .error error => some error.message

@[simp]
theorem reason?_ok {α : Type} (value : α) : reason? (.ok value) = none :=
  rfl

@[simp]
theorem reason?_error {α : Type} (error : Error) :
    reason? (.error error : Result α) = some error.message :=
  rfl

namespace Pool

/-- What a construction comes to that is attempted when a target is to be handed out.  None is
attempted while there is a target to hand out again. -/
def attempt? (pool : Pool σ) : Option (Result (Rig σ)) :=
  match pool.usable? with
  | some _ => none
  | none => some (pool.factory.create.perform pool.site.world).1

/-- What a pool remembers once a construction has come to something. -/
def remember (scope : Scope) (lastFailure : Option String) :
    Result (Rig σ) → Option String
  | .error error => some error.message
  | .ok _ =>
      match scope with
      | .session => none
      | .perTest => lastFailure

theorem lastFailure_enroll (pool : Pool σ) (rig : Rig σ) :
    (pool.enroll rig).2.lastFailure = remember pool.scope pool.lastFailure (.ok rig) := by
  rw [enroll]
  cases pool.scope <;> rfl

theorem lastFailure_acquire (pool : Pool σ) :
    pool.acquire.2.lastFailure =
      pool.attempt?.toList.foldl (remember pool.scope) pool.lastFailure := by
  have acquires := acquire_cases pool
  generalize pool.acquire = outcome at acquires ⊢
  cases acquires with
  | kept usable =>
      rw [attempt?, usable]
      rfl
  | @constructed rig world unusable success =>
      rw [attempt?, unusable, success]
      exact lastFailure_enroll (pool.inWorld world) rig
  | failed unusable failure =>
      rw [attempt?, unusable, failure]
      rfl

theorem lastFailure_release (pool : Pool σ) (target : Target σ) :
    (pool.release target).2.lastFailure = pool.lastFailure := by
  rw [release]
  split <;> rfl

theorem lastFailure_invalidate (pool : Pool σ) :
    pool.invalidate.2.lastFailure = pool.lastFailure := by
  rw [invalidate]
  split <;> rfl

/-! ## What is remembered of several attempts -/

/-- In session scope the last attempt counts. -/
theorem foldl_remember_session (lastFailure : Option String) (attempts : List (Result (Rig σ))) :
    attempts.foldl (remember .session) lastFailure =
      (attempts.getLast?.map reason?).getD lastFailure := by
  induction attempts generalizing lastFailure with
  | nil => rfl
  | cons attempt attempts ih =>
      have remembered : remember .session lastFailure attempt = reason? attempt := by
        cases attempt <;> rfl
      rw [List.foldl_cons, ih, remembered, List.getLast?_cons]
      cases attempts.getLast? <;> rfl

/-- In test scope the last failure counts. -/
theorem foldl_remember_perTest (lastFailure : Option String) (attempts : List (Result (Rig σ))) :
    attempts.foldl (remember .perTest) lastFailure =
      (attempts.filterMap reason?).getLast?.or lastFailure := by
  induction attempts generalizing lastFailure with
  | nil => rfl
  | cons attempt attempts ih =>
      rw [List.foldl_cons, ih]
      cases attempt with
      | ok rig => rfl
      | error error =>
          rw [List.filterMap_cons_some (reason?_error error), List.getLast?_cons]
          cases (attempts.filterMap reason?).getLast? <;> rfl

end Pool

namespace Custody

/-- What the constructions come to that a call attempts, which is one at most. -/
def attemptsOf (custody : Custody σ) : Call → List (Result (Rig σ))
  | .acquire => custody.pool.attempt?.toList
  | .release _ | .invalidate | .shutdown | .teardown _ => []

/-- What the constructions come to that are attempted along calls, in order. -/
def attempts (custody : Custody σ) : List Call → List (Result (Rig σ))
  | [] => []
  | call :: calls => custody.attemptsOf call ++ (custody.call call).attempts calls

theorem pool_receive (custody : Custody σ) (outcome : Result (Target σ) × Pool σ) :
    (custody.receive outcome).pool = outcome.2 := by
  rcases outcome with ⟨_ | _, pool⟩ <;> rfl

/-- A pool learns only from attempts to construct. -/
theorem lastFailure_call (custody : Custody σ) (call : Call) :
    (custody.call call).pool.lastFailure =
      (custody.attemptsOf call).foldl (Pool.remember custody.pool.scope)
        custody.pool.lastFailure := by
  cases call with
  | acquire =>
      rw [Custody.call, pool_receive]
      exact custody.pool.lastFailure_acquire
  | release number =>
      rw [Custody.call]
      split
      next target _ => exact custody.pool.lastFailure_release target
      next => rfl
  | invalidate => exact custody.pool.lastFailure_invalidate
  | shutdown => rfl
  | teardown number =>
      rw [Custody.call]
      split <;> rfl

theorem Sound.lastFailure_calls {start : Pool σ} {custody : Custody σ}
    (sound : custody.Sound start) (calls : List Call) :
    (calls.foldl Custody.call custody).pool.lastFailure =
      (custody.attempts calls).foldl (Pool.remember start.scope) custody.pool.lastFailure := by
  induction calls generalizing custody with
  | nil => rfl
  | cons call calls ih =>
      rw [List.foldl_cons, ih (sound.call call), attempts, List.foldl_append, lastFailure_call,
        sound.does.scope_eq]

theorem lastFailure_ofCalls (scope : Scope) (factory : Factory σ) (world : σ)
    (calls : List Call) :
    (ofCalls scope factory world calls).pool.lastFailure =
      (attempts { pool := .start scope factory world } calls).foldl (Pool.remember scope) none :=
  (sound_ofCalls scope factory world []).lastFailure_calls calls

/-- The last failure of several attempts is how the last of them went if that is a failure too,
or if there are no failures. -/
theorem getLast?_failures_eq_iff (attempts : List (Result (Rig σ))) :
    (attempts.filterMap reason?).getLast? = attempts.getLast?.bind reason? ↔
      (∃ error, attempts.getLast? = some (.error error)) ∨
        ∀ attempt ∈ attempts, reason? attempt = none := by
  rcases List.eq_nil_or_concat attempts with rfl | ⟨earlier, last, rfl⟩
  · simp
  · rw [List.concat_eq_append, List.filterMap_append, List.getLast?_append,
      List.getLast?_concat, Option.bind_some]
    cases last with
    | error error => simp
    | ok rig =>
        -- A success adds nothing, so there must be no earlier failure that is told of instead.
        simp [or_imp, forall_and]

/-- After any calls on a pool, and however constructions and hooks go, the failure that the pool
remembers is that of the last attempt to construct a target, if the pool is in session scope
and that attempt failed.  In test scope it is that of the last attempt that failed, whether or
not targets have been constructed since.  So it tells how the last attempt went exactly in
session scope, or if the last attempt failed, or if none has. -/
theorem lastFailure_truthful_iff (scope : Scope) (factory : Factory σ) (world : σ)
    (calls : List Call) :
    let attempts := attempts { pool := .start scope factory world } calls
    let pool := (ofCalls scope factory world calls).pool
    (pool.lastFailure =
        match scope with
        | .session => attempts.getLast?.bind reason?
        | .perTest => (attempts.filterMap reason?).getLast?) ∧
      (pool.lastFailure = attempts.getLast?.bind reason? ↔
        scope = .session ∨ (∃ error, attempts.getLast? = some (.error error)) ∨
          ∀ attempt ∈ attempts, reason? attempt = none) := by
  intro attempts pool
  have remembered : pool.lastFailure = attempts.foldl (Pool.remember scope) none :=
    lastFailure_ofCalls scope factory world calls
  cases scope with
  | session =>
      have last : pool.lastFailure = attempts.getLast?.bind reason? := by
        rw [remembered, Pool.foldl_remember_session]
        cases attempts.getLast? <;> rfl
      exact ⟨last, fun _ => .inl rfl, fun _ => last⟩
  | perTest =>
      have last : pool.lastFailure = (attempts.filterMap reason?).getLast? := by
        rw [remembered, Pool.foldl_remember_perTest, Option.or_none]
      refine ⟨last, ?_⟩
      rw [last, getLast?_failures_eq_iff]
      exact ⟨.inr, fun here => here.resolve_left Scope.noConfusion⟩

/-- The backend whose first construction fails and whose later ones succeed. -/
def slowStarter : Factory Nat where
  name := "boards"
  create := .ofFunction fun
    | 0 => (.error (.internal "booting"), 1)
    | count => (.ok { name := "board" }, count + 1)

/-- In test scope a failure is remembered although the construction after it has succeeded. -/
theorem lastFailure_of_slowStarter :
    let calls : List Call := [.acquire, .acquire]
    (ofCalls .perTest slowStarter 0 calls).pool.lastFailure = some "Internal error: booting" ∧
      ∃ failure rig, attempts { pool := .start .perTest slowStarter 0 } calls =
        [.error failure, .ok rig] :=
  ⟨rfl, _, _, rfl⟩

end Custody

end Testbed
