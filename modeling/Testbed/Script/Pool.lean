import Testbed.Script.Target

/-!
# Pools in scripts

This file supplies the calls of pools that scripts make.  A script refers to the
targets that it has been handed by their number.
-/

namespace Testbed.Script

/-! ## Pools -/

/-- A pool of scripted targets. -/
abbrev Company :=
  Pool Rehearsal.Stage

/-- The scope that a script names. -/
def requestScope (request : Document) : Except Document Scope :=
  orAnswer (Scope.ofText (asText (field request "scope")))

/-- A pool and the targets it has handed out. -/
structure Holding where
  pool : Company
  held : List (Target Rehearsal.Stage) := []

/-- Acquire a target and hold on to it. -/
def Holding.acquire (holding : Holding) :
    Result (Target Rehearsal.Stage) × Holding :=
  let (result, pool) := holding.pool.acquire
  match result with
  | .ok target => (.ok target, { pool, held := holding.held ++ [target] })
  | .error error => (.error error, { holding with pool })

/-- Acquire a number of targets: their identities, or why they could not be had. -/
def acquireMany : Nat → Holding → List Document × Holding
  | 0, holding => ([], holding)
  | count + 1, holding =>
      let (result, holding) := holding.acquire
      let (answers, holding) := acquireMany count holding
      (stepResult (result.map fun target => .nat target.id) :: answers, holding)

/-- A call on the pool or on a target that is held. -/
def holdingStep (holding : Holding) (step : Document) :
    Result Document × Holding :=
  let done (outcome : Result Unit × Company) : Result Document × Holding :=
    (outcome.1.map fun _ => .null, { holding with pool := outcome.2 })
  match asItems step with
  | [.text "acquire"] =>
      let (result, holding) := holding.acquire
      (result.map fun target =>
        .table [("target", .text target.name), ("id", .nat target.id)], holding)
  | [.text "acquire_many", count] =>
      let (answers, holding) := acquireMany (asNat count) holding
      (.ok (.list answers), holding)
  | [.text "release", index] =>
      match holding.held[asNat index]? with
      | some target => done (holding.pool.release target)
      | none => (.error (.internal "no such target"), holding)
  | [.text "invalidate"] => done holding.pool.invalidate
  | [.text "shutdown"] => done holding.pool.shutdown
  | [.text "last_failure"] => (.ok (.ofText? holding.pool.lastFailure), holding)
  | [.text "live"] => (.ok (.nat holding.pool.live.length), holding)
  | [.text "scope"] => (.ok (.text holding.pool.scope.name), holding)
  | [.text "held", index, step] =>
      match holding.held[asNat index]? with
      | some target =>
          let (result, site) := targetStep target holding.pool.site step
          (result, { holding with pool := { holding.pool with site } })
      | none => (.error (.internal "no such target"), holding)
  | _ => (.error (.internal "bad step"), holding)

end Testbed.Script
