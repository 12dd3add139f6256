import Testbed.Pool.Scope
import Testbed.Target.Site

/-!
# Pools of targets

This file supplies the pool, which hands out targets according to its scope and
tears them down.  In session scope the pool keeps one target and hands it out
until it is torn down or invalidated; in test scope every call constructs one.

Targets that are in service are kept newest first, which is the order in which
they are torn down when the pool is shut down.
-/

namespace Testbed

/-- A backend: how to construct targets, cleaning up after failures. -/
structure Factory (σ : Type) where
  name : String
  create : Action σ (Rig σ)

/-- Targets in service and the means to construct more. -/
structure Pool (σ : Type) where
  scope : Scope
  factory : Factory σ
  site : Site σ
  /-- The target that is kept for the whole run. -/
  session : Option (Target σ) := none
  /-- Targets in service, the newest first. -/
  live : List (Target σ) := []
  /-- Why the last construction failed. -/
  lastFailure : Option String := none

namespace Pool

variable {σ : Type}

/-- A pool without targets. -/
def start (scope : Scope) (factory : Factory σ) (world : σ) : Pool σ :=
  { scope, factory, site := { world } }

/-- The kept target, if it can still be used. -/
def usable? (pool : Pool σ) : Option (Target σ) :=
  match pool.scope with
  | .session => pool.session.filter (!pool.site.isTornDown ·)
  | .perTest => none

/-- A failed construction as a failure of the environment. -/
def constructionError (pool : Pool σ) : Error → Error
  | .environment target reason => .environment target reason
  | error => .environment pool.factory.name error.message

/-- Take a constructed rig into service. -/
def enroll (pool : Pool σ) (rig : Rig σ) : Target σ × Pool σ :=
  let (target, site) := pool.site.install rig
  let pool := { pool with site, live := target :: pool.live }
  match pool.scope with
  | .session => (target, { pool with session := some target, lastFailure := none })
  | .perTest => (target, pool)

/-- Construct a target. -/
def construct (pool : Pool σ) : Result (Target σ) × Pool σ :=
  let (result, site) := pool.site.perform pool.factory.create
  let pool := { pool with site }
  match result with
  | .ok rig =>
      let (target, pool) := pool.enroll rig
      (.ok target, pool)
  | .error error =>
      (.error (pool.constructionError error),
        { pool with lastFailure := some error.message, session := none })

/-- Hand out a target. -/
def acquire (pool : Pool σ) : Result (Target σ) × Pool σ :=
  match pool.usable? with
  | some target => (.ok target, pool)
  | none => pool.construct

/-- Tear a target down that has been taken out of service. -/
def teardown (pool : Pool σ) (target : Target σ) : Result Unit × Pool σ :=
  let (result, site) := pool.site.teardown target
  (result, { pool with site })

/-- Take a target out of service. -/
def withdraw (pool : Pool σ) (target : Target σ) : Pool σ :=
  { pool with live := pool.live.filter (·.id != target.id) }

/-- Take a target back after a test: in session scope it is kept. -/
def release (pool : Pool σ) (target : Target σ) : Result Unit × Pool σ :=
  match pool.scope with
  | .session => (.ok (), pool)
  | .perTest => (pool.withdraw target).teardown target

/-- Tear the kept target down, so that the next one is constructed anew. -/
def invalidate (pool : Pool σ) : Result Unit × Pool σ :=
  match pool.session with
  | some target => (({ pool with session := none }).withdraw target).teardown target
  | none => (.ok (), pool)

/-- Tear targets down in order; the first failure is the result. -/
def teardownAll (site : Site σ) : List (Target σ) → Result Unit × Site σ
  | [] => (.ok (), site)
  | target :: rest =>
      let (first, site) := site.teardown target
      let (others, site) := teardownAll site rest
      (first.bind fun _ => others, site)

/-- Tear every target in service down, the newest first. -/
def shutdown (pool : Pool σ) : Result Unit × Pool σ :=
  let (result, site) := teardownAll pool.site pool.live
  (result, { pool with site, session := none, live := [] })

end Pool

end Testbed
