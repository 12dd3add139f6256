import Testbed.Target

/-!
# Sites

This file supplies the site, the surroundings together with a register of the
targets taken into service there.  Identities are given in the order of
construction, and a target that has been torn down stays on record, so its hook
runs at most once.
-/

namespace Testbed

/-- Surroundings and the register of the targets in them. -/
structure Site (σ : Type) where
  world : σ
  /-- How many targets have been taken into service. -/
  constructed : Nat := 0
  /-- The targets torn down so far, the latest first. -/
  tornDown : List Nat := []

namespace Site

variable {σ : Type}

/-- Perform an action in the surroundings. -/
def perform {α : Type} (site : Site σ) (action : Action σ α) : Result α × Site σ :=
  let (result, world) := action.perform site.world
  (result, { site with world })

/-- Take a rig into service. -/
def install (site : Site σ) (rig : Rig σ) : Target σ × Site σ :=
  ({ toRig := rig, id := site.constructed },
    { site with constructed := site.constructed + 1 })

/-- Whether a target has been torn down. -/
def isTornDown (site : Site σ) (target : Target σ) : Bool :=
  site.tornDown.contains target.id

/-- Tear a target down, unless that has been done.  What goes wrong is a failure
of the environment. -/
def teardown (site : Site σ) (target : Target σ) : Result Unit × Site σ :=
  if site.isTornDown target then
    (.ok (), site)
  else
    let site := { site with tornDown := target.id :: site.tornDown }
    match target.teardown with
    | some hook =>
        let (result, site) := site.perform hook
        (result.mapError fun error => .environment target.name error.message, site)
    | none => (.ok (), site)

end Site

end Testbed
