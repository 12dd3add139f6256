import Testbed.Command.Listing
import Testbed.Pool
import Testbed.RunConfig

/-!
# Inspecting targets

This file supplies the command that constructs the configured target and lists its
capabilities, and the list of the known ones.
-/

namespace Testbed.Command

/-- The headings of a listing of capabilities. -/
def capabilityHeadings : List String :=
  ["Capability", "Well-known"]

/-- A capability in a listing. -/
def capabilityCells (capability : Capability) : List String :=
  [capability, if capability.isKnown then "yes" else "no"]

/-- A capability as a document. -/
def capabilityDocument (capability : Capability) : Document :=
  .table [("name", .text capability), ("well_known", .bool capability.isKnown)]

/-- A listing of capabilities. -/
def capabilityListing (capabilities : List Capability) : Listing :=
  .ofItems capabilityHeadings capabilityCells capabilityDocument capabilities

/-- List the known capabilities. -/
def listKnown (format : Format) : Outcome :=
  .print ((capabilityListing Capability.known).render format)

/-- Acquire a target of a pool and make checks on it. -/
def inspect {σ : Type} (preflight : Option Preflight) (pool : Pool σ) :
    Result (Target σ) × Pool σ :=
  match pool.acquire with
  | (.error error, pool) => (.error error, pool)
  | (.ok target, pool) =>
      match preflight with
      | none => (.ok target, pool)
      | some preflight =>
          let (checked, site) := pool.site.perform (preflight.run target)
          (checked.map fun _ => target, { pool with site })

/-- What is shown of an inspected target once it has been torn down. -/
def inspectionOutcome {σ : Type} (format : Format) (checked : Bool)
    (inspected : Result (Target σ)) (closed : Result Unit) : Outcome :=
  .after inspected fun target =>
    let listing := (capabilityListing target.capabilities.names).render format
    let summary :=
      infoLine ("target " ++ target.name)
        ++ if checked then successLine "Pre-test checks passed" else ""
    .following listing
      (.after closed fun _ => .print (if format = .table then summary else ""))

/-- Construct a target, list its capabilities and tear it down. -/
def inspectTarget {σ : Type} (format : Format) (config : RunConfig)
    (preflight : Bool) (factory : Factory σ) (world : σ) : Outcome × σ :=
  let checks := if preflight then some (config.preflight.getD {}) else none
  let (inspected, pool) := inspect checks (Pool.start config.scope factory world)
  let (closed, pool) := pool.shutdown
  (inspectionOutcome format preflight inspected closed, pool.site.world)

/-- Inspect the target of a run configuration. -/
def inspectConfigured (format : Format) (config : RunConfig) (preflight : Bool)
    (host : Host) : Outcome × Host :=
  match config.factory host.files with
  | .error error => (.fail error.report, host)
  | .ok (.containers settings) =>
      inspectTarget format config preflight (Docker.factory settings) host
  | .ok (.machines provider) =>
      let (outcome, machines) :=
        inspectTarget format config preflight provider.factory
          ({ host } : Qemu.Machines)
      (outcome, machines.host)

end Testbed.Command
