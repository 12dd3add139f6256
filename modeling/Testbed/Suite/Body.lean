import Testbed.Target.Site

/-!
# Test bodies

This file supplies the bodies of tests.  Starting a body can itself panic.  A
started body runs in turns: before each some time passes, and each changes the
surroundings and then goes on, asks for the teardown of its target, fails, or
panics.

A body under a time limit is given up before the turn that would begin after the
limit; a turn that begins just then still runs.
-/

namespace Testbed

/-- What a panic carries. -/
inductive PanicPayload where
  | message (text : String)
  | other
  deriving DecidableEq, Repr

namespace PanicPayload

/-- The text of a panic. -/
def text : PanicPayload → String
  | message text => text
  | other => "test panicked"

end PanicPayload

/-- How a turn of a body ends. -/
inductive TurnEnd where
  | goOn
  /-- Tear the target down; a failure of that fails the body. -/
  | tearDown
  | fail (error : Error)
  | panic (payload : PanicPayload)
  deriving DecidableEq, Repr

/-- A turn of a body: the time that passes, and what it then does. -/
structure Turn (σ : Type) where
  delay : Span := .zero
  act : σ → TurnEnd × σ

namespace Turn

variable {σ : Type}

/-- The turn that performs an action and fails if that fails. -/
def perform {α : Type} (action : Action σ α) : Turn σ :=
  { act := fun world =>
      match action.perform world with
      | (.ok _, world) => (.goOn, world)
      | (.error error, world) => (.fail error, world) }

/-- The turn that ends in a given way. -/
def finish (turnEnd : TurnEnd) : Turn σ :=
  { act := fun world => (turnEnd, world) }

/-- The turn that only lets time pass. -/
def sleep (span : Span) : Turn σ :=
  { delay := span, act := fun world => (.goOn, world) }

end Turn

/-- What comes of starting a body. -/
inductive Start (σ : Type) where
  | panicked (payload : PanicPayload)
  | started (turns : List (Turn σ))

/-- The failure that a panic in a body is turned into. -/
def panicError (payload : PanicPayload) : Error :=
  .internal ("panicked: " ++ payload.text)

/-- Run the turns of a body, `elapsed` after its start. -/
def runTurns {σ : Type} (target : Target σ) (limit : Option Span) :
    Span → List (Turn σ) → Site σ → Result Unit × Site σ
  | _, [], site => (.ok (), site)
  | elapsed, turn :: rest, site =>
      let elapsed := elapsed + turn.delay
      match limit.filter (· < elapsed) with
      | some limit => (.error (.timeout limit), site)
      | none =>
          let (turnEnd, world) := turn.act site.world
          let site := { site with world }
          match turnEnd with
          | .goOn => runTurns target limit elapsed rest site
          | .tearDown =>
              let (result, site) := site.teardown target
              match result with
              | .ok () => runTurns target limit elapsed rest site
              | .error error => (.error error, site)
          | .fail error => (.error error, site)
          | .panic payload => (.error (panicError payload), site)

end Testbed
