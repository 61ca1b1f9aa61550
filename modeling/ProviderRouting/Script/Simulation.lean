import ProviderRouting.Clock
import ProviderRouting.Engine.Record
import ProviderRouting.Engine.Select
import ProviderRouting.Script.Step

/-!
# Simulations

A simulation carries out the steps of a script on an engine and a hand-driven clock, and reports
each step as a document.
-/

namespace ProviderRouting

structure Simulation where
  engine : Engine
  clock : Clock

namespace Simulation

/-- The key that a text names. -/
def keyOf (text : String) : Except RoutingError ProviderKey :=
  match ProviderKey.parse? text with
  | some key => .ok key
  | none => .error (.invalidKey text)

/-- The report of a step. -/
def report (kind : String) (time : Millis) (rest : List (String × Document)) : Document :=
  .fields (("op", .text kind) :: ("at", .int time.value) :: rest)

/-- Carry out a step: what it reports and the simulation after it.  A step that fails changes
nothing. -/
def run (simulation : Simulation) (step : ScriptStep) :
    Except RoutingError (Document × Simulation) := do
  let now := simulation.clock.now
  let engine := simulation.engine
  match step with
  | .select route session instructions exclude hint =>
    let excluded ← exclude.mapM keyOf
    let request : SelectionRequest :=
      excluded.foldl SelectionRequest.retryWithout { instructions, session, hint }
    let (selection, engine) ← engine.select route request now
    .ok (report "select" now [("route", .text route), ("result", selection.encode)],
      { simulation with engine })
  | .error text status code retryAfter session =>
    let key ← keyOf text
    let (outcome, engine) := engine.reportError { key, code, status, retryAfter, time := now }
      session
    .ok (report "error" now [("key", .text text), ("outcome", outcome.encode)],
      { simulation with engine })
  | .success text =>
    let key ← keyOf text
    let (reason, engine) := engine.reportSuccess ⟨key, now⟩
    .ok (report "success" now [("key", .text text), ("reason", reason.encode)],
      { simulation with engine })
  | .usage text tokens =>
    let key ← keyOf text
    let (reason, engine) := engine.reportUsage key tokens now
    .ok (report "usage" now [("key", .text text), ("reason", reason.encode)],
      { simulation with engine })
  | .quota text remaining resetAt =>
    let key ← keyOf text
    let (reason, engine) := engine.reportQuota ⟨key, remaining, resetAt⟩ now
    .ok (report "quota" now [("key", .text text), ("reason", reason.encode)],
      { simulation with engine })
  | .advance seconds milliseconds =>
    let clock := simulation.clock.advance (seconds.value * 1000 + milliseconds.value)
    .ok (report "advance" clock.now [], { simulation with clock })
  | .reset text =>
    let key ← keyOf text
    let (reset, engine) := engine.forgive key now
    .ok (report "reset" now [("key", .text text), ("reset", .bool reset)],
      { simulation with engine })

end Simulation

end ProviderRouting
