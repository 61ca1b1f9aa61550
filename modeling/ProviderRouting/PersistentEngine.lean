import ProviderRouting.Engine.Record
import ProviderRouting.SnapshotStore

/-!
# Persistence

An engine with the store that its snapshots are flushed to.  A flush saves only when the
engine's revision has moved since the last successful one, so a failed flush is due again.
-/

namespace ProviderRouting

structure PersistentEngine where
  engine : Engine
  store : SnapshotStore
  /-- The revision that the store has; the greatest number means none. -/
  lastFlushed : UInt64 := 18446744073709551615

namespace PersistentEngine

/-- Something has changed since the last successful flush. -/
def isDue (state : PersistentEngine) : Bool :=
  state.lastFlushed != state.engine.revision

/-- Load the stored snapshot into the engine; false without a snapshot. -/
def load (state : PersistentEngine) : Except RoutingError Bool × PersistentEngine :=
  match state.store.load with
  | (.error cause, store) => (.error cause, { state with store })
  | (.ok none, store) => (.ok false, { state with store })
  | (.ok (some snapshot), store) =>
    match state.engine.restore snapshot with
    | .error cause => (.error cause, { state with store })
    | .ok engine => (.ok true, { engine, store, lastFlushed := engine.revision })

/-- Save a snapshot if one is due; false if none is. -/
def flush (state : PersistentEngine) (now : Millis) :
    Except RoutingError Bool × PersistentEngine :=
  if state.isDue then
    let (snapshot, engine) := state.engine.snapshot now
    match state.store.save snapshot with
    | (.error cause, store) => (.error cause, { state with engine, store })
    | (.ok (), store) => (.ok true, { engine, store, lastFlushed := state.engine.revision })
  else
    (.ok false, state)

end PersistentEngine

end ProviderRouting
