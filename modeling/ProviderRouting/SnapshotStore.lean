import ProviderRouting.Files.Replacement
import ProviderRouting.Json.Parser
import ProviderRouting.Json.Printer
import ProviderRouting.Snapshot

/-!
# Snapshot stores

A store keeps the last snapshot that was saved, in memory or in a file.  The file holds the
laid-out JSON text of the snapshot and is only ever replaced as a whole.
-/

namespace ProviderRouting

namespace Snapshot

/-- The snapshot that a text holds. -/
def ofText? (text : String) : Option Snapshot := do
  decode (← Json.parse? text)

/-- The text of a snapshot in its file. -/
def fileText (snapshot : Snapshot) : String :=
  Json.pretty snapshot.encode

/-- Read a snapshot file; without the file there is no snapshot. -/
def read (files : Files) (path : String) : Except RoutingError (Option Snapshot) :=
  match files.read (.ofText path) with
  | .error .notFound => .ok none
  | .error .wrongKind => .error (.storage .io)
  | .ok text =>
    match ofText? text with
    | none => .error (.storage .invalidData)
    | some snapshot => do
      snapshot.ensureReadable
      .ok (some snapshot)

/-- Replace a snapshot file. -/
def write (files : Files) (path : String) (snapshot : Snapshot) :
    Except RoutingError Unit × Files :=
  match Replacement.run files path [snapshot.fileText] true with
  | (.ok (), files) => (.ok (), files)
  | (.error _, files) => (.error (.storage .io), files)

end Snapshot

/-- What a store keeps its snapshot in. -/
inductive StoreMedium where
  /-- The last snapshot and how many were saved. -/
  | memory (snapshot : Option Snapshot) (saves : Nat)
  | file (path : String) (files : Files)

structure SnapshotStore where
  medium : StoreMedium
  /-- How many of the next requests the store refuses. -/
  refusals : Nat := 0

namespace SnapshotStore

/-- The answer of a store that refuses. -/
def refusal : RoutingError :=
  .storage (.refused "disk full")

/-- The snapshot that was saved last. -/
def load (store : SnapshotStore) : Except RoutingError (Option Snapshot) × SnapshotStore :=
  match store.refusals with
  | remaining + 1 => (.error refusal, { store with refusals := remaining })
  | 0 =>
    match store.medium with
    | .memory snapshot _ => (.ok snapshot, store)
    | .file path files => (Snapshot.read files path, store)

/-- Keep a snapshot in place of the one before. -/
def save (store : SnapshotStore) (snapshot : Snapshot) :
    Except RoutingError Unit × SnapshotStore :=
  match store.refusals with
  | remaining + 1 => (.error refusal, { store with refusals := remaining })
  | 0 =>
    match store.medium with
    | .memory _ saves => (.ok (), { store with medium := .memory (some snapshot) (saves + 1) })
    | .file path files =>
      let (outcome, files) := Snapshot.write files path snapshot
      (outcome, { store with medium := .file path files })

/-- How many snapshots were saved in memory. -/
def saves? (store : SnapshotStore) : Option Nat :=
  match store.medium with
  | .memory _ saves => some saves
  | .file _ _ => none

end SnapshotStore

end ProviderRouting
