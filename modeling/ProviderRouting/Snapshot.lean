import ProviderRouting.Quota.Entry
import ProviderRouting.RoutingError
import ProviderRouting.Table

/-!
# Snapshots

A snapshot is what is kept of an engine between two runs: the quota entries under the texts of
their keys, and the series that are cooling down.  It carries the version of its format.
-/

namespace ProviderRouting

structure Snapshot where
  version : UInt32
  /-- When the snapshot was taken. -/
  updatedAt : Millis
  providers : Table String QuotaEntry := ∅
  seriesCooldowns : Table String Millis := ∅
deriving Inhabited

namespace Snapshot

/-- The newest version that can be read, and the one that is written. -/
def currentVersion : UInt32 := 1

/-- The snapshot of some entries. -/
def ofEntries (now : Millis) (entries : Table ProviderKey QuotaEntry)
    (seriesCooldowns : Table String Millis) : Snapshot where
  version := currentVersion
  updatedAt := now
  providers := .ofList (entries.rows.map fun row => (row.1.text, row.2))
  seriesCooldowns

/-- Refuse a snapshot of a newer format. -/
def ensureReadable (snapshot : Snapshot) : Except RoutingError Unit :=
  if currentVersion < snapshot.version then
    .error (.unsupportedVersion snapshot.version currentVersion)
  else .ok ()

def parseRow (row : String × QuotaEntry) : Except RoutingError (ProviderKey × QuotaEntry) :=
  match ProviderKey.parse? row.1 with
  | some key => .ok (key, row.2)
  | none => .error (.invalidKey row.1)

/-- The entries under their keys. -/
def entries (snapshot : Snapshot) : Except RoutingError (List (ProviderKey × QuotaEntry)) :=
  snapshot.providers.rows.mapM parseRow

def encode (snapshot : Snapshot) : Document :=
  .fields [("version", .int snapshot.version.toNat),
    ("updatedAt", .int snapshot.updatedAt.value),
    ("providers", .fields (snapshot.providers.rows.map fun row => (row.1, row.2.encode))),
    ("seriesCooldowns",
      .fields (snapshot.seriesCooldowns.rows.map fun row => (row.1, .int row.2.value)))]

def fieldNames : List Field :=
  ["version", "updatedAt", "providers", "seriesCooldowns"].map (⟨·, []⟩)

def decode : Decoder Snapshot := fun document => do
  let given ← Decode.record fieldNames document
  some {
    version := ← Decode.required given "version" Decode.uint32
    updatedAt := ← Decode.required given "updatedAt" Decode.millis
    providers := .ofList
      (← Decode.required given "providers" (Decode.members QuotaEntry.decode))
    seriesCooldowns := .ofList
      (← Decode.defaulted given "seriesCooldowns" (Decode.members Decode.millis) []) }

end Snapshot

end ProviderRouting
