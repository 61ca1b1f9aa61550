import ProviderRouting.Engine.Basic
import ProviderRouting.Snapshot

/-!
# Recording what happened

Outcomes of requests go to the series guard, the quota ledger and the sessions.  Snapshots carry
the ledger's entries and the active series cooldowns from one engine to another.
-/

namespace ProviderRouting

/-- What an error did. -/
structure ErrorSummary where
  errorClass : ErrorClass
  /-- The key's reason after the error. -/
  reason : PoolReason
  /-- The series that began to cool down, and until when it does. -/
  seriesCooldown : Option (String × Millis)
  /-- The key must not be tried again for this request. -/
  excludeForRetry : Bool
deriving DecidableEq

def ErrorSummary.encode (outcome : ErrorSummary) : Document :=
  .fields [("class", outcome.errorClass.encode), ("reason", outcome.reason.encode),
    ("retryable", .bool outcome.errorClass.mayHeal),
    ("seriesCooldown", .ofOption
      (fun cooldown => .list [.text cooldown.1, .int cooldown.2.value]) outcome.seriesCooldown),
    ("excludeForRetry", .bool outcome.excludeForRetry)]

namespace Engine

/-- Record an error; a session's queue moves on. -/
def reportError (engine : Engine) (event : ErrorEvent) (session : Option String) :
    ErrorSummary × Engine :=
  let (cooldown, series) := engine.series.noteError event
  let (effect, quota) := engine.quota.noteError event
  let sessions := match session with
    | none => engine.sessions
    | some name => engine.sessions.rotate name event.key effect.reason.blocksHard
  let countError (metrics : Metrics) : Metrics :=
    let counted := (metrics.countError event.key.provider event.key.model
      effect.errorClass).updateKey event.key.text effect.reason
    match cooldown with
    | none => counted
    | some cooldown => counted.countSeriesCooldown cooldown.series
  ({ errorClass := effect.errorClass
     reason := effect.reason
     seriesCooldown := cooldown.map fun cooldown => (cooldown.series, cooldown.endsAt)
     excludeForRetry := cooldown.any (·.excludeForRetry) },
    { engine with series, quota, sessions }.count countError)

/-- Record a success. -/
def reportSuccess (engine : Engine) (event : SuccessEvent) : PoolReason × Engine :=
  let (reason, quota) := engine.quota.noteSuccess event
  (reason, { engine with quota }.count (·.updateKey event.key.text reason))

/-- Count a request and its tokens against the key's limits. -/
def reportUsage (engine : Engine) (key : ProviderKey) (tokens : UInt64) (now : Millis) :
    PoolReason × Engine :=
  let (reason, quota) := engine.quota.noteUsage key tokens now
  (reason, { engine with quota }.count (·.updateKey key.text reason))

/-- Take over what a provider says about a key's quota. -/
def reportQuota (engine : Engine) (report : QuotaReport) (now : Millis) :
    PoolReason × Engine :=
  let (reason, quota) := engine.quota.noteReport report now
  (reason, { engine with quota }.count (·.updateKey report.key.text reason))

/-- Forget what happened to a key, even a fatal error. -/
def forgive (engine : Engine) (key : ProviderKey) (now : Millis) : Bool × Engine :=
  match engine.quota.clear key now with
  | (false, quota) => (false, { engine with quota })
  | (true, quota) => (true, { engine with quota }.count (·.updateKey key.text .ok))

/-- Take a snapshot; series that have cooled down are dropped. -/
def snapshot (engine : Engine) (now : Millis) : Snapshot × Engine :=
  let series := engine.series.prune now
  (.ofEntries now engine.quota.entries series.cooldowns, { engine with series })

/-- Take over the entries and cooldowns of a snapshot, all or none. -/
def restore (engine : Engine) (snapshot : Snapshot) : Except RoutingError Engine := do
  snapshot.ensureReadable
  let entries ← snapshot.entries
  .ok { engine with
    quota := engine.quota.putAll entries
    series := engine.series.resume snapshot.seriesCooldowns }

end Engine

end ProviderRouting
