import ProviderRouting.Metrics
import ProviderRouting.Quota.Ledger
import ProviderRouting.Routes
import ProviderRouting.RoutingError
import ProviderRouting.Series.Guard
import ProviderRouting.Session

/-!
# The routing engine

The engine owns everything that selections depend on: the published configuration, the quota
ledger, the series guard, the sessions, and the rotations of round-robin tiers.  It has no clock
of its own; every operation is told the time.

Publishing a configuration replaces the routes and the settings and starts the rotations anew.
Entries, cooldowns and sessions stay.
-/

namespace ProviderRouting

structure Engine where
  routes : Routes := {}
  health : HealthSettings := {}
  quota : QuotaLedger := {}
  series : SeriesGuard
  sessions : Sessions := ∅
  /-- The rotations of round-robin tiers by tier. -/
  rotations : Table String Rotation := ∅
  metrics : Option Metrics := none

namespace Engine

/-- The static settings of all keys as changes of the ledger. -/
def applySettings (ledger : QuotaLedger) (settings : Table ProviderKey StaticSettings) :
    QuotaLedger :=
  settings.rows.foldl
    (fun ledger row => ledger.putStatic row.1 row.2.limits row.2.priorityTier) ledger

/-- Check and compile a configuration, and put it in the place of the one before. -/
def publish (engine : Engine) (config : Configuration) : Except ConfigError Engine := do
  let routes ← Routes.ofConfiguration config
  let series ← engine.series.withSettings config.series
  .ok { engine with
    routes
    health := config.health
    quota := applySettings { engine.quota with settings := config.quota } routes.settings
    series
    rotations := ∅ }

/-- A new engine with a first configuration. -/
def ofConfiguration (config : Configuration) : Except ConfigError Engine := do
  let series ← SeriesGuard.ofSettings config.series
  publish { quota := { settings := config.quota }, series } config

/-- Count from now on. -/
def counting (engine : Engine) (digest : String → UInt64 := fnv1a) : Engine :=
  { engine with metrics := some (engine.metrics.getD (.ofDigest digest)) }

/-- Name series by a function of the key. -/
def groupedBy (engine : Engine) (group : ProviderKey → String) : Engine :=
  { engine with series := { engine.series with grouping := some group } }

def count (engine : Engine) (change : Metrics → Metrics) : Engine :=
  { engine with metrics := engine.metrics.map change }

/-- A key's entry as it stands at a time. -/
def entryAt (engine : Engine) (key : ProviderKey) (now : Millis) : QuotaEntry :=
  engine.quota.entryAt key now

/-- Moves with every change of what a snapshot holds. -/
def revision (engine : Engine) : UInt64 :=
  engine.quota.revision + engine.series.revision

end Engine

end ProviderRouting
