import ProviderRouting.HealthWeight
import ProviderRouting.PriorityOrder
import ProviderRouting.Quota.Settings
import ProviderRouting.Series.Settings
import ProviderRouting.Table

/-!
# The routing configuration

A configuration names routes, and gives settings that all have defaults.  A route is a list of
tiers, tried in the order of their ranks, and a tier is a list of targets: a provider, a model,
and the aliases that serve it.  Everything is checked when the configuration is loaded, so that
no request meets a faulty one.
-/

namespace ProviderRouting

/-- How a tier selects among its targets. -/
inductive TierPolicy where
  | priority
  | roundRobin
deriving DecidableEq, Repr, Inhabited

namespace TierPolicy

def label : TierPolicy → String
  | .priority => "priority"
  | .roundRobin => "round_robin"

def ofLabel? : String → Option TierPolicy
  | "priority" => some .priority
  | "round_robin" => some .roundRobin
  | _ => none

def decode : Decoder TierPolicy :=
  Decode.choice ofLabel?

end TierPolicy

/-- A model of a provider with the aliases that serve it, the preferred ones first. -/
structure TierTarget where
  provider : String
  model : String
  aliases : List String
  limits : Option UsageLimits := none
  priorityTier : Option UInt32 := none
deriving DecidableEq, Inhabited

namespace TierTarget

def keys (group : TierTarget) : List ProviderKey :=
  group.aliases.map fun keyAlias => ⟨group.provider, keyAlias, group.model⟩

def encode (group : TierTarget) : Document :=
  .fields [("provider", .text group.provider), ("model", .text group.model),
    ("aliases", .list (group.aliases.map .text)),
    ("limits", .ofOption UsageLimits.encode group.limits),
    ("priority_tier", .ofOption (fun tier => .int tier.toNat) group.priorityTier)]

def decode : Decoder TierTarget := fun document => do
  let given ← Decode.record [⟨"provider", []⟩, ⟨"model", []⟩, ⟨"aliases", []⟩, ⟨"limits", []⟩,
    ⟨"priority_tier", []⟩] document
  some {
    provider := ← Decode.required given "provider" Decode.text
    model := ← Decode.required given "model" Decode.text
    aliases := ← Decode.required given "aliases" (Decode.list Decode.text)
    limits := ← Decode.maybe given "limits" UsageLimits.decode
    priorityTier := ← Decode.maybe given "priority_tier" Decode.uint32 }

end TierTarget

structure ConfiguredTier where
  mode : TierPolicy
  /-- Lower ranks are tried first. -/
  rank : UInt32 := 0
  targets : List TierTarget
  /-- How long an error counts against a key of this tier. -/
  penaltyWindowSeconds : Option UInt64 := none
deriving DecidableEq, Inhabited

namespace ConfiguredTier

/-- The keys of all targets, in their order. -/
def keys (tier : ConfiguredTier) : List ProviderKey :=
  tier.targets.flatMap TierTarget.keys

def encode (tier : ConfiguredTier) : Document :=
  .fields [("mode", .text tier.mode.label), ("rank", .int tier.rank.toNat),
    ("targets", .list (tier.targets.map TierTarget.encode)),
    ("penalty_window_secs",
      .ofOption (fun seconds => .int seconds.toNat) tier.penaltyWindowSeconds)]

def decode : Decoder ConfiguredTier := fun document => do
  let given ← Decode.record [⟨"mode", []⟩, ⟨"rank", []⟩, ⟨"targets", []⟩,
    ⟨"penalty_window_secs", []⟩] document
  some {
    mode := ← Decode.required given "mode" TierPolicy.decode
    rank := ← Decode.defaulted given "rank" Decode.uint32 0
    targets := ← Decode.required given "targets" (Decode.list TierTarget.decode)
    penaltyWindowSeconds := ← Decode.maybe given "penalty_window_secs" Decode.uint64 }

end ConfiguredTier

/-- The tiers of one route. -/
structure ConfiguredRoute where
  tiers : List ConfiguredTier
deriving DecidableEq, Inhabited

namespace ConfiguredRoute

def encode (route : ConfiguredRoute) : Document :=
  .fields [("tiers", .list (route.tiers.map ConfiguredTier.encode))]

def decode : Decoder ConfiguredRoute := fun document => do
  let given ← Decode.record [⟨"tiers", []⟩] document
  some { tiers := ← Decode.required given "tiers" (Decode.list ConfiguredTier.decode) }

end ConfiguredRoute

structure Configuration where
  quota : QuotaSettings := {}
  health : HealthSettings := {}
  priority : PrioritySettings := {}
  series : SeriesSettings := {}
  routes : Table String ConfiguredRoute := ∅
deriving Inhabited

namespace Configuration

/-- Provider and alias are parts of a key's text and thus must not hold a slash. -/
def ensureIdentifier (identifier : String) : Except ConfigError Unit :=
  if identifier.isEmpty || identifier.contains '/' then .error (.invalidIdentifier identifier)
  else .ok ()

/-- No alias may give a key that the tier already has. -/
def ensureAliases (route : String) (rank : UInt32) (group : TierTarget)
    (seen : List ProviderKey) : List String → Except ConfigError (List ProviderKey)
  | [] => .ok seen
  | keyAlias :: rest => do
    ensureIdentifier keyAlias
    let key : ProviderKey := ⟨group.provider, keyAlias, group.model⟩
    if seen.contains key then
      .error (.duplicateKey route rank key.text)
    else
      ensureAliases route rank group (key :: seen) rest

def ensureTarget (route : String) (rank : UInt32) (seen : List ProviderKey)
    (group : TierTarget) : Except ConfigError (List ProviderKey) := do
  ensureIdentifier group.provider
  if group.model.isEmpty then
    .error (.invalidIdentifier group.model)
  else if group.aliases.isEmpty then
    .error (.emptyAliases route group.provider group.model)
  else
    ensureAliases route rank group seen group.aliases

/-- Check a tier whose route has already used some ranks. -/
def ensureTier (route : String) (ranks : List UInt32) (tier : ConfiguredTier) :
    Except ConfigError (List UInt32) := do
  if ranks.contains tier.rank then
    .error (.duplicateRank route tier.rank)
  else if tier.targets.isEmpty then
    .error (.emptyTier route tier.rank)
  else
    ensureValue (tier.penaltyWindowSeconds != some 0) "tiers.penalty_window_secs"
      "must be greater than 0"
    let _ ← tier.targets.foldlM (ensureTarget route tier.rank) []
    .ok (tier.rank :: ranks)

def ensureRoute (name : String) (route : ConfiguredRoute) : Except ConfigError Unit :=
  if route.tiers.isEmpty then .error (.emptyRoute name)
  else do
    let _ ← route.tiers.foldlM (ensureTier name) []

/-- Check every section and then every route. -/
def validate (config : Configuration) : Except ConfigError Unit := do
  config.quota.validate
  config.health.validate
  config.priority.validate
  config.series.validate
  if config.routes.isEmpty then .error .noRoutes
  else config.routes.rows.forM fun row => ensureRoute row.1 row.2

def encode (config : Configuration) : Document :=
  .fields [("quota", config.quota.encode), ("health", config.health.encode),
    ("priority", config.priority.encode), ("series", config.series.encode),
    ("routes", .fields (config.routes.rows.map fun row => (row.1, row.2.encode)))]

def decode : Decoder Configuration := fun document => do
  let given ← Decode.record [⟨"quota", []⟩, ⟨"health", []⟩, ⟨"priority", []⟩, ⟨"series", []⟩,
    ⟨"routes", []⟩] document
  let routes ← Decode.defaulted given "routes" (Decode.members ConfiguredRoute.decode) []
  some {
    quota := ← Decode.defaulted given "quota" QuotaSettings.decode {}
    health := ← Decode.defaulted given "health" HealthSettings.decode {}
    priority := ← Decode.defaulted given "priority" PrioritySettings.decode {}
    series := ← Decode.defaulted given "series" SeriesSettings.decode {}
    routes := .ofList routes }

end Configuration

end ProviderRouting
