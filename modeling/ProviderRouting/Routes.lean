import ProviderRouting.Configuration
import ProviderRouting.Selector

/-!
# Compiled routes

A configuration is compiled once, into tiers that list their keys and stand in the order of
their ranks.  Selections read nothing else of the configuration's routes.
-/

namespace ProviderRouting

/-- A tier with its keys in the configured order. -/
structure Tier where
  /-- The route and the rank; round-robin rotations are kept under it. -/
  id : String
  mode : TierPolicy
  rank : UInt32
  targets : List ProviderKey
  penaltyWindow : Millis
deriving DecidableEq, Inhabited

/-- What a configuration says about one key's entry. -/
structure StaticSettings where
  limits : Option UsageLimits := none
  priorityTier : Option UInt32 := none
deriving DecidableEq, Inhabited

structure Routes where
  tiersByRoute : Table String (List Tier) := ∅
  /-- Every configured key once, in the order of the configuration. -/
  keys : List ProviderKey := []
  /-- The keys that the configuration says something about. -/
  settings : Table ProviderKey StaticSettings := ∅

namespace Routes

def tierOf (route : String) (defaultWindow : Millis) (tier : ConfiguredTier) : Tier where
  id := route ++ "#" ++ toString tier.rank.toNat
  mode := tier.mode
  rank := tier.rank
  targets := tier.keys
  penaltyWindow := (tier.penaltyWindowSeconds.map .ofSeconds).getD defaultWindow

/-- The tiers of a route in the order of their ranks. -/
def tiersOf (defaultWindow : Millis) (name : String) (route : ConfiguredRoute) : List Tier :=
  (route.tiers.map (tierOf name defaultWindow)).mergeSort fun left right =>
    left.rank ≤ right.rank

/-- The items of a list without those that came before. -/
def distinct : List ProviderKey → List ProviderKey
  | [] => []
  | key :: rest => key :: (distinct rest).filter (· != key)

/-- All targets of all routes, in the order of the configuration. -/
def groups (config : Configuration) : List TierTarget :=
  config.routes.rows.flatMap fun row => row.2.tiers.flatMap ConfiguredTier.targets

/-- What a target says about a key is said over what earlier targets say. -/
def addSettings (group : TierTarget) (settings : Table ProviderKey StaticSettings)
    (key : ProviderKey) : Table ProviderKey StaticSettings :=
  if group.limits.isSome || group.priorityTier.isSome then
    let earlier := (settings.get? key).getD {}
    settings.insert key
      ⟨group.limits.or earlier.limits, group.priorityTier.or earlier.priorityTier⟩
  else
    settings

def settingsOf (config : Configuration) : Table ProviderKey StaticSettings :=
  (groups config).foldl
    (fun settings group => group.keys.foldl (addSettings group) settings) ∅

/-- Compile a configuration if it is valid. -/
def ofConfiguration (config : Configuration) : Except ConfigError Routes := do
  config.validate
  let window := Millis.ofSeconds config.priority.penaltyWindowSeconds
  .ok {
    tiersByRoute := .ofList (config.routes.rows.map fun row =>
      (row.1, tiersOf window row.1 row.2))
    keys := distinct ((groups config).flatMap TierTarget.keys)
    settings := settingsOf config }

/-- The tiers of a route in the order of their ranks. -/
def tiers? (routes : Routes) (route : String) : Option (List Tier) :=
  routes.tiersByRoute.get? route

def names (routes : Routes) : List String :=
  routes.tiersByRoute.keys

def contains (routes : Routes) (key : ProviderKey) : Bool :=
  routes.keys.contains key

/-- One of the route's tiers lists the key. -/
def lists (routes : Routes) (route : String) (key : ProviderKey) : Bool :=
  (routes.tiers? route).any fun tiers => tiers.any fun tier => tier.targets.contains key

/-- The configured keys that serve a model of a provider. -/
def servingKeys (routes : Routes) (provider model : String) : List ProviderKey :=
  routes.keys.filter (·.reaches provider model)

/-- The configured keys that a selector covers. -/
def coveredKeys (routes : Routes) (selector : KeySelector) : List ProviderKey :=
  routes.keys.filter selector.covers

end Routes

end ProviderRouting
