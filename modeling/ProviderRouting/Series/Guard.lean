import ProviderRouting.Event
import ProviderRouting.Series.Settings
import ProviderRouting.Table
import ProviderRouting.Text.Lowercase

/-!
# The series guard

When a provider answers that a model has no capacity left, all keys of that model's series cool
down together, whichever of them was asked.  A provider whose aliases share one account is then
avoided as a whole for as long as the series cools down.

Cooldowns are only ever extended.  Looking at the active ones drops those that have ended.
-/

namespace ProviderRouting

/-- A family rule that is ready to be matched. -/
structure FamilyTest where
  provider : Option String
  pattern : Pattern
  family : String

/-- The rule holds for this key. -/
def FamilyTest.fits (matcher : FamilyTest) (key : ProviderKey) : Bool :=
  matcher.provider.all (· == key.provider) && matcher.pattern.isMatch key.model

/-- Series settings that are ready to be used. -/
structure SeriesRules where
  cooldown : Millis
  /-- The capacity markers in lowercase. -/
  markers : List String
  families : List FamilyTest
  singleAccount : List String

/-- A text contains another one. -/
def containsText (text part : List Char) : Bool :=
  match text with
  | [] => part.isEmpty
  | _ :: rest => part.isPrefixOf text || containsText rest part

namespace SeriesRules

def familyTest (rule : SeriesFamily) : Except ConfigError FamilyTest :=
  match Pattern.parse? rule.pattern with
  | some pattern => .ok ⟨rule.provider, pattern, rule.family⟩
  | none => .error (.invalidFamilyPattern rule.pattern)

def ofSettings (settings : SeriesSettings) : Except ConfigError SeriesRules := do
  let families ← settings.families.mapM familyTest
  .ok {
    cooldown := .ofSeconds settings.cooldownSeconds
    markers := settings.capacityMarkers.map lowercase
    families
    singleAccount := settings.singleAccountProviders }

/-- The family of a key, or its model if no rule fits. -/
def familyOf (rules : SeriesRules) (key : ProviderKey) : String :=
  match rules.families.find? (·.fits key) with
  | some matcher => matcher.family
  | none => key.model

/-- The error says that the model has no capacity left: its status is 429 and its code
contains a marker. -/
def meansNoCapacity (rules : SeriesRules) (event : ErrorEvent) : Bool :=
  event.status == some 429 && event.code.any fun code =>
    let lowered := (lowercase code).toList
    rules.markers.any fun marker => containsText lowered marker.toList

end SeriesRules

/-- What a capacity error did. -/
structure SeriesCooldown where
  series : String
  endsAt : Millis
  /-- The key must not be tried again for this request. -/
  excludeForRetry : Bool
deriving DecidableEq

structure SeriesGuard where
  rules : SeriesRules
  /-- Names the series of a key in place of the family rules. -/
  grouping : Option (ProviderKey → String) := none
  /-- When each series has cooled down. -/
  cooldowns : Table String Millis := ∅
  /-- Until when each provider is avoided. -/
  avoided : Table String Millis := ∅
  revision : UInt64 := 0

namespace SeriesGuard

def ofSettings (settings : SeriesSettings) : Except ConfigError SeriesGuard := do
  .ok { rules := ← SeriesRules.ofSettings settings }

/-- Take other settings; what cools down keeps cooling down. -/
def withSettings (guard : SeriesGuard) (settings : SeriesSettings) :
    Except ConfigError SeriesGuard := do
  .ok { guard with rules := ← SeriesRules.ofSettings settings }

/-- The series that a key belongs to. -/
def seriesOf (guard : SeriesGuard) (key : ProviderKey) : String :=
  match guard.grouping with
  | some group => group key
  | none => key.provider ++ "." ++ guard.rules.familyOf key

/-- Put an end at a name, or move the end there back to it. -/
def extend (ends : Table String Millis) (name : String) (time : Millis) : Table String Millis :=
  ends.insertWith max name time

/-- Start a cooldown if the error says so. -/
def noteError (guard : SeriesGuard) (event : ErrorEvent) : Option SeriesCooldown × SeriesGuard :=
  if guard.rules.meansNoCapacity event then
    let series := guard.seriesOf event.key
    let cooldowns := extend guard.cooldowns series (event.time.plus guard.rules.cooldown)
    let time := (cooldowns.get? series).getD (event.time.plus guard.rules.cooldown)
    let shared := guard.rules.singleAccount.contains event.key.provider
    (some ⟨series, time, shared⟩,
      { guard with
        cooldowns
        avoided := if shared then extend guard.avoided event.key.provider time else guard.avoided
        revision := guard.revision + 1 })
  else
    (none, guard)

/-- The key's series is cooling down. -/
def isCoolingDown (guard : SeriesGuard) (key : ProviderKey) (now : Millis) : Bool :=
  (guard.cooldowns.get? (guard.seriesOf key)).any fun time => decide (now < time)

/-- Other providers are to be preferred to this one. -/
def isAvoided (guard : SeriesGuard) (provider : String) (now : Millis) : Bool :=
  (guard.avoided.get? provider).any fun time => decide (now < time)

def avoidsAny (guard : SeriesGuard) (now : Millis) : Bool :=
  guard.avoided.rows.any fun row => decide (now < row.2)

/-- Drop what has ended. -/
def prune (guard : SeriesGuard) (now : Millis) : SeriesGuard :=
  { guard with
    cooldowns := guard.cooldowns.filter fun _ time => decide (now < time)
    avoided := guard.avoided.filter fun _ time => decide (now < time) }

/-- Take over cooldowns; where one is known, the later end counts. -/
def resume (guard : SeriesGuard) (cooldowns : Table String Millis) : SeriesGuard :=
  { guard with
    cooldowns := cooldowns.rows.foldl (fun ends row => extend ends row.1 row.2) guard.cooldowns
    revision := guard.revision + 1 }

end SeriesGuard

end ProviderRouting
