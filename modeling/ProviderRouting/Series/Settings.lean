import ProviderRouting.ConfigError
import ProviderRouting.Decode
import ProviderRouting.Pattern.Parser

/-!
# Series settings

Which errors mean that a model itself has no capacity left, how long its series then cools down,
and which models form one series.
-/

namespace ProviderRouting

/-- Models that match a pattern belong to a family. -/
structure SeriesFamily where
  pattern : String
  family : String
  /-- The rule holds for this provider only. -/
  provider : Option String := none
deriving DecidableEq, Inhabited

namespace SeriesFamily

def encode (rule : SeriesFamily) : Document :=
  .fields [("pattern", .text rule.pattern), ("family", .text rule.family),
    ("provider", .ofOption .text rule.provider)]

def decode : Decoder SeriesFamily := fun document => do
  let given ← Decode.record [⟨"pattern", []⟩, ⟨"family", []⟩, ⟨"provider", []⟩] document
  some {
    pattern := ← Decode.required given "pattern" Decode.text
    family := ← Decode.required given "family" Decode.text
    provider := ← Decode.maybe given "provider" Decode.text }

end SeriesFamily

/-- The markers that are looked for when none are given. -/
def SeriesSettings.defaultMarkers : List String :=
  ["MODEL_CAPACITY_EXHAUSTED", "RESOURCE_EXHAUSTED", "overloaded"]

structure SeriesSettings where
  cooldownSeconds : UInt64 := 60
  /-- Parts of error codes, in any case, that mean exhausted capacity. -/
  capacityMarkers : List String := SeriesSettings.defaultMarkers
  /-- The first rule that fits a key decides its family. -/
  families : List SeriesFamily := []
  /-- Providers whose aliases share one account. -/
  singleAccountProviders : List String := []
deriving DecidableEq, Inhabited

namespace SeriesSettings

/-- Every family pattern can be read. -/
def validate (settings : SeriesSettings) : Except ConfigError Unit :=
  settings.families.forM fun rule =>
    match Pattern.parse? rule.pattern with
    | some _ => .ok ()
    | none => .error (.invalidFamilyPattern rule.pattern)

def encode (settings : SeriesSettings) : Document :=
  .fields [("cooldown_secs", .int settings.cooldownSeconds.toNat),
    ("capacity_markers", .list (settings.capacityMarkers.map .text)),
    ("families", .list (settings.families.map SeriesFamily.encode)),
    ("single_account_providers", .list (settings.singleAccountProviders.map .text))]

def decode : Decoder SeriesSettings := fun document => do
  let given ← Decode.record [⟨"cooldown_secs", []⟩, ⟨"capacity_markers", []⟩, ⟨"families", []⟩,
    ⟨"single_account_providers", []⟩] document
  some {
    cooldownSeconds := ← Decode.defaulted given "cooldown_secs" Decode.uint64 60
    capacityMarkers := ← Decode.defaulted given "capacity_markers" (Decode.list Decode.text)
      defaultMarkers
    families := ← Decode.defaulted given "families" (Decode.list SeriesFamily.decode) []
    singleAccountProviders := ← Decode.defaulted given "single_account_providers"
      (Decode.list Decode.text) [] }

end SeriesSettings

end ProviderRouting
