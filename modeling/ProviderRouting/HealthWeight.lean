import ProviderRouting.ConfigError
import ProviderRouting.Quota.Entry

/-!
# Health weights

Errors lower a key's weight, and the loss halves with every half-life that passes since the last
error.  The weight depends on nothing but the key's entry and the time.
-/

namespace ProviderRouting

structure HealthSettings where
  baseWeight : UInt32 := 100
  halfLifeSeconds : UInt64 := 600
  /-- The share of the weight that one fresh error costs. -/
  beta : Float := 0.1
  /-- The share of the weight that is always left. -/
  leastMultiplier : Float := 0.5
deriving Inhabited

namespace HealthSettings

def validate (settings : HealthSettings) : Except ConfigError Unit := do
  ensurePositive settings.baseWeight.toNat "health.base_weight"
  ensurePositive settings.halfLifeSeconds.toNat "health.half_life_secs"
  ensureValue (settings.beta.isFinite && !(settings.beta < 0.0)) "health.beta"
    "must be a non-negative number"
  ensureValue (0.0 < settings.leastMultiplier && settings.leastMultiplier ≤ 1.0)
    "health.min_multiplier" "must be in (0.0, 1.0]"

def encode (settings : HealthSettings) : Document :=
  .fields [("base_weight", .int settings.baseWeight.toNat),
    ("half_life_secs", .int settings.halfLifeSeconds.toNat),
    ("beta", .float settings.beta),
    ("min_multiplier", .float settings.leastMultiplier)]

def decode : Decoder HealthSettings := fun document => do
  let given ← Decode.record [⟨"base_weight", []⟩, ⟨"half_life_secs", []⟩, ⟨"beta", []⟩,
    ⟨"min_multiplier", []⟩] document
  some {
    baseWeight := ← Decode.defaulted given "base_weight" Decode.uint32 100
    halfLifeSeconds := ← Decode.defaulted given "half_life_secs" Decode.uint64 600
    beta := ← Decode.defaulted given "beta" Decode.float 0.1
    leastMultiplier := ← Decode.defaulted given "min_multiplier" Decode.float 0.5 }

/-- The natural logarithm of two. -/
def logTwo : Float := 0.693147180559945309417232121458

/-- The share of an error's effect that is left after some milliseconds. -/
def decay (settings : HealthSettings) (elapsed : Int) : Float :=
  let halfLife := Float.ofInt (Millis.ofSeconds settings.halfLifeSeconds).value
  (-logTwo * Float.ofInt elapsed / halfLife).exp

/-- A number, moved between two others. -/
def clamp (value least greatest : Float) : Float :=
  if value < least then least else if greatest < value then greatest else value

/-- The share of the weight that is left after a number of errors, the last at the given
time. -/
def share (settings : HealthSettings) (now : Millis) (lastErrorAt : Option Millis)
    (errors : UInt32) : Float :=
  match lastErrorAt with
  | none => 1.0
  | some time =>
    if errors = 0 then 1.0
    else
      let elapsed := max (now.since time).value 0
      let effective := Float.ofNat errors.toNat * settings.decay elapsed
      clamp (1.0 - settings.beta * effective) settings.leastMultiplier 1.0

/-- The weight of a key, at least one. -/
def weight (settings : HealthSettings) (now : Millis) (lastErrorAt : Option Millis)
    (errors : UInt32) : Nat :=
  let share := settings.share now lastErrorAt errors
  let rounded := (Float.ofNat settings.baseWeight.toNat * share).round.toUInt32
  max 1 rounded.toNat

/-- The weight of a key with this entry. -/
def entryWeight (settings : HealthSettings) (entry : QuotaEntry) (now : Millis) : Nat :=
  settings.weight now entry.lastErrorAt entry.consecutiveErrors

end HealthSettings

end ProviderRouting
