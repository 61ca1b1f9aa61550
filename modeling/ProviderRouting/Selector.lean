import ProviderRouting.Decode
import ProviderRouting.Event

/-!
# Target selectors

A selector covers the keys of one provider, or only those that also serve a given model or
belong to a given alias.
-/

namespace ProviderRouting

structure KeySelector where
  provider : String
  model : Option String := none
  keyAlias : Option String := none
deriving DecidableEq, Inhabited

namespace KeySelector

/-- Every key of a provider. -/
def ofProvider (provider : String) : KeySelector :=
  { provider }

/-- Every key of a provider that serves one model. -/
def ofModel (provider model : String) : KeySelector :=
  { provider, model := some model }

/-- Exactly one key. -/
def ofKey (key : ProviderKey) : KeySelector :=
  { provider := key.provider, model := some key.model, keyAlias := some key.keyAlias }

def covers (selector : KeySelector) (key : ProviderKey) : Bool :=
  selector.provider == key.provider &&
    selector.model.all (· == key.model) && selector.keyAlias.all (· == key.keyAlias)

theorem ofKey_covers_iff (key candidate : ProviderKey) :
    (ofKey key).covers candidate = true ↔ candidate = key := by
  cases key; cases candidate
  simp only [ofKey, covers, Option.all_some, Bool.and_eq_true, beq_iff_eq,
    ProviderKey.mk.injEq]
  grind

def encode (selector : KeySelector) : Document :=
  .fields [("provider_id", .text selector.provider),
    ("model_id", .ofOption .text selector.model),
    ("key_alias", .ofOption .text selector.keyAlias)]

def decode : Decoder KeySelector := fun document => do
  let given ← Decode.record [⟨"provider_id", []⟩, ⟨"model_id", []⟩, ⟨"key_alias", []⟩] document
  some {
    provider := ← Decode.required given "provider_id" Decode.text
    model := ← Decode.maybe given "model_id" Decode.text
    keyAlias := ← Decode.maybe given "key_alias" Decode.text }

end KeySelector

end ProviderRouting
