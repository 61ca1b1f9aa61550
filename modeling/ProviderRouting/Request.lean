import ProviderRouting.Selector
import ProviderRouting.Table

/-!
# Instructions and requests

A request names its session, the keys that already failed for it, a capability hint, and the
routing instructions that came with it.
-/

namespace ProviderRouting

inductive Instruction where
  /-- Send this request to a model of a provider, through one alias if it is given. -/
  | force (provider model : String) (keyAlias : Option String)
  /-- Bind the session to a model, or to one key if the alias is given. -/
  | sticky (provider model : String) (keyAlias : Option String)
  /-- Select among these providers only. -/
  | allow (providers : List String)
  /-- Do not select the keys that the target covers. -/
  | disable (target : KeySelector)
  /-- Take back an earlier `disable` of the same target. -/
  | enable (target : KeySelector)
  /-- Forget everything about the session. -/
  | clear
deriving DecidableEq

namespace Instruction

/-- The names of the instructions, in the order of their numbers. -/
def names : List String :=
  ["force", "sticky", "allow", "disable", "enable", "clear"]

def encodeTarget (name provider model : String) (keyAlias : Option String) : Document :=
  .fields [("type", .text name), ("provider_id", .text provider), ("model_id", .text model),
    ("key_alias", .ofOption .text keyAlias)]

def encode : Instruction → Document
  | .force provider model keyAlias => encodeTarget "force" provider model keyAlias
  | .sticky provider model keyAlias => encodeTarget "sticky" provider model keyAlias
  | .allow providers =>
    .fields [("type", .text "allow"), ("providers", .list (providers.map .text))]
  | .disable target => .fields [("type", .text "disable"), ("target", target.encode)]
  | .enable target => .fields [("type", .text "enable"), ("target", target.encode)]
  | .clear => .fields [("type", .text "clear")]

def decodeTarget (build : String → String → Option String → Instruction) :
    Decoder Instruction := fun document => do
  let given ← Decode.record [⟨"provider_id", []⟩, ⟨"model_id", []⟩, ⟨"key_alias", []⟩] document
  some (build (← Decode.required given "provider_id" Decode.text)
    (← Decode.required given "model_id" Decode.text)
    (← Decode.maybe given "key_alias" Decode.text))

def decodeSelector (build : KeySelector → Instruction) :
    Decoder Instruction := fun document => do
  let given ← Decode.record [⟨"target", []⟩] document
  some (build (← Decode.required given "target" KeySelector.decode))

def decodeNamed (name : String) : Decoder Instruction := fun document =>
  match name with
  | "force" => decodeTarget .force document
  | "sticky" => decodeTarget .sticky document
  | "allow" => do
    let given ← Decode.record [⟨"providers", []⟩] document
    some (.allow (← Decode.required given "providers" (Decode.list Decode.text)))
  | "disable" => decodeSelector .disable document
  | "enable" => decodeSelector .enable document
  | "clear" => some .clear
  | _ => none

def decode : Decoder Instruction := fun document => do
  let (tag, rest) ← Decode.tagged "type" document
  decodeNamed (← Decode.text tag) rest

/-- An instruction inside a record that was read ahead of its tag. -/
def decodeAhead : Decoder Instruction := fun document => do
  let (tag, rest) ← Decode.tagged "type" document
  decodeNamed (← Decode.nameOrNumber names tag) rest

end Instruction

/-- A capability that the request needs; any hint bypasses the session's binding. -/
inductive Capability where
  | vision
  | webSearch
  | longContext
deriving DecidableEq

namespace Capability

def label : Capability → String
  | .vision => "vision"
  | .webSearch => "web_search"
  | .longContext => "long_context"

def ofLabel? : String → Option Capability
  | "vision" => some .vision
  | "web_search" => some .webSearch
  | "long_context" => some .longContext
  | _ => none

def encode (hint : Capability) : Document :=
  .text hint.label

def decode : Decoder Capability :=
  Decode.choice ofLabel?

end Capability

/-- A set of keys, in key order. -/
abbrev KeySet := Table ProviderKey Unit

/-- What a selection is asked for. -/
structure SelectionRequest where
  instructions : List Instruction := []
  /-- Keys that already failed for this request. -/
  excluded : KeySet := ∅
  /-- The request is tried again after a failure. -/
  isRetry : Bool := false
  session : Option String := none
  hint : Option Capability := none

namespace SelectionRequest

/-- Try again without a key that failed. -/
def retryWithout (request : SelectionRequest) (key : ProviderKey) : SelectionRequest :=
  { request with isRetry := true, excluded := request.excluded.insert key () }

/-- A retry with at least one excluded key looks for the healthiest key. -/
def seeksHealthiest (request : SelectionRequest) : Bool :=
  request.isRetry && !request.excluded.isEmpty

def encode (request : SelectionRequest) : Document :=
  .fields [("instructions", .list (request.instructions.map Instruction.encode)),
    ("excluded_provider_keys", .list (request.excluded.keys.map ProviderKey.encode)),
    ("is_retry_attempt", .bool request.isRetry),
    ("session_key", .ofOption .text request.session),
    ("hint", .ofOption Capability.encode request.hint)]

def decode : Decoder SelectionRequest := fun document => do
  let given ← Decode.record [⟨"instructions", []⟩, ⟨"excluded_provider_keys", []⟩,
    ⟨"is_retry_attempt", []⟩, ⟨"session_key", []⟩, ⟨"hint", []⟩] document
  let excluded ← Decode.defaulted given "excluded_provider_keys"
    (Decode.list ProviderKey.decode) []
  some {
    instructions := ← Decode.defaulted given "instructions"
      (Decode.list Instruction.decode) []
    excluded := .ofList (excluded.map (·, ()))
    isRetry := ← Decode.defaulted given "is_retry_attempt" Decode.bool false
    session := ← Decode.maybe given "session_key" Decode.text
    hint := ← Decode.maybe given "hint" Capability.decode }

end SelectionRequest

end ProviderRouting
