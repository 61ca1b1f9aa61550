import ProviderRouting.Decode
import ProviderRouting.ProviderKey

/-!
# Events

What happened to a request after it left through a provider key: an error, a success, or a
report of the provider's own quota.  Errors fall into four classes.  A known error code decides
the class; otherwise the status does, and an error without a status is a network error.
-/

namespace ProviderRouting

inductive ErrorClass where
  | rateLimited
  | serverError
  | network
  | fatal
deriving DecidableEq, Repr, Inhabited

namespace ErrorClass

/-- Codes that mean a credential or a model cannot be used until someone repairs it. -/
def fatalCodes : List String :=
  ["invalid_api_key", "authentication_error", "permission_denied", "model_not_found",
    "account_disabled"]

/-- Codes of failures on the way to the provider. -/
def networkCodes : List String :=
  ["timeout", "connection_reset", "connection_refused", "network"]

/-- The class that a code decides, whatever the case of its ASCII letters. -/
def ofCode? (code : String) : Option ErrorClass :=
  let folded := code.map Char.toLower
  if fatalCodes.contains folded then some .fatal
  else if networkCodes.contains folded then some .network
  else none

def ofStatus : Option UInt16 → ErrorClass
  | none => .network
  | some status =>
    if status = 429 then .rateLimited
    else if 401 ≤ status ∧ status ≤ 404 then .fatal
    else if status = 408 then .network
    else .serverError

def ofResponse (status : Option UInt16) (code : Option String) : ErrorClass :=
  (code.bind ofCode?).getD (ofStatus status)

/-- Fatal errors do not heal by waiting. -/
def mayHeal (errorClass : ErrorClass) : Bool :=
  errorClass != .fatal

def label : ErrorClass → String
  | .rateLimited => "E429"
  | .serverError => "E5XX"
  | .network => "ENET"
  | .fatal => "EFATAL"

def ofLabel? : String → Option ErrorClass
  | "E429" => some .rateLimited
  | "E5XX" => some .serverError
  | "ENET" => some .network
  | "EFATAL" => some .fatal
  | _ => none

theorem ofLabel?_label (errorClass : ErrorClass) :
    ofLabel? errorClass.label = some errorClass := by
  cases errorClass <;> rfl

def encode (errorClass : ErrorClass) : Document :=
  .text errorClass.label

def decode : Decoder ErrorClass :=
  Decode.choice ofLabel?

end ErrorClass

namespace ProviderKey

def encode (key : ProviderKey) : Document :=
  .fields [("provider_id", .text key.provider), ("key_alias", .text key.keyAlias),
    ("model_id", .text key.model)]

def decode : Decoder ProviderKey := fun document => do
  let given ← Decode.record [⟨"provider_id", []⟩, ⟨"key_alias", []⟩, ⟨"model_id", []⟩] document
  some {
    provider := ← Decode.required given "provider_id" Decode.text
    keyAlias := ← Decode.required given "key_alias" Decode.text
    model := ← Decode.required given "model_id" Decode.text }

end ProviderKey

/-- A request through a key failed. -/
structure ErrorEvent where
  key : ProviderKey
  code : Option String := none
  status : Option UInt16 := none
  /-- How long the provider asked to wait. -/
  retryAfter : Option Millis := none
  time : Millis
deriving DecidableEq

namespace ErrorEvent

def errorClass (event : ErrorEvent) : ErrorClass :=
  .ofResponse event.status event.code

def encode (event : ErrorEvent) : Document :=
  .fields [("provider_key", event.key.encode),
    ("error_code", .ofOption .text event.code),
    ("http_status", .ofOption (fun status => .int status.toNat) event.status),
    ("retry_after_ms", .ofOption (fun wait => .int wait.value) event.retryAfter),
    ("ts_ms", .int event.time.value)]

def decode : Decoder ErrorEvent := fun document => do
  let given ← Decode.record [⟨"provider_key", []⟩, ⟨"error_code", []⟩, ⟨"http_status", []⟩,
    ⟨"retry_after_ms", []⟩, ⟨"ts_ms", []⟩] document
  some {
    key := ← Decode.required given "provider_key" ProviderKey.decode
    code := ← Decode.maybe given "error_code" Decode.text
    status := ← Decode.maybe given "http_status" Decode.uint16
    retryAfter := ← Decode.maybe given "retry_after_ms" Decode.millis
    time := ← Decode.required given "ts_ms" Decode.millis }

end ErrorEvent

/-- A request through a key succeeded. -/
structure SuccessEvent where
  key : ProviderKey
  time : Millis
deriving DecidableEq

namespace SuccessEvent

def encode (event : SuccessEvent) : Document :=
  .fields [("provider_key", event.key.encode), ("ts_ms", .int event.time.value)]

def decode : Decoder SuccessEvent := fun document => do
  let given ← Decode.record [⟨"provider_key", []⟩, ⟨"ts_ms", []⟩] document
  some {
    key := ← Decode.required given "provider_key" ProviderKey.decode
    time := ← Decode.required given "ts_ms" Decode.millis }

end SuccessEvent

/-- What a provider says about a key's quota. -/
structure QuotaReport where
  key : ProviderKey
  /-- The share of the quota that is left, from 0 to 1. -/
  remaining : Float
  /-- When the provider fills the quota up again. -/
  resetAt : Option Millis := none

namespace QuotaReport

def encode (report : QuotaReport) : Document :=
  .fields [("providerKey", report.key.encode), ("remainingFraction", .float report.remaining),
    ("resetAtMs", .ofOption (fun time => .int time.value) report.resetAt)]

def decode : Decoder QuotaReport := fun document => do
  let given ← Decode.record [⟨"providerKey", []⟩, ⟨"remainingFraction", []⟩, ⟨"resetAtMs", []⟩]
    document
  some {
    key := ← Decode.required given "providerKey" ProviderKey.decode
    remaining := ← Decode.required given "remainingFraction" Decode.float
    resetAt := ← Decode.maybe given "resetAtMs" Decode.millis }

end QuotaReport

end ProviderRouting
