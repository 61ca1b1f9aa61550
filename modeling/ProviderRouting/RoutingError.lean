import ProviderRouting.ConfigError

/-!
# Errors of routing

Why an operation of the engine or of a store fails.
-/

namespace ProviderRouting

/-- Why a store cannot be read or written. -/
inductive StoreError where
  | io
  | serialization
  /-- The file does not hold a snapshot. -/
  | invalidData
  /-- The store itself refuses. -/
  | refused (reason : String)
deriving DecidableEq, Repr

/-- The text of an error, up to the part that the system or the file's text decides. -/
def StoreError.message : StoreError → String
  | .io => "IO error"
  | .serialization => "Serialization error"
  | .invalidData => "Invalid data in"
  | .refused reason => reason

inductive RoutingError where
  | invalidConfig (cause : ConfigError)
  | unknownRoute (route : String)
  | invalidKey (text : String)
  | unsupportedVersion (found supported : UInt32)
  | storage (cause : StoreError)
deriving DecidableEq, Repr

def RoutingError.message : RoutingError → String
  | .invalidConfig cause => "Configuration validation failed: " ++ cause.message
  | .unknownRoute route => "Unknown route: " ++ route
  | .invalidKey text => "Invalid provider key: " ++ text
  | .unsupportedVersion found supported =>
    "Unsupported snapshot version " ++ toString found.toNat ++ " (supported: " ++
      toString supported.toNat ++ ")"
  | .storage cause => "Storage error: " ++ cause.message

end ProviderRouting
