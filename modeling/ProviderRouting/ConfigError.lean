/-!
# Errors of a configuration

Each constructor is one cause for which a configuration is refused.
-/

namespace ProviderRouting

/-- The text formats of a configuration. -/
inductive ConfigFormat where
  | yaml
  | toml
  | json
deriving DecidableEq, Repr

def ConfigFormat.label : ConfigFormat → String
  | .yaml => "YAML"
  | .toml => "TOML"
  | .json => "JSON"

inductive ConfigError where
  | noRoutes
  | emptyRoute (route : String)
  | duplicateRank (route : String) (rank : UInt32)
  | emptyTier (route : String) (rank : UInt32)
  | emptyAliases (route provider model : String)
  | duplicateKey (route : String) (rank : UInt32) (key : String)
  | invalidIdentifier (identifier : String)
  | invalidValue (field reason : String)
  | invalidFamilyPattern (pattern : String)
  | unparsable (format : ConfigFormat)
  /-- The file cannot be read. -/
  | unreadable
deriving DecidableEq, Repr

namespace ConfigError

/-- The text of an error, up to the part that tells where in a text or a file the fault lies. -/
def message : ConfigError → String
  | .noRoutes => "No routes configured"
  | .emptyRoute route => "Route '" ++ route ++ "' has no tiers"
  | .duplicateRank route rank =>
    "Route '" ++ route ++ "' has more than one tier with rank " ++ toString rank.toNat
  | .emptyTier route rank =>
    "Tier " ++ toString rank.toNat ++ " of route '" ++ route ++ "' has no targets"
  | .emptyAliases route provider model =>
    "Target " ++ provider ++ "/" ++ model ++ " in route '" ++ route ++ "' has no aliases"
  | .duplicateKey route rank key =>
    "Key '" ++ key ++ "' appears more than once in tier " ++ toString rank.toNat ++
      " of route '" ++ route ++ "'"
  | .invalidIdentifier identifier =>
    "Invalid identifier '" ++ identifier ++ "': must be non-empty and must not contain '/'"
  | .invalidValue field reason => "Invalid value for '" ++ field ++ "': " ++ reason
  | .invalidFamilyPattern pattern => "Invalid family pattern '" ++ pattern ++ "'"
  | .unparsable format => "Failed to parse configuration: Invalid " ++ format.label
  | .unreadable => "IO error"

end ConfigError

/-- Refuse a value of a field unless a condition holds. -/
def ensureValue (condition : Bool) (field reason : String) : Except ConfigError Unit :=
  if condition then .ok () else .error (.invalidValue field reason)

/-- Refuse zero. -/
def ensurePositive (value : Nat) (field : String) : Except ConfigError Unit :=
  ensureValue (0 < value) field "must be greater than 0"

end ProviderRouting
