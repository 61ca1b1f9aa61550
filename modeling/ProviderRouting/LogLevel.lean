import ProviderRouting.Text.Lowercase

/-!
# Log levels

Which messages are logged, from a level that is named in any case.
-/

namespace ProviderRouting

inductive LogLevel where
  | trace
  | debug
  | info
  | warn
  | error
deriving DecidableEq, Repr, Inhabited

namespace LogLevel

/-- The text of a filter for the level. -/
def filterText : LogLevel → String
  | .trace => "trace"
  | .debug => "debug"
  | .info => "info"
  | .warn => "warn"
  | .error => "error"

def label : LogLevel → String
  | .trace => "TRACE"
  | .debug => "DEBUG"
  | .info => "INFO"
  | .warn => "WARN"
  | .error => "ERROR"

/-- The level of a name; an unknown name stands for `info`. -/
def ofName (name : String) : LogLevel :=
  match lowercase name with
  | "trace" => .trace
  | "debug" => .debug
  | "warn" => .warn
  | "error" => .error
  | _ => .info

end LogLevel

end ProviderRouting
