import ProviderRouting.Configuration
import ProviderRouting.Files.Basic
import ProviderRouting.Json.Parser
import ProviderRouting.Toml.Parser
import ProviderRouting.Yaml.Parser

/-!
# Configuration files

A configuration is a YAML, TOML or JSON text.  The extension of a file decides the format; any
other than `toml` and `json` stands for YAML.  A path that begins with `~` leads from the home
folder.
-/

namespace ProviderRouting

namespace ConfigFormat

/-- The extension of a path's last name: what follows its last point, unless it begins with
that point. -/
def extension? (name : String) : Option String :=
  match (name.toList.reverse.span (· != '.')) with
  | (after, _ :: before) => if before.isEmpty then none else some (.ofList after.reverse)
  | (_, []) => none

/-- The format of a file with this name. -/
def ofName (name : String) : ConfigFormat :=
  match extension? name with
  | some "toml" => .toml
  | some "json" => .json
  | _ => .yaml

/-- The document of a text in a format. -/
def parse? : ConfigFormat → String → Option Document
  | .yaml => Yaml.parse?
  | .toml => Toml.parse?
  | .json => Json.parse?

end ConfigFormat

namespace Configuration

/-- The valid configuration that a document holds, whose text has this format. -/
def ofText (format : ConfigFormat) (text : String) : Except ConfigError Configuration :=
  match (format.parse? text).bind decode with
  | none => .error (.unparsable format)
  | some config => do
    config.validate
    .ok config

/-- The path that a text names, where `~` as the first name is the home folder. -/
def homePath (home text : String) : Path :=
  match text.toList with
  | ['~'] => .ofText home
  | '~' :: '/' :: rest => .ofText (home ++ "/" ++ .ofList rest)
  | _ => .ofText text

/-- The configuration in a file. -/
def load (files : Files) (home path : String) : Except ConfigError Configuration :=
  let path := homePath home path
  match files.read path with
  | .error _ => .error .unreadable
  | .ok text => ofText (.ofName (path.getLast?.getD "")) text

end Configuration

end ProviderRouting
