import ProviderRouting.Document
import ProviderRouting.Json.Token

/-!
# Reading JSON

The parser walks the tokens once with a stack of the lists and mappings that are still open.
Members keep their order, and a repeated name keeps both members.  A mapping with a broken
name is unreadable as a whole.
-/

namespace ProviderRouting.Json

/-- A finished member; the name is missing when it cannot be read. -/
abbrev Member := Option String × Document

/-- A list or mapping that is still open, with its finished parts in reverse. -/
inductive Frame where
  | list (items : List Document)
  | fields (members : List Member) (name : Option String)

/-- What the next token may be. -/
inductive Expected where
  | value
  | firstItem
  | firstName
  | name (members : List Member)
  | colon (members : List Member) (name : Option String)
  /-- The value is complete: a comma or a closing bracket of the frame below. -/
  | next (document : Document)

/-- The mapping with these members. -/
def closeMembers (reversed : List Member) : Document :=
  match reversed.reverse.mapM fun (name, document) => name.map (·, document) with
  | some members => .fields members
  | none => .unreadable

/-- A value that consists of one token. -/
def Token.scalar? : Token → Option Document
  | .null => some .null
  | .bool value => some (.bool value)
  | .int value => some (.int value)
  | .float value => some (.float value)
  | .text value => some (.text value)
  | .hugeNumber | .brokenText => some .unreadable
  | _ => none

/-- A member's name, if the token is a string. -/
def Token.name? : Token → Option (Option String)
  | .text value => some (some value)
  | .brokenText => some none
  | _ => none

/-- Begin a value. -/
def beginValue (stack : List Frame) (token : Token) : Option (List Frame × Expected) :=
  match token with
  | .openList => some (stack, .firstItem)
  | .openFields => some (stack, .firstName)
  | other => other.scalar?.map fun document => (stack, .next document)

/-- Go on after a complete value. -/
def afterValue (stack : List Frame) (document : Document) (token : Token) :
    Option (List Frame × Expected) :=
  match stack, token with
  | .list items :: below, .comma => some (.list (document :: items) :: below, .value)
  | .list items :: below, .closeList =>
    some (below, .next (.list (document :: items).reverse))
  | .fields members name :: below, .comma => some (below, .name ((name, document) :: members))
  | .fields members name :: below, .closeFields =>
    some (below, .next (closeMembers ((name, document) :: members)))
  | _, _ => none

/-- Take one token. -/
def accept (stack : List Frame) (expected : Expected) (token : Token) :
    Option (List Frame × Expected) :=
  match expected with
  | .value => beginValue stack token
  | .firstItem =>
    match token with
    | .closeList => some (stack, .next (.list []))
    | _ => beginValue (.list [] :: stack) token
  | .firstName =>
    match token with
    | .closeFields => some (stack, .next (.fields []))
    | _ => token.name?.map fun name => (stack, .colon [] name)
  | .name members => token.name?.map fun name => (stack, .colon members name)
  | .colon members name =>
    match token with
    | .colon => some (.fields members name :: stack, .value)
    | _ => none
  | .next document => afterValue stack document token

def parseFrom (stack : List Frame) (expected : Expected) : List Token → Option Document
  | [] =>
    match stack, expected with
    | [], .next document => some document
    | _, _ => none
  | token :: rest => do
    let (stack, expected) ← accept stack expected token
    parseFrom stack expected rest

/-- The document that a text holds, with nothing but blanks around it. -/
def parse? (text : String) : Option Document := do
  parseFrom [] .value (← scan text)

end ProviderRouting.Json
