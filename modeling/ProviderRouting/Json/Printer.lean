import ProviderRouting.Decimal
import ProviderRouting.Document

/-!
# Writing JSON

A document has two forms: the compact one on a single line without blanks, and the laid-out one
with one member or item per line, indented by two spaces a level.
-/

namespace ProviderRouting.Json

/-- Numbers are positional while the point stands within sixteen digits or at most four zeros
before them. -/
def numberStyle : Decimal.Style := ⟨16, -5⟩

def floatText (value : Float) : String :=
  if value.isFinite then numberStyle.render value else "null"

def hexDigit (value : Nat) : Char :=
  if value < 10 then .ofNat (48 + value) else .ofNat (87 + value)

/-- How a character is written inside quotes. -/
def escape (character : Char) : List Char :=
  match character with
  | '"' => ['\\', '"']
  | '\\' => ['\\', '\\']
  | '\n' => ['\\', 'n']
  | '\r' => ['\\', 'r']
  | '\t' => ['\\', 't']
  | '\x08' => ['\\', 'b']
  | '\x0c' => ['\\', 'f']
  | _ =>
    if character.toNat < 32 then
      ['\\', 'u', '0', '0', hexDigit (character.toNat / 16), hexDigit (character.toNat % 16)]
    else
      [character]

def quote (text : String) : String :=
  "\"" ++ .ofList (text.toList.flatMap escape) ++ "\""

/-- The text of a document without parts. -/
def scalarText : Document → String
  | .bool value => if value then "true" else "false"
  | .int value => toString value
  | .float value => floatText value
  | .text value => quote value
  | .plain literal => quote literal
  | _ => "null"

mutual

/-- The compact form. -/
def compact : Document → String
  | .list items => "[" ++ compactItems items ++ "]"
  | .fields members => "\x7b" ++ compactMembers members ++ "\x7d"
  | scalar => scalarText scalar

def compactItems : List Document → String
  | [] => ""
  | [item] => compact item
  | item :: rest => compact item ++ "," ++ compactItems rest

def compactMembers : List (String × Document) → String
  | [] => ""
  | [(name, member)] => quote name ++ ":" ++ compact member
  | (name, member) :: rest =>
    quote name ++ ":" ++ compact member ++ "," ++ compactMembers rest

end

/-- The start of a line at some level. -/
def newLine (level : Nat) : String :=
  "\n" ++ .ofList (List.replicate (2 * level) ' ')

mutual

/-- The laid-out form, for a document that stands at some level. -/
def laidOut (level : Nat) : Document → String
  | .list [] => "[]"
  | .list items => "[" ++ laidOutItems (level + 1) items ++ newLine level ++ "]"
  | .fields [] => "\x7b\x7d"
  | .fields members => "\x7b" ++ laidOutMembers (level + 1) members ++ newLine level ++ "\x7d"
  | scalar => scalarText scalar

def laidOutItems (level : Nat) : List Document → String
  | [] => ""
  | [item] => newLine level ++ laidOut level item
  | item :: rest => newLine level ++ laidOut level item ++ "," ++ laidOutItems level rest

def laidOutMembers (level : Nat) : List (String × Document) → String
  | [] => ""
  | [(name, member)] => newLine level ++ quote name ++ ": " ++ laidOut level member
  | (name, member) :: rest =>
    newLine level ++ quote name ++ ": " ++ laidOut level member ++ "," ++
      laidOutMembers level rest

end

/-- The laid-out form of a whole document. -/
def pretty (document : Document) : String :=
  laidOut 0 document

end ProviderRouting.Json
