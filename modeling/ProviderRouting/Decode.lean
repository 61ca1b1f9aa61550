import ProviderRouting.Document
import ProviderRouting.Literal
import ProviderRouting.Millis

/-!
# Decoding documents

A decoder takes a document to a value of some type, or fails.  A record is decoded from a
mapping by the names of its fields, where unknown names are skipped and a field given twice is
refused, or from a list by the position of its fields.
-/

namespace ProviderRouting

abbrev Decoder (α : Type) := Document → Option α

/-- A field with its name and the other names it may be given under. -/
structure Field where
  name : String
  others : List String := []

namespace Decode

def text : Decoder String
  | .text value => some value
  | .plain literal => some literal
  | _ => none

def bool : Decoder Bool
  | .bool value => some value
  | .plain literal => Literal.toBool? literal
  | _ => none

def int : Decoder Int
  | .int value => some value
  | .plain literal => Literal.toInt? literal
  | _ => none

def natural : Decoder Nat
  | .int (.ofNat value) => some value
  | .plain literal => Literal.toNat? literal
  | _ => none

/-- An integer from zero up to a limit. -/
def upTo (limit : Nat) : Decoder Nat := fun document =>
  (natural document).filter (· ≤ limit)

def uint16 : Decoder UInt16 := fun document => (upTo 65535 document).map Nat.toUInt16

def uint32 : Decoder UInt32 := fun document => (upTo 4294967295 document).map Nat.toUInt32

def uint64 : Decoder UInt64 := fun document =>
  (upTo 18446744073709551615 document).map Nat.toUInt64

def millis : Decoder Millis := fun document => do Millis.ofInt? (← int document)

def float : Decoder Float
  | .float value => some value
  | .int value => some (Float.ofInt value)
  | .plain literal => Literal.toFloat? literal
  | _ => none

/-- Nothing, for an absent value. -/
def optional {α : Type} (decode : Decoder α) : Decoder (Option α)
  | .null => some none
  | .plain literal =>
    if literal.isEmpty || Literal.isNull literal then some none
    else (decode (.plain literal)).map some
  | document => (decode document).map some

/-- Every item by the same decoder. -/
def list {α : Type} (decode : Decoder α) : Decoder (List α)
  | .list items => items.mapM decode
  | .plain "" => some []
  | _ => none

/-- A mapping with free names; of a repeated name the last member counts. -/
def members {α : Type} (decode : Decoder α) : Decoder (List (String × α))
  | .fields members => members.mapM fun (name, document) => (decode document).map (name, ·)
  | .plain "" => some []
  | _ => none

/-- One of some names, alone or as the name of an empty member. -/
def choice {α : Type} (named : String → Option α) : Decoder α
  | .text name => named name
  | .plain name => named name
  | .fields [(name, .null)] => named name
  | _ => none

/-- The field that a name stands for. -/
def fieldOf (fields : List Field) (name : String) : Option Field :=
  fields.find? fun field => field.name == name || field.others.contains name

/-- The members that belong to fields, under the fields' own names; none if one is given
twice. -/
def collect (fields : List Field) :
    List (String × Document) → Option (List (String × Document))
  | [] => some []
  | (name, document) :: rest => do
    let found ← collect fields rest
    match fieldOf fields name with
    | none => some found
    | some field =>
      if (found.lookup field.name).isSome then none
      else some ((field.name, document) :: found)

/-- The given fields of a record, by name. -/
def record (fields : List Field) : Decoder (List (String × Document))
  | .fields members => collect fields members
  | .list items =>
    if items.length ≤ fields.length then some ((fields.map Field.name).zip items) else none
  | .plain "" => some []
  | _ => none

/-- A field that must be given. -/
def required {α : Type} (given : List (String × Document)) (name : String)
    (decode : Decoder α) : Option α := do
  decode (← given.lookup name)

/-- A field with a value for the case that it is not given. -/
def defaulted {α : Type} (given : List (String × Document)) (name : String)
    (decode : Decoder α) (default : α) : Option α :=
  match given.lookup name with
  | none => some default
  | some document => decode document

/-- A field that may be missing or null. -/
def maybe {α : Type} (given : List (String × Document)) (name : String)
    (decode : Decoder α) : Option (Option α) :=
  defaulted given name (optional decode) none

/-- How deeply a document may be nested that is read ahead of its tag. -/
def deepest : Nat := 127

/-- The tag of a tagged record and the rest of it: the member of the given name, or the first
item.  The whole is read before the tag is known, so no part of it may be unreadable. -/
def tagged (tag : String) : Decoder (Document × Document)
  | .fields members =>
    let rest := Document.fields (members.filter fun member => member.1 != tag)
    match members.filter fun member => member.1 == tag with
    | [(_, document)] =>
      if rest.isReadable && rest.depth ≤ deepest then some (document, rest) else none
    | _ => none
  | .list (document :: items) =>
    let rest := Document.list items
    if rest.isReadable && rest.depth ≤ deepest then some (document, rest) else none
  | _ => none

/-- Inside a record that was read ahead of its tag, a tag may also be the number of its name
among all names. -/
def nameOrNumber (names : List String) : Decoder String
  | .int (.ofNat number) => names[number]?
  | document => text document

end Decode

end ProviderRouting
