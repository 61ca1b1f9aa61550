import ProviderRouting.Toml.Scalar
import ProviderRouting.Toml.Table

/-!
# Reading TOML

A file is a sequence of lines, each of which holds a header, a key with its value, or nothing.
Only arrays, inline tables and strings in three quotes may go on over several lines.
-/

namespace ProviderRouting.Toml

/-- Characters of a scalar without quotes. -/
def isScalarPart (character : Char) : Bool :=
  character.isAlphanum || character = '+' || character = '-' || character = '_' ||
    character = '.' || character = ':'

/-- A blank between a date and a time belongs to the scalar. -/
def spanScalar (text : Text) : Text × Text :=
  let run := text.takeWhile isScalarPart
  let rest := text.dropWhile isScalarPart
  match rest with
  | ' ' :: digit :: _ =>
    if (date? run).any List.isEmpty ∧ digit.isDigit then
      let time := (rest.drop 1).takeWhile isScalarPart
      (run ++ ' ' :: time, (rest.drop 1).dropWhile isScalarPart)
    else (run, rest)
  | _ => (run, rest)

mutual

/-- A value and the text after it. -/
def value (bound : Nat) (text : Text) : Option (Document × Text) :=
  match bound with
  | 0 => none
  | bound + 1 =>
    match text with
    | '"' :: _ => (string? '"' text).map fun (found, rest) => (.text found, rest)
    | '\'' :: _ => (string? '\'' text).map fun (found, rest) => (.text found, rest)
    | '[' :: rest => do
      let (items, rest) ← items bound rest
      some (.list items, rest)
    | '\x7b' :: rest => do
      let (members, rest) ← inlineMembers bound [] rest
      some (.fields (documentMembers members), rest)
    | _ => do
      let (run, rest) := spanScalar text
      some (← scalar? run, rest)

/-- The items of an array after its bracket or a comma. -/
def items (bound : Nat) (text : Text) : Option (List Document × Text) :=
  match bound with
  | 0 => none
  | bound + 1 => do
    match ← dropGaps (text.length + 1) text with
    | ']' :: rest => some ([], rest)
    | rest =>
      let (first, rest) ← value bound rest
      match ← dropGaps (rest.length + 1) rest with
      | ',' :: rest =>
        let (others, rest) ← items bound rest
        some (first :: others, rest)
      | ']' :: rest => some ([first], rest)
      | _ => none

/-- The members of an inline table after its brace or a comma. -/
def inlineMembers (bound : Nat) (members : Members) (text : Text) : Option (Members × Text) :=
  match bound with
  | 0 => none
  | bound + 1 => do
    match ← dropGaps (text.length + 1) text with
    | '\x7d' :: rest => some (members, rest)
    | rest =>
      let (key, rest) ← key? rest
      let (document, rest) ← value bound (dropBlanks (← expectCharacter '=' rest))
      let members ← addValue document false key .header members
      match ← dropGaps (rest.length + 1) rest with
      | ',' :: rest => inlineMembers bound members rest
      | '\x7d' :: rest => some (members, rest)
      | _ => none

end

/-- A file as far as it is read: its parts and the header of the open table. -/
structure Reading where
  members : Members := []
  header : List String := []

/-- Open a table or one more table of a name. -/
def Reading.openHeader (reading : Reading) (key : List String)
    (change : Option Part → Option Part) : Option Reading := do
  some { members := ← atHeader change key reading.members, header := key }

/-- Add a value to the open table. -/
def Reading.add (reading : Reading) (key : List String) (document : Document) :
    Option Reading := do
  let members ← match reading.header with
    | [] => addValue document false key .header reading.members
    | header => atHeader (addToOpen document key) header reading.members
  some { reading with members }

/-- A header after its first bracket. -/
def header (reading : Reading) (text : Text) : Option (Reading × Text) :=
  match text with
  | '[' :: rest => do
    let (key, rest) ← key? rest
    match rest with
    | ']' :: ']' :: rest => some (← reading.openHeader key openNextTable, rest)
    | _ => none
  | _ => do
    let (key, rest) ← key? text
    match rest with
    | ']' :: rest => some (← reading.openHeader key openTable, rest)
    | _ => none

/-- A key and its value. -/
def keyValue (reading : Reading) (text : Text) : Option (Reading × Text) := do
  let (key, rest) ← key? text
  let rest ← expectCharacter '=' rest
  let (document, rest) ← value (rest.length + 1) (dropBlanks rest)
  some (← reading.add key document, rest)

/-- The lines up to the end of the text. -/
def lines (bound : Nat) (reading : Reading) (text : Text) : Option Reading :=
  match bound with
  | 0 => none
  | bound + 1 => do
    match ← dropGaps (text.length + 1) text with
    | [] => some reading
    | '[' :: rest =>
      let (reading, rest) ← header reading rest
      lines bound reading (← endLine rest)
    | rest =>
      let (reading, rest) ← keyValue reading rest
      lines bound reading (← endLine rest)

/-- The document of a text.  A byte-order mark at the start is dropped. -/
def parse? (text : String) : Option Document := do
  let body := match text.toList with
    | '\ufeff' :: rest => rest
    | characters => characters
  let reading ← lines (body.length + 1) {} body
  some (.fields (documentMembers reading.members))

end ProviderRouting.Toml
