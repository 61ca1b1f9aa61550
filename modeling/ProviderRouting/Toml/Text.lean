/-!
# Strings and blanks of TOML

A string stands in double quotes, with escapes, or in single quotes, without any.  Three quotes
begin a string that may span lines.
-/

namespace ProviderRouting.Toml

abbrev Text := List Char

def isBlank (character : Char) : Bool :=
  character = ' ' || character = '\t'

def dropBlanks (text : Text) : Text :=
  text.dropWhile isBlank

/-- Control characters other than the tab may stand nowhere. -/
def isControl (character : Char) : Bool :=
  (character.toNat < 0x20 && character ≠ '\t') || character.toNat = 0x7F

/-- The rest after a line end, which is a line feed with or without a carriage return. -/
def lineEnd? : Text → Option Text
  | '\n' :: rest => some rest
  | '\r' :: '\n' :: rest => some rest
  | _ => none

/-- The rest after an optional comment. -/
def dropComment (text : Text) : Option Text :=
  match text with
  | '#' :: rest =>
    let after := rest.dropWhile fun character => character ≠ '\n' ∧ character ≠ '\r'
    if (rest.takeWhile fun character => character ≠ '\n' ∧ character ≠ '\r').any isControl then none
    else some after
  | _ => some text

/-- The rest after blanks, a comment, and a line end or the end of the text. -/
def endLine (text : Text) : Option Text := do
  match ← dropComment (dropBlanks text) with
  | [] => some []
  | rest => lineEnd? rest

/-- The rest after blanks, comments and line ends. -/
def dropGaps (bound : Nat) (text : Text) : Option Text :=
  match bound with
  | 0 => none
  | bound + 1 => do
    let rest ← dropComment (dropBlanks text)
    match lineEnd? rest with
    | some rest => dropGaps bound rest
    | none => some rest

def hexDigit? (character : Char) : Option Nat :=
  if character.isDigit then some (character.toNat - 48)
  else if 'a' ≤ character ∧ character ≤ 'f' then some (character.toNat - 87)
  else if 'A' ≤ character ∧ character ≤ 'F' then some (character.toNat - 55)
  else none

/-- The character of some hexadecimal digits. -/
def codeCharacter? (digits : Text) : Option Char := do
  let code ← digits.foldlM (fun total digit => do some (16 * total + (← hexDigit? digit))) 0
  if code.isValidChar then some (.ofNat code) else none

/-- What a one-letter escape stands for. -/
def letterEscape? : Char → Option Char
  | 'b' => some '\x08'
  | 't' => some '\t'
  | 'e' => some '\x1b'
  | 'n' => some '\n'
  | 'f' => some '\x0c'
  | 'r' => some '\r'
  | '"' => some '"'
  | '\\' => some '\\'
  | _ => none

/-- How many digits follow the letter of a numeric escape. -/
def escapeWidth? : Char → Option Nat
  | 'x' => some 2
  | 'u' => some 4
  | 'U' => some 8
  | _ => none

/-- The character of an escape after its backslash. -/
def escaped? : Text → Option (Char × Text)
  | [] => none
  | letter :: rest =>
    match escapeWidth? letter with
    | some width =>
      if rest.length < width then none
      else (codeCharacter? (rest.take width)).map (·, rest.drop width)
    | none => (letterEscape? letter).map (·, rest)

/-- The rest of a string on one line; escapes count only in double quotes. -/
def lineString (quote : Char) (found : Text) (bound : Nat) (text : Text) :
    Option (String × Text) :=
  match bound, text with
  | 0, _ => none
  | _, [] => none
  | bound + 1, character :: rest =>
    if character = quote then some (.ofList found.reverse, rest)
    else if character = '\\' ∧ quote = '"' then do
      let (character, rest) ← escaped? rest
      lineString quote (character :: found) bound rest
    else if isControl character then none
    else lineString quote (character :: found) bound rest

/-- The rest after an escaped line end: everything up to the next character that is visible. -/
def dropEscapedLine (text : Text) : Option Text := do
  let rest ← lineEnd? (dropBlanks text)
  some (rest.dropWhile fun character => isBlank character || character = '\n' || character = '\r')

/-- The quotes at the beginning, at most five: the last three end a string over several lines,
and those before them belong to it. -/
def closingQuotes (quote : Char) (text : Text) : Option (Nat × Text) :=
  let count := min 5 (text.takeWhile (· = quote)).length
  if 3 ≤ count then some (count - 3, text.drop count) else none

/-- The rest of a string over several lines. -/
def blockString (quote : Char) (found : Text) (bound : Nat) (text : Text) :
    Option (String × Text) :=
  match bound, text with
  | 0, _ => none
  | _, [] => none
  | bound + 1, character :: rest =>
    if character = quote then
      match closingQuotes quote text with
      | some (inside, rest) =>
        some (.ofList (List.replicate inside quote ++ found).reverse, rest)
      | none => blockString quote (character :: found) bound rest
    else if character = '\\' ∧ quote = '"' then
      match dropEscapedLine rest with
      | some rest => blockString quote found bound rest
      | none => do
        let (character, rest) ← escaped? rest
        blockString quote (character :: found) bound rest
    else
      match lineEnd? text with
      | some rest => blockString quote ('\n' :: found) bound rest
      | none =>
        if isControl character then none
        else blockString quote (character :: found) bound rest

/-- A string that begins with a quote; one right after three quotes drops a first line end. -/
def string? (quote : Char) (text : Text) : Option (String × Text) :=
  match text with
  | first :: second :: third :: rest =>
    if first = quote ∧ second = quote ∧ third = quote then
      let body := (lineEnd? rest).getD rest
      blockString quote [] (body.length + 1) body
    else lineString quote [] (text.length + 1) (second :: third :: rest)
  | _ :: rest => lineString quote [] (text.length + 1) rest
  | [] => none

def isBareKeyPart (character : Char) : Bool :=
  character.isAlphanum || character = '-' || character = '_'

/-- One part of a key. -/
def keyPart (text : Text) : Option (String × Text) :=
  match text with
  | '"' :: rest => lineString '"' [] (text.length + 1) rest
  | '\'' :: rest => lineString '\'' [] (text.length + 1) rest
  | _ =>
    let name := text.takeWhile isBareKeyPart
    if name.isEmpty then none else some (.ofList name, text.dropWhile isBareKeyPart)

/-- The parts of a key between points, with blanks around them. -/
def keyParts (bound : Nat) (text : Text) : Option (List String × Text) :=
  match bound with
  | 0 => none
  | bound + 1 => do
    let (name, rest) ← keyPart (dropBlanks text)
    match dropBlanks rest with
    | '.' :: rest =>
      let (names, rest) ← keyParts bound rest
      some (name :: names, rest)
    | rest => some ([name], rest)

/-- A key, whose parts lead through tables. -/
def key? (text : Text) : Option (List String × Text) :=
  keyParts (text.length + 1) text

end ProviderRouting.Toml
