import ProviderRouting.Yaml.Quoted

/-!
# Tokens of YAML text

The marks and scalars that a text consists of, and the tokens that can be read without knowing
what surrounds them: anchors, aliases, tags and directives.
-/

namespace ProviderRouting.Yaml

inductive Token where
  | documentStart
  | documentEnd
  | version (major minor : Nat)
  /-- A handle stands for the beginning of tags. -/
  | tagHandle (handle beginning : String)
  | openBlockList
  | openBlockFields
  | closeBlock
  | openList
  | closeList
  | openFields
  | closeFields
  /-- The hyphen before an item of a list. -/
  | item
  | comma
  | key
  | value
  | anchor (name : String)
  | reference (name : String)
  | tag (handle suffix : String)
  | scalar (isPlain : Bool) (text : String)
deriving DecidableEq, Repr

/-- A mark that may follow the name of an anchor. -/
def followsAnchor (character : Char) : Bool :=
  ['?', ':', ',', ']', '\x7d', '%', '@', '\x60'].contains character

/-- The name of an anchor or alias. -/
def anchorName (spots : Spots) : Option (String × Spots) :=
  let (name, rest) := spanSpots isWordPart spots
  if name.isEmpty then none
  else if atGap rest || rest.head?.any fun spot => followsAnchor spot.character then
    some (.ofList name, rest)
  else none

/-- Characters of a tag besides letters and digits. -/
def tagMarks : List Char :=
  [';', '/', '?', ':', '@', '&', '=', '+', '$', '.', '!', '~', '*', '\'', '(', ')']

/-- Characters of a tag; the verbatim form also takes commas and brackets. -/
def isTagPart (verbatim : Bool) (character : Char) : Bool :=
  isWordPart character || tagMarks.contains character ||
    (verbatim && (character = ',' || character = '[' || character = ']'))

/-- How many bytes a character has that begins with this byte. -/
def byteWidth? (byte : Nat) : Option Nat :=
  if byte < 0x80 then some 1
  else if 0xC0 ≤ byte ∧ byte < 0xE0 then some 2
  else if 0xE0 ≤ byte ∧ byte < 0xF0 then some 3
  else if 0xF0 ≤ byte ∧ byte < 0xF8 then some 4
  else none

/-- Characters of a tag up to the first that is none; an escape is a percent sign and two digits
for each byte. -/
def tagPart (verbatim : Bool) (bytes : List UInt8) (missing : Nat) (found : List Char) :
    Spots → Option (List Char × Spots)
  | percent :: high :: low :: rest =>
    if percent.character = '%' then
      match hexDigit? high.character, hexDigit? low.character with
      | some high, some low =>
        let byte := 16 * high + low
        let width := if missing = 0 then byteWidth? byte else some missing
        match width with
        | none => none
        | some width =>
          let bytes := byte.toUInt8 :: bytes
          if width = 1 then
            match String.fromUTF8? ⟨bytes.reverse.toArray⟩ with
            | none => none
            | some text => tagPart verbatim [] 0 (text.toList.reverse ++ found) rest
          else tagPart verbatim bytes (width - 1) found rest
      | _, _ => none
    else if missing ≠ 0 then none
    else if isTagPart verbatim percent.character then
      tagPart verbatim [] 0 (percent.character :: found) (high :: low :: rest)
    else some (found.reverse, percent :: high :: low :: rest)
  | spot :: rest =>
    if missing ≠ 0 || spot.character = '%' then none
    else if isTagPart verbatim spot.character then
      tagPart verbatim [] 0 (spot.character :: found) rest
    else some (found.reverse, spot :: rest)
  | [] => if missing = 0 then some (found.reverse, []) else none

/-- A handle: an exclamation mark, a word, and perhaps a second mark. -/
def tagHandle (spots : Spots) : Option (String × Spots) :=
  match spots with
  | [] => none
  | mark :: rest =>
    if mark.character = '!' then
      let (word, after) := spanSpots isWordPart rest
      match after with
      | closing :: remaining =>
        if closing.character = '!' then some (.ofList ('!' :: word ++ ['!']), remaining)
        else some (.ofList ('!' :: word), after)
      | [] => some (.ofList ('!' :: word), [])
    else none

/-- A tag without its handle must be followed by a gap, or by a comma inside brackets. -/
def endTag (flow : Bool) (token : Token) (rest : Spots) : Option (Token × Spots) :=
  if atGap rest || (flow && startsWith ',' rest) then some (token, rest) else none

/-- A tag in one of its forms: verbatim, with a handle, or local. -/
def tagToken (flow : Bool) (spots : Spots) : Option (Token × Spots) :=
  match spots with
  | mark :: bracket :: rest =>
    if bracket.character = '<' then do
      let (suffix, rest) ← tagPart true [] 0 [] rest
      match rest with
      | closing :: rest =>
        if closing.character = '>' ∧ ¬ suffix.isEmpty then
          endTag flow (.tag "" (.ofList suffix)) rest
        else none
      | [] => none
    else do
      let (handle, rest) ← tagHandle (mark :: bracket :: rest)
      if 1 < handle.length ∧ handle.endsWith "!" then
        let (suffix, rest) ← tagPart false [] 0 [] rest
        if suffix.isEmpty then none
        else endTag flow (.tag handle (.ofList suffix)) rest
      else
        let (suffix, rest) ← tagPart false [] 0 (handle.toList.drop 1).reverse rest
        if suffix.isEmpty then endTag flow (.tag "" "!") rest
        else endTag flow (.tag "!" (.ofList suffix)) rest
  | _ => endTag flow (.tag "" "!") []

/-- A number of a version, of at most nine digits. -/
def versionNumber (spots : Spots) : Option (Nat × Spots) :=
  let (digits, rest) := spanSpots Char.isDigit spots
  if digits.isEmpty || 9 < digits.length then none
  else some (digits.foldl (fun total digit => 10 * total + (digit.toNat - 48)) 0, rest)

/-- The token of a directive by its name. -/
def directiveToken (name : String) (rest : Spots) : Option (Token × Spots) :=
  match name with
  | "YAML" => do
    let (major, rest) ← versionNumber (dropSpots isBlank rest)
    match rest with
    | point :: rest =>
      if point.character = '.' then
        let (minor, rest) ← versionNumber rest
        some (.version major minor, rest)
      else none
    | [] => none
  | "TAG" => do
    let (handle, rest) ← tagHandle (dropSpots isBlank rest)
    if handle ≠ "!" ∧ ¬ handle.endsWith "!" then none
    else if rest.head?.any fun spot => isBlank spot.character then
      let (beginning, rest) ← tagPart true [] 0 [] (dropSpots isBlank rest)
      if beginning.isEmpty || !atGap rest then none
      else some (.tagHandle handle (.ofList beginning), rest)
    else none
  | _ => none

/-- A directive, without the percent sign that begins it, up to and with its line end. -/
def directive (spots : Spots) : Option (Token × Spots) := do
  let (name, rest) := spanSpots isWordPart spots
  if name.isEmpty || !atGap rest then none
  else
    let (token, rest) ← directiveToken (.ofList name) rest
    let rest := dropSpots isBlank rest
    let rest := if startsWith '#' rest then dropSpots (!isBreak ·) rest else rest
    match rest with
    | [] => some (token, [])
    | spot :: rest => if isBreak spot.character then some (token, rest) else none

end ProviderRouting.Yaml
