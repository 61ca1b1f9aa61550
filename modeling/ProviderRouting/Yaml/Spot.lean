/-!
# Characters with their places

A YAML text is read as characters that know their line and column, since both decide what the
characters mean.  Line ends are brought to one form first, and a text with control characters is
refused.
-/

namespace ProviderRouting.Yaml

/-- A character, its line and its column, both counted from zero. -/
structure Spot where
  character : Char
  line : Nat
  column : Nat
deriving Inhabited

abbrev Spots := List Spot

/-- Characters that may stand in a text. -/
def isPrintable (character : Char) : Bool :=
  let code := character.toNat
  code = 0x9 || code = 0xA || code = 0xD || (0x20 ≤ code && code ≤ 0x7E) || code = 0x85 ||
    (0xA0 ≤ code && code ≤ 0xFFFD) || 0x10000 ≤ code

/-- Carriage returns, pairs of them with a line feed, and next-line characters become line
feeds. -/
def joinLineEnds : List Char → List Char
  | [] => []
  | '\r' :: '\n' :: rest => '\n' :: joinLineEnds rest
  | character :: rest =>
    (if character = '\r' ∨ character.toNat = 0x85 then '\n' else character) :: joinLineEnds rest

def isBreak (character : Char) : Bool :=
  character = '\n' || character.toNat = 0x2028 || character.toNat = 0x2029

def isBlank (character : Char) : Bool :=
  character = ' ' || character = '\t'

/-- Give characters their places, the first one the given place. -/
def place (line column : Nat) : List Char → Spots
  | [] => []
  | character :: rest =>
    ⟨character, line, column⟩ ::
      if isBreak character then place (line + 1) 0 rest else place line (column + 1) rest

/-- The characters of a text with their places.  A byte-order mark at the start is dropped. -/
def spots? (text : String) : Option Spots :=
  if text.toList.all isPrintable then
    let body := match text.toList with
      | '\ufeff' :: rest => rest
      | characters => characters
    some (place 0 0 (joinLineEnds body))
  else
    none

/-- The next character is this one. -/
def startsWith (character : Char) (spots : Spots) : Bool :=
  spots.head?.any (·.character == character)

/-- A blank, a line end or the end of the text comes next. -/
def atGap (spots : Spots) : Bool :=
  spots.head?.all fun spot => isBlank spot.character || isBreak spot.character

/-- The next three characters are all the given one, and a gap follows. -/
def atTriple (character : Char) : Spots → Bool
  | first :: second :: third :: rest =>
    first.character == character && second.character == character &&
      third.character == character && atGap rest
  | _ => false

/-- A line that begins or ends a document comes next. -/
def atMarker (spots : Spots) : Bool :=
  spots.head?.any (·.column == 0) && (atTriple '-' spots || atTriple '.' spots)

/-- The characters before the first that fails the condition, and the rest. -/
def spanSpots (condition : Char → Bool) (spots : Spots) : List Char × Spots :=
  ((spots.takeWhile fun spot => condition spot.character).map Spot.character,
    spots.dropWhile fun spot => condition spot.character)

def dropSpots (condition : Char → Bool) (spots : Spots) : Spots :=
  (spanSpots condition spots).2

/-- Letters, digits, hyphens and underscores of ASCII. -/
def isWordPart (character : Char) : Bool :=
  character.isAlphanum || character = '-' || character = '_'

end ProviderRouting.Yaml
