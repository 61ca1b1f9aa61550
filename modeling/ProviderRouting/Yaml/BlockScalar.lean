import ProviderRouting.Yaml.Spot

/-!
# Block scalars

A block scalar is a run of indented lines under a header.  In a literal one every line end is
kept; in a folded one a line end between two lines that begin with text stands for a blank.
The header says how many of the last line ends are kept and may give the indentation.
-/

namespace ProviderRouting.Yaml

/-- Which line ends after the text are kept. -/
inductive Chomping where
  | strip
  | clip
  | keep

structure BlockHeader where
  chomping : Chomping := .clip
  /-- How much deeper than its surroundings the text stands, if it is said. -/
  deeper : Option Nat := none

/-- A mark of the header after others. -/
def chompingOf? (character : Char) : Option Chomping :=
  if character = '+' then some .keep
  else if character = '-' then some .strip
  else none

/-- The digit of a header, which must not be zero. -/
def headerDigit (header : BlockHeader) (character : Char) : Option BlockHeader :=
  if character = '0' then none
  else some { header with deeper := some (character.toNat - 48) }

/-- The marks of a header in either order. -/
def headerMarks : Spots → Option (BlockHeader × Spots)
  | [] => some ({}, [])
  | first :: rest =>
    match chompingOf? first.character with
    | some chomping =>
      match rest with
      | [] => some ({ chomping }, [])
      | second :: after =>
        if second.character.isDigit then
          (headerDigit { chomping } second.character).map (·, after)
        else some ({ chomping }, rest)
    | none =>
      if first.character.isDigit then
        match headerDigit {} first.character with
        | none => none
        | some header =>
          match rest with
          | [] => some (header, [])
          | second :: after =>
            match chompingOf? second.character with
            | some chomping => some ({ header with chomping }, after)
            | none => some (header, rest)
      else some ({}, first :: rest)

/-- A header with an optional comment, up to and with the line end. -/
def header (spots : Spots) : Option (BlockHeader × Spots) := do
  let (found, rest) ← headerMarks spots
  let rest := dropSpots isBlank rest
  let rest := if startsWith '#' rest then dropSpots (!isBreak ·) rest else rest
  match rest with
  | [] => some (found, [])
  | spot :: rest => if isBreak spot.character then some (found, rest) else none

/-- A block scalar as far as it is read; texts are in reverse. -/
structure BlockText where
  literal : Bool
  /-- The indentation of the surroundings. -/
  outer : Int
  /-- The indentation of the text, once it is known. -/
  indent : Option Nat
  /-- The deepest indentation seen so far. -/
  deepest : Nat := 0
  text : List Char := []
  lead : Option Char := none
  trail : List Char := []
  /-- The last line of text began with a blank. -/
  blankStart : Bool := false

namespace BlockText

/-- The indentation stays open for this column. -/
def isIndenting (block : BlockText) (column : Nat) : Bool :=
  block.indent.all (column < ·)

/-- The indentation, with the first line of text at this column. -/
def settled (block : BlockText) (column : Nat) : Nat :=
  block.indent.getD (max (max block.deepest column) (max (block.outer + 1).toNat 1))

/-- Begin a line of text with this character. -/
def beginLine (block : BlockText) (indent : Nat) (character : Char) : BlockText :=
  let blank := isBlank character
  let folds := !block.literal && block.lead = some '\n' && !block.blankStart && !blank
  let gap :=
    if folds then if block.trail.isEmpty then [' '] else block.trail
    else block.trail ++ block.lead.toList
  { block with
    indent := some indent
    text := character :: (gap ++ block.text)
    lead := none
    trail := []
    blankStart := blank }

def finished (block : BlockText) (chomping : Chomping) : String :=
  let ending := match chomping with
    | .strip => []
    | .clip => block.lead.toList
    | .keep => block.trail ++ block.lead.toList
  .ofList (ending ++ block.text).reverse

end BlockText

/-- The lines of a block scalar; `inLine` is set inside a line of text. -/
def blockLines (block : BlockText) (inLine : Bool) : Spots → Option (BlockText × Spots)
  | [] => some (block, [])
  | spot :: rest =>
    if inLine then
      if isBreak spot.character then
        blockLines { block with lead := some spot.character } false rest
      else blockLines { block with text := spot.character :: block.text } true rest
    else if block.isIndenting spot.column && spot.character = ' ' then
      blockLines { block with deepest := max block.deepest (spot.column + 1) } false rest
    else if block.isIndenting spot.column && spot.character = '\t' then none
    else if isBreak spot.character then
      blockLines { block with trail := spot.character :: block.trail } false rest
    else if spot.column = block.settled spot.column then
      blockLines (block.beginLine spot.column spot.character) true rest
    else some (block, spot :: rest)

/-- A block scalar whose first mark has been read. -/
def blockScalar (literal : Bool) (outer : Int) (spots : Spots) : Option (String × Spots) := do
  let (header, rest) ← header spots
  let indent := header.deeper.map fun deeper => (max outer 0).toNat + deeper
  let (block, rest) ← blockLines { literal, outer, indent } false rest
  some (block.finished header.chomping, rest)

end ProviderRouting.Yaml
