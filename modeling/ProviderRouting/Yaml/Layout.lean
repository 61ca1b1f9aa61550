import ProviderRouting.Yaml.BlockScalar
import ProviderRouting.Yaml.Plain
import ProviderRouting.Yaml.Token

/-!
# Layout

Indentation opens and closes blocks, and a colon makes the scalar or collection before it a key.
The scanner therefore remembers where a key may have begun and puts the tokens of the key in
there when the colon comes.  Such a key lies on one line and has at most 1024 characters.
-/

namespace ProviderRouting.Yaml

/-- Where a key may have begun. -/
structure KeyStart where
  /-- How many tokens come before it. -/
  number : Nat
  line : Nat
  column : Nat
  /-- At this place nothing but a key may stand. -/
  required : Bool

structure Layout where
  /-- The column of the innermost block, and of the blocks around it. -/
  indent : Int := -1
  outer : List Int := []
  /-- A key may begin here. -/
  keyAllowed : Bool := true
  /-- The possible key outside all brackets, or inside the innermost ones. -/
  start : Option KeyStart := none
  /-- The same for what is around each open bracket. -/
  starts : List (Option KeyStart) := []
  /-- All tokens so far, the last one first, and their number. -/
  tokens : List Token := []
  count : Nat := 0

namespace Layout

/-- Brackets are open. -/
def inFlow (layout : Layout) : Bool :=
  !layout.starts.isEmpty

def emit (layout : Layout) (token : Token) : Layout :=
  { layout with tokens := token :: layout.tokens, count := layout.count + 1 }

/-- Put a token behind the first `number` tokens. -/
def emitAt (layout : Layout) (number : Nat) (token : Token) : Layout :=
  let (newer, older) := layout.tokens.splitAt (layout.count - number)
  { layout with tokens := newer ++ token :: older, count := layout.count + 1 }

/-- Give up the possible key, unless it is required. -/
def dropStart (layout : Layout) : Option Layout :=
  if layout.start.any KeyStart.required then none else some { layout with start := none }

/-- A key that began at this place can still be one. -/
def KeyStart.isFresh (start : KeyStart) (line column : Nat) : Bool :=
  start.line == line && decide (column ≤ start.column + 1024)

/-- Forget a possible key that lies too far back; a required one is missing then. -/
def freshen? (line column : Nat) (start : Option KeyStart) : Option (Option KeyStart) :=
  match start with
  | none => some none
  | some start =>
    if KeyStart.isFresh start line column then some (some start)
    else if start.required then none
    else some none

/-- Forget all possible keys that lie too far back. -/
def freshen (layout : Layout) (line column : Nat) : Option Layout := do
  some { layout with
    start := ← freshen? line column layout.start
    starts := ← layout.starts.mapM (freshen? line column) }

/-- A key may begin at this place. -/
def markStart (layout : Layout) (spot : Spot) : Option Layout :=
  if layout.keyAllowed then do
    let layout ← layout.dropStart
    some { layout with
      start := some {
        number := layout.count
        line := spot.line
        column := spot.column
        required := !layout.inFlow && decide (layout.indent = spot.column) } }
  else
    some layout

/-- Open a block at a column that is deeper than the innermost one. -/
def openBlock (layout : Layout) (column number : Nat) (token : Token) : Layout :=
  if !layout.inFlow && decide (layout.indent < column) then
    { layout with indent := column, outer := layout.indent :: layout.outer }.emitAt number token
  else layout

/-- Close the blocks that are deeper than a column. -/
def closeBlocks (column : Int) (layout : Layout) : List Int → Layout
  | [] => layout
  | around :: rest =>
    if column < layout.indent then
      closeBlocks column ({ layout with indent := around, outer := rest }.emit .closeBlock) rest
    else layout

/-- Close the blocks that are deeper than a column, outside brackets. -/
def closeTo (layout : Layout) (column : Int) : Layout :=
  if layout.inFlow then layout else closeBlocks column layout layout.outer

/-- Close all blocks at the end of a document. -/
def closeAll (layout : Layout) : Option Layout := do
  let layout ← (layout.closeTo (-1)).dropStart
  some { layout with keyAllowed := false }

/-- Open brackets. -/
def openFlow (layout : Layout) (spot : Spot) (token : Token) : Option Layout := do
  let layout ← layout.markStart spot
  some ({ layout with
    start := none, starts := layout.start :: layout.starts, keyAllowed := true }.emit token)

/-- Close brackets. -/
def closeFlow (layout : Layout) (token : Token) : Option Layout := do
  let layout ← layout.dropStart
  let (start, starts) := match layout.starts with
    | [] => (none, [])
    | around :: rest => (around, rest)
  some ({ layout with start, starts, keyAllowed := false }.emit token)

def comma (layout : Layout) : Option Layout := do
  let layout ← layout.dropStart
  some ({ layout with keyAllowed := true }.emit .comma)

/-- The hyphen of an item opens a list block where none is open at its column. -/
def item (layout : Layout) (spot : Spot) : Option Layout :=
  if !layout.inFlow && !layout.keyAllowed then none
  else do
    let layout ← (layout.openBlock spot.column layout.count .openBlockList).dropStart
    some ({ layout with keyAllowed := true }.emit .item)

/-- The question mark of a key. -/
def key (layout : Layout) (spot : Spot) : Option Layout :=
  if !layout.inFlow && !layout.keyAllowed then none
  else do
    let layout ← (layout.openBlock spot.column layout.count .openBlockFields).dropStart
    some ({ layout with keyAllowed := !layout.inFlow }.emit .key)

/-- The colon of a value: what has begun at a possible key is one. -/
def value (layout : Layout) (spot : Spot) : Option Layout :=
  match layout.start with
  | some start =>
    let keyed := (layout.emitAt start.number .key).openBlock start.column start.number
      .openBlockFields
    some ({ keyed with start := none, keyAllowed := false }.emit .value)
  | none =>
    if !layout.inFlow && !layout.keyAllowed then none
    else
      let opened := layout.openBlock spot.column layout.count .openBlockFields
      some ({ opened with keyAllowed := !opened.inFlow }.emit .value)

/-- Pass over blanks, comments and line ends.  A tab may not stand where a block could begin. -/
def toNext (layout : Layout) (inComment : Bool) : Spots → Layout × Spots
  | [] => (layout, [])
  | spot :: rest =>
    if isBreak spot.character then
      toNext { layout with keyAllowed := layout.keyAllowed || !layout.inFlow } false rest
    else if inComment then toNext layout true rest
    else if spot.character = ' ' ||
        (spot.character = '\t' && (layout.inFlow || !layout.keyAllowed)) then
      toNext layout false rest
    else if spot.character = '#' then toNext layout true rest
    else (layout, spot :: rest)

/-- Characters that do not begin a plain scalar. -/
def marks : List Char :=
  ['-', '?', ':', ',', '[', ']', '\x7b', '\x7d', '#', '&', '*', '!', '|', '>', '\'', '"', '%',
    '@', '\x60', '\t']

/-- A plain scalar begins here. -/
def beginsPlain (layout : Layout) (spot : Spot) (rest : Spots) : Bool :=
  !marks.contains spot.character ||
    (spot.character = '-' && !rest.head?.any fun next => isBlank next.character) ||
    (!layout.inFlow && (spot.character = '?' || spot.character = ':') && !atGap rest)

/-- Add a scalar that could be a key. -/
def scalar (layout : Layout) (spot : Spot) (read : Layout → Option (Token × Spots)) :
    Option (Layout × Spots) := do
  let layout ← layout.markStart spot
  let (token, rest) ← read layout
  some ({ layout with keyAllowed := false }.emit token, rest)

/-- Add a plain scalar; after a line end a key may begin. -/
def plainScalar (layout : Layout) (spot : Spot) (rest : Spots) : Option (Layout × Spots) := do
  let layout ← layout.markStart spot
  let (folded, rest) ← plain layout.inFlow (layout.indent + 1) {} (spot :: rest)
  some ({ layout with keyAllowed := folded.broken }.emit (.scalar true folded.finished), rest)

/-- Add a block scalar. -/
def block (layout : Layout) (literal : Bool) (rest : Spots) : Option (Layout × Spots) := do
  let layout ← layout.dropStart
  let (text, rest) ← blockScalar literal layout.indent rest
  some ({ layout with keyAllowed := true }.emit (.scalar false text), rest)

/-- Take the token that begins with a character. -/
def take (layout : Layout) (spot : Spot) (rest : Spots) : Option (Layout × Spots) :=
  let character := spot.character
  let markGap := layout.inFlow || atGap rest
  if spot.column = 0 ∧ character = '%' then do
    let layout ← layout.closeAll
    let (token, rest) ← directive rest
    some (layout.emit token, rest)
  else if atMarker (spot :: rest) then do
    let layout ← layout.closeAll
    some (layout.emit (if character = '-' then .documentStart else .documentEnd), rest.drop 2)
  else if character = '[' then (layout.openFlow spot .openList).map (·, rest)
  else if character = '\x7b' then (layout.openFlow spot .openFields).map (·, rest)
  else if character = ']' then (layout.closeFlow .closeList).map (·, rest)
  else if character = '\x7d' then (layout.closeFlow .closeFields).map (·, rest)
  else if character = ',' then layout.comma.map (·, rest)
  else if character = '-' ∧ atGap rest then (layout.item spot).map (·, rest)
  else if character = '?' ∧ markGap then (layout.key spot).map (·, rest)
  else if character = ':' ∧ markGap then (layout.value spot).map (·, rest)
  else if character = '*' then
    layout.scalar spot fun _ => (anchorName rest).map fun (name, rest) => (.reference name, rest)
  else if character = '&' then
    layout.scalar spot fun _ => (anchorName rest).map fun (name, rest) => (.anchor name, rest)
  else if character = '!' then
    layout.scalar spot fun layout => tagToken layout.inFlow (spot :: rest)
  else if character = '|' ∧ !layout.inFlow then layout.block true rest
  else if character = '>' ∧ !layout.inFlow then layout.block false rest
  else if character = '\'' then
    layout.scalar spot fun _ =>
      (singleQuoted {} false rest).map fun (text, rest) => (.scalar false text, rest)
  else if character = '"' then
    layout.scalar spot fun _ =>
      (doubleQuoted {} .none rest).map fun (text, rest) => (.scalar false text, rest)
  else if layout.beginsPlain spot rest then layout.plainScalar spot rest
  else none

/-- Take tokens up to the end of the text; every token takes at least one character, so that the
bound is never reached when it is the number of characters. -/
def takeAll (layout : Layout) (spots : Spots) : Nat → Option Layout
  | 0 => none
  | bound + 1 =>
    let (layout, spots) := layout.toNext false spots
    match spots with
    | [] => layout.closeAll
    | spot :: rest => do
      let layout ← layout.freshen spot.line spot.column
      let (layout, rest) ← (layout.closeTo spot.column).take spot rest
      layout.takeAll rest bound

end Layout

/-- The tokens of a text. -/
def tokens? (text : String) : Option (List Token) := do
  let spots ← spots? text
  let layout ← Layout.takeAll {} spots (spots.length + 1)
  some layout.tokens.reverse

end ProviderRouting.Yaml
