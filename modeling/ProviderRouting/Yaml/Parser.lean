import ProviderRouting.Yaml.Layout
import ProviderRouting.Yaml.Tags

/-!
# Reading YAML

The parser walks the tokens of one document.  An alias stands for the last part before it that
has its anchor; inside that part itself it cannot be read.  Scalars without quotes stay plain,
because their type is for the reader of the document to decide.
-/

namespace ProviderRouting.Yaml

/-- The tokens that are left, and the anchored parts so far, the last one first. -/
structure Reading where
  tokens : List Token
  handles : Handles
  /-- Anchors with the numbers of their parts. -/
  anchors : List (String × Nat) := []
  /-- The finished parts by number. -/
  parts : List (Nat × Document) := []

/-- A step of reading, which may fail. -/
abbrev Read := StateT Reading Option

namespace Read

def peek : Read (Option Token) := do
  return (← get).tokens.head?

def skip : Read Unit :=
  modify fun reading => { reading with tokens := reading.tokens.drop 1 }

/-- Skip a token that must come next. -/
def expect (token : Token) : Read Unit := do
  if (← peek) = some token then skip else failure

/-- Skip a token if it comes next. -/
def accept (token : Token) : Read Bool := do
  if (← peek) = some token then
    skip
    return true
  else
    return false

/-- One of the tokens comes next. -/
def isAt (tokens : List Token) : Read Bool := do
  return (← peek).any tokens.contains

/-- What an alias stands for. -/
def resolveAlias (name : String) : Read Document := do
  let reading ← get
  match reading.anchors.lookup name with
  | none => failure
  | some number => return (reading.parts.lookup number).getD .unreadable

/-- Begin the part of an anchor. -/
def beginPart (name : String) : Read Nat := do
  let reading ← get
  let number := reading.anchors.length
  set { reading with anchors := (name, number) :: reading.anchors }
  return number

/-- Finish the part that was begun under a number. -/
def endPart (number : Option Nat) (document : Document) : Read Document := do
  match number with
  | none => return document
  | some number =>
    modify fun reading => { reading with parts := (number, document) :: reading.parts }
    return document

/-- The full text of a tag. -/
def fullTag (handle suffix : String) : Read String := do
  match resolveTag (← get).handles handle suffix with
  | some tag => return tag
  | none => failure

/-- An anchor and a tag, in either order. -/
def properties : Read (Option Nat × Option String) := do
  match ← peek with
  | some (.anchor name) =>
    skip
    match ← peek with
    | some (.tag handle suffix) =>
      skip
      let tag ← fullTag handle suffix
      return (some (← beginPart name), some tag)
    | _ => return (some (← beginPart name), none)
  | some (.tag handle suffix) =>
    skip
    match ← peek with
    | some (.anchor name) =>
      skip
      let tag ← fullTag handle suffix
      return (some (← beginPart name), some tag)
    | _ => return (none, some (← fullTag handle suffix))
  | _ => return (none, none)

end Read

/-- A member before its name is known to be a scalar. -/
abbrev Entry := Document × Document

/-- The text of a scalar. -/
def scalarText? : Document → Option String
  | .text text => some text
  | .plain literal => some literal
  | _ => none

/-- A mapping.  It cannot be read if one of its names is not a scalar. -/
def mappingOf (entries : List Entry) : Document :=
  match entries.mapM fun (name, document) => (scalarText? name).map (·, document) with
  | some members => .fields members
  | none => .unreadable

/-- The value that is left out. -/
def absent : Document := .plain ""

open Read

mutual

/-- One part of a document.  `block` admits blocks, and `bare` also a list that is not indented
deeper than the key before it. -/
def node (bound : Nat) (block bare : Bool) : Read Document :=
  match bound with
  | 0 => failure
  | bound + 1 => do
    match ← peek with
    | some (.reference name) =>
      skip
      resolveAlias name
    | _ =>
      let (number, tag) ← properties
      endPart number (← content bound block bare tag (number.isSome || tag.isSome))

/-- A part after its properties. -/
def content (bound : Nat) (block bare : Bool) (tag : Option String) (marked : Bool) :
    Read Document :=
  match bound with
  | 0 => failure
  | bound + 1 => do
    match ← peek with
    | some (.scalar isPlain text) =>
      skip
      return scalarDocument tag isPlain text
    | some .openList =>
      skip
      return .list (← flowItems bound true)
    | some .openFields =>
      skip
      return mappingOf (← flowEntries bound true)
    | some .item =>
      if bare then return .list (← bareItems bound)
      else if marked then return scalarDocument tag true ""
      else failure
    | some .openBlockList =>
      if block then
        skip
        return .list (← blockItems bound)
      else if marked then return scalarDocument tag true ""
      else failure
    | some .openBlockFields =>
      if block then
        skip
        return mappingOf (← blockEntries bound)
      else if marked then return scalarDocument tag true ""
      else failure
    | _ => if marked then return scalarDocument tag true "" else failure

/-- A part, or nothing where one of these tokens comes next. -/
def nodeUnless (bound : Nat) (block bare : Bool) (ends : List Token) : Read Document :=
  match bound with
  | 0 => failure
  | bound + 1 => do
    if ← isAt ends then return absent else node bound block bare

def blockItems (bound : Nat) : Read (List Document) :=
  match bound with
  | 0 => failure
  | bound + 1 => do
    if ← accept .item then
      let first ← nodeUnless bound true false [.item, .closeBlock]
      return first :: (← blockItems bound)
    else
      expect .closeBlock
      return []

def bareItems (bound : Nat) : Read (List Document) :=
  match bound with
  | 0 => failure
  | bound + 1 => do
    if ← accept .item then
      let first ← nodeUnless bound true false [.item, .key, .value, .closeBlock]
      return first :: (← bareItems bound)
    else
      return []

def blockEntries (bound : Nat) : Read (List Entry) :=
  match bound with
  | 0 => failure
  | bound + 1 => do
    if ← accept .key then
      let name ← nodeUnless bound true true [.key, .value, .closeBlock]
      let document ←
        if ← accept .value then nodeUnless bound true true [.key, .value, .closeBlock]
        else pure absent
      return (name, document) :: (← blockEntries bound)
    else
      expect .closeBlock
      return []

/-- The items up to a closing bracket; a comma stands before all but the first. -/
def flowItems (bound : Nat) (isFirst : Bool) : Read (List Document) :=
  match bound with
  | 0 => failure
  | bound + 1 => do
    if ← accept .closeList then return []
    else
      if !isFirst then expect .comma
      if ← accept .key then
        let pair ← flowPair bound
        return mappingOf [pair] :: (← flowItems bound false)
      else if ← accept .closeList then return []
      else
        let first ← node bound false false
        return first :: (← flowItems bound false)

/-- A single member that is written as an item. -/
def flowPair (bound : Nat) : Read Entry :=
  match bound with
  | 0 => failure
  | bound + 1 => do
    if ← isAt [.value, .comma, .closeList] then
      skip
      return (absent, ← flowPairValue bound)
    else
      let name ← node bound false false
      return (name, ← flowPairValue bound)

def flowPairValue (bound : Nat) : Read Document :=
  match bound with
  | 0 => failure
  | bound + 1 => do
    if ← accept .value then nodeUnless bound false false [.comma, .closeList]
    else return absent

/-- The members up to a closing brace; a comma stands before all but the first. -/
def flowEntries (bound : Nat) (isFirst : Bool) : Read (List Entry) :=
  match bound with
  | 0 => failure
  | bound + 1 => do
    if ← accept .closeFields then return []
    else
      if !isFirst then expect .comma
      if ← accept .key then
        let name ← nodeUnless bound false false [.value, .comma, .closeFields]
        let document ←
          if ← accept .value then nodeUnless bound false false [.comma, .closeFields]
          else pure absent
        return (name, document) :: (← flowEntries bound false)
      else if ← accept .closeFields then return []
      else
        let name ← node bound false false
        return (name, absent) :: (← flowEntries bound false)

end

/-- How often parts can begin or go on, given the number of tokens. -/
def readingBound (tokens : List Token) : Nat :=
  4 * tokens.length + 8

/-- The end of a document: perhaps a line that ends it, and nothing else. -/
def endsDocument (tokens : List Token) : Bool :=
  tokens.all (· = .documentEnd)

/-- The document that begins with these tokens. -/
def documentOf (handles : Handles) (tokens : List Token) : Option Document := do
  let (document, reading) ← node (readingBound tokens) true false { tokens, handles }
  if endsDocument reading.tokens then some document else none

/-- The document of the tokens that follow the directives and the line that begins it. -/
def explicitDocument (handles : Handles) (tokens : List Token) : Option Document :=
  match tokens with
  | [] | .documentEnd :: _ => if endsDocument tokens then some absent else none
  | _ => documentOf handles tokens

/-- The only document of a text; an empty text holds an empty scalar. -/
def parse? (text : String) : Option Document := do
  match ← tokens? text with
  | [] => some absent
  | tokens =>
    let (directives, rest) ← readDirectives {} tokens
    let handles := directives.handles ++ commonHandles
    match rest with
    | .documentStart :: rest => explicitDocument handles rest
    | _ => if rest.length = tokens.length then documentOf handles tokens else none

end ProviderRouting.Yaml
