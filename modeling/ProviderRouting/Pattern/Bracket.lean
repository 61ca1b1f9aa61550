import ProviderRouting.Pattern.Escape

/-!
# Bracketed character classes

A class in brackets lists characters, ranges and other classes, and may combine them by
intersection, difference and symmetric difference, from left to right.
-/

namespace ProviderRouting.Pattern

/-- The operations between the sets in a bracket. -/
inductive SetOperation where
  | intersection
  | difference
  | symmetricDifference

def SetOperation.apply : SetOperation → CharSet → CharSet → CharSet
  | .intersection, left, right => .both left right
  | .difference, left, right => .minus left right
  | .symmetricDifference, left, right => .differing left right

/-- A bracket that is still open: the sets listed since the last operation, and the left side
of that operation. -/
structure OpenBracket where
  negated : Bool
  items : CharSet := .nothing
  pending : Option (SetOperation × CharSet) := none

namespace OpenBracket

def add (bracket : OpenBracket) (set : CharSet) : OpenBracket :=
  { bracket with items := .either bracket.items set }

/-- The set listed so far. -/
def current (bracket : OpenBracket) (flags : Flags) : CharSet :=
  match bracket.pending with
  | none => bracket.items
  | some (operation, left) =>
    operation.apply (foldCase flags left) (foldCase flags bracket.items)

def operate (bracket : OpenBracket) (flags : Flags) (operation : SetOperation) : OpenBracket :=
  { bracket with items := .nothing, pending := some (operation, bracket.current flags) }

/-- The set of a bracket that is closed.  Outside Unicode a complement is not text any more. -/
def close? (bracket : OpenBracket) (flags : Flags) : Option CharSet :=
  let set := foldCase flags (bracket.current flags)
  if !bracket.negated then some set
  else if flags.unicode then some (.complement set)
  else none

end OpenBracket

/-- One character or class inside brackets. -/
def bracketPrimitive (flags : Flags) : List Char → Option (Primitive × List Char)
  | [] => none
  | '\\' :: rest => escaped? flags rest
  | character :: rest => some (.literal character.toNat false, rest)

/-- A character that may be listed: outside Unicode only ASCII. -/
def listable (flags : Flags) (code : Nat) : Bool :=
  flags.unicode || code < 0x80

/-- A listed set: a class, a character or a range. -/
def bracketItem (flags : Flags) (text : List Char) : Option (CharSet × List Char) := do
  let (first, rest) ← bracketPrimitive flags text
  let rest := skipBlanks flags rest
  let single : Option (CharSet × List Char) :=
    match first with
    | .literal code _ => if listable flags code then some (.single code, rest) else none
    | .set set => some (set, rest)
    | .anchor _ => none
  match rest with
  | '-' :: later =>
    match skipBlanks flags later with
    | [] => none
    | ']' :: _ => single
    | '-' :: _ => single
    | bound =>
      let (last, rest) ← bracketPrimitive flags bound
      match first, last with
      | .literal low _, .literal high _ =>
        if low ≤ high && listable flags low && listable flags high then
          some (.within [(low, high)], rest)
        else none
      | _, _ => none
  | _ => single

/-- A named ASCII class between colons, if there is one. -/
def asciiClass? (text : List Char) : Option (CharSet × List Char) :=
  match text with
  | '[' :: ':' :: rest =>
    let (negated, body) := match rest with
      | '^' :: body => (true, body)
      | body => (false, body)
    match body.dropWhile (· != ':') with
    | ':' :: ']' :: later => do
      let set ← CharSet.ofAsciiName? (.ofList (body.takeWhile (· != ':')))
      some (if negated then .complement set else set, later)
    | _ => none
  | _ => none

/-- Hyphens at the beginning of a bracket stand for themselves. -/
def leadingHyphens (flags : Flags) (bracket : OpenBracket) : List Char → OpenBracket × List Char
  | '-' :: rest => leadingHyphens flags (bracket.add (.single 0x2D)) rest
  | ' ' :: rest => if flags.verbose then leadingHyphens flags bracket rest
    else (bracket, ' ' :: rest)
  | text => (bracket, text)

/-- Open a bracket, with the text after it. -/
def openBracket (flags : Flags) (text : List Char) : Option (OpenBracket × List Char) :=
  let text := skipBlanks flags text
  let (negated, text) := match text with
    | '^' :: rest => (true, skipBlanks flags rest)
    | _ => (false, text)
  let (bracket, rest) := leadingHyphens flags { negated } text
  match rest with
  | [] => none
  | ']' :: later =>
    if rest.length = text.length then some (bracket.add (.single 0x5D), skipBlanks flags later)
    else some (bracket, rest)
  | _ => some (bracket, rest)

/-- Read a bracket to its end, with the brackets around it. -/
def bracketFrom (flags : Flags) (around : List OpenBracket) (bracket : OpenBracket)
    (text : List Char) : Nat → Option (CharSet × List Char)
  | 0 => none
  | attempts + 1 =>
    let text := skipBlanks flags text
    match text with
    | [] => none
    | '[' :: rest =>
      match asciiClass? text with
      | some (set, later) =>
        bracketFrom flags around (bracket.add set) later attempts
      | none => do
        let (inner, later) ← openBracket flags rest
        bracketFrom flags (bracket :: around) inner later attempts
    | ']' :: rest => do
      let set ← bracket.close? flags
      match around with
      | [] => some (set, rest)
      | outer :: above => bracketFrom flags above (outer.add set) rest attempts
    | '&' :: '&' :: rest =>
      bracketFrom flags around (bracket.operate flags .intersection) rest attempts
    | '-' :: '-' :: rest =>
      bracketFrom flags around (bracket.operate flags .difference) rest attempts
    | '~' :: '~' :: rest =>
      bracketFrom flags around (bracket.operate flags .symmetricDifference) rest attempts
    | _ => do
      let (set, rest) ← bracketItem flags text
      bracketFrom flags around (bracket.add set) rest attempts

/-- The set in brackets whose opening one was just read, and the rest of the text. -/
def bracket? (flags : Flags) (text : List Char) : Option (CharSet × List Char) := do
  let (bracket, rest) ← openBracket flags text
  bracketFrom flags [] bracket rest (text.length + 1)

end ProviderRouting.Pattern
