import ProviderRouting.Pattern.CharSet

/-!
# Patterns

A pattern describes texts by the places between their characters: from each place it leads to
the places where a match that begins there may end.  A text matches when some part of it does.

Patterns only serve to name the series of a key.  What is said of series holds for every grouping of
keys, so nothing rests on which texts a pattern accepts or which patterns can be read.  The common
syntax is covered.  Scripts, such as `\p{Greek}`, are not known, and where a pattern is too large to
be accepted is reckoned from its written-out size.
-/

namespace ProviderRouting

/-- A condition on the place between two characters. -/
inductive Pattern.Anchor where
  | textStart
  | textEnd
  | lineStart (crlf : Bool)
  | lineEnd (crlf : Bool)
  | wordBoundary (word : Pattern.CharSet)
  | noWordBoundary (word : Pattern.CharSet)
  | wordStart (word : Pattern.CharSet)
  | wordEnd (word : Pattern.CharSet)
  | wordStartHalf (word : Pattern.CharSet)
  | wordEndHalf (word : Pattern.CharSet)

inductive Pattern where
  /-- Matches the empty text; it stands where a pattern only changes how it is read. -/
  | directive
  | empty
  | one (set : Pattern.CharSet)
  | anchor (anchor : Pattern.Anchor)
  | group (body : Pattern)
  | sequence (parts : List Pattern)
  | choice (branches : List Pattern)
  | repetition (body : Pattern) (least : Nat) (most : Option Nat)

namespace Pattern

/-- The code points before and after a place. -/
def around (text : Array Nat) (place : Nat) : Option Nat × Option Nat :=
  (if place = 0 then none else text[place - 1]?, text[place]?)

def isIn (set : CharSet) (code : Option Nat) : Bool :=
  code.any set.contains

def Anchor.holds (anchor : Anchor) (text : Array Nat) (place : Nat) : Bool :=
  let (before, after) := around text place
  match anchor with
  | .textStart => place == 0
  | .textEnd => place == text.size
  | .lineStart crlf =>
    before.all fun code =>
      code == 0xA || (crlf && code == 0xD && after != some 0xA)
  | .lineEnd crlf =>
    after.all fun code =>
      if crlf then code == 0xD || (code == 0xA && before != some 0xD) else code == 0xA
  | .wordBoundary word => isIn word before != isIn word after
  | .noWordBoundary word => isIn word before == isIn word after
  | .wordStart word => !isIn word before && isIn word after
  | .wordEnd word => isIn word before && !isIn word after
  | .wordStartHalf word => !isIn word before
  | .wordEndHalf word => !isIn word after

/-- The places of both lists, each once. -/
def merge (left right : List Nat) : List Nat :=
  right.foldl (fun places place => if places.contains place then places else places ++ [place])
    left

/-- What `count` steps lead to. -/
def exactly (step : List Nat → List Nat) : Nat → List Nat → List Nat
  | 0, places => places
  | count + 1, places => if places.isEmpty then [] else exactly step count (step places)

/-- What at most `count` steps lead to. -/
def atMost (step : List Nat → List Nat) : Nat → List Nat → List Nat
  | 0, places => places
  | count + 1, places =>
    let next := merge places (step places)
    if next.length = places.length then places else atMost step count next

mutual

/-- The places where matches end that begin at one of the given places. -/
def ends (text : Array Nat) : Pattern → List Nat → List Nat
  | .directive, places => places
  | .empty, places => places
  | .one set, places => places.filterMap fun place =>
    match text[place]? with
    | some code => if set.contains code then some (place + 1) else none
    | none => none
  | .anchor condition, places => places.filter (condition.holds text)
  | .group body, places => ends text body places
  | .sequence parts, places => endsOfSequence text parts places
  | .choice branches, places => endsOfChoice text branches places
  | .repetition body least most, places =>
    let required := exactly (ends text body) least places
    atMost (ends text body) (min ((most.getD (least + text.size + 1)) - least) (text.size + 1))
      required

def endsOfSequence (text : Array Nat) : List Pattern → List Nat → List Nat
  | [], places => places
  | part :: rest, places => endsOfSequence text rest (ends text part places)

def endsOfChoice (text : Array Nat) : List Pattern → List Nat → List Nat
  | [], _ => []
  | branch :: rest, places => merge (ends text branch places) (endsOfChoice text rest places)

end

/-- Some part of the text matches. -/
def isMatch (pattern : Pattern) (text : String) : Bool :=
  let codes := (text.toList.map Char.toNat).toArray
  !(ends codes pattern (List.range (codes.size + 1))).isEmpty

mutual

/-- The nesting of a pattern. -/
def depth : Pattern → Nat
  | .group body => depth body + 1
  | .sequence parts => depthOfAll parts + 1
  | .choice branches => depthOfAll branches + 1
  | .repetition body _ _ => depth body + 1
  | _ => 0

def depthOfAll : List Pattern → Nat
  | [] => 0
  | pattern :: rest => max (depth pattern) (depthOfAll rest)

end

mutual

/-- The number of parts once every repetition is written out. -/
def size : Pattern → Nat
  | .group body => size body
  | .sequence parts => sizeOfAll parts
  | .choice branches => sizeOfAll branches + 1
  | .repetition body least most => size body * max 1 (most.getD (least + 1)) + 1
  | _ => 1

def sizeOfAll : List Pattern → Nat
  | [] => 0
  | pattern :: rest => size pattern + sizeOfAll rest

end

end Pattern

end ProviderRouting
