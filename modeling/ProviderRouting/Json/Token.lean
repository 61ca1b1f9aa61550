import ProviderRouting.Decimal

/-!
# Tokens of JSON text

The scanner walks the text once, one character at a time, with the unfinished token as its
state.  A string with a lone surrogate and a number too large for a double are tokens all the
same: they only fail when their value is asked for.
-/

namespace ProviderRouting.Json

inductive Token where
  | openList
  | closeList
  | openFields
  | closeFields
  | colon
  | comma
  | null
  | bool (value : Bool)
  | int (value : Int)
  | float (value : Float)
  /-- A number outside the range of doubles. -/
  | hugeNumber
  | text (value : String)
  /-- A string that holds a lone surrogate. -/
  | brokenText

/-- The power of ten as a double, exact or correctly rounded. -/
def powerOfTen (exponent : Nat) : Float :=
  Float.ofScientific 1 false exponent

/-- Scale by a power of ten with at most two roundings; none when the result is too large. -/
def scale (significand : Float) (exponent : Int) : Option Float :=
  if exponent.natAbs ≤ 308 then
    if 0 ≤ exponent then
      let value := significand * powerOfTen exponent.natAbs
      if value.isInf then none else some value
    else
      some (significand / powerOfTen exponent.natAbs)
  else if significand == 0.0 then some significand
  else if 0 ≤ exponent then none
  else
    let reduced := significand / powerOfTen 308
    let rest := exponent + 308
    some (if rest.natAbs ≤ 308 then reduced / powerOfTen rest.natAbs else 0.0)

/-- Digits gathered into 64 bits: the significand and how many digits no longer fit. -/
def gather (significand : Nat) : List Char → Nat × Nat
  | [] => (significand, 0)
  | digit :: rest =>
    let next := 10 * significand + (digit.toNat - 48)
    if 18446744073709551615 < next then (significand, rest.length + 1) else gather next rest

/-- The exponent of a number, kept near the range where it matters. -/
def boundedExponent (negative : Bool) (digits : List Char) : Int :=
  let value : Int := min (Decimal.digitsValue digits) 1000000
  if negative then -value else value

/-- A number without fraction and exponent, as an integer of 64 bits when it is one. -/
def wholeToken (negative : Bool) (digits : List Char) : Token :=
  let value := Decimal.digitsValue digits
  if negative ∧ 0 < value ∧ value ≤ 9223372036854775808 then .int (-value)
  else if ¬ negative ∧ value ≤ 18446744073709551615 then .int value
  else
    let (significand, dropped) := gather 0 digits
    match scale significand.toUInt64.toFloat dropped with
    | none => .hugeNumber
    | some magnitude => .float (if negative then -magnitude else magnitude)

/-- A number with a fraction or an exponent. -/
def floatToken (negative : Bool) (whole places : List Char) (exponent : Int) : Token :=
  let (lead, droppedWhole) := gather 0 whole
  let (significand, droppedPlaces) := gather lead places
  let point : Int := droppedWhole + droppedPlaces - places.length
  match scale significand.toUInt64.toFloat (point + exponent) with
  | none => .hugeNumber
  | some magnitude => .float (if negative then -magnitude else magnitude)

/-- The token of a number whose digits are read, with an exponent if something is left. -/
def exponentToken? (negative : Bool) (whole places rest : List Char) : Option Token :=
  match rest with
  | [] => some (floatToken negative whole places 0)
  | _ :: power =>
    let (negativePower, digits) := Decimal.splitSign power
    match Decimal.readExponent rest with
    | none => none
    | some _ => some (floatToken negative whole places (boundedExponent negativePower digits))

/-- The token of a number without its sign: digits without a leading zero, an optional fraction,
an optional exponent. -/
def unsignedToken? (negative : Bool) (body : List Char) : Option Token :=
  let (whole, afterWhole) := Decimal.spanDigits body
  if whole.isEmpty ∨ (whole.head? = some '0' ∧ whole.length ≠ 1) then
    none
  else
    match afterWhole with
    | [] => some (wholeToken negative whole)
    | '.' :: rest =>
      let (places, afterPlaces) := Decimal.spanDigits rest
      if places.isEmpty then none else exponentToken? negative whole places afterPlaces
    | rest => exponentToken? negative whole [] rest

/-- The token of a number, which may begin with a minus. -/
def numberToken? : List Char → Option Token
  | '-' :: body => unsignedToken? true body
  | body => unsignedToken? false body

def wordToken? (word : List Char) : Option Token :=
  match String.ofList word with
  | "null" => some .null
  | "true" => some (.bool true)
  | "false" => some (.bool false)
  | _ => none

def punctuation? : Char → Option Token
  | '[' => some .openList
  | ']' => some .closeList
  | '\x7b' => some .openFields
  | '\x7d' => some .closeFields
  | ':' => some .colon
  | ',' => some .comma
  | _ => none

def isBlank (character : Char) : Bool :=
  character = ' ' || character = '\n' || character = '\r' || character = '\t'

def isNumberPart (character : Char) : Bool :=
  character.isDigit || character = '-' || character = '+' || character = '.' ||
    character = 'e' || character = 'E'

def hexValue? (character : Char) : Option Nat :=
  if character.isDigit then some (character.toNat - 48)
  else if 'a' ≤ character ∧ character ≤ 'f' then some (character.toNat - 87)
  else if 'A' ≤ character ∧ character ≤ 'F' then some (character.toNat - 55)
  else none

/-- What a one-letter escape stands for. -/
def escape? : Char → Option Char
  | '"' => some '"'
  | '\\' => some '\\'
  | '/' => some '/'
  | 'b' => some '\x08'
  | 'f' => some '\x0c'
  | 'n' => some '\n'
  | 'r' => some '\r'
  | 't' => some '\t'
  | _ => none

/-- A string read so far: its characters in reverse, a first surrogate that waits for its
second, and whether a surrogate stayed alone. -/
structure Partial where
  characters : List Char := []
  waiting : Option Nat := none
  broken : Bool := false

namespace Partial

/-- Nothing may follow a first surrogate but its second. -/
def settle (part : Partial) : Partial :=
  { part with waiting := none, broken := part.broken || part.waiting.isSome }

def push (part : Partial) (character : Char) : Partial :=
  let settled := part.settle
  { settled with characters := character :: settled.characters }

/-- One escaped code unit of UTF-16. -/
def pushUnit (part : Partial) (unit : Nat) : Partial :=
  if 0xDC00 ≤ unit ∧ unit ≤ 0xDFFF then
    match part.waiting with
    | some first =>
      let code := 0x10000 + (first - 0xD800) * 0x400 + (unit - 0xDC00)
      { part with characters := .ofNat code :: part.characters, waiting := none }
    | none => { part with broken := true }
  else if 0xD800 ≤ unit ∧ unit ≤ 0xDBFF then
    { part.settle with waiting := some unit }
  else
    part.push (.ofNat unit)

def token (part : Partial) : Token :=
  let settled := part.settle
  if settled.broken then .brokenText else .text (.ofList settled.characters.reverse)

end Partial

/-- The unfinished token. -/
inductive State where
  | between
  | number (reversed : List Char)
  | word (reversed : List Char)
  | string (part : Partial)
  | escape (part : Partial)
  | unit (part : Partial) (value : Nat) (missing : Nat)

/-- Begin a token. -/
def start (character : Char) : Option (List Token × State) :=
  match punctuation? character with
  | some token => some ([token], .between)
  | none =>
    if isBlank character then some ([], .between)
    else if character = '"' then some ([], .string {})
    else if character = '-' || character.isDigit then some ([], .number [character])
    else if character.isLower then some ([], .word [character])
    else none

/-- The tokens that a character finishes, and the state after it. -/
def step (state : State) (character : Char) : Option (List Token × State) :=
  match state with
  | .between => start character
  | .number reversed =>
    if isNumberPart character then some ([], .number (character :: reversed))
    else do
      let token ← numberToken? reversed.reverse
      let (tokens, next) ← start character
      some (token :: tokens, next)
  | .word reversed =>
    if character.isLower then some ([], .word (character :: reversed))
    else do
      let token ← wordToken? reversed.reverse
      let (tokens, next) ← start character
      some (token :: tokens, next)
  | .string part =>
    if character = '"' then some ([part.token], .between)
    else if character = '\\' then some ([], .escape part)
    else if character.toNat < 32 then none
    else some ([], .string (part.push character))
  | .escape part =>
    if character = 'u' then some ([], .unit part 0 4)
    else (escape? character).map fun escaped => ([], .string (part.push escaped))
  | .unit part value missing =>
    (hexValue? character).map fun digit =>
      let value := 16 * value + digit
      if missing ≤ 1 then ([], .string (part.pushUnit value))
      else ([], .unit part value (missing - 1))

/-- The token that the end of the text finishes. -/
def finish : State → Option (List Token)
  | .between => some []
  | .number reversed => (numberToken? reversed.reverse).map ([·])
  | .word reversed => (wordToken? reversed.reverse).map ([·])
  | _ => none

def scanFrom (state : State) : List Char → Option (List Token)
  | [] => finish state
  | character :: rest => do
    let (tokens, next) ← step state character
    let later ← scanFrom next rest
    some (tokens ++ later)

/-- The tokens of a text. -/
def scan (text : String) : Option (List Token) :=
  scanFrom .between text.toList

end ProviderRouting.Json
