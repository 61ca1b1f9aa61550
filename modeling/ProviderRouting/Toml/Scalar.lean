import ProviderRouting.Decimal
import ProviderRouting.Document
import ProviderRouting.Literal
import ProviderRouting.Toml.Text

/-!
# Scalars of TOML

Truth values, integers, floats and dates.  Digits may be parted by single underscores.  A date
is no value that anything here asks for, but it has to be a date.
-/

namespace ProviderRouting.Toml

/-- Digits with single underscores between them, without the underscores. -/
def joinDigits? (isDigit : Char → Bool) : Text → Option Text
  | [] => none
  | [digit] => if isDigit digit then some [digit] else none
  | digit :: '_' :: rest =>
    if isDigit digit then (joinDigits? isDigit rest).map (digit :: ·) else none
  | digit :: rest =>
    if isDigit digit then (joinDigits? isDigit rest).map (digit :: ·) else none

/-- An integer that a reader may ask for; others are well formed all the same. -/
def boundedInt (value : Int) : Document :=
  if -9223372036854775808 ≤ value ∧ value ≤ 18446744073709551615 then .int value
  else .unreadable

/-- A number with a marked base, which has no sign. -/
def markedInt? (base : Nat) (digits : Text) : Option Document := do
  let digits ← joinDigits? (fun digit => (Literal.digitValue? digit).any (· < base)) digits
  (Literal.natural? base digits).map fun value => boundedInt value

def hasLeadingZero (digits : Text) : Bool :=
  digits.head? = some '0' && 1 < digits.length

def decimalInt? (negative : Bool) (digits : Text) : Option Document := do
  let digits ← joinDigits? Char.isDigit digits
  if hasLeadingZero digits then none
  else
    let value : Int := Decimal.digitsValue digits
    some (boundedInt (if negative then -value else value))

/-- The exponent of a float, with its sign. -/
def exponent? (text : Text) : Option Int := do
  let (negative, digits) := Decimal.splitSign text
  let value : Int := Decimal.digitsValue (← joinDigits? Char.isDigit digits)
  some (if negative then -value else value)

def isExponentMark (character : Char) : Bool :=
  character = 'e' || character = 'E'

/-- A float: an integer with places, an exponent, or both. -/
def float? (negative : Bool) (text : Text) : Option Document := do
  let whole := text.takeWhile fun character => character ≠ '.' && !isExponentMark character
  let rest := text.drop whole.length
  let digits ← joinDigits? Char.isDigit whole
  let (places, power) ← match rest with
    | '.' :: rest => do
      let places := rest.takeWhile (!isExponentMark ·)
      some (← joinDigits? Char.isDigit places, rest.drop places.length)
    | rest => some ([], rest)
  let exponent ← match power with
    | [] => some 0
    | _ :: power => exponent? power
  if hasLeadingZero digits ∨ rest.isEmpty then none
  else
    let magnitude := Decimal.toFloat (Decimal.digitsValue (digits ++ places))
      (exponent - places.length)
    if magnitude.isInf then none
    else some (.float (if negative then -magnitude else magnitude))

def special? (negative : Bool) (text : Text) : Option Document :=
  match String.ofList text with
  | "inf" => some (.float (if negative then -1.0 / 0.0 else 1.0 / 0.0))
  | "nan" => some (.float (if negative then -(0.0 / 0.0) else 0.0 / 0.0))
  | _ => none

/-- A number of exactly so many digits. -/
def fixedDigits (count : Nat) (text : Text) : Option (Nat × Text) :=
  let digits := text.take count
  if digits.length = count ∧ digits.all Char.isDigit then
    some (Decimal.digitsValue digits, text.drop count)
  else none

/-- The rest after a character that must come next. -/
def expectCharacter (character : Char) : Text → Option Text
  | first :: rest => if first = character then some rest else none
  | [] => none

def isLeapYear (year : Nat) : Bool :=
  (year % 4 = 0 && year % 100 ≠ 0) || year % 400 = 0

def daysInMonth (year month : Nat) : Nat :=
  if month = 2 then if isLeapYear year then 29 else 28
  else if month = 4 ∨ month = 6 ∨ month = 9 ∨ month = 11 then 30
  else 31

/-- The rest after a date. -/
def date? (text : Text) : Option Text := do
  let (year, rest) ← fixedDigits 4 text
  let (month, rest) ← fixedDigits 2 (← expectCharacter '-' rest)
  let (day, rest) ← fixedDigits 2 (← expectCharacter '-' rest)
  if 1 ≤ month ∧ month ≤ 12 ∧ 1 ≤ day ∧ day ≤ daysInMonth year month then some rest else none

/-- The rest after a fraction of a second. -/
def secondFraction? : Text → Option Text
  | '.' :: rest =>
    if (rest.takeWhile Char.isDigit).isEmpty then none else some (rest.dropWhile Char.isDigit)
  | rest => some rest

/-- The rest after the seconds of a time, which may be left out. -/
def seconds? : Text → Option Text
  | ':' :: rest => do
    let (second, rest) ← fixedDigits 2 rest
    if second ≤ 60 then secondFraction? rest else none
  | rest => some rest

/-- The rest after a time of day. -/
def time? (text : Text) : Option Text := do
  let (hour, rest) ← fixedDigits 2 text
  let (minute, rest) ← fixedDigits 2 (← expectCharacter ':' rest)
  if hour < 24 ∧ minute < 60 then seconds? rest else none

/-- The rest after an offset from universal time. -/
def offset? : Text → Option Text
  | [] => some []
  | sign :: rest =>
    if sign = 'Z' ∨ sign = 'z' then some rest
    else if sign = '+' ∨ sign = '-' then do
      let (hour, rest) ← fixedDigits 2 rest
      let (minute, rest) ← fixedDigits 2 (← expectCharacter ':' rest)
      if hour < 24 ∧ minute < 60 then some rest else none
    else none

/-- A date, a time, or both with or without an offset. -/
def isMoment (text : Text) : Bool :=
  match date? text with
  | some [] => true
  | some (mark :: rest) =>
    (mark = 'T' || mark = 't' || mark = ' ') &&
      ((time? rest).bind offset?).any List.isEmpty
  | none => (time? text).any List.isEmpty

/-- An integer or a float without its sign. -/
def number? (negative : Bool) (text : Text) : Option Document :=
  (decimalInt? negative text).or ((float? negative text).or (special? negative text))

/-- The scalar that a run of characters stands for. -/
def scalar? (text : Text) : Option Document :=
  match text with
  | '0' :: 'x' :: digits => markedInt? 16 digits
  | '0' :: 'o' :: digits => markedInt? 8 digits
  | '0' :: 'b' :: digits => markedInt? 2 digits
  | '+' :: rest => number? false rest
  | '-' :: rest => number? true rest
  | _ =>
    match String.ofList text with
    | "true" => some (.bool true)
    | "false" => some (.bool false)
    | _ => if isMoment text then some .unreadable else number? false text

end ProviderRouting.Toml
