/-!
# Decimal text of doubles

A finite double is a mantissa times a power of two.  Its shortest decimal is the decimal with
the fewest digits among those that round to the double, and the nearest of these.  Everything
is decided in exact natural-number arithmetic.
-/

namespace ProviderRouting.Decimal

/-- The magnitude of a finite double as `mantissa * 2 ^ exponent`. -/
structure Binary where
  mantissa : Nat
  exponent : Int
  /-- The double below is only half as far away as the double above. -/
  narrowBelow : Bool

def Binary.ofFloat (value : Float) : Binary :=
  let bits := value.toBits.toNat
  let fraction := bits % 4503599627370496
  let scale := bits / 4503599627370496 % 2048
  if scale = 0 then
    ⟨fraction, -1074, false⟩
  else
    ⟨fraction + 4503599627370496, (scale : Int) - 1075, fraction = 0 ∧ 1 < scale⟩

def isNegative (value : Float) : Bool :=
  9223372036854775808 ≤ value.toBits.toNat

/-- A decimal `digits * 10 ^ exponent`. -/
structure Scaled where
  digits : Nat
  exponent : Int
deriving DecidableEq, Repr

/-- The nearer of the two neighbours on the grid of multiples of `10 ^ exponent`, if it
rounds to the double. -/
def onGrid (binary : Binary) (exponent : Int) : Option Scaled :=
  let quarter := binary.exponent - 2
  let numerator := Nat.pow 2 quarter.toNat * Nat.pow 10 (-exponent).toNat
  let denominator := Nat.pow 2 (-quarter).toNat * Nat.pow 10 exponent.toNat
  let value := 4 * binary.mantissa * numerator
  let low := (4 * binary.mantissa - if binary.narrowBelow then 1 else 2) * numerator
  let high := (4 * binary.mantissa + 2) * numerator
  let inside (candidate : Nat) : Bool :=
    let point := candidate * denominator
    if binary.mantissa % 2 = 0 then
      low ≤ point && point ≤ high
    else
      low < point && point < high
  let below := value / denominator
  let above := below + 1
  let nearBelow := 2 * (value - below * denominator) ≤ denominator
  match inside below, inside above with
  | true, true => some ⟨if nearBelow then below else above, exponent⟩
  | true, false => some ⟨below, exponent⟩
  | false, true => some ⟨above, exponent⟩
  | false, false => none

/-- The first hit on ever finer grids. -/
def refine (binary : Binary) (exponent : Int) : Nat → Scaled
  | 0 => ⟨binary.mantissa, 0⟩
  | attempts + 1 =>
    match onGrid binary exponent with
    | some decimal => decimal
    | none => refine binary (exponent - 1) attempts

/-- The shortest decimal of a finite double's magnitude. -/
def shortest (value : Float) : Scaled :=
  let binary := Binary.ofFloat value
  if binary.mantissa = 0 then
    ⟨0, 0⟩
  else
    let magnitude := (binary.mantissa.log2 : Int) + binary.exponent
    refine binary (magnitude * 1233 / 4096 + 2) 24

/-- Where a format ends positional notation. -/
structure Style where
  /-- Positional when the point stands after at most this many digits. -/
  most : Int
  /-- Positional when the point stands at least this far before the digits. -/
  least : Int

def zeros (count : Nat) : String :=
  .ofList (List.replicate count '0')

/-- Digits with a point put after the first `position` of them. -/
def withPoint (digits : List Char) (position : Nat) : String :=
  .ofList (digits.take position) ++ "." ++ .ofList (digits.drop position)

/-- The shortest decimal in a notation; a whole number keeps one zero after its point. -/
def Style.render (style : Style) (value : Float) : String :=
  let decimal := shortest value
  let digits := Nat.toDigits 10 decimal.digits
  let point := (digits.length : Int) + decimal.exponent
  let body :=
    if 0 ≤ decimal.exponent ∧ point ≤ style.most then
      .ofList digits ++ zeros decimal.exponent.toNat ++ ".0"
    else if 0 < point ∧ point ≤ style.most then
      withPoint digits point.toNat
    else if style.least < point ∧ point ≤ 0 then
      "0." ++ zeros (-point).toNat ++ .ofList digits
    else
      let lead := if digits.length = 1 then .ofList digits else withPoint digits 1
      lead ++ "e" ++ toString (point - 1)
  if isNegative value then "-" ++ body else body

/-- A quotient rounded to the nearest whole number, a half to the even one. -/
def roundHalfEven (numerator denominator : Nat) : Nat :=
  let below := numerator / denominator
  let rest := numerator % denominator
  if 2 * rest < denominator then below
  else if denominator < 2 * rest then below + 1
  else if below % 2 = 0 then below else below + 1

/-- A finite double with a fixed number of places. -/
def fixed (places : Nat) (value : Float) : String :=
  let binary := Binary.ofFloat value
  let scaled := roundHalfEven
    (binary.mantissa * Nat.pow 2 binary.exponent.toNat * Nat.pow 10 places)
    (Nat.pow 2 (-binary.exponent).toNat)
  let digits := Nat.toDigits 10 scaled
  let padded := List.replicate (places + 1 - digits.length) '0' ++ digits
  (if isNegative value then "-" else "") ++ withPoint padded (padded.length - places)

/-- The double nearest to `digits * 10 ^ exponent`. -/
def toFloat (digits : Nat) (exponent : Int) : Float :=
  let magnitude := (digits.log2 : Int) * 1233 / 4096 + exponent
  if digits = 0 ∨ magnitude < -400 then 0.0
  else if 400 < magnitude then 1.0 / 0.0
  else Float.ofScientific digits (exponent < 0) exponent.natAbs

/-- The leading digits of a text and the rest. -/
def spanDigits (text : List Char) : List Char × List Char :=
  (text.takeWhile Char.isDigit, text.dropWhile Char.isDigit)

def digitsValue (digits : List Char) : Nat :=
  digits.foldl (fun total digit => 10 * total + (digit.toNat - 48)) 0

/-- A sign and the rest; without a sign, plus. -/
def splitSign : List Char → Bool × List Char
  | '-' :: rest => (true, rest)
  | '+' :: rest => (false, rest)
  | text => (false, text)

/-- An optional exponent that ends the text. -/
def readExponent : List Char → Option Int
  | [] => some 0
  | marker :: rest =>
    if marker = 'e' ∨ marker = 'E' then
      let (negative, digits) := splitSign rest
      if digits.isEmpty ∨ ¬ digits.all Char.isDigit then none
      else
        let value : Int := digitsValue digits
        some (if negative then -value else value)
    else
      none

/-- A decimal with an optional sign, point and exponent; digits are needed on one side of the
point. -/
def read? (text : List Char) : Option Float := do
  let (negative, body) := splitSign text
  let (whole, afterWhole) := spanDigits body
  let (places, afterPlaces) := match afterWhole with
    | '.' :: rest => spanDigits rest
    | rest => ([], rest)
  if whole.isEmpty ∧ places.isEmpty then
    none
  let exponent ← readExponent afterPlaces
  let value := toFloat (digitsValue (whole ++ places)) (exponent - places.length)
  some (if negative then -value else value)

end ProviderRouting.Decimal
