import ProviderRouting.Decimal

/-!
# Plain literals

A scalar written without quotes has no type of its own: the reader that asks for a number, a
truth value or an optional value decides what the characters mean.
-/

namespace ProviderRouting.Literal

def digitValue? (character : Char) : Option Nat :=
  if character.isDigit then some (character.toNat - 48)
  else if 'a' ≤ character ∧ character ≤ 'z' then some (character.toNat - 87)
  else if 'A' ≤ character ∧ character ≤ 'Z' then some (character.toNat - 55)
  else none

/-- A number of one or more digits in a base. -/
def natural? (base : Nat) (digits : List Char) : Option Nat :=
  if digits.isEmpty then none
  else digits.foldlM (fun total character => do
    let digit ← digitValue? character
    if digit < base then some (base * total + digit) else none) 0

/-- A marked base and the digits after the mark. -/
def marked? : List Char → Option (Nat × List Char)
  | '0' :: 'x' :: digits => some (16, digits)
  | '0' :: 'o' :: digits => some (8, digits)
  | '0' :: 'b' :: digits => some (2, digits)
  | _ => none

/-- More than one decimal digit, the first of them zero. -/
def hasLeadingZero (digits : List Char) : Bool :=
  digits.head? = some '0' && 1 < digits.length && digits.all Char.isDigit

/-- An integer: decimal without leading zeros, or in a marked base. -/
def toInt? (literal : String) : Option Int :=
  let magnitude (body : List Char) : Option Nat :=
    match marked? body with
    | some (base, digits) => natural? base digits
    | none => if hasLeadingZero body then none else natural? 10 body
  match literal.toList with
  | '-' :: body => (magnitude body).map fun value => -(value : Int)
  | '+' :: body => (magnitude body).map Int.ofNat
  | body => (magnitude body).map Int.ofNat

/-- An integer that is written without a minus, even for zero. -/
def toNat? (literal : String) : Option Nat :=
  if literal.startsWith "-" then none else (toInt? literal).map Int.toNat

/-- A double: a decimal, an infinity or no number. -/
def toFloat? (literal : String) : Option Float :=
  let body := match literal.toList with
    | '+' :: rest => rest
    | text => text
  match String.ofList body with
  | ".inf" | ".Inf" | ".INF" => some (1.0 / 0.0)
  | "-.inf" | "-.Inf" | "-.INF" => if literal.startsWith "+" then none else some (-1.0 / 0.0)
  | ".nan" | ".NaN" | ".NAN" => if literal.startsWith "+" then none else some (0.0 / 0.0)
  | _ =>
    match body with
    | '+' :: _ => none
    | '-' :: _ => if literal.startsWith "+" then none else finite? body
    | _ => finite? body
where
  finite? (body : List Char) : Option Float :=
    (Decimal.read? body).filter Float.isFinite

def isNull (literal : String) : Bool :=
  literal = "null" || literal = "Null" || literal = "NULL" || literal = "~"

def toBool? (literal : String) : Option Bool :=
  match literal with
  | "true" | "True" | "TRUE" => some true
  | "false" | "False" | "FALSE" => some false
  | _ => none

end ProviderRouting.Literal
