import ProviderRouting.Yaml.Folded

/-!
# Quoted scalars

In single quotes, a quote is written twice and nothing else is special.  In double quotes, a
backslash begins an escape.  Neither may contain a line that begins or ends a document.
-/

namespace ProviderRouting.Yaml

/-- The rest of a scalar in single quotes; `quote` is set after a quote that may be the first
of two. -/
def singleQuoted (folded : Folded) (quote : Bool) : Spots → Option (String × Spots)
  | [] => if quote then some (folded.finished, []) else none
  | spot :: rest =>
    if quote then
      if spot.character = '\'' then singleQuoted (folded.push '\'') false rest
      else some (folded.finished, spot :: rest)
    else if atMarker (spot :: rest) then none
    else if spot.character = '\'' then singleQuoted folded.join true rest
    else if isBlank spot.character then singleQuoted (folded.pushBlank spot.character) false rest
    else if isBreak spot.character then singleQuoted (folded.pushBreak spot.character) false rest
    else singleQuoted (folded.push spot.character) false rest

/-- What a one-letter escape stands for. -/
def letterEscape? : Char → Option Nat
  | '0' => some 0x0
  | 'a' => some 0x7
  | 'b' => some 0x8
  | 't' => some 0x9
  | '\t' => some 0x9
  | 'n' => some 0xA
  | 'v' => some 0xB
  | 'f' => some 0xC
  | 'r' => some 0xD
  | 'e' => some 0x1B
  | ' ' => some 0x20
  | '"' => some 0x22
  | '/' => some 0x2F
  | '\\' => some 0x5C
  | 'N' => some 0x85
  | '_' => some 0xA0
  | 'L' => some 0x2028
  | 'P' => some 0x2029
  | _ => none

/-- How many digits follow the letter of a numeric escape. -/
def escapeWidth? : Char → Option Nat
  | 'x' => some 2
  | 'u' => some 4
  | 'U' => some 8
  | _ => none

def hexDigit? (character : Char) : Option Nat :=
  if character.isDigit then some (character.toNat - 48)
  else if 'a' ≤ character ∧ character ≤ 'f' then some (character.toNat - 87)
  else if 'A' ≤ character ∧ character ≤ 'F' then some (character.toNat - 55)
  else none

/-- The character of a code, if it has one. -/
def charOfCode? (code : Nat) : Option Char :=
  if code.isValidChar then some (.ofNat code) else none

/-- What is still missing of an escape. -/
inductive Escape where
  | none
  | letter
  | digits (value missing : Nat)

/-- The rest of a scalar in double quotes. -/
def doubleQuoted (folded : Folded) (escape : Escape) : Spots → Option (String × Spots)
  | [] => none
  | spot :: rest =>
    match escape with
    | .digits value missing =>
      match hexDigit? spot.character with
      | none => none
      | some digit =>
        if missing ≤ 1 then
          match charOfCode? (16 * value + digit) with
          | none => none
          | some character => doubleQuoted (folded.push character) .none rest
        else doubleQuoted folded (.digits (16 * value + digit) (missing - 1)) rest
    | .letter =>
      if isBreak spot.character then doubleQuoted folded.pushEscapedBreak .none rest
      else
        match letterEscape? spot.character, escapeWidth? spot.character with
        | some code, _ => doubleQuoted (folded.push (.ofNat code)) .none rest
        | none, some width => doubleQuoted folded (.digits 0 width) rest
        | none, none => none
    | .none =>
      if atMarker (spot :: rest) then none
      else if spot.character = '"' then some (folded.join.finished, rest)
      else if spot.character = '\\' then doubleQuoted folded .letter rest
      else if isBlank spot.character then
        doubleQuoted (folded.pushBlank spot.character) .none rest
      else if isBreak spot.character then
        doubleQuoted (folded.pushBreak spot.character) .none rest
      else doubleQuoted (folded.push spot.character) .none rest

end ProviderRouting.Yaml
