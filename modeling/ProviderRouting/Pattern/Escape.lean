import ProviderRouting.Literal
import ProviderRouting.Pattern.Basic
import ProviderRouting.Pattern.Property

/-!
# Escapes in patterns

What a backslash makes of the characters after it, inside and outside of brackets.
-/

namespace ProviderRouting.Pattern

/-- How a pattern is read; parentheses may change it for what they enclose. -/
structure Flags where
  caseless : Bool := false
  multiLine : Bool := false
  dotAll : Bool := false
  swapGreed : Bool := false
  unicode : Bool := true
  crlf : Bool := false
  /-- Blanks and comments between parts are skipped. -/
  verbose : Bool := false

/-- What an escape or a plain character stands for. -/
inductive Primitive where
  /-- A character; `isByte` if it was given by two hexadecimal digits. -/
  | literal (code : Nat) (isByte : Bool)
  | set (set : CharSet)
  | anchor (anchor : Anchor)

/-- With case set aside, a set also holds the case variants of its characters. -/
def foldCase (flags : Flags) (set : CharSet) : CharSet :=
  if flags.caseless then .caseless set else set

/-- Characters with a meaning of their own. -/
def isMeta (character : Char) : Bool :=
  ['\\', '.', '+', '*', '?', '(', ')', '|', '[', ']', '\x7b', '\x7d', '^', '$', '#', '&', '-',
    '~'].contains character

/-- Characters that stand for themselves after a backslash. -/
def isEscapable (character : Char) : Bool :=
  isMeta character ||
    (32 ≤ character.toNat && character.toNat < 127 && !character.isAlphanum &&
      character != '<' && character != '>') ||
    (character.toNat < 32 || character.toNat == 127)

/-- Skip blanks and comments, if the flags say so. -/
def skipBlanks (flags : Flags) : List Char → List Char
  | [] => []
  | character :: rest =>
    if !flags.verbose then character :: rest
    else if isBlank character then skipBlanks flags rest
    else if character = '#' then skipComment flags rest
    else character :: rest
where
  skipComment (flags : Flags) : List Char → List Char
    | [] => []
    | '\n' :: rest => skipBlanks flags rest
    | _ :: rest => skipComment flags rest

/-- A code point that is a character. -/
def isScalar (code : Nat) : Bool :=
  code < 0xD800 || (0xE000 ≤ code && code < 0x110000)

/-- The character given by a fixed number of hexadecimal digits, or by some in braces. -/
def hexLiteral (flags : Flags) (count : Nat) (text : List Char) : Option (Nat × List Char) := do
  let (digits, rest) ← match skipBlanks flags text with
    | '\x7b' :: braced =>
      let digits := braced.takeWhile (· != '\x7d')
      match braced.dropWhile (· != '\x7d') with
      | _ :: rest => some (digits, rest)
      | [] => none
    | plain => if plain.length < count then none else some (plain.take count, plain.drop count)
  let code ← Literal.natural? 16 digits
  if isScalar code then some (code, rest) else none

def wordSet (flags : Flags) : CharSet :=
  if flags.unicode then .words else .asciiWords

/-- The class that a letter stands for. -/
def perlSet? (flags : Flags) (letter : Char) : Option CharSet :=
  let pick (full ascii : CharSet) : CharSet := if flags.unicode then full else ascii
  let negated (set : CharSet) : Option CharSet :=
    if flags.unicode then some (.complement set) else none
  match letter with
  | 'd' => some (pick .digits .asciiDigits)
  | 's' => some (pick .blanks .asciiBlanks)
  | 'w' => some (pick .words .asciiWords)
  | 'D' => negated .digits
  | 'S' => negated .blanks
  | 'W' => negated .words
  | _ => none

/-- The anchor named in braces after a boundary, if braces with a name follow. -/
def namedBoundary (flags : Flags) (text : List Char) : Option (Anchor × List Char) :=
  let word := wordSet flags
  match text with
  | '\x7b' :: braced =>
    let isNamePart (character : Char) : Bool := character.isAlpha || character == '-'
    match skipBlanks flags braced with
    | first :: _ =>
      if !isNamePart first then some (.wordBoundary word, text)
      else
        let name := braced.takeWhile isNamePart
        match braced.dropWhile isNamePart with
        | '\x7d' :: rest =>
          match String.ofList name with
          | "start" => some (.wordStart word, rest)
          | "end" => some (.wordEnd word, rest)
          | "start-half" => some (.wordStartHalf word, rest)
          | "end-half" => some (.wordEndHalf word, rest)
          | _ => none
        | _ => none
    | [] => none
  | _ => some (.wordBoundary word, text)

/-- What the text after a backslash stands for, and the rest of it. -/
def escaped? (flags : Flags) : List Char → Option (Primitive × List Char)
  | [] => none
  | letter :: rest =>
    let literal (code : Nat) : Option (Primitive × List Char) := some (.literal code false, rest)
    let anchor (condition : Anchor) : Option (Primitive × List Char) :=
      some (.anchor condition, rest)
    match letter with
    | 'x' => (hexLiteral flags 2 rest).map fun (code, later) => (.literal code true, later)
    | 'u' => (hexLiteral flags 4 rest).map fun (code, later) => (.literal code false, later)
    | 'U' => (hexLiteral flags 8 rest).map fun (code, later) => (.literal code false, later)
    | 'p' => if flags.unicode then
        (property? rest).map fun (set, later) => (.set (foldCase flags set), later)
      else none
    | 'P' => if flags.unicode then
        (property? rest).map fun (set, later) =>
          (.set (.complement (foldCase flags set)), later)
      else none
    | 'a' => literal 0x7
    | 'f' => literal 0xC
    | 't' => literal 0x9
    | 'n' => literal 0xA
    | 'r' => literal 0xD
    | 'v' => literal 0xB
    | 'A' => anchor .textStart
    | 'z' => anchor .textEnd
    | 'b' => (namedBoundary flags rest).map fun (condition, later) => (.anchor condition, later)
    | 'B' => anchor (.noWordBoundary (wordSet flags))
    | '<' => anchor (.wordStart (wordSet flags))
    | '>' => anchor (.wordEnd (wordSet flags))
    | _ =>
      match perlSet? flags letter with
      | some set => some (.set set, rest)
      | none => if isEscapable letter then literal letter.toNat else none

end ProviderRouting.Pattern
