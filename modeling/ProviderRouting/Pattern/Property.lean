import ProviderRouting.Pattern.CharSet

/-!
# Character properties by name

The general categories, by their short and long names, and the sets of all characters, of ASCII
and of blanks.  Case, blanks, hyphens and underscores in a name do not count.
-/

namespace ProviderRouting.Pattern

open CategoryTable

/-- A name without the differences that do not count. -/
def looseName (name : List Char) : String :=
  let folded := (name.filter fun character =>
    character != ' ' && character != '_' && character != '-').map Char.toLower
  match folded with
  | 'i' :: 's' :: rest => if rest.isEmpty || rest = ['c'] then .ofList folded else .ofList rest
  | _ => .ofList folded

def letters : List Run :=
  uppercaseLetter ++ lowercaseLetter ++ titlecaseLetter ++ modifierLetter ++ otherLetter

def marks : List Run :=
  nonspacingMark ++ spacingMark ++ enclosingMark

def numbers : List Run :=
  decimalNumber ++ letterNumber ++ otherNumber

def punctuation : List Run :=
  connectorPunctuation ++ dashPunctuation ++ openPunctuation ++ closePunctuation ++
    initialPunctuation ++ finalPunctuation ++ otherPunctuation

def symbols : List Run :=
  mathSymbol ++ currencySymbol ++ modifierSymbol ++ otherSymbol

def separators : List Run :=
  spaceSeparator ++ lineSeparator ++ paragraphSeparator

def assigned : List Run :=
  letters ++ marks ++ numbers ++ punctuation ++ symbols ++ separators ++ control ++ format ++
    [⟨0xE000, 0xF8FF, 1⟩, ⟨0xF0000, 0xFFFFD, 1⟩, ⟨0x100000, 0x10FFFD, 1⟩]

/-- The general category with a loose name. -/
def categoryRuns? : String → Option (List Run)
  | "l" | "letter" => some letters
  | "lc" | "casedletter" => some (uppercaseLetter ++ lowercaseLetter ++ titlecaseLetter)
  | "lu" | "uppercaseletter" => some uppercaseLetter
  | "ll" | "lowercaseletter" => some lowercaseLetter
  | "lt" | "titlecaseletter" => some titlecaseLetter
  | "lm" | "modifierletter" => some modifierLetter
  | "lo" | "otherletter" => some otherLetter
  | "m" | "mark" | "combiningmark" => some marks
  | "mn" | "nonspacingmark" => some nonspacingMark
  | "mc" | "spacingmark" => some spacingMark
  | "me" | "enclosingmark" => some enclosingMark
  | "n" | "number" => some numbers
  | "nd" | "decimalnumber" | "digit" => some decimalNumber
  | "nl" | "letternumber" => some letterNumber
  | "no" | "othernumber" => some otherNumber
  | "p" | "punctuation" | "punct" => some punctuation
  | "pc" | "connectorpunctuation" => some connectorPunctuation
  | "pd" | "dashpunctuation" => some dashPunctuation
  | "ps" | "openpunctuation" => some openPunctuation
  | "pe" | "closepunctuation" => some closePunctuation
  | "pi" | "initialpunctuation" => some initialPunctuation
  | "pf" | "finalpunctuation" => some finalPunctuation
  | "po" | "otherpunctuation" => some otherPunctuation
  | "s" | "symbol" => some symbols
  | "sm" | "mathsymbol" => some mathSymbol
  | "sc" | "currencysymbol" => some currencySymbol
  | "sk" | "modifiersymbol" => some modifierSymbol
  | "so" | "othersymbol" => some otherSymbol
  | "z" | "separator" => some separators
  | "zs" | "spaceseparator" => some spaceSeparator
  | "zl" | "lineseparator" => some lineSeparator
  | "zp" | "paragraphseparator" => some paragraphSeparator
  | "cc" | "control" | "cntrl" => some control
  | "cf" | "format" => some format
  | "assigned" => some assigned
  | _ => none

/-- The set of characters with a property. -/
def propertySet? (name : List Char) : Option CharSet :=
  let loose := looseName name
  match categoryRuns? loose with
  | some runs => some (.runs runs)
  | none =>
    match loose with
    | "any" => some .anything
    | "ascii" => some (.within [(0x0, 0x7F)])
    | "whitespace" | "wspace" | "space" => some .blanks
    | "unassigned" | "cn" => some (.complement (.runs assigned))
    | "c" | "other" =>
      some (.either (.runs (control ++ format))
        (.either (.complement (.runs assigned)) (.within [(0xE000, 0xF8FF), (0xF0000, 0xFFFFD),
          (0x100000, 0x10FFFD)])))
    | "co" | "privateuse" =>
      some (.within [(0xE000, 0xF8FF), (0xF0000, 0xFFFFD), (0x100000, 0x10FFFD)])
    | "cs" | "surrogate" => some .nothing
    | _ => none

/-- A property after its letter: one more letter, or a name in braces, maybe after the word for
general categories and possibly negated. -/
def property? (text : List Char) : Option (CharSet × List Char) :=
  match text with
  | '\x7b' :: braced =>
    match braced.dropWhile (· != '\x7d') with
    | [] => none
    | _ :: rest =>
      let (negated, body) := match braced.takeWhile (· != '\x7d') with
        | '^' :: body => (true, body)
        | body => (false, body)
      let isSign (character : Char) : Bool :=
        character == '=' || character == ':' || character == '!'
      let resolved : Option CharSet :=
        match body.dropWhile (!isSign ·) with
        | [] => propertySet? body
        | sign =>
          let kind := looseName (body.takeWhile (!isSign ·))
          let value := sign.dropWhile isSign
          if kind = "gc" || kind = "generalcategory" then
            (categoryRuns? (looseName value)).map fun runs =>
              if sign.head? = some '!' then .complement (.runs runs) else .runs runs
          else none
      resolved.map fun set => (if negated then .complement set else set, rest)
  | letter :: rest => (propertySet? [letter]).map (·, rest)
  | [] => none

end ProviderRouting.Pattern
