import ProviderRouting.Pattern.Bracket

/-!
# Reading patterns

A pattern is read from left to right with a stack of the groups that are still open.  Flags set
inside a group hold to its end.  A pattern is refused when it is malformed, nested too deeply,
or too large once its repetitions are written out.
-/

namespace ProviderRouting.Pattern

/-- A group that is still open: the flags and parts outside it, in reverse. -/
structure OpenGroup where
  flags : Flags
  parts : List Pattern
  branches : List Pattern

/-- What has been read: the parts of the current branch and the finished branches, both in
reverse, the open groups and the names given to groups. -/
structure Reading where
  flags : Flags := {}
  parts : List Pattern := []
  branches : List Pattern := []
  around : List OpenGroup := []
  names : List String := []

/-- The sequence of parts given in reverse. -/
def ofParts : List Pattern → Pattern
  | [] => .empty
  | [part] => part
  | parts => .sequence parts.reverse

namespace Reading

def push (reading : Reading) (part : Pattern) : Reading :=
  { reading with parts := part :: reading.parts }

def endBranch (reading : Reading) : Reading :=
  { reading with parts := [], branches := ofParts reading.parts :: reading.branches }

/-- What has been read since the innermost open group began. -/
def body (reading : Reading) : Pattern :=
  match reading.branches with
  | [] => ofParts reading.parts
  | branches => .choice (ofParts reading.parts :: branches).reverse

def openGroup (reading : Reading) (flags : Flags) : Reading :=
  { reading with
    flags
    parts := []
    branches := []
    around := ⟨reading.flags, reading.parts, reading.branches⟩ :: reading.around }

def closeGroup? (reading : Reading) : Option Reading :=
  match reading.around with
  | [] => none
  | outer :: above => some { reading with
      flags := outer.flags
      parts := .group reading.body :: outer.parts
      branches := outer.branches
      around := above }

/-- Repeat the part read last. -/
def repeatLast? (reading : Reading) (least : Nat) (most : Option Nat) : Option Reading :=
  match reading.parts with
  | [] => none
  | .directive :: _ => none
  | last :: before => some { reading with parts := .repetition last least most :: before }

end Reading

/-- Set or clear one flag. -/
def Flags.set? (flags : Flags) (letter : Char) (value : Bool) : Option Flags :=
  match letter with
  | 'i' => some { flags with caseless := value }
  | 'm' => some { flags with multiLine := value }
  | 's' => some { flags with dotAll := value }
  | 'U' => some { flags with swapGreed := value }
  | 'u' => some { flags with unicode := value }
  | 'R' => some { flags with crlf := value }
  | 'x' => some { flags with verbose := value }
  | _ => none

/-- Apply flag letters; those after a hyphen are cleared, and no letter may come twice. -/
def Flags.apply? (flags : Flags) (seen : List Char) : List Char → Option Flags
  | [] => if seen.head? = some '-' then none else some flags
  | '-' :: rest => if seen.contains '-' then none else flags.apply? ('-' :: seen) rest
  | letter :: rest => do
    let changed ← flags.set? letter (!seen.contains '-')
    if seen.contains letter then none else changed.apply? (letter :: seen) rest

/-- The first character of a group's name. -/
def isNameStart (character : Char) : Bool :=
  character == '_' || character.isAlpha ||
    (0x80 ≤ character.toNat && CharSet.words.contains character.toNat &&
      !CharSet.digits.contains character.toNat)

def isNamePart (character : Char) : Bool :=
  isNameStart character || character.isDigit || character == '.' || character == '[' ||
    character == ']' || CharSet.digits.contains character.toNat

/-- The name of a group up to its closing angle bracket. -/
def groupName? (text : List Char) : Option (String × List Char) :=
  match text.takeWhile (· != '>'), text.dropWhile (· != '>') with
  | first :: name, _ :: rest =>
    if isNameStart first && name.all isNamePart then some (.ofList (first :: name), rest)
    else none
  | _, _ => none

/-- Open a group whose parenthesis was just read. -/
def openGroup? (reading : Reading) (text : List Char) : Option (Reading × List Char) :=
  let named (text : List Char) : Option (Reading × List Char) := do
    let (name, rest) ← groupName? text
    if reading.names.contains name then none
    else
      let opened := reading.openGroup reading.flags
      some ({ opened with names := name :: reading.names }, rest)
  match skipBlanks reading.flags text with
  | '?' :: '=' :: _ => none
  | '?' :: '!' :: _ => none
  | '?' :: '<' :: '=' :: _ => none
  | '?' :: '<' :: '!' :: _ => none
  | '?' :: 'P' :: '<' :: rest => named rest
  | '?' :: '<' :: rest => named rest
  | '?' :: rest => do
    let isEnd (character : Char) : Bool := character == ':' || character == ')'
    let letters := rest.takeWhile (!isEnd ·)
    let flags ← reading.flags.apply? [] letters
    match rest.dropWhile (!isEnd ·) with
    | ':' :: later => some (reading.openGroup flags, later)
    | _ :: later =>
      if letters.isEmpty then none else some ({ reading with flags }.push .directive, later)
    | [] => none
  | rest => some (reading.openGroup reading.flags, rest)

/-- A decimal count with blanks around it; none without digits. -/
def count? (text : List Char) : Option Nat × List Char :=
  let digits := text.dropWhile isBlank
  (Literal.natural? 10 (digits.takeWhile Char.isDigit),
    (digits.dropWhile Char.isDigit).dropWhile isBlank)

/-- The bounds of a counted repetition whose opening brace was just read. -/
def bounds? (flags : Flags) (text : List Char) :
    Option (Nat × Option Nat × List Char) := do
  let (least, rest) := count? (skipBlanks flags text)
  let least ← least
  match rest with
  | '\x7d' :: later => some (least, some least, later)
  | ',' :: later =>
    match skipBlanks flags later with
    | '\x7d' :: later => some (least, none, later)
    | later => do
      let (most, rest) := count? later
      let most ← most
      match rest with
      | '\x7d' :: later => if least ≤ most then some (least, some most, later) else none
      | _ => none
  | _ => none

/-- A repetition may be followed by a question mark, which does not change what matches. -/
def skipGreed (flags : Flags) (text : List Char) : List Char :=
  match skipBlanks flags text with
  | '?' :: rest => rest
  | rest => rest

/-- A character that stands for itself. -/
def literalSet? (flags : Flags) (code : Nat) (isByte : Bool) : Option CharSet :=
  if isByte && !flags.unicode && 0x80 ≤ code then none
  else some (foldCase flags (.single code))

/-- Any character but line ends, or any at all. -/
def dotSet? (flags : Flags) : Option CharSet :=
  if !flags.unicode then none
  else if flags.dotAll then some .anything
  else if flags.crlf then some (.complement (.within [(0xA, 0xA), (0xD, 0xD)]))
  else some (.complement (.single 0xA))

/-- What follows a backslash outside of brackets. -/
def escapedPart? (flags : Flags) (text : List Char) : Option (Pattern × List Char) := do
  let (primitive, rest) ← escaped? flags text
  match primitive with
  | .literal code isByte => do
    let set ← literalSet? flags code isByte
    some (.one set, rest)
  | .set set => some (.one set, rest)
  | .anchor condition => some (.anchor condition, rest)

/-- Take one part, parenthesis, bar or repetition. -/
def readPart (reading : Reading) (text : List Char) : Option (Reading × List Char) :=
  let flags := reading.flags
  match text with
  | [] => none
  | '(' :: rest => openGroup? reading rest
  | ')' :: rest => reading.closeGroup?.map (·, rest)
  | '|' :: rest => some (reading.endBranch, rest)
  | '[' :: rest => (bracket? flags rest).map fun (set, later) => (reading.push (.one set), later)
  | '?' :: rest => (reading.repeatLast? 0 (some 1)).map (·, skipGreed flags rest)
  | '*' :: rest => (reading.repeatLast? 0 none).map (·, skipGreed flags rest)
  | '+' :: rest => (reading.repeatLast? 1 none).map (·, skipGreed flags rest)
  | '\x7b' :: rest => do
    let (least, most, later) ← bounds? flags rest
    if 4294967295 < least || 4294967295 < most.getD 0 then none
    (reading.repeatLast? least most).map (·, skipGreed flags later)
  | '\\' :: rest => (escapedPart? flags rest).map fun (part, later) => (reading.push part, later)
  | '.' :: rest => (dotSet? flags).map fun set => (reading.push (.one set), rest)
  | '^' :: rest =>
    let condition := if flags.multiLine then .lineStart flags.crlf else .textStart
    some (reading.push (.anchor condition), rest)
  | '$' :: rest =>
    let condition := if flags.multiLine then .lineEnd flags.crlf else .textEnd
    some (reading.push (.anchor condition), rest)
  | character :: rest =>
    (literalSet? flags character.toNat false).map fun set => (reading.push (.one set), rest)

def readFrom (reading : Reading) (text : List Char) : Nat → Option Pattern
  | 0 => none
  | attempts + 1 =>
    match skipBlanks reading.flags text with
    | [] => if reading.around.isEmpty then some reading.body else none
    | text => do
      let (reading, rest) ← readPart reading text
      readFrom reading rest attempts

/-- How deeply a pattern may be nested. -/
def deepest : Nat := 250

/-- How many parts a pattern may have. -/
def largest : Nat := 300000

/-- The pattern that a text describes. -/
def parse? (text : String) : Option Pattern := do
  let pattern ← readFrom {} text.toList (text.length + 1)
  if pattern.depth ≤ deepest && pattern.size ≤ largest then some pattern else none

end ProviderRouting.Pattern
