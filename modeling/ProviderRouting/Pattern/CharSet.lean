import ProviderRouting.Text.Blank
import ProviderRouting.Text.CaseTable
import ProviderRouting.Text.CategoryTable
import ProviderRouting.Text.ClassTable

/-!
# Character sets

The sets of characters that a pattern can ask for at one place.
-/

namespace ProviderRouting.Pattern

inductive CharSet where
  /-- Code points in one of the ranges. -/
  | within (ranges : List (Nat × Nat))
  /-- Code points in one of the runs. -/
  | runs (listed : List CategoryTable.Run)
  | complement (set : CharSet)
  | either (left right : CharSet)
  | both (left right : CharSet)
  /-- Characters that differ at most in case from one in the set. -/
  | caseless (set : CharSet)

namespace CharSet

/-- What a character is compared as where case does not count. -/
def folded (code : Nat) : Nat :=
  (CaseTable.Run.lookup? CaseTable.foldingRuns code).getD code

/-- The code points that a run maps to this one. -/
def preimage? (code : Nat) (run : CaseTable.Run) : Option Nat :=
  let source := ((code : Int) - run.shift).toNat
  if run.first ≤ source && source ≤ run.last && (source - run.first) % run.step == 0 then
    some source
  else none

/-- The code points that are the same as this one but for case. -/
def caseVariants (code : Nat) : List Nat :=
  let target := folded code
  target :: CaseTable.foldingRuns.filterMap (preimage? target)

def contains : CharSet → Nat → Bool
  | .within ranges, code => CaseTable.within ranges code
  | .runs listed, code => CategoryTable.within listed code
  | .complement set, code => !set.contains code
  | .either left right, code => left.contains code || right.contains code
  | .both left right, code => left.contains code && right.contains code
  | .caseless set, code => (caseVariants code).any set.contains

def single (code : Nat) : CharSet :=
  .within [(code, code)]

def nothing : CharSet :=
  .within []

def anything : CharSet :=
  .complement nothing

def minus (left right : CharSet) : CharSet :=
  .both left (.complement right)

/-- The characters in exactly one of the sets. -/
def differing (left right : CharSet) : CharSet :=
  .either (minus left right) (minus right left)

def digits : CharSet :=
  .within ClassTable.digitRanges

def words : CharSet :=
  .within ClassTable.wordRanges

def blanks : CharSet :=
  .within [(0x9, 0xD), (0x20, 0x20), (0x85, 0x85), (0xA0, 0xA0), (0x1680, 0x1680),
    (0x2000, 0x200A), (0x2028, 0x2029), (0x202F, 0x202F), (0x205F, 0x205F), (0x3000, 0x3000)]

def asciiDigits : CharSet :=
  .within [(0x30, 0x39)]

def asciiWords : CharSet :=
  .within [(0x30, 0x39), (0x41, 0x5A), (0x5F, 0x5F), (0x61, 0x7A)]

def asciiBlanks : CharSet :=
  .within [(0x9, 0xD), (0x20, 0x20)]

/-- The ASCII classes with a name. -/
def ofAsciiName? : String → Option CharSet
  | "alnum" => some (.within [(0x30, 0x39), (0x41, 0x5A), (0x61, 0x7A)])
  | "alpha" => some (.within [(0x41, 0x5A), (0x61, 0x7A)])
  | "ascii" => some (.within [(0x0, 0x7F)])
  | "blank" => some (.within [(0x9, 0x9), (0x20, 0x20)])
  | "cntrl" => some (.within [(0x0, 0x1F), (0x7F, 0x7F)])
  | "digit" => some asciiDigits
  | "graph" => some (.within [(0x21, 0x7E)])
  | "lower" => some (.within [(0x61, 0x7A)])
  | "print" => some (.within [(0x20, 0x7E)])
  | "punct" => some (.within [(0x21, 0x2F), (0x3A, 0x40), (0x5B, 0x60), (0x7B, 0x7E)])
  | "space" => some asciiBlanks
  | "upper" => some (.within [(0x41, 0x5A)])
  | "word" => some asciiWords
  | "xdigit" => some (.within [(0x30, 0x39), (0x41, 0x46), (0x61, 0x66)])
  | _ => none

end CharSet

end ProviderRouting.Pattern
