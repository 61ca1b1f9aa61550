import ProviderRouting.Text.CaseTable

/-!
# Lowercase

The lowercase form of a text.  A capital sigma at the end of a word becomes a final sigma, and
a dotted capital I becomes an i followed by a combining dot; every other character has a form
that does not depend on its neighbours.
-/

namespace ProviderRouting

namespace Lowercase

def isCased (character : Char) : Bool :=
  CaseTable.within CaseTable.casedRanges character.toNat

def isIgnorable (character : Char) : Bool :=
  CaseTable.within CaseTable.ignorableRanges character.toNat

/-- The lowercase form of a character outside any word. -/
def character (character : Char) : List Char :=
  if character.toNat < 0x80 then [character.toLower]
  else if character.toNat = 0x130 then ['i', .ofNat 0x307]
  else
    match CaseTable.Run.lookup? CaseTable.lowercaseRuns character.toNat with
    | some code => [.ofNat code]
    | none => [character]

/-- The first character that is not passed over has case. -/
def reachesCased (text : List Char) : Bool :=
  match text.dropWhile isIgnorable with
  | [] => false
  | next :: _ => isCased next

/-- The lowercase form of the rest of a text whose beginning is given in reverse. -/
def after (before : List Char) : List Char → List Char
  | [] => []
  | next :: rest =>
    let lowered :=
      if next = 'Σ' then
        if reachesCased before && !reachesCased rest then ['ς'] else ['σ']
      else character next
    lowered ++ after (next :: before) rest

end Lowercase

/-- The lowercase form of a text. -/
def lowercase (text : String) : String :=
  .ofList (Lowercase.after [] text.toList)

end ProviderRouting
