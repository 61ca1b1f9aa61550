import ProviderRouting.Yaml.Spot

/-!
# Folded text

Inside quoted and plain scalars a single line end stands for a blank, and of several line ends
all but the first are kept.  Blanks around line ends are dropped.
-/

namespace ProviderRouting.Yaml

/-- Folded text as far as it is read, all parts in reverse. -/
structure Folded where
  text : List Char := []
  /-- Blanks that belong to the text if more follows on the line. -/
  blanks : List Char := []
  /-- A line has ended since the last part of the text. -/
  broken : Bool := false
  /-- The line end that may stand for a blank. -/
  lead : Option Char := none
  /-- The line ends after it. -/
  trail : List Char := []

namespace Folded

/-- Add what the blanks and line ends since the last part stand for. -/
def join (folded : Folded) : Folded :=
  let gap :=
    if folded.broken then
      match folded.lead with
      | some '\n' => if folded.trail.isEmpty then [' '] else folded.trail
      | some other => folded.trail ++ [other]
      | none => folded.trail
    else folded.blanks
  { text := gap ++ folded.text }

def push (folded : Folded) (character : Char) : Folded :=
  let joined := folded.join
  { joined with text := character :: joined.text }

def pushBlank (folded : Folded) (character : Char) : Folded :=
  if folded.broken then folded else { folded with blanks := character :: folded.blanks }

def pushBreak (folded : Folded) (character : Char) : Folded :=
  if folded.broken then { folded with trail := character :: folded.trail }
  else { folded with blanks := [], broken := true, lead := some character }

/-- A line end that stands for nothing. -/
def pushEscapedBreak (folded : Folded) : Folded :=
  { folded.join with broken := true }

/-- Something other than text stands since the last part of the text. -/
def isGap (folded : Folded) : Bool :=
  folded.broken || !folded.blanks.isEmpty

def finished (folded : Folded) : String :=
  .ofList folded.text.reverse

end Folded

end ProviderRouting.Yaml
