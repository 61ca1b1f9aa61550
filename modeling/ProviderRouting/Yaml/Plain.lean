import ProviderRouting.Yaml.Folded

/-!
# Plain scalars

A scalar without quotes ends before a colon that a gap follows, before a comment, and before a
line that is not indented deeply enough.  Inside brackets it also ends before a bracket or a
comma.
-/

namespace ProviderRouting.Yaml

/-- Characters that end a plain scalar inside brackets. -/
def isFlowMark (character : Char) : Bool :=
  character = ',' || character = '[' || character = ']' || character = '\x7b' ||
    character = '\x7d'

/-- The next character cannot go on a plain scalar. -/
def endsPlain (flow : Bool) (indent : Int) (folded : Folded) (spot : Spot) (rest : Spots) :
    Bool :=
  (folded.broken && !flow && spot.column < indent) || atMarker (spot :: rest) ||
    (folded.isGap && spot.character == '#') ||
    (spot.character == ':' && atGap rest) || (flow && isFlowMark spot.character)

/-- A colon inside brackets must not touch another mark. -/
def isStrayColon (flow : Bool) (spot : Spot) (rest : Spots) : Bool :=
  flow && spot.character == ':' &&
    rest.head?.any fun next => isFlowMark next.character || next.character == '?'

/-- The rest of a plain scalar, which lies inside brackets if `flow` is set, and whose further
lines begin at column `indent` or later.  The answer holds the blanks and line ends after the
scalar, which are passed over. -/
def plain (flow : Bool) (indent : Int) (folded : Folded) : Spots → Option (Folded × Spots)
  | [] => some (folded, [])
  | spot :: rest =>
    if isBlank spot.character then
      if folded.broken && spot.column < indent && spot.character = '\t' then none
      else plain flow indent (folded.pushBlank spot.character) rest
    else if isBreak spot.character then plain flow indent (folded.pushBreak spot.character) rest
    else if endsPlain flow indent folded spot rest then
      some (folded, spot :: rest)
    else if isStrayColon flow spot rest then none
    else plain flow indent (folded.push spot.character) rest

end ProviderRouting.Yaml
