import ProviderRouting.Document
import ProviderRouting.Literal
import ProviderRouting.Yaml.Token

/-!
# Tags

A tag is written with a handle that stands for its beginning.  Two handles are always known, and
a document may declare more.  A tag on a scalar says that the scalar is a value even where an
empty one would be none.
-/

namespace ProviderRouting.Yaml

/-- What the handles of a document stand for. -/
abbrev Handles := List (String × String)

/-- What the tags of the common types begin with. -/
def commonBeginning : String := "tag:yaml.org,2002:"

/-- The handles that need no declaration. -/
def commonHandles : Handles :=
  [("!", "!"), ("!!", commonBeginning)]

/-- The full text of a tag; a handle must be known. -/
def resolveTag (handles : Handles) (handle suffix : String) : Option String :=
  if handle.isEmpty then some suffix
  else (handles.lookup handle).map (· ++ suffix)

/-- Nothing, as a plain scalar spells it. -/
def isEmptyPlain (literal : String) : Bool :=
  literal.isEmpty || Literal.isNull literal

/-- The document of a scalar.  A local tag on an empty scalar is the name of an empty member,
and any other tag but that of null keeps an empty scalar from standing for nothing. -/
def scalarDocument (tag : Option String) (isPlain : Bool) (text : String) : Document :=
  if !isPlain then .text text
  else
    match tag with
    | none => .plain text
    | some tag =>
      if !isEmptyPlain text || tag = commonBeginning ++ "null" then .plain text
      else if tag.startsWith "!" && 1 < tag.length then
        .fields [(.ofList (tag.toList.drop 1), .null)]
      else .text text

/-- The directives before a document. -/
structure Directives where
  handles : Handles := []
  hasVersion : Bool := false

/-- Take a directive; none may be given twice, and the version must be 1.1 or 1.2. -/
def Directives.add (directives : Directives) : Token → Option Directives
  | .version major minor =>
    if directives.hasVersion || major ≠ 1 || (minor ≠ 1 && minor ≠ 2) then none
    else some { directives with hasVersion := true }
  | .tagHandle handle beginning =>
    if (directives.handles.lookup handle).isSome then none
    else some { directives with handles := (handle, beginning) :: directives.handles }
  | _ => none

/-- The directives at the beginning of the tokens, and the tokens after them. -/
def readDirectives (directives : Directives) :
    List Token → Option (Directives × List Token)
  | [] => some (directives, [])
  | token :: rest =>
    match token with
    | .version _ _ | .tagHandle _ _ => do readDirectives (← directives.add token) rest
    | _ => some (directives, token :: rest)

end ProviderRouting.Yaml
