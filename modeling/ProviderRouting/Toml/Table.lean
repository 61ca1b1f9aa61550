import ProviderRouting.Document

/-!
# Tables under construction

A header opens a table, and keys with several parts open tables on their way.  No table may be
opened twice, and a finished value takes no more members.
-/

namespace ProviderRouting.Toml

/-- How a table came to be. -/
inductive Origin where
  /-- On the way of a header. -/
  | passed
  /-- By its own header. -/
  | header
  /-- On the way of a key. -/
  | dotted
deriving DecidableEq

/-- A part of a file under construction. -/
inductive Part where
  | value (document : Document)
  | table (origin : Origin) (members : List (String × Part))
  /-- Tables of one name, the last one first. -/
  | tables (items : List (List (String × Part)))
deriving Inhabited

abbrev Members := List (String × Part)

/-- Put a part under a name in place of what is there. -/
def setMember (name : String) (part : Part) : Members → Members
  | [] => [(name, part)]
  | member :: rest =>
    if member.1 = name then (name, part) :: rest else member :: setMember name part rest

/-- Add a value under the last part of a key.  The tables on the way must have come from keys
or, at their first use, be new. -/
def addValue (document : Document) (isDotted : Bool) :
    List String → Origin → Members → Option Members
  | [], _, _ => none
  | [name], origin, members =>
    if (origin = .dotted) ≠ isDotted then none
    else if (members.lookup name).isSome then none
    else some (setMember name (.value document) members)
  | name :: rest, _, members =>
    match members.lookup name with
    | none => do
      let inner ← addValue document true rest .dotted []
      some (setMember name (.table .dotted inner) members)
    | some (.table .header _) => none
    | some (.table origin inner) => do
      let inner ← addValue document true rest origin inner
      some (setMember name (.table origin inner) members)
    | some _ => none

/-- Change the table that a header leads to. -/
def atHeader (change : Option Part → Option Part) : List String → Members → Option Members
  | [], _ => none
  | [name], members => do
    some (setMember name (← change (members.lookup name)) members)
  | name :: rest, members =>
    match members.lookup name with
    | none => do
      some (setMember name (.table .passed (← atHeader change rest [])) members)
    | some (.table origin inner) => do
      some (setMember name (.table origin (← atHeader change rest inner)) members)
    | some (.tables (last :: before)) => do
      some (setMember name (.tables ((← atHeader change rest last) :: before)) members)
    | some _ => none

/-- Open a table by its header. -/
def openTable : Option Part → Option Part
  | none => some (.table .header [])
  | some (.table .passed members) => some (.table .header members)
  | some _ => none

/-- Open one more table of a name. -/
def openNextTable : Option Part → Option Part
  | none => some (.tables [[]])
  | some (.tables items) => some (.tables ([] :: items))
  | some _ => none

/-- Add a value to the table that the last header has opened. -/
def addToOpen (document : Document) (key : List String) : Option Part → Option Part
  | some (.table origin members) => do
    some (.table origin (← addValue document false key origin members))
  | some (.tables (last :: before)) => do
    some (.tables ((← addValue document false key .header last) :: before))
  | _ => none

mutual

/-- The document of a finished part. -/
def Part.document : Part → Document
  | .value document => document
  | .table _ members => .fields (documentMembers members)
  | .tables items => .list (documentTables items).reverse

def documentMembers : List (String × Part) → List (String × Document)
  | [] => []
  | (name, part) :: rest => (name, part.document) :: documentMembers rest

def documentTables : List (List (String × Part)) → List Document
  | [] => []
  | members :: rest => .fields (documentMembers members) :: documentTables rest

end

end ProviderRouting.Toml
