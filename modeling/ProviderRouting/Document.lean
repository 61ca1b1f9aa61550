/-!
# Documents

A document is what every text format of this library is read into and written from: scalars,
lists, and mappings whose members keep their order and may repeat a name.
-/

namespace ProviderRouting

inductive Document where
  | null
  | bool (value : Bool)
  | int (value : Int)
  | float (value : Float)
  | text (value : String)
  /-- A scalar without quotes in a format where the reader decides its type. -/
  | plain (literal : String)
  /-- A part that is well formed but stands for no value; it may only be skipped. -/
  | unreadable
  | list (items : List Document)
  | fields (members : List (String × Document))
deriving Inhabited

namespace Document

mutual

/-- The nesting of lists and mappings. -/
def depth : Document → Nat
  | .list items => depthOfItems items + 1
  | .fields members => depthOfMembers members + 1
  | _ => 0

def depthOfItems : List Document → Nat
  | [] => 0
  | item :: rest => max (depth item) (depthOfItems rest)

def depthOfMembers : List (String × Document) → Nat
  | [] => 0
  | (_, member) :: rest => max (depth member) (depthOfMembers rest)

end

mutual

/-- No part of the document is unreadable. -/
def isReadable : Document → Bool
  | .unreadable => false
  | .list items => areReadable items
  | .fields members => membersReadable members
  | _ => true

def areReadable : List Document → Bool
  | [] => true
  | item :: rest => isReadable item && areReadable rest

def membersReadable : List (String × Document) → Bool
  | [] => true
  | (_, member) :: rest => isReadable member && membersReadable rest

end

/-- Put a member before the first member with a later name. -/
def insertMember (member : String × Document) :
    List (String × Document) → List (String × Document)
  | [] => [member]
  | head :: rest =>
    if member.1 < head.1 then member :: head :: rest else head :: insertMember member rest

mutual

/-- The same document with the members of every mapping in the order of their names. -/
def sorted : Document → Document
  | .list items => .list (sortedItems items)
  | .fields members => .fields (sortedMembers members)
  | other => other

def sortedItems : List Document → List Document
  | [] => []
  | item :: rest => sorted item :: sortedItems rest

def sortedMembers : List (String × Document) → List (String × Document)
  | [] => []
  | (name, member) :: rest => insertMember (name, sorted member) (sortedMembers rest)

end

/-- A value that may be absent. -/
def ofOption {α : Type} (encode : α → Document) : Option α → Document
  | none => .null
  | some value => encode value

/-- The value of a mapping's last member of this name. -/
def member? (document : Document) (name : String) : Option Document :=
  match document with
  | .fields members => members.reverse.lookup name
  | _ => none

end Document

end ProviderRouting
