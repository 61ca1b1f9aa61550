import ProviderRouting.Table

/-!
# Files

A file system is read as a map from paths to contents, and a set of folders.  It changes by
single steps, each of which happens as a whole or fails and changes nothing.
-/

namespace ProviderRouting

/-- The names that lead to a file or folder. -/
abbrev Path := List String

namespace Path

/-- Follow one more name.  An empty name and `.` stay, and `..` goes back. -/
def follow (path : Path) (name : String) : Path :=
  if name = "" ∨ name = "." then path
  else if name = ".." then path.dropLast
  else path ++ [name]

/-- The names between the slashes of a text, read from a name begun in reverse. -/
def namesFrom (begun : List Char) : List Char → List String
  | [] => [.ofList begun.reverse]
  | '/' :: rest => .ofList begun.reverse :: namesFrom [] rest
  | character :: rest => namesFrom (character :: begun) rest

/-- The path that a text names.  A leading slash is a name of its own, so that a path from the
root differs from one from the current folder. -/
def ofText (text : String) : Path :=
  let start : Path := if text.toList.head? = some '/' then ["/"] else []
  (namesFrom [] text.toList).foldl follow start

/-- The path and its folders, the outermost first. -/
def lineage (path : Path) : List Path :=
  (List.range path.length).map fun count => path.take (count + 1)

end Path

/-- Why a file cannot be read or changed. -/
inductive FileError where
  | notFound
  /-- A file stands where a folder is needed, or a folder where a file is needed. -/
  | wrongKind
deriving DecidableEq, Repr

structure Files where
  contents : Table Path String := ∅
  folders : Table Path Unit := ∅
deriving Inhabited

/-- A change of the file system. -/
inductive FileStep where
  /-- Make a folder and the folders on the way to it. -/
  | makeFolders (path : Path)
  /-- Make a file empty, new or not. -/
  | create (path : Path)
  | append (path : Path) (text : String)
  /-- Move a file to a path, in place of the file there. -/
  | rename (source target : Path)
  | remove (path : Path)
deriving DecidableEq

namespace Files

/-- The current folder and the root always exist. -/
def isFolder (files : Files) (path : Path) : Bool :=
  path = [] || path = ["/"] || files.folders.contains path

/-- The content of a file, or why there is none: a file on the way is not a missing file. -/
def read (files : Files) (path : Path) : Except FileError String :=
  match files.contents.get? path with
  | some text => .ok text
  | none =>
    if files.isFolder path || path.lineage.any files.contents.contains then .error .wrongKind
    else .error .notFound

/-- A file may be put at a path whose folder exists. -/
def ensurePlace (files : Files) (path : Path) : Except FileError Unit :=
  if files.isFolder path then .error .wrongKind
  else if files.isFolder path.dropLast then .ok ()
  else if path.lineage.any files.contents.contains then .error .wrongKind
  else .error .notFound

def put (files : Files) (path : Path) (text : String) : Files :=
  { files with contents := files.contents.insert path text }

def makeFolder (files : Files) (path : Path) : Except FileError Files :=
  if files.contents.contains path then .error .wrongKind
  else if files.isFolder path then .ok files
  else .ok { files with folders := files.folders.insert path () }

/-- Carry out one step. -/
def perform (files : Files) : FileStep → Except FileError Files
  | .makeFolders path => path.lineage.foldlM makeFolder files
  | .create path => do
    files.ensurePlace path
    .ok (files.put path "")
  | .append path text => do
    let content ← files.read path
    .ok (files.put path (content ++ text))
  | .rename source target => do
    let content ← files.read source
    files.ensurePlace target
    .ok { files with contents := (files.contents.erase source).insert target content }
  | .remove path => do
    let _ ← files.read path
    .ok { files with contents := files.contents.erase path }

/-- Carry out steps until one fails; what was done before stays done. -/
def performAll (files : Files) : List FileStep → Except FileError Unit × Files
  | [] => (.ok (), files)
  | step :: rest =>
    match files.perform step with
    | .ok files => files.performAll rest
    | .error cause => (.error cause, files)

/-- Put a file with its folders, in place of what is there. -/
def withFile (files : Files) (path : Path) (text : String) : Files :=
  ((files.performAll [.makeFolders path.dropLast, .create path, .append path text]).2)

/-- The file system that holds some files. -/
def ofList (named : List (String × String)) : Files :=
  named.foldl (fun files file => files.withFile (.ofText file.1) file.2) {}

end Files

end ProviderRouting
