import ProviderRouting.Files.Basic

/-!
# Replacing a file

New content is written to a file beside the target, and only the finished file takes the
target's place.  Whoever reads the target thus finds the old content or all of the new content.
Whatever happens, the file beside the target is removed in the end.
-/

namespace ProviderRouting

namespace Replacement

/-- The text of the path beside a target. -/
def beside (target : String) : String :=
  target ++ ".tmp"

/-- Begin: make the target's folder and an empty file beside the target. -/
def opening (target : String) : List FileStep :=
  [.makeFolders (Path.ofText target).dropLast, .create (.ofText (beside target))]

/-- Write the chunks of the new content one after the other. -/
def writing (target : String) (chunks : List String) : List FileStep :=
  chunks.map (.append (.ofText (beside target)))

/-- Put the finished file in the target's place, if the replacement is to be committed. -/
def closing (target : String) (commit : Bool) : List FileStep :=
  if commit then [.rename (.ofText (beside target)) (.ofText target)] else []

/-- Remove the file beside the target, if it is still there. -/
def cleanUp (files : Files) (target : String) : Files :=
  (files.performAll [.remove (.ofText (beside target))]).2

/-- Carry out a replacement.  One that cannot begin leaves nothing to clean up. -/
def run (files : Files) (target : String) (chunks : List String) (commit : Bool) :
    Except FileError Unit × Files :=
  match files.performAll (opening target) with
  | (.error cause, files) => (.error cause, files)
  | (.ok (), files) =>
    let (outcome, files) := files.performAll (writing target chunks ++ closing target commit)
    (outcome, cleanUp files target)

end Replacement

end ProviderRouting
