import ProviderRouting.CommandLine.Run

/-!
# The program

Loads the files that a command names, carries the command out, prints its lines, and replaces
the state file if the command has changed it.
-/

namespace ProviderRouting.CommandLine

def usage : String :=
  "Usage: keyroute [--log-level LEVEL] [--log-json] COMMAND\n\n" ++
    "Commands:\n" ++
    "  check     Validate a routing configuration and print its tiers\n" ++
    "  simulate  Replay a JSONL event script on a manual clock\n" ++
    "  inspect   Print the keys recorded in a quota state file\n"

/-- The paths that a command reads. -/
def Command.paths (home : String) : Command → List Path
  | .check config => [Configuration.homePath home config]
  | .simulate config script state _ =>
    [Configuration.homePath home config, .ofText script] ++
      (state.map Path.ofText).toList
  | .inspect state _ => [.ofText state]

/-- The file that a command may replace. -/
def Command.state? : Command → Option String
  | .simulate _ _ state _ => state
  | _ => none

/-- The text of a path. -/
def pathText : Path → String
  | "/" :: names => "/" ++ String.intercalate "/" names
  | names => String.intercalate "/" names

/-- Take over what stands at a path; a file that cannot be read counts as a folder. -/
def loadPath (files : Files) (path : Path) : IO Files := do
  let place := System.mkFilePath [pathText path]
  if ← place.isDir then
    return { files with folders := files.folders.insert path () }
  else if ← place.pathExists then
    try
      return files.put path (← IO.FS.readFile place)
    catch _ =>
      return { files with folders := files.folders.insert path () }
  else
    return files

/-- Take over what stands at some paths and on the way to them. -/
def loadPaths (paths : List Path) : IO Files :=
  (paths.flatMap Path.lineage).foldlM loadPath {}

/-- Carry out one step on the real files. -/
def performStep : FileStep → IO Unit
  | .makeFolders path => IO.FS.createDirAll (System.mkFilePath [pathText path])
  | .create path => IO.FS.writeFile (System.mkFilePath [pathText path]) ""
  | .append path text => do
    let handle ← IO.FS.Handle.mk (System.mkFilePath [pathText path]) .append
    handle.putStr text
    handle.flush
  | .rename source target =>
    IO.FS.rename (System.mkFilePath [pathText source]) (System.mkFilePath [pathText target])
  | .remove path => IO.FS.removeFile (System.mkFilePath [pathText path])

/-- Replace a real file. -/
def replaceFile (target text : String) : IO Unit := do
  (Replacement.opening target).forM performStep
  try
    (Replacement.writing target [text] ++ Replacement.closing target true).forM performStep
  catch cause =>
    try performStep (.remove (.ofText (Replacement.beside target))) catch _ => pure ()
    throw cause

/-- The time of the wall clock, as a new file is stamped with it. -/
def wallClock : IO Millis := do
  let (_, place) ← IO.FS.createTempFile
  let stamp := (← place.metadata).modified
  IO.FS.removeFile place
  return .clamp (stamp.sec * 1000 + stamp.nsec.toNat / 1000000)

/-- Print a report and replace the state file if it has changed. -/
def finish (command : Command) (before : Files) (report : Report) : IO UInt32 := do
  report.lines.forM IO.println
  match report.outcome with
  | .error cause =>
    IO.eprintln ("Error: " ++ cause.message)
    return report.exitCode
  | .ok () =>
    let changed := command.state?.bind fun path => do
      let text ← report.files.contents.get? (.ofText path)
      if before.contents.get? (.ofText path) = some text then none else some (path, text)
    match changed with
    | none => return report.exitCode
    | some (path, text) =>
      try
        replaceFile path text
        return report.exitCode
      catch _ =>
        IO.eprintln ("Error: " ++ (Failure.routing (.storage .io)).message)
        return 1

end ProviderRouting.CommandLine

open ProviderRouting ProviderRouting.CommandLine in
def main (arguments : List String) : IO UInt32 := do
  match parseArguments arguments with
  | .error .help =>
    IO.println usage
    return Refusal.help.exitCode
  | .error .badArguments =>
    IO.eprintln usage
    return Refusal.badArguments.exitCode
  | .ok command =>
    let home := (← IO.getEnv "HOME").getD "/"
    let files ← loadPaths (command.paths home)
    finish command files (command.run { files, home, now := ← wallClock })
