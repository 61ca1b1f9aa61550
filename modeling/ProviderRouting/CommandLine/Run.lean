import ProviderRouting.CommandLine.Arguments
import ProviderRouting.ConfigurationFile
import ProviderRouting.PersistentEngine
import ProviderRouting.Script.Simulation

/-!
# Carrying out commands

A command reads files, prints lines and may replace its state file.  What was printed before a
failure stays printed.
-/

namespace ProviderRouting.CommandLine

/-- What a command can see. -/
structure Surroundings where
  files : Files
  /-- The home folder. -/
  home : String
  now : Millis

/-- Why a command fails. -/
inductive Failure where
  | invalidConfiguration (path : String)
  | unreadableScript (path : String)
  | script (cause : ScriptError)
  | config (cause : ConfigError)
  | routing (cause : RoutingError)
deriving DecidableEq

def Failure.message : Failure → String
  | .invalidConfiguration path => "Invalid configuration " ++ path
  | .unreadableScript path => "Failed to read script " ++ path
  | .script cause => cause.message
  | .config cause => cause.message
  | .routing cause => cause.message

/-- The printed lines, the outcome, and the files afterwards. -/
structure Report where
  lines : List String := []
  outcome : Except Failure Unit := .ok ()
  files : Files

/-- A text of at least so many characters, filled up with blanks. -/
def padRight (width : Nat) (text : String) : String :=
  text ++ .ofList (List.replicate (width - text.length) ' ')

def tierLines (tier : Tier) : List String :=
  ("  rank " ++ padRight 3 (toString tier.rank.toNat) ++ " " ++ padRight 12 tier.mode.label ++
      " " ++ toString tier.targets.length ++ " keys") ::
    tier.targets.map fun key => "    " ++ key.text

def routeLines (routes : Routes) (name : String) : List String :=
  name :: ((routes.tiers? name).getD []).flatMap tierLines

def runCheck (surroundings : Surroundings) (path : String) : Report :=
  let files := surroundings.files
  match Configuration.load files surroundings.home path with
  | .error _ => { outcome := .error (.invalidConfiguration path), files }
  | .ok config =>
    match Routes.ofConfiguration config with
    | .error cause => { outcome := .error (.config cause), files }
    | .ok routes =>
      { lines := routes.names.flatMap (routeLines routes) ++
          ["OK: " ++ toString routes.keys.length ++ " keys"]
        files }

/-- The lines of a script's steps, up to the first that fails. -/
def stepLines (simulation : Simulation) :
    List ScriptStep → List String × Except RoutingError Unit × Simulation
  | [] => ([], .ok (), simulation)
  | step :: rest =>
    match simulation.run step with
    | .error cause => ([], .error cause, simulation)
    | .ok (report, simulation) =>
      let (lines, outcome) := stepLines simulation rest
      (Json.compact report.sorted :: lines, outcome)

/-- Carry out a script on an engine whose state is kept in a file. -/
def simulateWithState (files : Files) (engine : Engine) (start : Millis)
    (steps : List ScriptStep) (path : String) : Report :=
  let store : SnapshotStore := { medium := .file path files }
  match PersistentEngine.load { engine, store } with
  | (.error cause, _) => { outcome := .error (.routing cause), files }
  | (.ok _, state) =>
    match stepLines ⟨state.engine, ⟨start⟩⟩ steps with
    | (lines, .error cause, _) => { lines, outcome := .error (.routing cause), files }
    | (lines, .ok (), simulation) =>
      let (outcome, state) :=
        { state with engine := simulation.engine }.flush simulation.clock.now
      let files := match state.store.medium with
        | .file _ files => files
        | .memory _ _ => files
      match outcome with
      | .error cause => { lines, outcome := .error (.routing cause), files }
      | .ok _ => { lines, files }

/-- Carry out a script on an engine. -/
def simulateSteps (files : Files) (engine : Engine) (start : Millis) (steps : List ScriptStep) :
    Option String → Report
  | some path => simulateWithState files engine start steps path
  | none =>
    match stepLines ⟨engine, ⟨start⟩⟩ steps with
    | (lines, .error cause, _) => { lines, outcome := .error (.routing cause), files }
    | (lines, .ok (), _) => { lines, files }

def runSimulation (surroundings : Surroundings) (configPath scriptPath : String)
    (state : Option String) (start : Option Millis) : Report :=
  let files := surroundings.files
  match Configuration.load files surroundings.home configPath with
  | .error _ => { outcome := .error (.invalidConfiguration configPath), files }
  | .ok config =>
    match files.read (.ofText scriptPath) with
    | .error _ => { outcome := .error (.unreadableScript scriptPath), files }
    | .ok text =>
      match readScript text with
      | .error cause => { outcome := .error (.script cause), files }
      | .ok steps =>
        match Engine.ofConfiguration config with
        | .error cause => { outcome := .error (.routing (.invalidConfig cause)), files }
        | .ok engine =>
          simulateSteps files engine (start.getD surroundings.now) steps state

/-- The line of an entry as it stands at a time. -/
def entryLine (now : Millis) (row : ProviderKey × QuotaEntry) : String :=
  let window := QuotaSettings.usageWindow {}
  let entry := row.2.asOf now window
  let time := match entry.blockedUntil window with
    | some time => toString time.value
    | none => "-"
  padRight 40 row.1.text ++ " " ++ padRight 14 entry.reason.label ++ " errors=" ++
    padRight 3 (toString entry.consecutiveErrors.toNat) ++ " tier=" ++
    padRight 4 (toString entry.priorityTier.toNat) ++ " until=" ++ time

/-- The line of a series that is cooling down. -/
def seriesLine (row : String × Millis) : String :=
  "series " ++ padRight 33 row.1 ++ " cooling until=" ++ toString row.2.value

def runInspection (surroundings : Surroundings) (path : String) (time : Option Millis) : Report :=
  let files := surroundings.files
  let now := time.getD surroundings.now
  match Snapshot.read files path with
  | .error cause => { outcome := .error (.routing cause), files }
  | .ok none => { lines := ["No quota state at " ++ path], files }
  | .ok (some snapshot) =>
    let head := "version " ++ toString snapshot.version.toNat ++ " updated_at " ++
      toString snapshot.updatedAt.value
    match snapshot.entries with
    | .error cause => { lines := [head], outcome := .error (.routing cause), files }
    | .ok entries =>
      { lines := head :: entries.map (entryLine now) ++
          (snapshot.seriesCooldowns.filter fun _ time => decide (now < time)).rows.map seriesLine
        files }

/-- Carry out a command. -/
def Command.run (surroundings : Surroundings) : Command → Report
  | .check config => runCheck surroundings config
  | .simulate config script state start => runSimulation surroundings config script state start
  | .inspect state time => runInspection surroundings state time

/-- The code that the program ends with. -/
def Refusal.exitCode : Refusal → UInt32
  | .help => 0
  | .badArguments => 2

def Report.exitCode (report : Report) : UInt32 :=
  match report.outcome with
  | .ok () => 0
  | .error _ => 1

end ProviderRouting.CommandLine
