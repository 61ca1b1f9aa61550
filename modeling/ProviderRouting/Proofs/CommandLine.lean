import ProviderRouting.CommandLine.Run
import ProviderRouting.Proofs.Engine.Revision
import ProviderRouting.Proofs.Files
import ProviderRouting.Proofs.Json.Reading
import ProviderRouting.Proofs.Script

/-!
# Simulations that are carried on

A simulation may be carried out in two parts, with the state file between them: the second part
prints what it would have printed if it had followed in the same run.
-/

namespace ProviderRouting.CommandLine

open ScriptStep

variable {config : Configuration} {simulation between after left right : Simulation}
  {first second steps : List ScriptStep} {lines : List String} {start : Millis}

/-! ## The lines of some steps -/

theorem stepLines_cons {step : ScriptStep} {report : Document} {outcome : Except RoutingError Unit}
    (hrun : simulation.run step = .ok (report, between))
    (hrest : stepLines between steps = (lines, outcome, after)) :
    stepLines simulation (step :: steps) =
      (Json.compact report.sorted :: lines, outcome, after) := by
  rw [stepLines, hrun]
  simp only [hrest]

/-- What follows steps that were all carried out goes on after them. -/
theorem stepLines_append (hfirst : stepLines simulation first = (lines, .ok (), between))
    (second : List ScriptStep) :
    stepLines simulation (first ++ second) =
      (lines ++ (stepLines between second).1, (stepLines between second).2) := by
  induction first generalizing simulation lines with
  | nil =>
      cases hfirst
      rfl
  | cons step rest ih =>
      rw [stepLines] at hfirst
      cases hrun : simulation.run step with
      | error cause => simp [hrun] at hfirst
      | ok result =>
          obtain ⟨report, next⟩ := result
          simp only [hrun, Prod.mk.injEq] at hfirst
          obtain ⟨rfl, houtcome⟩ := hfirst
          exact stepLines_cons hrun (ih (Prod.ext rfl houtcome))

/-- Events are carried out to their end. -/
theorem exists_stepLines (simulation : Simulation)
    (hreachable : Engine.ReachableBy Engine.TellsWellFormed config simulation.engine)
    (hevents : AreEvents simulation.clock.now steps) :
    ∃ lines after, stepLines simulation steps = (lines, .ok (), after) ∧
      lines.length = steps.length ∧
      after.clock.now = timeAfterAll simulation.clock.now steps ∧
      Engine.ReachableBy Engine.TellsWellFormed config after.engine ∧
      after.engine.series.grouping = simulation.engine.series.grouping ∧
      MovesBy (2 * steps.length) simulation.engine.revision after.engine.revision := by
  induction steps generalizing simulation with
  | nil => exact ⟨[], simulation, rfl, rfl, rfl, hreachable, rfl, .refl _⟩
  | cons step rest ih =>
      obtain ⟨report, next, hrun, hclock, hengine⟩ := Simulation.exists_run hevents.1
      have hnext : Engine.ReachableBy Engine.TellsWellFormed config next.engine ∧
          next.engine.series.grouping = simulation.engine.series.grouping ∧
          MovesBy 2 simulation.engine.revision next.engine.revision := by
        rcases hengine with hsame | ⟨call, hcall, hperformed⟩
        · rw [hsame]
          exact ⟨hreachable, rfl, (MovesBy.refl _).mono (Nat.zero_le 2)⟩
        · rw [hperformed]
          exact ⟨hreachable.told simulation.clock.now hcall, Engine.perform_grouping hcall.1,
            Engine.perform_movesBy hcall.1 simulation.engine simulation.clock.now⟩
      obtain ⟨hnext, hkept, hmoves⟩ := hnext
      obtain ⟨lines, after, hlines, hlength, htime, hafter, hgrouping, hrest⟩ :=
        ih next hnext (hclock ▸ hevents.2)
      refine ⟨Json.compact report.sorted :: lines, after, stepLines_cons hrun hlines,
        congrArg Nat.succ hlength, htime.trans (congrArg (timeAfterAll · rest) hclock), hafter,
        hgrouping.trans hkept, ?_⟩
      rw [List.length_cons, Nat.mul_succ, Nat.add_comm]
      exact hmoves.trans hrest

/-- Simulations that agree print the same lines for events. -/
theorem exists_stepLines_agree (hagrees : left.AgreesFrom start right)
    (hevents : AreEvents left.clock.now steps) :
    ∃ lines leftAfter rightAfter, stepLines left steps = (lines, .ok (), leftAfter) ∧
      stepLines right steps = (lines, .ok (), rightAfter) ∧ lines.length = steps.length := by
  induction steps generalizing left right with
  | nil => exact ⟨[], left, right, rfl, rfl, rfl⟩
  | cons step rest ih =>
      obtain ⟨report, leftNext, rightNext, hleft, hright, hnext⟩ := hagrees.run hevents.1
      obtain ⟨_, next, hrun, hclock, -⟩ := Simulation.exists_run hevents.1
      rw [hleft] at hrun
      cases hrun
      obtain ⟨lines, leftAfter, rightAfter, hleft_lines, hright_lines, hlength⟩ :=
        ih hnext (hclock ▸ hevents.2)
      exact ⟨Json.compact report.sorted :: lines, leftAfter, rightAfter,
        stepLines_cons hleft hleft_lines, stepLines_cons hright hright_lines,
        congrArg Nat.succ hlength⟩

/-! ## Simulations with a state file -/

variable {files : Files} {engine restored : Engine} {path : String}

/-- Whatever becomes of the state file in the end, the lines are those of the steps. -/
theorem simulateWithState_lines {found : Bool} {state : PersistentEngine}
    (hload : PersistentEngine.load { engine, store := { medium := .file path files } } =
      (.ok found, state)) (start : Millis) (steps : List ScriptStep) :
    (simulateWithState files engine start steps path).lines =
      (stepLines ⟨state.engine, ⟨start⟩⟩ steps).1 := by
  rw [simulateWithState, hload]
  rcases hlines : stepLines ⟨state.engine, ⟨start⟩⟩ steps with ⟨lines, cause | ⟨⟩, after⟩
  · simp only [hlines]
  · simp only [hlines]
    rcases hflush : PersistentEngine.flush { state with engine := after.engine } after.clock.now
      with ⟨cause | flushed, flushed⟩
    all_goals rfl

/-- Without a state file there is nothing to load. -/
theorem load_of_notFound (hmissing : files.read (.ofText path) = .error .notFound)
    (engine : Engine) :
    PersistentEngine.load { engine, store := { medium := .file path files } } =
      (.ok false, { engine, store := { medium := .file path files } }) := by
  simp [PersistentEngine.load, SnapshotStore.load, Snapshot.read, hmissing]

/-- Steps print the same lines without a state file as with one that is missing. -/
theorem simulateSteps_lines {state : Option String}
    (hmissing : ∀ path ∈ state, files.read (.ofText path) = .error .notFound)
    (engine : Engine) (start : Millis) (steps : List ScriptStep) :
    (simulateSteps files engine start steps state).lines =
      (stepLines ⟨engine, ⟨start⟩⟩ steps).1 := by
  cases state with
  | none =>
      rw [simulateSteps]
      rcases stepLines ⟨engine, ⟨start⟩⟩ steps with ⟨lines, cause | ⟨⟩, after⟩ <;> rfl
  | some path =>
      exact simulateWithState_lines (load_of_notFound (hmissing path rfl) engine) start steps

/-- A state file that holds a snapshot is restored. -/
theorem load_of_ofText? {text : String} {snapshot : Snapshot}
    (hread : files.read (.ofText path) = .ok text) (htext : Snapshot.ofText? text = some snapshot)
    (hreadable : snapshot.ensureReadable = .ok ())
    (hrestore : engine.restore snapshot = .ok restored) :
    PersistentEngine.load { engine, store := { medium := .file path files } } =
      (.ok true, {
        engine := restored
        store := { medium := .file path files }
        lastFlushed := restored.revision }) := by
  have hstored : Snapshot.read files path = .ok (some snapshot) := by
    rw [Snapshot.read, hread]
    simp only [htext, hreadable]
    rfl
  simp only [PersistentEngine.load, SnapshotStore.load, hstored, hrestore]

/-- A flush to a file leaves the snapshot there, unless it fails or nothing is due. -/
theorem exists_flush_contents (files : Files) (path : String) (engine : Engine)
    (lastFlushed : UInt64) (now : Millis) :
    ∃ outcome flushed after,
      PersistentEngine.flush { engine, store := { medium := .file path files }, lastFlushed } now =
        (outcome, flushed) ∧ flushed.store.medium = .file path after ∧
        (after.contents.get? (.ofText path) = some (engine.snapshot now).1.fileText ∨
          after.contents.get? (.ofText path) = files.contents.get? (.ofText path) ∧
            ((∃ cause, outcome = .error cause) ∨ engine.revision = lastFlushed)) := by
  rw [PersistentEngine.flush]
  split
  · simp only [SnapshotStore.save]
    rcases Snapshot.write_contents files path (engine.snapshot now).1 with
      ⟨cause, after, hwrite, hcontents⟩ | ⟨after, hwrite, hcontents⟩
    · rw [hwrite]
      exact ⟨_, _, after, rfl, rfl, .inr ⟨hcontents, .inl ⟨cause, rfl⟩⟩⟩
    · rw [hwrite]
      exact ⟨_, _, after, rfl, rfl, .inl hcontents⟩
  · next hdue =>
    rw [PersistentEngine.isDue, bne_iff_ne, ne_eq, Decidable.not_not] at hdue
    exact ⟨_, _, files, rfl, rfl, .inr ⟨rfl, .inr hdue.symm⟩⟩

/-- A first run leaves the snapshot of the engine at its end in the state file, unless it fails
to, or the revision has come to its end. -/
theorem simulateWithState_contents (hmissing : files.read (.ofText path) = .error .notFound)
    (hlines : stepLines ⟨engine, ⟨start⟩⟩ steps = (lines, .ok (), after)) :
    (simulateWithState files engine start steps path).files.read (.ofText path) =
        .ok (after.engine.snapshot after.clock.now).1.fileText ∨
      (¬ ∃ text, (simulateWithState files engine start steps path).files.read (.ofText path) =
        .ok text) ∧
        ((simulateWithState files engine start steps path).outcome ≠ .ok () ∨
          after.engine.revision = 18446744073709551615) := by
  obtain ⟨outcome, flushed, written, hflush, hmedium, hcontents⟩ :=
    exists_flush_contents files path after.engine 18446744073709551615 after.clock.now
  have hreport : (simulateWithState files engine start steps path).files = written ∧
      ((∃ cause, outcome = .error cause) →
        (simulateWithState files engine start steps path).outcome ≠ .ok ()) := by
    rw [simulateWithState, load_of_notFound hmissing]
    simp only [hlines, hflush, hmedium]
    cases outcome with
    | error cause => exact ⟨rfl, fun _ hok => nomatch hok⟩
    | ok saved => exact ⟨rfl, fun ⟨_, hfailed⟩ => nomatch hfailed⟩
  obtain ⟨hfiles, hfailed⟩ := hreport
  rw [hfiles]
  rcases hcontents with hsnapshot | ⟨hsame, hreason⟩
  · exact .inl (Files.read_eq_ok_iff.mpr hsnapshot)
  · refine .inr ⟨?_, hreason.imp_left hfailed⟩
    rintro ⟨text, htext⟩
    rw [Files.read_eq_ok_iff, hsame, ← Files.read_eq_ok_iff, hmissing] at htext
    cases htext

/-- A first run of events that ends well leaves a state file, if the revision has room for its
changes. -/
theorem exists_state_of_ok (hbuilt : Engine.ofConfiguration config = .ok engine)
    (hevents : AreEvents start steps) (hmissing : files.read (.ofText path) = .error .notFound)
    (hok : (simulateWithState files engine start steps path).outcome = .ok ())
    (hroom : (Routes.settingsOf config).rows.length + 2 * steps.length < 18446744073709551615) :
    ∃ text, (simulateWithState files engine start steps path).files.read (.ofText path) =
      .ok text := by
  obtain ⟨lines, after, hlines, -, -, -, -, hmoves⟩ :=
    exists_stepLines ⟨engine, ⟨start⟩⟩ (.built hbuilt) hevents
  rcases simulateWithState_contents hmissing hlines with hsnapshot | ⟨-, hfailed | hlast⟩
  · exact ⟨_, hsnapshot⟩
  · exact absurd hok hfailed
  · have hbound := ((Engine.ofConfiguration_movesBy hbuilt).trans hmoves).toNat_le
      (by rw [UInt64.toNat_zero]; omega)
    rw [hlast, UInt64.toNat_zero] at hbound
    have hend : (18446744073709551615 : UInt64).toNat = 18446744073709551615 := rfl
    omega

/-- A second run on the state file of a first one prints what the first one would have printed for
the same steps. -/
theorem simulateWithState_resumed {laterFiles : Files} {laterPath text : String}
    (hbuilt : Engine.ofConfiguration config = .ok engine)
    (hfirst : AreEvents start first) (hsecond : AreEvents (timeAfterAll start first) second)
    (hmissing : files.read (.ofText path) = .error .notFound)
    (hwritten : (simulateWithState files engine start first path).files.read (.ofText path) =
      .ok text)
    (hstored : laterFiles.read (.ofText laterPath) = .ok text) :
    ∃ earlierLines between laterLines after,
      stepLines ⟨engine, ⟨start⟩⟩ first = (earlierLines, .ok (), between) ∧
      stepLines between second = (laterLines, .ok (), after) ∧
      earlierLines.length = first.length ∧ laterLines.length = second.length ∧
      (simulateWithState files engine start first path).lines = earlierLines ∧
      (simulateWithState laterFiles engine (timeAfterAll start first) second laterPath).lines =
        laterLines := by
  obtain ⟨earlierLines, between, hearlier, hlength, hclock, hreachable, hgrouping, -⟩ :=
    exists_stepLines ⟨engine, ⟨start⟩⟩ (.built hbuilt) hfirst
  obtain ⟨snapshot, restored, htext, hreadable, hrestore, hagrees⟩ :=
    Engine.exists_restore_fileText hreachable (.built hbuilt) hgrouping.symm between.clock.now
  -- there was no file before, so what is read can only have been written at the end
  have hstate : text = (between.engine.snapshot between.clock.now).1.fileText := by
    rcases simulateWithState_contents hmissing hearlier with hsnapshot | ⟨hnone, -⟩
    · exact Except.ok.inj (hwritten.symm.trans hsnapshot)
    · exact absurd ⟨text, hwritten⟩ hnone
  have hresumed : between.AgreesFrom between.clock.now ⟨restored, ⟨timeAfterAll start first⟩⟩ :=
    ⟨hagrees, congrArg Clock.mk hclock, Int.le_refl _⟩
  obtain ⟨laterLines, after, resumedAfter, hlater, hresumed_lines, hlater_length⟩ :=
    exists_stepLines_agree hresumed (hclock ▸ hsecond)
  refine ⟨earlierLines, between, laterLines, after, hearlier, hlater, hlength, hlater_length,
    ?_, ?_⟩
  · rw [simulateWithState_lines (load_of_notFound hmissing engine), hearlier]
  · rw [simulateWithState_lines (load_of_ofText? (hstate ▸ hstored) htext hreadable hrestore),
      hresumed_lines]

/-! ## The command -/

structure Inputs where
  surroundings : Surroundings
  /-- The path of the configuration. -/
  config : String
  /-- The path of the script. -/
  script : String

namespace Inputs

variable {inputs earlier later whole : Inputs} {script : String}

def simulate (inputs : Inputs) (state : Option String) (start : Millis) : Report :=
  Command.run inputs.surroundings (.simulate inputs.config inputs.script state (some start))

structure Hold (inputs : Inputs) (config : Configuration) (script : String) : Prop where
  config : Configuration.load inputs.surroundings.files inputs.surroundings.home inputs.config =
    .ok config
  script : inputs.surroundings.files.read (.ofText inputs.script) = .ok script

/-- Only valid configurations are loaded. -/
theorem Hold.valid (hinputs : inputs.Hold config script) : config.validate = .ok () := by
  have hload := hinputs.config
  rw [Configuration.load] at hload
  split at hload
  · cases hload
  · rw [Configuration.ofText] at hload
    split at hload
    · cases hload
    · obtain ⟨⟨⟩, hvalid, hsame⟩ := bind_eq_ok_iff.mp hload
      cases hsame
      exact hvalid

theorem Hold.simulate_eq (hinputs : inputs.Hold config script)
    (hscript : readScript script = .ok steps) (hbuilt : Engine.ofConfiguration config = .ok engine)
    (state : Option String) (start : Millis) :
    inputs.simulate state start =
      simulateSteps inputs.surroundings.files engine start steps state := by
  rw [simulate, Command.run, runSimulation]
  simp only [hinputs.config, hinputs.script, hscript, hbuilt]
  rfl

/-- A simulation that ends after some events leaves its state, unless it fails to or the revision
has come to its end.  Carried on from that state at the time it had come to, it prints what it
would have printed without the interruption. -/
theorem simulate_resumed {earlierScript laterScript wholeScript path : String}
    {wholeState : Option String}
    (hearlier : earlier.Hold config earlierScript) (hwhole : whole.Hold config wholeScript)
    (hscripts : textLines wholeScript = textLines earlierScript ++ textLines laterScript)
    (hfirst : readScript earlierScript = .ok first) (hsecond : readScript laterScript = .ok second)
    (hfirst_events : AreEvents start first)
    (hsecond_events : AreEvents (timeAfterAll start first) second)
    (hmissing : earlier.surroundings.files.read (.ofText path) = .error .notFound)
    (hstateless : ∀ path ∈ wholeState,
      whole.surroundings.files.read (.ofText path) = .error .notFound) :
    ((earlier.simulate (some path) start).outcome = .ok () →
      (Routes.settingsOf config).rows.length + 2 * first.length < 18446744073709551615 →
        ∃ state, (earlier.simulate (some path) start).files.read (.ofText path) = .ok state) ∧
    ∀ (later : Inputs) (laterPath state : String), later.Hold config laterScript →
      (earlier.simulate (some path) start).files.read (.ofText path) = .ok state →
        later.surroundings.files.read (.ofText laterPath) = .ok state →
          (whole.simulate wholeState start).lines =
              (earlier.simulate (some path) start).lines ++
                (later.simulate (some laterPath) (timeAfterAll start first)).lines ∧
            (earlier.simulate (some path) start).lines.length = first.length ∧
            (later.simulate (some laterPath) (timeAfterAll start first)).lines.length =
              second.length := by
  obtain ⟨engine, hbuilt⟩ := Engine.exists_ofConfiguration hearlier.valid
  rw [hearlier.simulate_eq hfirst hbuilt]
  refine ⟨exists_state_of_ok hbuilt hfirst_events hmissing, ?_⟩
  intro later laterPath state hlater hwritten hstored
  rw [hlater.simulate_eq hsecond hbuilt,
    hwhole.simulate_eq (readScript_append hscripts hfirst hsecond) hbuilt,
    simulateSteps_lines hstateless]
  obtain ⟨earlierLines, between, laterLines, after, hsteps, hrest, hlength, hlater_length, hprinted,
      hresumed⟩ :=
    simulateWithState_resumed hbuilt hfirst_events hsecond_events hmissing hwritten hstored
  simp only [simulateSteps, hprinted, hresumed, stepLines_append hsteps, hrest]
  exact ⟨trivial, hlength, hlater_length⟩

/-! A script in two parts: a key fails, and is used again while it cools down. -/

/-- `Engine.twoAliases` as it stands in a file. -/
def routesDocument : Document :=
  .fields [("routes", .fields [("chat", .fields [("tiers", .list [.fields [
    ("mode", .text "priority"),
    ("targets", .list [.fields [("provider", .text "north"), ("model", .text "large"),
      ("aliases", .list [.text "a", .text "b"])]])]])])])]

def routesText : String :=
  Json.compact routesDocument

def errorDocument : Document :=
  .fields [("op", .text "error"), ("key", .text "north/a/large"), ("status", .int 429)]

def waitDocument : Document :=
  .fields [("op", .text "advance"), ("secs", .int 30)]

def usageDocument : Document :=
  .fields [("op", .text "usage"), ("key", .text "north/a/large"), ("tokens", .int 7)]

def errorLine : String :=
  Json.compact errorDocument

def waitLine : String :=
  Json.compact waitDocument

def usageLine : String :=
  Json.compact usageDocument

def failureSteps : List ScriptStep :=
  [.error "north/a/large" (some 429) none none none, .advance 30 0]

def usageStep : ScriptStep :=
  .usage "north/a/large" 7

/-- A folder with the routes, both parts of the script, and the whole script. -/
def folder : Files where
  contents := .ofList [(["routes.json"], routesText),
    (["first"], errorLine ++ "\n" ++ waitLine), (["second"], usageLine),
    (["whole"], errorLine ++ "\n" ++ waitLine ++ "\n" ++ usageLine)]

def inFolder (files : Files) (script : String) : Inputs where
  surroundings := { files, home := "/home", now := 0 }
  config := "routes.json"
  script

theorem inFolder_files (files : Files) (script : String) :
    (inFolder files script).surroundings.files = files :=
  rfl

theorem hold_inFolder (hroutes : files.contents.get? ["routes.json"] = some routesText)
    {name : String} (hname : Path.ofText name = [name])
    (hscript : files.contents.get? [name] = some script) :
    (inFolder files name).Hold Engine.twoAliases script := by
  have hpath : Configuration.homePath "/home" "routes.json" = ["routes.json"] := by
    decide +kernel
  have hformat : ConfigFormat.ofName "routes.json" = .json := by decide +kernel
  have hlegible : Json.IsLegible routesDocument := by
    simp [routesDocument, Json.IsLegible, Json.AreLegible, Json.MembersLegible]
  have hparse : (Json.parse? routesText).bind Configuration.decode = some Engine.twoAliases := by
    rw [routesText, Json.parse?_compact hlegible]
    rfl
  refine ⟨?_, ?_⟩
  · change Configuration.load files "/home" "routes.json" = _
    rw [Configuration.load, hpath, Files.read_eq_ok_iff.mpr hroutes]
    change Configuration.ofText (.ofName "routes.json") routesText = _
    rw [hformat, Configuration.ofText, ConfigFormat.parse?, hparse]
    simp only [Engine.twoAliases_valid]
    rfl
  · change files.read (.ofText name) = _
    rw [hname]
    exact Files.read_eq_ok_iff.mpr hscript

theorem readScript_first : readScript (errorLine ++ "\n" ++ waitLine) = .ok failureSteps := by
  have hlines : textLines (errorLine ++ "\n" ++ waitLine) = [errorLine, waitLine] := by
    decide +kernel
  have hread : isPassedOver errorLine = false ∧ isPassedOver waitLine = false := by
    decide +kernel
  have herror : Json.parse? errorLine = some errorDocument :=
    Json.parse?_compact ⟨trivial, trivial, ⟨by decide, by decide⟩, trivial⟩
  have hwait : Json.parse? waitLine = some waitDocument :=
    Json.parse?_compact ⟨trivial, ⟨by decide, by decide⟩, trivial⟩
  rw [readScript, hlines]
  simp only [parseLines, hread, ofLine?, herror, hwait]
  rfl

theorem readScript_second : readScript usageLine = .ok [usageStep] := by
  have hlines : textLines usageLine = [usageLine] := by decide +kernel
  have hread : isPassedOver usageLine = false := by decide +kernel
  have husage : Json.parse? usageLine = some usageDocument :=
    Json.parse?_compact ⟨trivial, trivial, ⟨by decide, by decide⟩, trivial⟩
  rw [readScript, hlines]
  simp only [parseLines, hread, ofLine?, husage]
  rfl

/-- A key that cooled down before a restart still does after it. -/
theorem simulate_resumed_folder :
    ((inFolder folder "whole").simulate none 0).lines =
      ((inFolder folder "first").simulate (some "state") 0).lines ++
        ((inFolder ((inFolder folder "first").simulate (some "state") 0).files "second").simulate
          (some "state") 30000).lines := by
  have hnames : NamesKey "north/a/large" := ⟨⟨"north", "a", "large"⟩, by decide +kernel⟩
  have hfirst : (inFolder folder "first").Hold Engine.twoAliases (errorLine ++ "\n" ++ waitLine) :=
    hold_inFolder (by decide +kernel) (by decide +kernel) (by decide +kernel)
  have hwhole : (inFolder folder "whole").Hold Engine.twoAliases
      (errorLine ++ "\n" ++ waitLine ++ "\n" ++ usageLine) :=
    hold_inFolder (by decide +kernel) (by decide +kernel) (by decide +kernel)
  obtain ⟨engine, hbuilt⟩ := Engine.exists_ofConfiguration_twoAliases
  have hrun := hfirst.simulate_eq readScript_first hbuilt (some "state") 0
  generalize hafter : ((inFolder folder "first").simulate (some "state") 0).files = after
  have hreport : ((inFolder folder "first").simulate (some "state") 0).outcome = .ok () ∧
      after.contents.get? ["routes.json"] = some routesText ∧
        after.contents.get? ["second"] = some usageLine := by
    simp only [Engine.ofConfiguration, Engine.publish, Routes.ofConfiguration,
      Engine.twoAliases_valid] at hbuilt
    cases hbuilt
    rw [← hafter, hrun]
    decide +kernel
  obtain ⟨hok, hroutes, hscript⟩ := hreport
  have hsecond : (inFolder after "second").Hold Engine.twoAliases usageLine :=
    hold_inFolder hroutes (by decide +kernel) hscript
  have hmissing : folder.read (.ofText "state") = .error .notFound := by decide +kernel
  have hevents : AreEvents 0 failureSteps := ⟨hnames, ⟨by decide, by decide⟩, trivial⟩
  have hroom : (Routes.settingsOf Engine.twoAliases).rows.length + 2 * failureSteps.length <
      18446744073709551615 := by decide +kernel
  obtain ⟨hleaves, hresumes⟩ := simulate_resumed hfirst hwhole (by decide +kernel)
    readScript_first readScript_second hevents ⟨hnames, trivial⟩ hmissing
    (fun path hpath => absurd hpath (Option.not_mem_none path))
  obtain ⟨state, hstate⟩ := hleaves hok hroom
  have hstored : (inFolder after "second").surroundings.files.read (.ofText "state") =
      .ok state := by
    rw [inFolder_files, ← hafter]
    exact hstate
  have hlines := (hresumes _ "state" state hsecond hstate hstored).1
  have htime : timeAfterAll 0 failureSteps = 30000 := by decide +kernel
  rw [htime] at hlines
  exact hlines

end Inputs

end ProviderRouting.CommandLine
