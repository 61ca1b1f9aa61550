import ProviderRouting.Proofs.Engine.Resumption
import ProviderRouting.Script.Simulation

/-!
# Scripts of events

A script that only tells what happened to well-formed keys, and lets time pass, is carried out to
its end.  What it reports depends on nothing that two engines may differ in after a restart.
-/

namespace ProviderRouting

/-! ## Reading scripts -/

/-- Where the lines begin has no part in what they hold. -/
theorem parseLines_number {lines : List String} {steps : List ScriptStep} {number : Nat}
    (hread : parseLines number lines = .ok steps) (other : Nat) :
    parseLines other lines = .ok steps := by
  induction lines generalizing number other steps with
  | nil => exact hread
  | cons line rest ih =>
      rw [parseLines] at hread ⊢
      split at hread
      · next hpassed => exact (if_pos hpassed).trans (ih hread _)
      · next hstep =>
        rw [if_neg hstep]
        cases hline : ScriptStep.ofLine? line with
        | none => simp [hline] at hread
        | some step =>
            rw [hline] at hread
            obtain ⟨later, hlater, hsteps⟩ := bind_eq_ok_iff.mp hread
            exact bind_eq_ok_iff.mpr ⟨later, ih hlater _, hsteps⟩

/-- A script may be read in two parts. -/
theorem parseLines_append {earlier later : List String} {first second : List ScriptStep}
    {number after : Nat} (hearlier : parseLines number earlier = .ok first)
    (hlater : parseLines after later = .ok second) :
    parseLines number (earlier ++ later) = .ok (first ++ second) := by
  induction earlier generalizing number first with
  | nil =>
      obtain rfl := Except.ok.inj hearlier
      exact parseLines_number hlater number
  | cons line rest ih =>
      rw [parseLines] at hearlier
      rw [List.cons_append, parseLines]
      split at hearlier
      · next hpassed => exact (if_pos hpassed).trans (ih hearlier)
      · next hstep =>
        rw [if_neg hstep]
        cases hline : ScriptStep.ofLine? line with
        | none => simp [hline] at hearlier
        | some step =>
            rw [hline] at hearlier
            obtain ⟨steps, hsteps, hfirst⟩ := bind_eq_ok_iff.mp hearlier
            obtain rfl := Except.ok.inj hfirst
            exact bind_eq_ok_iff.mpr ⟨steps ++ second, ih hsteps, rfl⟩

theorem readScript_append {whole earlier later : String} {first second : List ScriptStep}
    (hlines : textLines whole = textLines earlier ++ textLines later)
    (hearlier : readScript earlier = .ok first) (hlater : readScript later = .ok second) :
    readScript whole = .ok (first ++ second) := by
  rw [readScript, hlines]
  exact parseLines_append hearlier hlater

/-! ## Events -/

namespace ScriptStep

def NamesKey (text : String) : Prop :=
  ∃ key, ProviderKey.parse? text = some key

def timeAfter (now : Millis) : ScriptStep → Millis
  | .advance seconds milliseconds => .wrap (now.value + (seconds.value * 1000 + milliseconds.value))
  | _ => now

/-- The step tells what happened to a key, or moves the clock on within its range. -/
def IsEvent (now : Millis) : ScriptStep → Prop
  | .select _ _ _ _ _ => False
  | .error text _ _ _ _ => NamesKey text
  | .success text => NamesKey text
  | .usage text _ => NamesKey text
  | .quota text _ _ => NamesKey text
  | .reset text => NamesKey text
  | .advance seconds milliseconds =>
      0 ≤ seconds.value * 1000 + milliseconds.value ∧
        now.value + (seconds.value * 1000 + milliseconds.value) ≤ 9223372036854775807

def timeAfterAll (now : Millis) (steps : List ScriptStep) : Millis :=
  steps.foldl timeAfter now

def AreEvents (now : Millis) : List ScriptStep → Prop
  | [] => True
  | step :: rest => step.IsEvent now ∧ AreEvents (step.timeAfter now) rest

theorem IsEvent.le_timeAfter {now : Millis} {step : ScriptStep} (hevent : step.IsEvent now) :
    now ≤ step.timeAfter now := by
  cases step with
  | advance seconds milliseconds =>
      obtain ⟨hforward, hrange⟩ := hevent
      have hleast := now.least_le
      have hwrap : Int.bmod (now.value + (seconds.value * 1000 + milliseconds.value))
          18446744073709551616 = now.value + (seconds.value * 1000 + milliseconds.value) :=
        Int.bmod_eq_of_le (by omega) (by omega)
      change now.value ≤ Int.bmod _ _
      omega
  | _ => exact Int.le_refl _

end ScriptStep

namespace Simulation

variable {simulation left right : Simulation} {step : ScriptStep} {start : Millis}
  {config : Configuration}

/-! What each step about a key reports, and the engine after it. -/

section Runs

variable {text : String} {key : ProviderKey} {engine : Engine} {clock : Clock}

theorem keyOf_eq_ok (hkey : ProviderKey.parse? text = some key) : keyOf text = .ok key := by
  rw [keyOf, hkey]

theorem run_error (hkey : ProviderKey.parse? text = some key) (status : Option UInt16)
    (code : Option String) (retryAfter : Option Millis) (session : Option String)
    {event : ErrorEvent}
    (hevent : event = { key, code, status, retryAfter, time := clock.now }) :
    run ⟨engine, clock⟩ (.error text status code retryAfter session) =
      .ok (report "error" clock.now [("key", .text text),
          ("outcome", (engine.reportError event session).1.encode)],
        ⟨(engine.reportError event session).2, clock⟩) := by
  subst hevent
  exact bind_eq_ok_iff.mpr ⟨key, keyOf_eq_ok hkey, rfl⟩

theorem run_success (hkey : ProviderKey.parse? text = some key) :
    run ⟨engine, clock⟩ (.success text) =
      .ok (report "success" clock.now [("key", .text text),
          ("reason", (engine.reportSuccess ⟨key, clock.now⟩).1.encode)],
        ⟨(engine.reportSuccess ⟨key, clock.now⟩).2, clock⟩) :=
  bind_eq_ok_iff.mpr ⟨key, keyOf_eq_ok hkey, rfl⟩

theorem run_usage (hkey : ProviderKey.parse? text = some key) (tokens : UInt64) :
    run ⟨engine, clock⟩ (.usage text tokens) =
      .ok (report "usage" clock.now [("key", .text text),
          ("reason", (engine.reportUsage key tokens clock.now).1.encode)],
        ⟨(engine.reportUsage key tokens clock.now).2, clock⟩) :=
  bind_eq_ok_iff.mpr ⟨key, keyOf_eq_ok hkey, rfl⟩

theorem run_quota (hkey : ProviderKey.parse? text = some key) (remaining : Float)
    (resetAt : Option Millis) :
    run ⟨engine, clock⟩ (.quota text remaining resetAt) =
      .ok (report "quota" clock.now [("key", .text text),
          ("reason", (engine.reportQuota ⟨key, remaining, resetAt⟩
            clock.now).1.encode)],
        ⟨(engine.reportQuota ⟨key, remaining, resetAt⟩ clock.now).2,
          clock⟩) :=
  bind_eq_ok_iff.mpr ⟨key, keyOf_eq_ok hkey, rfl⟩

theorem run_reset (hkey : ProviderKey.parse? text = some key) :
    run ⟨engine, clock⟩ (.reset text) =
      .ok (report "reset" clock.now [("key", .text text),
          ("reset", .bool (engine.forgive key clock.now).1)],
        ⟨(engine.forgive key clock.now).2, clock⟩) :=
  bind_eq_ok_iff.mpr ⟨key, keyOf_eq_ok hkey, rfl⟩

theorem run_advance (seconds milliseconds : Millis) :
    run ⟨engine, clock⟩ (.advance seconds milliseconds) =
      .ok (report "advance"
          (clock.advance (seconds.value * 1000 + milliseconds.value)).now [],
        ⟨engine,
          clock.advance (seconds.value * 1000 + milliseconds.value)⟩) :=
  rfl

end Runs

/-- An event is one call on the engine, or none. -/
theorem exists_run (hevent : step.IsEvent simulation.clock.now) :
    ∃ report after, simulation.run step = .ok (report, after) ∧
      after.clock.now = step.timeAfter simulation.clock.now ∧
        (after.engine = simulation.engine ∨ ∃ call, Engine.TellsWellFormed call ∧
          after.engine = simulation.engine.perform simulation.clock.now call) := by
  have htells {key : ProviderKey} {text : String} (hkey : ProviderKey.parse? text = some key)
      {call : EngineCall} (hcall : call.IsEvent)
      (hrecorded : ∀ other, call.recordedKey? = some other → other = key) :
      Engine.TellsWellFormed call := by
    refine ⟨hcall, fun other hother => ?_⟩
    rw [hrecorded other hother]
    exact ProviderKey.wellFormed_of_parse? hkey
  obtain ⟨engine, clock⟩ := simulation
  cases step with
  | select route session instructions exclude hint => exact hevent.elim
  | error text status code retryAfter session =>
      obtain ⟨key, hkey⟩ := hevent
      exact ⟨_, _, run_error hkey status code retryAfter session rfl, rfl,
        .inr ⟨.reportError _ session, htells hkey trivial (by simp [EngineCall.recordedKey?]), rfl⟩⟩
  | success text =>
      obtain ⟨key, hkey⟩ := hevent
      exact ⟨_, _, run_success hkey, rfl, .inr ⟨.reportSuccess _, htells hkey trivial
        (by simp [EngineCall.recordedKey?]), rfl⟩⟩
  | usage text tokens =>
      obtain ⟨key, hkey⟩ := hevent
      exact ⟨_, _, run_usage hkey tokens, rfl, .inr ⟨.reportUsage key tokens, htells hkey trivial
        (by simp [EngineCall.recordedKey?]), rfl⟩⟩
  | quota text remaining resetAt =>
      obtain ⟨key, hkey⟩ := hevent
      exact ⟨_, _, run_quota hkey remaining resetAt, rfl, .inr ⟨.reportQuota _, htells hkey trivial
        (by simp [EngineCall.recordedKey?]), rfl⟩⟩
  | advance seconds milliseconds => exact ⟨_, _, run_advance seconds milliseconds, rfl, .inl rfl⟩
  | reset text =>
      obtain ⟨key, hkey⟩ := hevent
      exact ⟨_, _, run_reset hkey, rfl, .inr ⟨.forgive key, htells hkey trivial
        (by simp [EngineCall.recordedKey?]), rfl⟩⟩

/-- The simulations read the same time, and later events cannot tell their engines apart. -/
structure AgreesFrom (start : Millis) (left right : Simulation) : Prop where
  engine : left.engine.AgreesFrom start right.engine
  clock : left.clock = right.clock
  started : start ≤ left.clock.now

/-- Equal answers are reported alike. -/
theorem exists_reports {Answer : Type} {left right : Answer × Engine} {clock : Clock}
    (halike : Alike (Engine.AgreesFrom start) left right) (hstarted : start ≤ clock.now)
    (describe : Answer → Document) :
    ∃ report leftAfter rightAfter,
      (.ok (describe left.1, ⟨left.2, clock⟩) : Except RoutingError (Document × Simulation)) =
        .ok (report, leftAfter) ∧
      (.ok (describe right.1, ⟨right.2, clock⟩) : Except RoutingError (Document × Simulation)) =
        .ok (report, rightAfter) ∧ leftAfter.AgreesFrom start rightAfter := by
  refine ⟨_, ⟨left.2, clock⟩, ⟨right.2, clock⟩, rfl, ?_, halike.state, rfl, hstarted⟩
  rw [halike.answer]

/-- Simulations that agree report an event alike and still agree after it. -/
theorem AgreesFrom.run (hagrees : left.AgreesFrom start right)
    (hevent : step.IsEvent left.clock.now) :
    ∃ report leftAfter rightAfter, left.run step = .ok (report, leftAfter) ∧
      right.run step = .ok (report, rightAfter) ∧ leftAfter.AgreesFrom start rightAfter := by
  obtain ⟨leftEngine, clock⟩ := left
  obtain ⟨rightEngine, rightClock⟩ := right
  obtain ⟨hengine, hclock, hstarted⟩ := hagrees
  simp only at hengine hclock hstarted hevent
  subst hclock
  cases step with
  | select route session instructions exclude hint => exact hevent.elim
  | error text status code retryAfter session =>
      obtain ⟨key, hkey⟩ := hevent
      rw [run_error hkey status code retryAfter session rfl,
        run_error hkey status code retryAfter session rfl]
      exact exists_reports (hengine.reportError hstarted session) hstarted fun outcome =>
        report "error" clock.now [("key", .text text), ("outcome", outcome.encode)]
  | success text =>
      obtain ⟨key, hkey⟩ := hevent
      rw [run_success hkey, run_success hkey]
      exact exists_reports (hengine.reportSuccess ⟨key, clock.now⟩) hstarted fun reason =>
        report "success" clock.now [("key", .text text), ("reason", reason.encode)]
  | usage text tokens =>
      obtain ⟨key, hkey⟩ := hevent
      rw [run_usage hkey, run_usage hkey]
      exact exists_reports (hengine.reportUsage key tokens clock.now) hstarted fun reason =>
        report "usage" clock.now [("key", .text text), ("reason", reason.encode)]
  | quota text remaining resetAt =>
      obtain ⟨key, hkey⟩ := hevent
      rw [run_quota hkey, run_quota hkey]
      have hreported := hengine.reportQuota ⟨key, remaining, resetAt⟩ clock.now
      exact exists_reports hreported hstarted fun reason =>
        report "quota" clock.now [("key", .text text), ("reason", reason.encode)]
  | advance seconds milliseconds =>
      rw [run_advance, run_advance]
      exact ⟨_, _, _, rfl, rfl, hengine, rfl, Int.le_trans hstarted hevent.le_timeAfter⟩
  | reset text =>
      obtain ⟨key, hkey⟩ := hevent
      rw [run_reset hkey, run_reset hkey]
      exact exists_reports (hengine.forgive key clock.now) hstarted fun reset =>
        report "reset" clock.now [("key", .text text), ("reset", .bool reset)]

end Simulation

end ProviderRouting
