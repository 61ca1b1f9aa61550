import ProviderRouting.Proofs.Engine.Blocking

/-!
# Answers to the same events

What is recorded of a key depends on the entries, the quota settings, the series rules and the
cooldowns of an engine, and on nothing else.  Two engines that agree on these give the same
answers to the same events, and still agree after them.  Routes, sessions, rotations, avoided
providers and metrics may differ.
-/

namespace ProviderRouting

/-- Two computations give the same answer and leave related states. -/
structure Alike {Answer State : Type} (related : State → State → Prop)
    (left right : Answer × State) : Prop where
  answer : left.1 = right.1
  state : related left.2 right.2

/-! ## Ledgers -/

namespace QuotaLedger

/-- The ledgers hold the same entries under the same settings. -/
structure Agrees (left right : QuotaLedger) : Prop where
  entries : left.entries = right.entries
  settings : left.settings = right.settings

namespace Agrees

variable {left right : QuotaLedger}

theorem entry_eq (hagrees : left.Agrees right) (key : ProviderKey) :
    left.entry key = right.entry key := by
  rw [entry, entry, hagrees.entries]

theorem entryAt_eq (hagrees : left.Agrees right) (key : ProviderKey) (now : Millis) :
    left.entryAt key now = right.entryAt key now := by
  rw [entryAt, entryAt, hagrees.entry_eq, hagrees.settings]

theorem store (hagrees : left.Agrees right) (key : ProviderKey) (entry : QuotaEntry) :
    (left.store key entry).Agrees (right.store key entry) where
  entries := congrArg (Table.insert · key entry) hagrees.entries
  settings := hagrees.settings

/-- All events change the entry of one key by a function of this entry and the settings. -/
theorem change {Answer : Type} (hagrees : left.Agrees right) (key : ProviderKey)
    (next : QuotaEntry → QuotaSettings → QuotaEntry) (answer : QuotaEntry → Answer) :
    Alike Agrees
      (answer (next (left.entry key) left.settings),
        left.store key (next (left.entry key) left.settings))
      (answer (next (right.entry key) right.settings),
        right.store key (next (right.entry key) right.settings)) := by
  rw [hagrees.entry_eq, hagrees.settings]
  exact ⟨rfl, hagrees.store key _⟩

theorem noteError (hagrees : left.Agrees right) (event : ErrorEvent) :
    Alike Agrees (left.noteError event) (right.noteError event) :=
  hagrees.change event.key (fun entry settings => entry.afterError settings event)
    fun entry => entry.effect event.errorClass

theorem noteSuccess (hagrees : left.Agrees right) (event : SuccessEvent) :
    Alike Agrees (left.noteSuccess event) (right.noteSuccess event) :=
  hagrees.change event.key (fun entry settings => entry.afterSuccess settings event.time)
    QuotaEntry.reason

theorem noteUsage (hagrees : left.Agrees right) (key : ProviderKey) (tokens : UInt64)
    (now : Millis) : Alike Agrees (left.noteUsage key tokens now) (right.noteUsage key tokens now) :=
  hagrees.change key (fun entry settings => entry.afterUsage settings tokens now)
    QuotaEntry.reason

theorem noteReport (hagrees : left.Agrees right) (report : QuotaReport) (now : Millis) :
    Alike Agrees (left.noteReport report now) (right.noteReport report now) :=
  hagrees.change report.key
    (fun entry settings => entry.afterReport settings report.remaining report.resetAt now)
    QuotaEntry.reason

theorem clear (hagrees : left.Agrees right) (key : ProviderKey) (now : Millis) :
    Alike Agrees (left.clear key now) (right.clear key now) := by
  rw [QuotaLedger.clear, QuotaLedger.clear, hagrees.entries]
  cases right.entries.get? key with
  | none => exact ⟨rfl, hagrees⟩
  | some entry => exact ⟨rfl, hagrees.store key _⟩

end Agrees

end QuotaLedger

/-! ## Series guards -/

namespace SeriesGuard

/-- The guards name the same series under the same rules, and the same series cool down. -/
structure Agrees (left right : SeriesGuard) : Prop where
  rules : left.rules = right.rules
  grouping : left.grouping = right.grouping
  cooldowns : left.cooldowns = right.cooldowns

namespace Agrees

variable {left right : SeriesGuard}

theorem seriesOf_eq (hagrees : left.Agrees right) (key : ProviderKey) :
    left.seriesOf key = right.seriesOf key := by
  rw [seriesOf, seriesOf, hagrees.rules, hagrees.grouping]

theorem isCoolingDown_eq (hagrees : left.Agrees right) (key : ProviderKey) (now : Millis) :
    left.isCoolingDown key now = right.isCoolingDown key now := by
  rw [isCoolingDown, isCoolingDown, hagrees.seriesOf_eq, hagrees.cooldowns]

/-- Which providers are avoided has no part in what an error does to its series. -/
theorem noteError (hagrees : left.Agrees right) (event : ErrorEvent) :
    Alike Agrees (left.noteError event) (right.noteError event) := by
  simp only [SeriesGuard.noteError, hagrees.rules, hagrees.cooldowns, hagrees.seriesOf_eq]
  split
  · exact ⟨rfl, rfl, hagrees.grouping, rfl⟩
  · exact ⟨rfl, hagrees⟩

end Agrees

end SeriesGuard

/-! ## Calls and their answers -/

inductive CallAnswer where
  | published (result : Except ConfigError Unit)
  | selected (result : Except RoutingError Selection)
  | failed (summary : ErrorSummary)
  | recorded (reason : PoolReason)
  /-- Whether something was known of the key. -/
  | forgiven (known : Bool)
  | taken (snapshot : Snapshot)
  | restored (result : Except RoutingError Unit)

def EngineCall.IsEvent : EngineCall → Prop
  | .reportError _ _ => True
  | .reportSuccess _ => True
  | .reportUsage _ _ => True
  | .reportQuota _ => True
  | .forgive _ => True
  | _ => False

namespace Engine

def answer (engine : Engine) (now : Millis) : EngineCall → CallAnswer
  | .publish config => .published ((engine.publish config).map fun _ => ())
  | .select route request => .selected ((engine.select route request now).map Prod.fst)
  | .reportError event session => .failed (engine.reportError event session).1
  | .reportSuccess event => .recorded (engine.reportSuccess event).1
  | .reportUsage key tokens => .recorded (engine.reportUsage key tokens now).1
  | .reportQuota report => .recorded (engine.reportQuota report now).1
  | .forgive key => .forgiven (engine.forgive key now).1
  | .snapshot => .taken (engine.snapshot now).1
  | .restore snapshot => .restored ((engine.restore snapshot).map fun _ => ())

def answers (engine : Engine) : List TimedCall → List CallAnswer
  | [] => []
  | timed :: calls =>
      engine.answer timed.time timed.call ::
        (engine.perform timed.time timed.call).answers calls

/-- The engines record the same of every key. -/
structure Mirrors (left right : Engine) : Prop where
  quota : left.quota.Agrees right.quota
  series : left.series.Agrees right.series

variable {left right : Engine} {now : Millis} {call : EngineCall} {calls : List TimedCall}

theorem forgive_answer (engine : Engine) (key : ProviderKey) (now : Millis) :
    (engine.forgive key now).1 = (engine.quota.clear key now).1 := by
  rw [forgive]
  rcases engine.quota.clear key now with ⟨_ | _, quota⟩ <;> rfl

theorem forgive_series (engine : Engine) (key : ProviderKey) (now : Millis) :
    (engine.forgive key now).2.series = engine.series := by
  rw [forgive]
  rcases engine.quota.clear key now with ⟨_ | _, quota⟩ <;> rfl

theorem forgive_alike (hmirrors : left.Mirrors right) (key : ProviderKey) (now : Millis) :
    Alike Mirrors (left.forgive key now) (right.forgive key now) := by
  have hquota := hmirrors.quota.clear key now
  refine ⟨?_, ?_, ?_⟩
  · rw [forgive_answer, forgive_answer, hquota.answer]
  · rw [forgive_quota, forgive_quota]
    exact hquota.state
  · rw [forgive_series, forgive_series]
    exact hmirrors.series

theorem reportError_alike (hmirrors : left.Mirrors right) (event : ErrorEvent)
    (session : Option String) :
    Alike Mirrors (left.reportError event session) (right.reportError event session) := by
  have hseries := hmirrors.series.noteError event
  have hquota := hmirrors.quota.noteError event
  refine ⟨?_, hquota.state, hseries.state⟩
  simp only [reportError, hseries.answer, hquota.answer]

/-- Mirroring engines answer an event alike and still mirror each other after it. -/
theorem Mirrors.perform (hmirrors : left.Mirrors right) (hevent : call.IsEvent) :
    left.answer now call = right.answer now call ∧
      (left.perform now call).Mirrors (right.perform now call) := by
  cases call with
  | reportError event session =>
      have halike := reportError_alike hmirrors event session
      exact ⟨congrArg CallAnswer.failed halike.answer, halike.state⟩
  | reportSuccess event =>
      have hquota := hmirrors.quota.noteSuccess event
      exact ⟨congrArg CallAnswer.recorded hquota.answer, hquota.state, hmirrors.series⟩
  | reportUsage key tokens =>
      have hquota := hmirrors.quota.noteUsage key tokens now
      exact ⟨congrArg CallAnswer.recorded hquota.answer, hquota.state, hmirrors.series⟩
  | reportQuota report =>
      have hquota := hmirrors.quota.noteReport report now
      exact ⟨congrArg CallAnswer.recorded hquota.answer, hquota.state, hmirrors.series⟩
  | forgive key =>
      have halike := forgive_alike hmirrors key now
      exact ⟨congrArg CallAnswer.forgiven halike.answer, halike.state⟩
  | publish config => exact hevent.elim
  | select route request => exact hevent.elim
  | snapshot => exact hevent.elim
  | restore snapshot => exact hevent.elim

/-- Mirroring engines cannot be told apart by any run of events. -/
theorem Mirrors.run (hmirrors : left.Mirrors right)
    (hevents : ∀ timed ∈ calls, timed.call.IsEvent) :
    left.answers calls = right.answers calls ∧ (left.run calls).Mirrors (right.run calls) := by
  induction calls generalizing left right with
  | nil => exact ⟨rfl, hmirrors⟩
  | cons timed rest ih =>
      obtain ⟨hanswer, hafter⟩ := hmirrors.perform (hevents timed List.mem_cons_self)
      obtain ⟨hanswers, hfinal⟩ := ih hafter fun later hlater =>
        hevents later (List.mem_cons_of_mem timed hlater)
      refine ⟨?_, hfinal⟩
      rw [answers, answers, hanswer, hanswers]

end Engine

end ProviderRouting
