import ProviderRouting.Proofs.Engine.Run
import ProviderRouting.Proofs.Quota.Windows

/-!
# A block lasts until it ends

A key that is blocked until some time stays blocked until then, whatever else is asked of the
engine: no success, no usage, no report of a provider, no further error and no configuration
ends a window early or makes a fatal error less than fatal.  Only forgiving the key and restoring
a snapshot do.
-/

namespace ProviderRouting

namespace EngineCall

def stamp? : EngineCall → Option Millis
  | .reportError event _ => some event.time
  | .reportSuccess event => some event.time
  | _ => none

/-- The calls that may end a block of a key early. -/
def Lifts (key : ProviderKey) : EngineCall → Prop
  | .forgive other => other = key
  | .restore _ => True
  | _ => False

end EngineCall

/-- The call is made no later than a time, about something that happened before it is made. -/
structure TimedCall.MadeBy (timed : TimedCall) (now : Millis) : Prop where
  clock : timed.time ≤ now
  stamp : ∀ stamp, timed.call.stamp? = some stamp → stamp ≤ timed.time

namespace Engine

variable {engine after : Engine} {key : ProviderKey} {timed : TimedCall} {calls : List TimedCall}
  {now finish : Millis}

/-! ## One call -/

theorem applySettings_prolongs (ledger : QuotaLedger)
    (settings : Table ProviderKey StaticSettings) :
    ledger.Prolongs finish (applySettings ledger settings) := by
  rw [applySettings]
  generalize settings.rows = rows
  induction rows generalizing ledger with
  | nil => exact .refl finish ledger
  | cons row rest ih => exact (QuotaLedger.putStatic_prolongs _ _).trans (ih _)

/-- A configuration changes limits and priorities of entries, but none of their windows. -/
theorem publish_prolongs {config : Configuration} (hpublish : engine.publish config = .ok after) :
    engine.quota.Prolongs finish after.quota := by
  obtain ⟨routes, series, -, -, rfl⟩ := publish_ok hpublish
  have hsettings : engine.quota.Prolongs finish { engine.quota with settings := config.quota } :=
    fun key => .refl finish (engine.quota.entry key)
  exact hsettings.trans (applySettings_prolongs _ routes.settings)

theorem forgive_quota (engine : Engine) (key : ProviderKey) (now : Millis) :
    (engine.forgive key now).2.quota = (engine.quota.clear key now).2 := by
  rw [forgive]
  rcases engine.quota.clear key now with ⟨_ | _, quota⟩ <;> rfl

/-- No single call that does not lift a block shortens it. -/
theorem perform_prolongs (engine : Engine) (hmade : timed.MadeBy now)
    (hlifts : ¬ timed.call.Lifts key) (hnow : now < finish) :
    (engine.quota.entry key).Prolongs finish
      ((engine.perform timed.time timed.call).quota.entry key) := by
  obtain ⟨clock, call⟩ := timed
  obtain ⟨hclock, hstamp⟩ := hmade
  have hopen : clock < finish := Int.lt_of_le_of_lt hclock hnow
  cases call with
  | publish config =>
      rw [perform]
      cases hpublish : engine.publish config with
      | error cause => exact .refl finish _
      | ok after => exact publish_prolongs hpublish key
  | select route request =>
      rw [(select_sameRecords engine clock route request).quota]
      exact .refl finish _
  | reportError event session =>
      -- The ledger looks at the windows when the error happened, which was before now.
      have hevent : event.time < finish := Int.lt_of_le_of_lt (hstamp event.time rfl) hopen
      exact QuotaLedger.noteError_prolongs hevent key
  | reportSuccess event =>
      have hevent : event.time < finish := Int.lt_of_le_of_lt (hstamp event.time rfl) hopen
      exact QuotaLedger.noteSuccess_prolongs hevent key
  | reportUsage used tokens => exact QuotaLedger.noteUsage_prolongs tokens hopen key
  | reportQuota report => exact QuotaLedger.noteReport_prolongs report hopen key
  | forgive other =>
      have hne : key ≠ other := fun hkey => hlifts hkey.symm
      rw [perform, forgive_quota, QuotaLedger.entry_clear_of_ne hne]
      exact .refl finish _
  | snapshot => exact .refl finish _
  | restore snapshot => exact absurd trivial hlifts

/-! ## A run -/

/-- Before a window ends, no run of calls that do not lift it ends it. -/
theorem run_prolongs (engine : Engine) (hnow : now < finish)
    (hcalls : ∀ timed ∈ calls, timed.MadeBy now ∧ ¬ timed.call.Lifts key) :
    (engine.quota.entry key).Prolongs finish ((engine.run calls).quota.entry key) := by
  induction calls generalizing engine with
  | nil => exact .refl finish _
  | cons timed rest ih =>
      obtain ⟨hmade, hlifts⟩ := hcalls timed List.mem_cons_self
      have hfirst := perform_prolongs engine hmade hlifts hnow
      have hrest := ih (engine.perform timed.time timed.call)
        fun later hlater => hcalls later (List.mem_cons_of_mem timed hlater)
      rw [run_cons]
      exact hfirst.trans hrest

theorem select_ne_of_not_inPool {route : String} {request : SelectionRequest}
    {stage : SelectionStage} (hpool : (engine.entryAt key now).inPool = false) :
    engine.select route request now ≠ .ok (.selected key stage, after) := by
  intro hselect
  obtain ⟨houtcome, -⟩ := select_outcome hselect
  rw [houtcome.selectable.in_pool] at hpool
  exact Bool.noConfusion hpool

/-- A key whose entry has a window is blocked after every run that ends before the window does
and does not lift it; the windows only move on, and a fatal blacklist stays fatal. -/
theorem run_blocked (hnow : now < finish)
    (hcalls : ∀ timed ∈ calls, timed.MadeBy now ∧ ¬ timed.call.Lifts key)
    (hwindow : (engine.quota.entry key).cooldownUntil = some finish ∨
      (engine.quota.entry key).blacklistUntil = some finish) :
    (engine.quota.entry key).Prolongs finish ((engine.run calls).quota.entry key) ∧
      ((engine.run calls).entryAt key now).inPool = false ∧
        (∀ route request stage after,
          (engine.run calls).select route request now ≠ .ok (.selected key stage, after)) ∧
          ((engine.quota.entry key).blacklistUntil = some finish →
            (engine.quota.entry key).fatal = true →
              ((engine.run calls).entryAt key now).reason = .fatal) := by
  have hprolongs := run_prolongs engine hnow hcalls
  have hpool : ((engine.run calls).entryAt key now).inPool = false := by
    rw [← Bool.not_eq_true]
    intro hin_pool
    have hunblocked := (QuotaEntry.asOf_inPool_iff _ _ _).mp hin_pool
    rcases hwindow with hcooldown | hblacklist
    · exact QuotaEntry.not_unblocked_of_cooldown
        (hprolongs.cooldown (.of_eq_some hcooldown)) hnow hunblocked
    · exact QuotaEntry.not_unblocked_of_blacklist
        (hprolongs.blacklist (.of_eq_some hblacklist)) hnow hunblocked
  refine ⟨hprolongs, hpool, fun _ _ _ _ => select_ne_of_not_inPool hpool, ?_⟩
  intro hblacklist hfatal
  exact QuotaEntry.asOf_reason_eq_fatal (hprolongs.blacklist (.of_eq_some hblacklist))
    (hprolongs.fatal (.of_eq_some hblacklist) hfatal) hnow

/-- Neither a success nor a new configuration makes up for a fatal error. -/
theorem run_blocked_after_fatal :
    ∃ engine, Reachable twoAliases engine ∧
      (engine.quota.entry ⟨"north", "a", "large"⟩).blacklistUntil = some 21600000 ∧
        ((engine.run [⟨5, .reportSuccess ⟨⟨"north", "a", "large"⟩, 5⟩⟩,
          ⟨8, .publish twoAliases⟩]).entryAt ⟨"north", "a", "large"⟩ 10).reason = .fatal := by
  obtain ⟨engine, hbuilt⟩ := exists_ofConfiguration_twoAliases
  let refusal : EngineCall :=
    .reportError { key := ⟨"north", "a", "large"⟩, status := some 401, time := 0 } none
  have hreachable : Reachable twoAliases (engine.perform 0 refusal) :=
    (Reachable.built hbuilt).called 0 refusal
  have hentry :
      ((engine.perform 0 refusal).quota.entry ⟨"north", "a", "large"⟩).blacklistUntil =
          some 21600000 ∧
        ((engine.perform 0 refusal).quota.entry ⟨"north", "a", "large"⟩).fatal = true := by
    simp only [ofConfiguration, publish, Routes.ofConfiguration, twoAliases_valid] at hbuilt
    cases hbuilt
    decide +kernel
  obtain ⟨hblacklist, hfatal⟩ := hentry
  refine ⟨_, hreachable, hblacklist, ?_⟩
  have hcalls : ∀ timed ∈ [(⟨5, .reportSuccess ⟨⟨"north", "a", "large"⟩, 5⟩⟩ : TimedCall),
      ⟨8, .publish twoAliases⟩],
      timed.MadeBy 10 ∧ ¬ timed.call.Lifts ⟨"north", "a", "large"⟩ := by
    intro timed htimed
    rw [List.mem_pair] at htimed
    rcases htimed with rfl | rfl
    · exact ⟨⟨by decide, fun _ hstamp => by cases hstamp; decide⟩, id⟩
    · exact ⟨⟨by decide, fun _ hstamp => by cases hstamp⟩, id⟩
  obtain ⟨-, -, -, hreason⟩ := run_blocked (by decide) hcalls (.inr hblacklist)
  exact hreason hblacklist hfatal

end Engine

end ProviderRouting
