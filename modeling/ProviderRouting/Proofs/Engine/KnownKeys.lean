import ProviderRouting.Proofs.Configuration
import ProviderRouting.Proofs.Engine.Answers
import ProviderRouting.Proofs.Series.Calls
import ProviderRouting.Proofs.Snapshot

/-!
# What an engine knows

An engine always works under the settings of the configuration that was published last, and knows
every key whose limits or priority this configuration sets.  Keys become known when something is
recorded of them, by a configuration, or from a snapshot, and are never unknown again.  As the
latter two give well-formed keys only, an engine that is told about nothing but well-formed keys
knows nothing but well-formed keys.
-/

namespace ProviderRouting

/-! ## Ledgers -/

namespace QuotaLedger

def Knows (ledger : QuotaLedger) (key : ProviderKey) : Prop :=
  ledger.entries.contains key = true

variable {ledger : QuotaLedger} {key probe : ProviderKey} {now : Millis}

theorem knows_store_iff {entry : QuotaEntry} :
    (ledger.store key entry).Knows probe ↔ probe = key ∨ ledger.Knows probe :=
  Table.contains_insert_iff ledger.entries key probe entry

theorem knows_clear_iff :
    (ledger.clear key now).2.Knows probe ↔ ledger.Knows probe := by
  rw [clear]
  cases hentry : ledger.entries.get? key with
  | none => rfl
  | some entry =>
      have hknows : ledger.Knows key := by
        rw [Knows, Table.contains, hentry]
        rfl
      refine knows_store_iff.trans (or_iff_right_of_imp ?_)
      rintro rfl
      exact hknows

/-- Settings change the entries of the keys that they are about, and no others. -/
theorem get?_applySettings (ledger : QuotaLedger) (settings : Table ProviderKey StaticSettings)
    (key : ProviderKey) :
    (Engine.applySettings ledger settings).entries.get? key =
      (settings.get? key).elim (ledger.entries.get? key) fun statics =>
        some ((ledger.entry key).withStatic statics.limits statics.priorityTier) := by
  let next (present : Option QuotaEntry) (statics : StaticSettings) : QuotaEntry :=
    (present.getD {}).withStatic statics.limits statics.priorityTier
  have hentries (rows : List (ProviderKey × StaticSettings)) (ledger : QuotaLedger) :
      (rows.foldl (fun ledger row => ledger.putStatic row.1 row.2.limits row.2.priorityTier)
        ledger).entries =
        rows.foldl (fun entries row => entries.insert row.1 (next (entries.get? row.1) row.2))
          ledger.entries := by
    induction rows generalizing ledger with
    | nil => rfl
    | cons row rest ih => exact ih _
  rw [Engine.applySettings, hentries]
  exact Table.get?_foldl_change next ledger.entries settings key

theorem knows_applySettings_iff {settings : Table ProviderKey StaticSettings} :
    (Engine.applySettings ledger settings).Knows key ↔
      settings.contains key = true ∨ ledger.Knows key := by
  rw [Knows, Table.contains, get?_applySettings, Table.contains]
  cases settings.get? key with
  | none => exact (or_iff_right Bool.false_ne_true).symm
  | some statics => exact iff_of_true rfl (.inl rfl)

theorem knows_putAll_iff {rows : List (ProviderKey × QuotaEntry)} :
    (ledger.putAll rows).Knows key ↔ (∃ row ∈ rows, key = row.1) ∨ ledger.Knows key :=
  foldl_iff (fun entries : Table ProviderKey QuotaEntry => entries.contains key = true)
    (fun row : ProviderKey × QuotaEntry => key = row.1)
    (fun entries row => Table.contains_insert_iff entries row.1 key row.2) rows ledger.entries

theorem applySettings_settings (settings : Table ProviderKey StaticSettings) :
    (Engine.applySettings ledger settings).settings = ledger.settings := by
  rw [Engine.applySettings]
  generalize settings.rows = rows
  induction rows generalizing ledger with
  | nil => rfl
  | cons row rest ih => exact ih

end QuotaLedger

def EngineCall.recordedKey? : EngineCall → Option ProviderKey
  | .reportError event _ => some event.key
  | .reportSuccess event => some event.key
  | .reportUsage key _ => some key
  | .reportQuota report => some report.key
  | _ => none

namespace Engine

variable {engine after : Engine} {config : Configuration} {key : ProviderKey} {now : Millis}
  {call : EngineCall}

/-! ## The published configuration -/

/-- The engine works under the settings of the configuration. -/
structure Follows (config : Configuration) (engine : Engine) : Prop where
  settings : engine.quota.settings = config.quota
  rules : SeriesRules.ofSettings config.series = .ok engine.series.rules
  knows : ∀ key, engine.routes.settings.contains key = true → engine.quota.Knows key

/-- Keeping routes, settings, rules and known keys keeps to the configuration. -/
theorem Follows.of_kept (hfollows : Follows config engine) (hroutes : after.routes = engine.routes)
    (hsettings : after.quota.settings = engine.quota.settings)
    (hrules : after.series.rules = engine.series.rules)
    (hknows : ∀ key, engine.quota.Knows key → after.quota.Knows key) : Follows config after where
  settings := hsettings.trans hfollows.settings
  rules := hfollows.rules.trans (congrArg _ hrules.symm)
  knows := fun key hkey => hknows key (hfollows.knows key (hroutes ▸ hkey))

/-- Publishing makes the engine follow the new configuration, whatever it followed before. -/
theorem publish_follows (hpublish : engine.publish config = .ok after) :
    Follows config after := by
  obtain ⟨routes, series, -, hseries, rfl⟩ := publish_ok hpublish
  obtain ⟨rules, hrules, rfl⟩ := SeriesGuard.withSettings_ok hseries
  exact {
    settings := QuotaLedger.applySettings_settings routes.settings
    rules := hrules
    knows := fun key hkey => QuotaLedger.knows_applySettings_iff.mpr (.inl hkey) }

/-- After every call the engine follows the configuration that is then published. -/
theorem Follows.perform (hfollows : Follows config engine) (now : Millis) (call : EngineCall) :
    Follows (engine.published config call) (engine.perform now call) := by
  have hstored {key : ProviderKey} {entry : QuotaEntry} (probe : ProviderKey)
      (hknows : engine.quota.Knows probe) : (engine.quota.store key entry).Knows probe :=
    QuotaLedger.knows_store_iff.mpr (.inr hknows)
  cases call with
  | publish next =>
      rw [published, Engine.perform]
      cases hpublish : engine.publish next with
      | error cause => exact hfollows
      | ok after => exact publish_follows hpublish
  | select route request =>
      have hsame := select_sameRecords engine now route request
      refine hfollows.of_kept hsame.routes (congrArg _ hsame.quota) (congrArg _ hsame.series) ?_
      exact fun key hknows => hsame.quota ▸ hknows
  | reportError event session =>
      exact hfollows.of_kept rfl rfl (engine.series.noteError_rules event) hstored
  | reportSuccess event => exact hfollows.of_kept rfl rfl rfl hstored
  | reportUsage key tokens => exact hfollows.of_kept rfl rfl rfl hstored
  | reportQuota report => exact hfollows.of_kept rfl rfl rfl hstored
  | forgive key =>
      have hquota : (engine.perform now (.forgive key)).quota = (engine.quota.clear key now).2 :=
        forgive_quota engine key now
      have hseries : (engine.perform now (.forgive key)).series = engine.series :=
        forgive_series engine key now
      refine hfollows.of_kept (forgive_routes key now) ?_ (congrArg _ hseries) ?_
      · rw [hquota, QuotaLedger.clear]
        cases engine.quota.entries.get? key <;> rfl
      · intro probe hknows
        rw [hquota]
        exact QuotaLedger.knows_clear_iff.mpr hknows
  | snapshot => exact hfollows.of_kept rfl rfl rfl fun key hknows => hknows
  | restore snapshot =>
      rw [Engine.perform]
      cases hrestore : engine.restore snapshot with
      | error cause => exact hfollows
      | ok after =>
          obtain ⟨entries, -, -, rfl⟩ := restore_ok hrestore
          exact hfollows.of_kept rfl rfl rfl fun key hknows =>
            QuotaLedger.knows_putAll_iff.mpr (.inr hknows)

/-- A reachable engine follows the configuration that was published last. -/
theorem Reachable.follows (hreachable : Reachable config engine) : Follows config engine := by
  induction hreachable with
  | built hbuilt =>
      obtain ⟨series, -, hpublish⟩ := bind_eq_ok_iff.mp hbuilt
      exact publish_follows hpublish
  | counting _ ih => exact ih.of_kept rfl rfl rfl fun key hknows => hknows
  | groupedBy _ group ih => exact ih.of_kept rfl rfl rfl fun key hknows => hknows
  | called _ now call ih => exact ih.perform now call

/-! ## Well-formed keys -/

theorem knows_of_publish (hpublish : engine.publish config = .ok after)
    (hknows : after.quota.Knows key) : engine.quota.Knows key ∨ key.WellFormed := by
  obtain ⟨routes, series, hcompiled, -, rfl⟩ := publish_ok hpublish
  rcases QuotaLedger.knows_applySettings_iff.mp hknows with hsettings | hbefore
  · exact .inr (Routes.wellFormed_of_settings hcompiled hsettings)
  · exact .inl hbefore

/-- What is known after a call was known before, is recorded by the call, or is well formed. -/
theorem knows_of_perform (hknows : (engine.perform now call).quota.Knows key) :
    engine.quota.Knows key ∨ call.recordedKey? = some key ∨ key.WellFormed := by
  have hstored {recorded : ProviderKey} {entry : QuotaEntry}
      (hknows : (engine.quota.store recorded entry).Knows key) :
      engine.quota.Knows key ∨ some recorded = some key ∨ key.WellFormed := by
    rcases QuotaLedger.knows_store_iff.mp hknows with rfl | hbefore
    · exact .inr (.inl rfl)
    · exact .inl hbefore
  cases call with
  | publish next =>
      rw [perform] at hknows
      cases hpublish : engine.publish next with
      | error cause =>
          rw [hpublish] at hknows
          exact .inl hknows
      | ok after =>
          rw [hpublish] at hknows
          exact (knows_of_publish hpublish hknows).imp_right .inr
  | select route request =>
      exact .inl ((select_sameRecords engine now route request).quota ▸ hknows)
  | reportError event session => exact hstored hknows
  | reportSuccess event => exact hstored hknows
  | reportUsage key tokens => exact hstored hknows
  | reportQuota report => exact hstored hknows
  | forgive probe =>
      rw [perform, forgive_quota] at hknows
      exact .inl (QuotaLedger.knows_clear_iff.mp hknows)
  | snapshot => exact .inl hknows
  | restore snapshot =>
      rw [perform] at hknows
      cases hrestore : engine.restore snapshot with
      | error cause =>
          rw [hrestore] at hknows
          exact .inl hknows
      | ok after =>
          rw [hrestore] at hknows
          obtain ⟨entries, -, hentries, rfl⟩ := restore_ok hrestore
          rcases QuotaLedger.knows_putAll_iff.mp hknows with ⟨row, hrow, rfl⟩ | hbefore
          · exact .inr (.inr (Snapshot.wellFormed_of_entries hentries hrow))
          · exact .inl hbefore

/-- The engines that can come to be by calls of some kind, each with the configuration that was
published last. -/
inductive ReachableBy (allowed : EngineCall → Prop) : Configuration → Engine → Prop where
  | built {config : Configuration} {engine : Engine}
      (built : ofConfiguration config = .ok engine) : ReachableBy allowed config engine
  | counting {config : Configuration} {engine : Engine} {digest : String → UInt64}
      (reachable : ReachableBy allowed config engine) :
      ReachableBy allowed config (engine.counting digest)
  | groupedBy {config : Configuration} {engine : Engine}
      (reachable : ReachableBy allowed config engine) (group : ProviderKey → String) :
      ReachableBy allowed config (engine.groupedBy group)
  | called {config : Configuration} {engine : Engine}
      (reachable : ReachableBy allowed config engine) (now : Millis) (call : EngineCall)
      (call_allowed : allowed call) :
      ReachableBy allowed (engine.published config call) (engine.perform now call)

variable {allowed : EngineCall → Prop}

theorem ReachableBy.reachable (hreachable : ReachableBy allowed config engine) :
    Reachable config engine := by
  induction hreachable with
  | built hbuilt => exact .built hbuilt
  | counting _ ih => exact ih.counting
  | groupedBy _ group ih => exact ih.groupedBy group
  | called _ now call _ ih => exact ih.called now call

/-- Fewer kinds of calls reach fewer engines. -/
theorem ReachableBy.mono {others : EngineCall → Prop}
    (hreachable : ReachableBy allowed config engine)
    (hmono : ∀ call, allowed call → others call) : ReachableBy others config engine := by
  induction hreachable with
  | built hbuilt => exact .built hbuilt
  | counting _ ih => exact ih.counting
  | groupedBy _ group ih => exact ih.groupedBy group
  | called _ now call hallowed ih => exact ih.called now call (hmono call hallowed)

def NamesWellFormed (call : EngineCall) : Prop :=
  ∀ key, call.recordedKey? = some key → key.WellFormed

/-- An engine that was told about well-formed keys only knows no others. -/
theorem ReachableBy.wellFormed (hreachable : ReachableBy NamesWellFormed config engine)
    (hknows : engine.quota.Knows key) : key.WellFormed := by
  induction hreachable with
  | built hbuilt =>
      obtain ⟨series, -, hpublish⟩ := bind_eq_ok_iff.mp hbuilt
      rcases knows_of_publish hpublish hknows with hbefore | hkey
      · cases hbefore
      · exact hkey
  | counting _ ih => exact ih hknows
  | groupedBy _ group ih => exact ih hknows
  | called _ now call hnames ih =>
      rcases knows_of_perform hknows with hbefore | hrecorded | hkey
      · exact ih hbefore
      · exact hnames key hrecorded
      · exact hkey

end Engine

end ProviderRouting
