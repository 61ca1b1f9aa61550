import ProviderRouting.Engine.Record
import ProviderRouting.Proofs.Configuration
import ProviderRouting.Proofs.Engine.Selection
import ProviderRouting.Proofs.Routes

/-!
# Runs of an engine

An engine is built from a configuration and then used only through its calls, each made at some
time.  A call that fails changes nothing.  The routes of an engine are always those of the
configuration that was published last.
-/

namespace ProviderRouting

inductive EngineCall where
  | publish (config : Configuration)
  | select (route : String) (request : SelectionRequest)
  | reportError (event : ErrorEvent) (session : Option String)
  | reportSuccess (event : SuccessEvent)
  | reportUsage (key : ProviderKey) (tokens : UInt64)
  | reportQuota (report : QuotaReport)
  | forgive (key : ProviderKey)
  | snapshot
  | restore (snapshot : Snapshot)

structure TimedCall where
  time : Millis
  call : EngineCall

namespace Engine

def perform (engine : Engine) (now : Millis) : EngineCall → Engine
  | .publish config =>
      match engine.publish config with
      | .ok after => after
      | .error _ => engine
  | .select route request =>
      match engine.select route request now with
      | .ok (_, after) => after
      | .error _ => engine
  | .reportError event session => (engine.reportError event session).2
  | .reportSuccess event => (engine.reportSuccess event).2
  | .reportUsage key tokens => (engine.reportUsage key tokens now).2
  | .reportQuota report => (engine.reportQuota report now).2
  | .forgive key => (engine.forgive key now).2
  | .snapshot => (engine.snapshot now).2
  | .restore snapshot =>
      match engine.restore snapshot with
      | .ok after => after
      | .error _ => engine

def run (engine : Engine) (calls : List TimedCall) : Engine :=
  calls.foldl (fun engine timed => engine.perform timed.time timed.call) engine

theorem run_cons (engine : Engine) (timed : TimedCall) (calls : List TimedCall) :
    engine.run (timed :: calls) = (engine.perform timed.time timed.call).run calls := rfl

def published (engine : Engine) (config : Configuration) : EngineCall → Configuration
  | .publish next =>
      match engine.publish next with
      | .ok _ => next
      | .error _ => config
  | _ => config

/-- The engines that can come to be, each with the configuration that was published last. -/
inductive Reachable : Configuration → Engine → Prop where
  | built {config : Configuration} {engine : Engine}
      (built : ofConfiguration config = .ok engine) : Reachable config engine
  | counting {config : Configuration} {engine : Engine} {digest : String → UInt64}
      (reachable : Reachable config engine) : Reachable config (engine.counting digest)
  | groupedBy {config : Configuration} {engine : Engine} (reachable : Reachable config engine)
      (group : ProviderKey → String) : Reachable config (engine.groupedBy group)
  | called {config : Configuration} {engine : Engine} (reachable : Reachable config engine)
      (now : Millis) (call : EngineCall) :
      Reachable (engine.published config call) (engine.perform now call)

/-! ## Routes -/

variable {engine after : Engine} {config : Configuration}

theorem publish_ok (hpublish : engine.publish config = .ok after) :
    ∃ routes series, Routes.ofConfiguration config = .ok routes ∧
      engine.series.withSettings config.series = .ok series ∧
        after = { engine with
          routes
          health := config.health
          quota := applySettings { engine.quota with settings := config.quota } routes.settings
          series
          rotations := ∅ } := by
  obtain ⟨routes, hroutes, hrest⟩ := bind_eq_ok_iff.mp hpublish
  obtain ⟨series, hseries, hafter⟩ := bind_eq_ok_iff.mp hrest
  exact ⟨routes, series, hroutes, hseries, (Except.ok.inj hafter).symm⟩

/-- A selection changes no entry, no cooldown and no setting. -/
theorem select_sameRecords (engine : Engine) (now : Millis) (route : String)
    (request : SelectionRequest) :
    SameRecords engine (engine.perform now (.select route request)) := by
  rw [perform]
  cases hselect : engine.select route request now with
  | error cause => exact .refl engine
  | ok result => exact (select_outcome hselect).2

/-- A snapshot is taken over as a whole. -/
theorem restore_ok {snapshot : Snapshot} (hrestore : engine.restore snapshot = .ok after) :
    ∃ entries, snapshot.ensureReadable = .ok () ∧ snapshot.entries = .ok entries ∧
      after = { engine with
        quota := engine.quota.putAll entries
        series := engine.series.resume snapshot.seriesCooldowns } := by
  obtain ⟨⟨⟩, hreadable, hrest⟩ := bind_eq_ok_iff.mp hrestore
  obtain ⟨entries, hentries, hafter⟩ := bind_eq_ok_iff.mp hrest
  exact ⟨entries, hreadable, hentries, (Except.ok.inj hafter).symm⟩

theorem forgive_routes (key : ProviderKey) (now : Millis) :
    (engine.forgive key now).2.routes = engine.routes := by
  rw [forgive]
  rcases engine.quota.clear key now with ⟨_ | _, quota⟩ <;> rfl

theorem perform_routes (hroutes : Routes.ofConfiguration config = .ok engine.routes)
    (now : Millis) (call : EngineCall) :
    Routes.ofConfiguration (engine.published config call) =
      .ok (engine.perform now call).routes := by
  cases call with
  | publish next =>
      rw [published, perform]
      cases hpublish : engine.publish next with
      | error cause => exact hroutes
      | ok after =>
          obtain ⟨routes, series, hcompiled, -, rfl⟩ := publish_ok hpublish
          exact hcompiled
  | select route request =>
      have hsame := select_sameRecords engine now route request
      exact hroutes.trans (congrArg _ hsame.routes.symm)
  | reportError event session => exact hroutes
  | reportSuccess event => exact hroutes
  | reportUsage key tokens => exact hroutes
  | reportQuota report => exact hroutes
  | forgive key => exact hroutes.trans (congrArg _ (forgive_routes key now).symm)
  | snapshot => exact hroutes
  | restore snapshot =>
      rw [perform]
      cases hrestore : engine.restore snapshot with
      | error cause => exact hroutes
      | ok after =>
          obtain ⟨entries, -, -, rfl⟩ := restore_ok hrestore
          exact hroutes

/-- A reachable engine has the routes of the configuration that was published last. -/
theorem Reachable.routes_eq (hreachable : Reachable config engine) :
    Routes.ofConfiguration config = .ok engine.routes := by
  induction hreachable with
  | built hbuilt =>
      obtain ⟨series, -, hpublish⟩ := bind_eq_ok_iff.mp hbuilt
      obtain ⟨routes, series, hcompiled, -, rfl⟩ := publish_ok hpublish
      exact hcompiled
  | counting _ ih => exact ih
  | groupedBy _ group ih => exact ih
  | called _ now call ih => exact perform_routes ih now call

/-- Engines that follow the same configuration have the same routes. -/
theorem Reachable.routes_unique {other : Engine} (hreachable : Reachable config engine)
    (hother : Reachable config other) : engine.routes = other.routes := by
  have hroutes := hreachable.routes_eq
  rw [hother.routes_eq] at hroutes
  exact (Except.ok.inj hroutes).symm

theorem perform_health (hhealth : engine.health = config.health) (now : Millis)
    (call : EngineCall) :
    (engine.perform now call).health = (engine.published config call).health := by
  cases call with
  | publish next =>
      rw [published, perform]
      cases hpublish : engine.publish next with
      | error cause => exact hhealth
      | ok after =>
          obtain ⟨routes, series, -, -, rfl⟩ := publish_ok hpublish
          rfl
  | select route request => exact (select_sameRecords engine now route request).health.trans hhealth
  | reportError event session => exact hhealth
  | reportSuccess event => exact hhealth
  | reportUsage key tokens => exact hhealth
  | reportQuota report => exact hhealth
  | forgive key =>
      have hforgive : (engine.forgive key now).2.health = engine.health := by
        rw [forgive]
        rcases engine.quota.clear key now with ⟨_ | _, quota⟩ <;> rfl
      exact hforgive.trans hhealth
  | snapshot => exact hhealth
  | restore snapshot =>
      rw [perform]
      cases hrestore : engine.restore snapshot with
      | error cause => exact hhealth
      | ok after =>
          obtain ⟨entries, -, -, rfl⟩ := restore_ok hrestore
          exact hhealth

/-- A reachable engine weighs keys as the configuration says that was published last. -/
theorem Reachable.health_eq (hreachable : Reachable config engine) :
    engine.health = config.health := by
  induction hreachable with
  | built hbuilt =>
      obtain ⟨series, -, hpublish⟩ := bind_eq_ok_iff.mp hbuilt
      obtain ⟨routes, series, -, -, rfl⟩ := publish_ok hpublish
      rfl
  | counting _ ih => exact ih
  | groupedBy _ group ih => exact ih
  | called _ now call ih => exact perform_health ih now call

/-! ## Small engines -/

/-- Every engine takes over every valid configuration. -/
theorem exists_publish (engine : Engine) (hvalid : config.validate = .ok ()) :
    ∃ after, engine.publish config = .ok after := by
  obtain ⟨rules, hrules⟩ :=
    SeriesRules.exists_ofSettings (Configuration.series_ok_of_validate hvalid)
  simp only [publish, Routes.ofConfiguration, SeriesGuard.withSettings, hvalid, hrules]
  exact ⟨_, rfl⟩

/-- An engine can be built with every valid configuration. -/
theorem exists_ofConfiguration (hvalid : config.validate = .ok ()) :
    ∃ engine, ofConfiguration config = .ok engine := by
  obtain ⟨rules, hrules⟩ :=
    SeriesRules.exists_ofSettings (Configuration.series_ok_of_validate hvalid)
  rw [ofConfiguration, SeriesGuard.ofSettings, hrules]
  exact exists_publish _ hvalid

theorem default_health_valid : HealthSettings.validate {} = .ok () := by
  decide +kernel

/-- A configuration with a single route, which has a single priority tier. -/
def chat (groups : List TierTarget) (series : SeriesSettings) : Configuration where
  series
  routes := ⟨[("chat", ⟨[{ mode := .priority, targets := groups }]⟩)],
    List.pairwise_singleton _ _⟩

theorem chat_valid {groups : List TierTarget} {series : SeriesSettings}
    (hseries : series.validate = .ok ()) (hnonempty : groups.isEmpty = false)
    (hgroups : (groups.foldlM (Configuration.ensureTarget "chat" 0) []).isOk = true) :
    (chat groups series).validate = .ok () := by
  have hhealth : (chat groups series).health.validate = .ok () := default_health_valid
  have hroutes : (chat groups series).routes.rows.forM
      (fun row => Configuration.ensureRoute row.1 row.2) = .ok () := by
    cases hkeys : groups.foldlM (Configuration.ensureTarget "chat" 0) [] with
    | error cause => simp [hkeys, Except.isOk, Except.toBool] at hgroups
    | ok keys =>
        simp only [chat, List.forM_eq_forM, List.forM_cons, List.forM_nil,
          Configuration.ensureRoute, Configuration.ensureTier, List.isEmpty_cons, hnonempty,
          List.foldlM_cons, List.foldlM_nil, hkeys]
        rfl
  have hsettings : (chat groups series).series.validate = .ok () := hseries
  rw [Configuration.validate, hhealth, hsettings]
  exact hroutes

/-- One route with one tier, in which two aliases serve the same model. -/
def twoAliases : Configuration where
  routes := ⟨[("chat", ⟨[{ mode := .priority, targets := [
    { provider := "north", model := "large", aliases := ["a", "b"] }] }]⟩)],
    List.pairwise_singleton _ _⟩

theorem twoAliases_valid : twoAliases.validate = .ok () := by
  refine chat_valid rfl rfl ?_
  simp [Configuration.ensureTarget, Configuration.ensureAliases, Configuration.ensureIdentifier]
  rfl

theorem exists_ofConfiguration_twoAliases :
    ∃ engine, ofConfiguration twoAliases = .ok engine :=
  exists_ofConfiguration twoAliases_valid

def fallback : ConfiguredTier where
  mode := .priority
  rank := 1
  targets := [{ provider := "south", model := "small", aliases := ["b"] }]

def rotating : ConfiguredTier where
  mode := .roundRobin
  targets := [{ provider := "north", model := "small", aliases := ["a"] }]

/-- A route whose fallback is configured before the tier of least rank. -/
def fallbackFirst : Configuration where
  series := { singleAccountProviders := ["north"] }
  routes := ⟨[("chat", ⟨[fallback, rotating]⟩)], List.pairwise_singleton _ _⟩

theorem tiersOf_fallbackFirst (window : Millis) :
    Routes.tiersOf window "chat" ⟨[fallback, rotating]⟩ =
      [Routes.tierOf "chat" window rotating, Routes.tierOf "chat" window fallback] := by
  simp [Routes.tiersOf, List.mergeSort, List.MergeSort.Internal.splitInTwo, Routes.tierOf, fallback,
    rotating]

theorem fallbackFirst_valid : fallbackFirst.validate = .ok () := by
  have hhealth : fallbackFirst.health.validate = .ok () := default_health_valid
  have hroutes : fallbackFirst.routes.rows.forM
      (fun row => Configuration.ensureRoute row.1 row.2) = .ok () := by
    simp [fallbackFirst, fallback, rotating, Configuration.ensureRoute, Configuration.ensureTier,
      Configuration.ensureTarget, Configuration.ensureAliases, Configuration.ensureIdentifier]
    rfl
  rw [Configuration.validate, hhealth]
  exact hroutes

end Engine

end ProviderRouting
