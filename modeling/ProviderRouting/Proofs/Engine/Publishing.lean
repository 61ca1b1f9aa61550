import ProviderRouting.Proofs.Engine.StaticSettings

/-!
# What publishing a configuration changes

A configuration is published as a whole or not at all, and it is refused only where its check
refuses it: the series rules, which are made after the check, can be made of every configuration
that passed it.  Publishing replaces routes and settings, starts the rotations anew, and puts the
limits and priorities that the configuration declares into the entries.  All else stays.
-/

namespace ProviderRouting

namespace StaticSettings

theorem lastOf_eq_nothing_iff {statements : List StaticSettings} :
    lastOf statements = {} ↔ ∀ statement ∈ statements, statement = {} := by
  have hnothing (statement : StaticSettings) :
      statement = {} ↔ statement.limits = none ∧ statement.priorityTier = none := by
    obtain ⟨limits, tier⟩ := statement
    rw [StaticSettings.mk.injEq]
  simp only [hnothing, lastOf, List.getLast?_eq_none_iff, List.filterMap_eq_nil_iff]
  exact ⟨fun hnone statement hmem => ⟨hnone.1 statement hmem, hnone.2 statement hmem⟩,
    fun hnone => ⟨fun statement hmem => (hnone statement hmem).1,
      fun statement hmem => (hnone statement hmem).2⟩⟩

end StaticSettings

/-- Settings are kept for the keys that the configuration says something about. -/
theorem Routes.contains_settingsOf_iff_statics {config : Configuration} {key : ProviderKey} :
    (settingsOf config).contains key = true ↔ config.statics key ≠ {} := by
  constructor
  · intro hcontains hnothing
    obtain ⟨group, hgroup, hkey, hsets⟩ := contains_settingsOf_iff.mp hcontains
    have hlisted : group.statics ∈
        ((groups config).filter fun group => group.keys.contains key).map TierTarget.statics :=
      List.mem_map_of_mem (List.mem_filter.mpr ⟨hgroup, List.contains_iff_mem.mpr hkey⟩)
    have hsilent := StaticSettings.lastOf_eq_nothing_iff.mp hnothing _ hlisted
    obtain ⟨hlimits, htier⟩ := (StaticSettings.mk.injEq ..).mp hsilent
    rcases hsets with hsome | hsome
    · rw [hlimits] at hsome
      cases hsome
    · rw [htier] at hsome
      cases hsome
  · intro hstated
    rw [← said_settingsOf, said] at hstated
    rw [Table.contains]
    cases hfound : (settingsOf config).get? key with
    | some statics => rfl
    | none => exact absurd (by rw [hfound]; rfl) hstated

namespace Engine

variable {engine after : Engine} {config : Configuration} {cause : ConfigError}

/-- Nothing but the check of the configuration keeps it from being published. -/
theorem publish_eq_error_iff :
    engine.publish config = .error cause ↔ config.validate = .error cause := by
  cases hvalid : config.validate with
  | error found =>
      have hrefused : engine.publish config = .error found := by
        rw [publish, Routes.ofConfiguration, hvalid]
        rfl
      rw [hrefused, Except.error.injEq, Except.error.injEq]
  | ok =>
      obtain ⟨after, hpublish⟩ := engine.exists_publish hvalid
      simp only [hpublish, reduceCtorEq]

/-- What publishing a configuration makes of an engine. -/
structure Adopts (config : Configuration) (before after : Engine) : Prop where
  routes : Routes.ofConfiguration config = .ok after.routes
  health : after.health = config.health
  settings : after.quota.settings = config.quota
  rules : SeriesRules.ofSettings config.series = .ok after.series.rules
  /-- No rotation has begun. -/
  rotations : after.rotations = ∅
  /-- Of a key that the configuration says something about, limits and priority are set, in the
  stored entry or in a new one. -/
  declared : ∀ key, config.statics key ≠ {} →
    after.quota.entries.get? key = some { before.quota.entry key with
      limits := (config.statics key).limits.getD (before.quota.entry key).limits
      priorityTier :=
        (config.statics key).priorityTier.getD (before.quota.entry key).priorityTier }
  silent : ∀ key, config.statics key = {} →
    after.quota.entries.get? key = before.quota.entries.get? key
  cooldowns : after.series.cooldowns = before.series.cooldowns
  avoided : after.series.avoided = before.series.avoided
  grouping : after.series.grouping = before.series.grouping
  sessions : after.sessions = before.sessions
  metrics : after.metrics = before.metrics

theorem publish_adopts (hpublish : engine.publish config = .ok after) :
    Adopts config engine after := by
  obtain ⟨routes, series, hcompiled, hseries, rfl⟩ := publish_ok hpublish
  obtain ⟨rules, hrules, rfl⟩ := SeriesGuard.withSettings_ok hseries
  have hsettings : routes.settings = Routes.settingsOf config := by
    rw [(Routes.ofConfiguration_ok hcompiled).2]
  let ledger : QuotaLedger := { engine.quota with settings := config.quota }
  have hentries (key : ProviderKey) :
      (applySettings ledger routes.settings).entries.get? key =
        ((Routes.settingsOf config).get? key).elim (ledger.entries.get? key) fun statics =>
          some ((ledger.entry key).withStatic statics.limits statics.priorityTier) := by
    rw [QuotaLedger.get?_applySettings, hsettings]
  refine {
    routes := hcompiled
    health := rfl
    settings := QuotaLedger.applySettings_settings routes.settings
    rules := hrules
    rotations := rfl
    declared := fun key hstated => (hentries key).trans ?_
    silent := fun key hsilent => (hentries key).trans ?_
    cooldowns := rfl
    avoided := rfl
    grouping := rfl
    sessions := rfl
    metrics := rfl }
  · have hcontains := Routes.contains_settingsOf_iff_statics.mpr hstated
    rw [← Routes.said_settingsOf, Routes.said]
    obtain ⟨statics, hfound⟩ := Option.isSome_iff_exists.mp hcontains
    rw [hfound]
    rfl
  · have hcontains := mt Routes.contains_settingsOf_iff_statics.mp (not_not.mpr hsilent)
    rw [Table.contains, Bool.not_eq_true, Option.isSome_eq_false_iff, Option.isNone_iff_eq_none]
      at hcontains
    rw [hcontains]
    rfl

/-- A configuration is refused as its check refuses it, and then the engine stays as it is.  Else it
is adopted as a whole. -/
theorem publish_all_or_nothing (engine : Engine) (config : Configuration) (now : Millis) :
    (∃ cause, config.validate = .error cause ∧ engine.publish config = .error cause ∧
        engine.perform now (.publish config) = engine) ∨
      ∃ after, config.validate = .ok () ∧ engine.publish config = .ok after ∧
        engine.perform now (.publish config) = after ∧ Adopts config engine after := by
  rw [perform]
  cases hvalid : config.validate with
  | error cause =>
      have hrefused : engine.publish config = .error cause := publish_eq_error_iff.mpr hvalid
      exact .inl ⟨cause, rfl, hrefused, by rw [hrefused]⟩
  | ok =>
      obtain ⟨after, hpublish⟩ := engine.exists_publish hvalid
      exact .inr ⟨after, rfl, hpublish, by rw [hpublish], publish_adopts hpublish⟩

end Engine

end ProviderRouting
