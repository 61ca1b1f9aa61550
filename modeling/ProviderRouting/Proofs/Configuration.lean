import ProviderRouting.Proofs.ProviderKey
import ProviderRouting.Proofs.Routes
import ProviderRouting.Proofs.Table
import ProviderRouting.Series.Guard

/-!
# Valid configurations name well-formed keys

The check of a configuration looks at every provider, every alias and every model, so each key
that a valid configuration declares can be read back from its text.  This holds in particular of
the keys whose limits and priorities the configuration sets.  The check reads every family pattern
too, so that series rules can be made of a valid configuration.
-/

namespace ProviderRouting

namespace Configuration

variable {config : Configuration} {route : String} {rank : UInt32} {group : TierTarget}
  {tier : ConfiguredTier} {seen names : List ProviderKey} {key : ProviderKey}

theorem ensureIdentifier_ok {identifier : String}
    (hchecked : ensureIdentifier identifier = .ok ()) :
    identifier ≠ "" ∧ '/' ∉ identifier.toList := by
  simpa [ensureIdentifier] using hchecked

theorem ensureAliases_ok {aliases : List String} {keyAlias : String}
    (hchecked : ensureAliases route rank group seen aliases = .ok names)
    (halias : keyAlias ∈ aliases) : ensureIdentifier keyAlias = .ok () := by
  induction aliases generalizing seen with
  | nil => exact absurd halias List.not_mem_nil
  | cons head rest ih =>
      obtain ⟨⟨⟩, hhead, hrest⟩ := bind_eq_ok_iff.mp hchecked
      rcases List.mem_cons.mp halias with rfl | halias
      · exact hhead
      · dsimp only at hrest
        split at hrest
        · cases hrest
        · exact ih hrest halias

/-- A target that passes its check has a provider, a model and aliases. -/
theorem ensureTarget_parts (hchecked : ensureTarget route rank seen group = .ok names) :
    ensureIdentifier group.provider = .ok () ∧ group.model ≠ "" ∧ group.aliases ≠ [] ∧
      ensureAliases route rank group seen group.aliases = .ok names := by
  obtain ⟨⟨⟩, hprovider, hrest⟩ := bind_eq_ok_iff.mp hchecked
  split at hrest
  · cases hrest
  · next hmodel =>
      split at hrest
      · cases hrest
      · next haliases => exact ⟨hprovider, by simpa using hmodel, by simpa using haliases, hrest⟩

/-- A tier that passes its check has a new rank, and targets that pass theirs. -/
theorem ensureTier_parts {ranks after : List UInt32}
    (hchecked : ensureTier route ranks tier = .ok after) :
    tier.rank ∉ ranks ∧ tier.targets ≠ [] ∧
      (∃ names, tier.targets.foldlM (ensureTarget route tier.rank) [] = .ok names) ∧
        after = tier.rank :: ranks := by
  rw [ensureTier] at hchecked
  split at hchecked
  · cases hchecked
  · next hrank =>
      split at hchecked
      · cases hchecked
      · next htargets =>
          obtain ⟨⟨⟩, -, hrest⟩ := bind_eq_ok_iff.mp hchecked
          obtain ⟨names, hnames, hafter⟩ := bind_eq_ok_iff.mp hrest
          exact ⟨by simpa using hrank, by simpa using htargets, ⟨names, hnames⟩,
            (Except.ok.inj hafter).symm⟩

/-- A route that passes its check has tiers that pass theirs. -/
theorem ensureRoute_parts {configured : ConfiguredRoute}
    (hchecked : ensureRoute route configured = .ok ()) :
    configured.tiers ≠ [] ∧
      ∃ ranks, configured.tiers.foldlM (ensureTier route) [] = .ok ranks := by
  rw [ensureRoute] at hchecked
  split at hchecked
  · cases hchecked
  · next htiers =>
      obtain ⟨ranks, hranks, -⟩ := bind_eq_ok_iff.mp hchecked
      exact ⟨by simpa using htiers, ranks, hranks⟩

theorem ensureTarget_ok (hchecked : ensureTarget route rank seen group = .ok names)
    (hkey : key ∈ group.keys) : key.WellFormed := by
  obtain ⟨hprovider, hmodel, -, haliases⟩ := ensureTarget_parts hchecked
  obtain ⟨keyAlias, halias, rfl⟩ := List.mem_map.mp hkey
  have hprovider := ensureIdentifier_ok hprovider
  have halias := ensureIdentifier_ok (ensureAliases_ok haliases halias)
  exact ⟨hprovider.1, hprovider.2, halias.1, halias.2, hmodel⟩

theorem ensureTier_ok {ranks after : List UInt32}
    (hchecked : ensureTier route ranks tier = .ok after) (hgroup : group ∈ tier.targets)
    (hkey : key ∈ group.keys) : key.WellFormed := by
  obtain ⟨-, -, ⟨names, htargets⟩, -⟩ := ensureTier_parts hchecked
  obtain ⟨before, after, htarget⟩ := ok_of_foldlM htargets hgroup
  exact ensureTarget_ok htarget hkey

theorem ensureRoute_ok {configured : ConfiguredRoute}
    (hchecked : ensureRoute route configured = .ok ()) (htier : tier ∈ configured.tiers)
    (hgroup : group ∈ tier.targets) (hkey : key ∈ group.keys) : key.WellFormed := by
  obtain ⟨-, ranks, htiers⟩ := ensureRoute_parts hchecked
  obtain ⟨before, after, hranked⟩ := ok_of_foldlM htiers htier
  exact ensureTier_ok hranked hgroup hkey

/-- The check of a configuration looks at every route. -/
theorem route_ok_of_validate (hvalid : config.validate = .ok ()) {row : String × ConfiguredRoute}
    (hrow : row ∈ config.routes.rows) : ensureRoute row.1 row.2 = .ok () := by
  obtain ⟨⟨⟩, -, hvalid⟩ := bind_eq_ok_iff.mp hvalid
  obtain ⟨⟨⟩, -, hvalid⟩ := bind_eq_ok_iff.mp hvalid
  obtain ⟨⟨⟩, -, hvalid⟩ := bind_eq_ok_iff.mp hvalid
  obtain ⟨⟨⟩, -, hvalid⟩ := bind_eq_ok_iff.mp hvalid
  split at hvalid
  · cases hvalid
  · have hroute := ok_of_forM hvalid hrow
    exact hroute

/-- Every key that a valid configuration declares is well formed. -/
theorem wellFormed_of_declares (hvalid : config.validate = .ok ())
    (hdeclares : Routes.Declares config key) : key.WellFormed := by
  obtain ⟨group, hgroup, hkey⟩ := hdeclares
  obtain ⟨row, hrow, hgroup⟩ := List.mem_flatMap.mp hgroup
  obtain ⟨tier, htier, hgroup⟩ := List.mem_flatMap.mp hgroup
  exact ensureRoute_ok (route_ok_of_validate hvalid hrow) htier hgroup hkey

theorem series_ok_of_validate (hvalid : config.validate = .ok ()) :
    config.series.validate = .ok () := by
  obtain ⟨⟨⟩, -, hvalid⟩ := bind_eq_ok_iff.mp hvalid
  obtain ⟨⟨⟩, -, hvalid⟩ := bind_eq_ok_iff.mp hvalid
  obtain ⟨⟨⟩, -, hvalid⟩ := bind_eq_ok_iff.mp hvalid
  obtain ⟨⟨⟩, hseries, -⟩ := bind_eq_ok_iff.mp hvalid
  exact hseries

end Configuration

/-- Checked family patterns can all be read. -/
theorem SeriesRules.exists_ofSettings {settings : SeriesSettings}
    (hvalid : settings.validate = .ok ()) : ∃ rules, ofSettings settings = .ok rules := by
  obtain ⟨tests, htests⟩ : ∃ tests, settings.families.mapM familyTest = .ok tests := by
    refine exists_mapM_ok_iff.mpr fun rule hrule => ?_
    have hchecked := ok_of_forM hvalid hrule
    cases hpattern : Pattern.parse? rule.pattern with
    | none => simp [hpattern] at hchecked
    | some pattern => exact ⟨⟨rule.provider, pattern, rule.family⟩, by rw [familyTest, hpattern]⟩
  exact ⟨_, by rw [ofSettings, htests]; rfl⟩

namespace Routes

variable {config : Configuration} {routes : Routes} {key : ProviderKey}

def Sets (group : TierTarget) : Prop :=
  group.limits.isSome = true ∨ group.priorityTier.isSome = true

theorem contains_addSettings_iff (group : TierTarget)
    (settings : Table ProviderKey StaticSettings) (added : ProviderKey) :
    (addSettings group settings added).contains key = true ↔
      (key = added ∧ Sets group) ∨ settings.contains key = true := by
  rw [addSettings, Sets]
  split
  · next hsets => simp_all [Table.contains_insert_iff]
  · next hsets => simp_all

/-- Settings are kept for the keys of those targets that set something. -/
theorem contains_settingsOf_iff :
    (settingsOf config).contains key = true ↔
      ∃ group ∈ groups config, key ∈ group.keys ∧ Sets group := by
  let holds (settings : Table ProviderKey StaticSettings) : Prop := settings.contains key = true
  have hgroup (settings : Table ProviderKey StaticSettings) (group : TierTarget) :
      holds (group.keys.foldl (addSettings group) settings) ↔
        (key ∈ group.keys ∧ Sets group) ∨ holds settings := by
    refine (foldl_iff holds (fun added => key = added ∧ Sets group)
      (contains_addSettings_iff group) group.keys settings).trans ?_
    simp
  refine (foldl_iff holds (fun group => key ∈ group.keys ∧ Sets group) hgroup
    (groups config) ∅).trans ?_
  exact or_iff_left Bool.false_ne_true

/-- Compiled routes keep settings for well-formed keys only. -/
theorem wellFormed_of_settings (hcompiled : ofConfiguration config = .ok routes)
    (hcontains : routes.settings.contains key = true) : key.WellFormed := by
  obtain ⟨hvalid, rfl⟩ := ofConfiguration_ok hcompiled
  obtain ⟨group, hgroup, hkey, -⟩ := contains_settingsOf_iff.mp hcontains
  exact Configuration.wellFormed_of_declares hvalid ⟨group, hgroup, hkey⟩

end Routes

end ProviderRouting
