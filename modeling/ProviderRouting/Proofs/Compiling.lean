import ProviderRouting.Proofs.Engine.StaticSettings
import ProviderRouting.Proofs.Ranks

/-!
# Compiled routes render their configuration

A configuration is compiled exactly if it passes its check.  Compiled routes then say what the
configuration says: which tiers a route has and in which order, which keys stand in them, which keys
there are at all, and which limits and priority each of them has.  Neither ids of tiers nor texts of
keys are ambiguous.
-/

namespace ProviderRouting

/-! ## Checked keys -/

namespace Configuration

variable {config : Configuration} {route : String} {rank : UInt32} {group : TierTarget}
  {groups : List TierTarget} {tier : ConfiguredTier} {seen names : List ProviderKey}

/-- Aliases that pass their check give new keys, and no key twice. -/
theorem ensureAliases_names {aliases : List String} (hseen : seen.Nodup)
    (hchecked : ensureAliases route rank group seen aliases = .ok names) :
    names = (aliases.map fun keyAlias => ⟨group.provider, keyAlias, group.model⟩).reverse ++ seen ∧
      names.Nodup := by
  induction aliases generalizing seen with
  | nil =>
      obtain rfl := Except.ok.inj hchecked
      exact ⟨rfl, hseen⟩
  | cons keyAlias rest ih =>
      obtain ⟨⟨⟩, -, hrest⟩ := bind_eq_ok_iff.mp hchecked
      dsimp only at hrest
      split at hrest
      · cases hrest
      · next hnew =>
          have hnew : (⟨group.provider, keyAlias, group.model⟩ : ProviderKey) ∉ seen := by
            simpa using hnew
          obtain ⟨hnames, hnodup⟩ := ih (List.nodup_cons.mpr ⟨hnew, hseen⟩) hrest
          refine ⟨?_, hnodup⟩
          rw [hnames, List.map_cons, List.reverse_cons, List.append_assoc, List.singleton_append]

theorem foldlM_ensureTarget_names (hseen : seen.Nodup)
    (hchecked : groups.foldlM (ensureTarget route rank) seen = .ok names) :
    names = (groups.flatMap TierTarget.keys).reverse ++ seen ∧ names.Nodup := by
  induction groups generalizing seen with
  | nil =>
      obtain rfl := Except.ok.inj hchecked
      exact ⟨rfl, hseen⟩
  | cons group rest ih =>
      obtain ⟨between, hgroup, hrest⟩ := bind_eq_ok_iff.mp hchecked
      obtain ⟨-, -, -, haliases⟩ := ensureTarget_parts hgroup
      obtain ⟨rfl, hbetween⟩ := ensureAliases_names hseen haliases
      obtain ⟨hnames, hnodup⟩ := ih hbetween hrest
      refine ⟨?_, hnodup⟩
      rw [hnames, List.flatMap_cons, List.reverse_append, List.append_assoc]
      rfl

/-- A tier that passes its check lists a key, and no key twice. -/
theorem ensureTier_keys {ranks after : List UInt32}
    (hchecked : ensureTier route ranks tier = .ok after) : tier.keys ≠ [] ∧ tier.keys.Nodup := by
  obtain ⟨-, hnonempty, ⟨names, hnames⟩, -⟩ := ensureTier_parts hchecked
  obtain ⟨hkeys, hnodup⟩ := foldlM_ensureTarget_names List.nodup_nil hnames
  constructor
  -- The first target alone gives a key, as it has an alias.
  · obtain ⟨group, hgroup⟩ := List.exists_mem_of_ne_nil tier.targets hnonempty
    obtain ⟨before, after, htarget⟩ := ok_of_foldlM hnames hgroup
    obtain ⟨-, -, haliases, -⟩ := ensureTarget_parts htarget
    intro hnone
    have hgroup_keys : group.keys = [] := List.flatMap_eq_nil_iff.mp hnone group hgroup
    exact haliases (List.map_eq_nil_iff.mp hgroup_keys)
  · rw [List.append_nil] at hkeys
    rw [hkeys, List.nodup_reverse] at hnodup
    exact hnodup

/-- What a valid configuration has in its routes. -/
theorem keys_of_validate (hvalid : config.validate = .ok ()) {row : String × ConfiguredRoute}
    (hrow : row ∈ config.routes.rows) :
    row.2.tiers ≠ [] ∧ ∀ tier ∈ row.2.tiers, tier.keys ≠ [] ∧ tier.keys.Nodup := by
  obtain ⟨hnonempty, ranks, htiers⟩ := ensureRoute_parts (route_ok_of_validate hvalid hrow)
  refine ⟨hnonempty, fun tier htier => ?_⟩
  obtain ⟨before, after, hranked⟩ := ok_of_foldlM htiers htier
  exact ensureTier_keys hranked

end Configuration

namespace Routes

variable {config : Configuration} {routes : Routes} {keys : List ProviderKey} {key : ProviderKey}

/-! ## The order of first occurrence -/

theorem distinct_nodup (keys : List ProviderKey) : (distinct keys).Nodup := by
  induction keys with
  | nil => exact List.nodup_nil
  | cons head rest ih =>
      rw [distinct, List.nodup_cons]
      constructor
      · simp
      · exact ih.filter _

/-- What occurs first stands first. -/
theorem distinct_pairwise_idxOf (keys : List ProviderKey) :
    (distinct keys).Pairwise fun earlier later => keys.idxOf earlier < keys.idxOf later := by
  induction keys with
  | nil => exact .nil
  | cons head rest ih =>
      -- All other keys stand one place further back than in the rest.
      have hbehind {key : ProviderKey} (hmem : key ∈ (distinct rest).filter (· != head)) :
          (head :: rest).idxOf key = rest.idxOf key + 1 := by
        have hne : key ≠ head := by simpa using (List.mem_filter.mp hmem).2
        exact List.idxOf_cons_ne rest hne.symm
      rw [distinct, List.pairwise_cons]
      constructor
      · intro key hkey
        rw [List.idxOf_cons_self, hbehind hkey]
        exact Nat.succ_pos _
      · refine (ih.filter _).imp_of_mem fun hearlier hlater hlt => ?_
        rw [hbehind hearlier, hbehind hlater]
        exact Nat.succ_lt_succ hlt

/-! ## Tiers -/

structure TierRenders (config : Configuration) (route : String) (source : ConfiguredTier)
    (tier : Tier) : Prop where
  mode : tier.mode = source.mode
  rank : tier.rank = source.rank
  window : tier.penaltyWindow =
    (source.penaltyWindowSeconds.map .ofSeconds).getD (penaltyWindow config)
  /-- The aliases of one target after the other. -/
  targets : tier.targets = source.targets.flatMap fun group =>
    group.aliases.map fun keyAlias => ⟨group.provider, keyAlias, group.model⟩
  nonempty : tier.targets ≠ []
  nodup : tier.targets.Nodup

/-- The tiers stand for all tiers of a configured route, by increasing rank. -/
structure TiersRender (config : Configuration) (route : String) (configured : ConfiguredRoute)
    (tiers : List Tier) : Prop where
  sources : ∃ sources : List ConfiguredTier, sources.Perm configured.tiers ∧
    List.Forall₂ (TierRenders config route) sources tiers
  increasing : tiers.Pairwise fun earlier later => earlier.rank < later.rank
  nonempty : tiers ≠ []

theorem tiersOf_render (hcompiled : ofConfiguration config = .ok routes) {route : String}
    {configured : ConfiguredRoute} (hroute : config.routes.get? route = some configured) :
    TiersRender config route configured (tiersOf (penaltyWindow config) route configured) := by
  have htiers : routes.tiers? route = some (tiersOf (penaltyWindow config) route configured) := by
    rw [tiers?_eq hcompiled, hroute]
    rfl
  obtain ⟨hnonempty, hkeys⟩ := Configuration.keys_of_validate (ofConfiguration_ok hcompiled).1
    (Table.get?_eq_some_iff.mp hroute)
  have hperm := byRank_perm configured
  refine ⟨⟨byRank configured, hperm, ?_⟩, ranks_increasing hcompiled htiers, ?_⟩
  · rw [tiersOf_eq, List.forall₂_map_right_iff, List.forall₂_same]
    intro source hsource
    obtain ⟨hsome, hnodup⟩ := hkeys source (hperm.mem_iff.mp hsource)
    exact ⟨rfl, rfl, rfl, rfl, hsome, hnodup⟩
  · rw [tiersOf_eq, ne_eq, List.map_eq_nil_iff]
    intro hempty
    rw [hempty] at hperm
    exact hnonempty hperm.nil_eq.symm

/-- No two tiers have the same id. -/
theorem nodup_ids (hcompiled : ofConfiguration config = .ok routes) :
    (routes.tiersByRoute.rows.flatMap fun row => row.2.map Tier.id).Nodup := by
  have htiers {row : String × List Tier} (hrow : row ∈ routes.tiersByRoute.rows) :
      routes.tiers? row.1 = some row.2 :=
    Table.get?_eq_some_iff.mpr hrow
  -- Within a route the ranks tell the tiers apart, and between routes the names do.
  rw [List.nodup_flatMap]
  constructor
  · intro row hrow
    apply List.Nodup.map_on
    · intro tier htier other hother hid
      exact (eq_of_tierId hcompiled (htiers hrow) htier (htiers hrow) hother hid).2
    · exact (nodup_ranks hcompiled (htiers hrow)).of_map
  · apply routes.tiersByRoute.sorted.imp_of_mem
    intro row other hrow hother hlt id hid hid_other
    obtain ⟨tier, htier, rfl⟩ := List.mem_map.mp hid
    obtain ⟨otherTier, hotherTier, hsame⟩ := List.mem_map.mp hid_other
    obtain ⟨hname, -⟩ :=
      eq_of_tierId hcompiled (htiers hrow) htier (htiers hother) hotherTier hsame.symm
    rw [hname, Std.compare_self] at hlt
    cases hlt

/-! ## Compiled routes -/

/-- All keys of all targets, in the order of the configuration: by the names of the routes, and then
as configured. -/
def occurrences (config : Configuration) : List ProviderKey :=
  config.routes.rows.flatMap fun row => row.2.tiers.flatMap ConfiguredTier.keys

/-- The targets that list the key, in the order of the configuration. -/
def groupsOf (config : Configuration) (key : ProviderKey) : List TierTarget :=
  (groups config).filter fun group => group.keys.contains key

/-- The routes say what the configuration says. -/
structure Renders (config : Configuration) (routes : Routes) : Prop where
  absent : ∀ route, config.routes.get? route = none → routes.tiers? route = none
  tiers : ∀ route configured, config.routes.get? route = some configured →
    ∃ tiers, routes.tiers? route = some tiers ∧ TiersRender config route configured tiers
  keys_iff : ∀ key, key ∈ routes.keys ↔ key ∈ occurrences config
  keys_nodup : routes.keys.Nodup
  /-- Keys stand in the order of their first occurrences. -/
  keys_ordered : routes.keys.Pairwise fun earlier later =>
    (occurrences config).idxOf earlier < (occurrences config).idxOf later
  lists_iff : ∀ route key, routes.lists route key = true ↔
    ∃ tiers, routes.tiers? route = some tiers ∧ ∃ tier ∈ tiers, key ∈ tier.targets
  /-- The last target that lists the key and declares limits decides these, and likewise the
  priority. -/
  settings : ∀ key, (routes.settings.get? key).getD {} = {
    limits := ((groupsOf config key).filterMap TierTarget.limits).getLast?
    priorityTier := ((groupsOf config key).filterMap TierTarget.priorityTier).getLast? }
  ids_nodup : (routes.tiersByRoute.rows.flatMap fun row => row.2.map Tier.id).Nodup
  /-- Every key can be read back from its text. -/
  texts : ∀ key ∈ routes.keys, ProviderKey.parse? key.text = some key

theorem occurrences_eq (config : Configuration) :
    (groups config).flatMap TierTarget.keys = occurrences config := by
  simp only [groups, occurrences, List.flatMap_assoc]
  rfl

theorem said_settingsOf_eq_last (config : Configuration) (key : ProviderKey) :
    said (settingsOf config) key = {
      limits := ((groupsOf config key).filterMap TierTarget.limits).getLast?
      priorityTier := ((groupsOf config key).filterMap TierTarget.priorityTier).getLast? } := by
  rw [said_settingsOf, Configuration.statics, StaticSettings.lastOf, List.filterMap_map,
    List.filterMap_map]
  rfl

theorem ofConfiguration_renders (hcompiled : ofConfiguration config = .ok routes) :
    Renders config routes := by
  obtain ⟨hvalid, hroutes⟩ := ofConfiguration_ok hcompiled
  have hkeys : routes.keys = distinct (occurrences config) := by
    rw [hroutes, occurrences_eq]
  have hsettings : routes.settings = settingsOf config := by
    rw [hroutes]
  refine {
    absent := fun route hroute => by rw [tiers?_eq hcompiled, hroute, Option.map_none]
    tiers := fun route configured hroute => ?_
    keys_iff := fun key => by rw [hkeys, mem_distinct_iff]
    keys_nodup := hkeys ▸ distinct_nodup _
    keys_ordered := hkeys ▸ distinct_pairwise_idxOf _
    lists_iff := fun route key => ?_
    settings := fun key => hsettings ▸ said_settingsOf_eq_last config key
    ids_nodup := nodup_ids hcompiled
    texts := fun key hkey => ?_ }
  · refine ⟨_, ?_, tiersOf_render hcompiled hroute⟩
    rw [tiers?_eq hcompiled, hroute, Option.map_some]
  · cases htiers : routes.tiers? route with
    | none => simp [lists, htiers]
    | some tiers => simp [lists_iff htiers]
  · apply ProviderKey.parse?_text
    exact Configuration.wellFormed_of_declares hvalid ((mem_keys_iff hcompiled).mp hkey)

/-- A configuration is refused as its check refuses it, and else rendered. -/
theorem ofConfiguration_faithful (config : Configuration) :
    match config.validate with
    | .error cause => ofConfiguration config = .error cause
    | .ok () => ∃ routes, ofConfiguration config = .ok routes ∧ Renders config routes := by
  cases hvalid : config.validate with
  | error cause =>
      rw [ofConfiguration, hvalid]
      rfl
  | ok =>
      have hcompiled : ∃ routes, ofConfiguration config = .ok routes := by
        rw [ofConfiguration, hvalid]
        exact ⟨_, rfl⟩
      obtain ⟨routes, hcompiled⟩ := hcompiled
      exact ⟨routes, hcompiled, ofConfiguration_renders hcompiled⟩

end Routes

end ProviderRouting
