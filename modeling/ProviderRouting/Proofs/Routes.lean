import ProviderRouting.Proofs.Computation
import ProviderRouting.Routes

/-!
# Compiled routes and their configuration

What the compiled routes list comes from a target of the configuration, and every key of a target
is among the configured keys.
-/

namespace ProviderRouting

namespace Routes

theorem mem_distinct_iff {key : ProviderKey} {keys : List ProviderKey} :
    key ∈ distinct keys ↔ key ∈ keys := by
  induction keys with
  | nil => rfl
  | cons head rest ih =>
      simp only [distinct, List.mem_cons, List.mem_filter, bne_iff_ne, ih]
      by_cases hkey : key = head <;> simp [hkey]

/-- The configuration has a target that gives this key. -/
def Declares (config : Configuration) (key : ProviderKey) : Prop :=
  ∃ group ∈ groups config, key ∈ group.keys

variable {config : Configuration} {routes : Routes} {key : ProviderKey}

theorem ofConfiguration_ok (hcompiled : ofConfiguration config = .ok routes) :
    config.validate = .ok () ∧
      routes = {
        tiersByRoute := .ofList (config.routes.rows.map fun row =>
          (row.1, tiersOf (.ofSeconds config.priority.penaltyWindowSeconds) row.1 row.2))
        keys := distinct ((groups config).flatMap TierTarget.keys)
        settings := settingsOf config } := by
  obtain ⟨⟨⟩, hvalid, hrest⟩ := bind_eq_ok_iff.mp hcompiled
  exact ⟨hvalid, (Except.ok.inj hrest).symm⟩

theorem mem_keys_iff (hcompiled : ofConfiguration config = .ok routes) :
    key ∈ routes.keys ↔ Declares config key := by
  rw [(ofConfiguration_ok hcompiled).2, mem_distinct_iff, List.mem_flatMap]
  rfl

/-- Compiling adds no tier to a route. -/
theorem exists_configured_tier {route : String} {tiers : List Tier} {tier : Tier}
    (hcompiled : ofConfiguration config = .ok routes) (htiers : routes.tiers? route = some tiers)
    (htier : tier ∈ tiers) :
    ∃ row ∈ config.routes.rows, ∃ source ∈ row.2.tiers,
      tier = tierOf row.1 (.ofSeconds config.priority.penaltyWindowSeconds) source := by
  rw [(ofConfiguration_ok hcompiled).2] at htiers
  obtain ⟨row, hrow, hnamed⟩ := List.mem_map.mp (Table.mem_of_get?_ofList htiers)
  cases hnamed
  obtain ⟨source, hsource, rfl⟩ := List.mem_map.mp (List.mem_mergeSort.mp htier)
  exact ⟨row, hrow, source, hsource, rfl⟩

/-- Compiling adds no key to a route. -/
theorem declares_of_lists {route : String} (hcompiled : ofConfiguration config = .ok routes)
    (hlists : routes.lists route key = true) : Declares config key := by
  cases htiers : routes.tiers? route with
  | none => simp [lists, htiers] at hlists
  | some tiers =>
      simp only [lists, htiers, Option.any_some, List.any_eq_true, List.contains_iff_mem] at hlists
      obtain ⟨tier, htier, hkey⟩ := hlists
      obtain ⟨row, hrow, source, hsource, rfl⟩ := exists_configured_tier hcompiled htiers htier
      obtain ⟨group, hgroup, hmember⟩ := List.mem_flatMap.mp hkey
      refine ⟨group, ?_, hmember⟩
      exact List.mem_flatMap.mpr ⟨row, hrow, List.mem_flatMap.mpr ⟨source, hsource, hgroup⟩⟩

/-- The configured keys are those of the targets. -/
theorem contains_iff_declares (hcompiled : ofConfiguration config = .ok routes) :
    routes.contains key = true ↔ Declares config key := by
  rw [contains, List.contains_iff_mem, mem_keys_iff hcompiled]

end Routes

end ProviderRouting
