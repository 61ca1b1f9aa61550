import ProviderRouting.Proofs.Choosing
import ProviderRouting.Proofs.Table

/-!
# Selecting from tiers

The tiers of a route, tried by rank, answer with a candidate that one of them lists, and with
nothing only when none of them lists a candidate.  Neither the rotations nor the providers that
are to be avoided change this: they decide which candidate it is.
-/

namespace ProviderRouting

namespace Engine

variable {engine : Engine} {candidate : ProviderKey → Bool} {recover : Bool} {now : Millis}

/-! ## One tier -/

theorem weighted_map_fst (engine : Engine) (now : Millis) (keys : List ProviderKey) :
    (keys.map fun key => (key, engine.weight now key)).map Prod.fst = keys := by
  simp [List.map_map, Function.comp_def]

theorem totalWeight_weighted_eq_zero_iff (engine : Engine) (now : Millis)
    (keys : List ProviderKey) :
    Rotation.totalWeight (keys.map fun key => (key, engine.weight now key)) = 0 ↔ keys = [] := by
  have hpos : ∀ weighted ∈ keys.map fun key => (key, engine.weight now key), 0 < weighted.2 := by
    simp [engine.weight_pos now]
  rw [Rotation.totalWeight_eq_zero_iff_of_pos hpos, List.map_eq_nil_iff]

theorem selectFromTier_rotation {tier : Tier} (hmode : tier.mode = .roundRobin) :
    (engine.selectFromTier tier candidate false now).1 =
      ((((engine.rotations.get? tier.id).getD {}).select
        ((tier.targets.filter candidate).map fun key => (key, engine.weight now key))
        (turnBound ((tier.targets.filter candidate).map fun key =>
          (key, engine.weight now key)).length engine.health.leastMultiplier)).1).map
        (·, .roundRobin) := by
  rw [selectFromTier, hmode]
  rfl

/-- A tier answers with one of its targets that is a candidate. -/
theorem selectFromTier_some {tier : Tier} {key : ProviderKey} {stage : SelectionStage}
    (hpick : (engine.selectFromTier tier candidate recover now).1 = some (key, stage)) :
    key ∈ tier.targets ∧ candidate key = true ∧ stage ≠ .forced ∧ stage ≠ .sticky := by
  cases hmode : tier.mode with
  | priority =>
      simp only [selectFromTier, hmode, Option.map_eq_some_iff, Prod.mk.injEq] at hpick
      obtain ⟨picked, hpicked, rfl, rfl⟩ := hpick
      obtain ⟨hmem, hcandidate⟩ := Priority.select_mem hpicked
      exact ⟨hmem, hcandidate, by decide, by decide⟩
  | roundRobin =>
      cases recover with
      | true =>
          simp only [selectFromTier, hmode, if_true, Option.map_eq_some_iff,
            Prod.mk.injEq] at hpick
          obtain ⟨picked, hpicked, rfl, rfl⟩ := hpick
          obtain ⟨hmem, hcandidate⟩ := List.mem_filter.mp (heaviest?_mem hpicked)
          exact ⟨hmem, hcandidate, by decide, by decide⟩
      | false =>
          simp only [selectFromTier_rotation hmode, Option.map_eq_some_iff,
            Prod.mk.injEq] at hpick
          obtain ⟨picked, hpicked, rfl, rfl⟩ := hpick
          have hmem := Rotation.select_mem hpicked
          rw [weighted_map_fst] at hmem
          obtain ⟨hmem, hcandidate⟩ := List.mem_filter.mp hmem
          exact ⟨hmem, hcandidate, by decide, by decide⟩

theorem selectFromTier_eq_none_iff {tier : Tier} :
    (engine.selectFromTier tier candidate recover now).1 = none ↔
      ∀ key ∈ tier.targets, candidate key = false := by
  cases hmode : tier.mode with
  | priority =>
      simp only [selectFromTier, hmode, Option.map_eq_none_iff, Priority.select_eq_none_iff]
  | roundRobin =>
      have hfilter : tier.targets.filter candidate = [] ↔
          ∀ key ∈ tier.targets, candidate key = false := by
        simp only [List.filter_eq_nil_iff, Bool.not_eq_true]
      cases recover with
      | true =>
          simp only [selectFromTier, hmode, if_true, Option.map_eq_none_iff,
            heaviest?_eq_none_iff, hfilter]
      | false =>
          rw [selectFromTier_rotation hmode, Option.map_eq_none_iff,
            Rotation.select_eq_none_iff, totalWeight_weighted_eq_zero_iff, hfilter]

/-! ## What a selection leaves alone -/

/-- The engines differ at most in their sessions, rotations and metrics. -/
structure SameRecords (before after : Engine) : Prop where
  routes : after.routes = before.routes
  health : after.health = before.health
  quota : after.quota = before.quota
  series : after.series = before.series

namespace SameRecords

theorem refl (engine : Engine) : SameRecords engine engine :=
  ⟨rfl, rfl, rfl, rfl⟩

theorem trans {before between after : Engine} (hfirst : SameRecords before between)
    (hsecond : SameRecords between after) : SameRecords before after where
  routes := hsecond.routes.trans hfirst.routes
  health := hsecond.health.trans hfirst.health
  quota := hsecond.quota.trans hfirst.quota
  series := hsecond.series.trans hfirst.series

end SameRecords

theorem count_sameRecords (engine : Engine) (change : Metrics → Metrics) :
    SameRecords engine (engine.count change) :=
  ⟨rfl, rfl, rfl, rfl⟩

theorem selectFromTier_sameRecords (tier : Tier) :
    SameRecords engine (engine.selectFromTier tier candidate recover now).2 := by
  rw [selectFromTier]
  cases tier.mode with
  | priority => exact .refl engine
  | roundRobin => cases recover <;> exact ⟨rfl, rfl, rfl, rfl⟩

/-! ## All tiers of a route -/

/-- A pick that tiers may make among candidates. -/
structure TierPick (tiers : List Tier) (candidate : ProviderKey → Bool) (key : ProviderKey)
    (stage : SelectionStage) : Prop where
  listed : ∃ tier ∈ tiers, key ∈ tier.targets
  candidate : candidate key = true
  ne_forced : stage ≠ .forced
  ne_sticky : stage ≠ .sticky

theorem selectFromTiers_cons (tier : Tier) (rest : List Tier) :
    engine.selectFromTiers candidate recover now (tier :: rest) =
      match (engine.selectFromTier tier candidate recover now).1 with
      | some picked => (some picked, (engine.selectFromTier tier candidate recover now).2)
      | none =>
          (engine.selectFromTier tier candidate recover now).2.selectFromTiers candidate recover
            now rest := by
  rw [selectFromTiers]
  rcases engine.selectFromTier tier candidate recover now with ⟨_ | picked, after⟩ <;> rfl

theorem selectFromTiers_some {tiers : List Tier} {key : ProviderKey} {stage : SelectionStage}
    (hpick : (engine.selectFromTiers candidate recover now tiers).1 = some (key, stage)) :
    TierPick tiers candidate key stage := by
  induction tiers generalizing engine with
  | nil => simp [selectFromTiers] at hpick
  | cons tier rest ih =>
      rw [selectFromTiers_cons] at hpick
      cases hfirst : (engine.selectFromTier tier candidate recover now).1 with
      | none =>
          rw [hfirst] at hpick
          obtain ⟨⟨other, hother, hkey⟩, hcandidate, hforced, hsticky⟩ := ih hpick
          exact ⟨⟨other, List.mem_cons_of_mem tier hother, hkey⟩, hcandidate, hforced, hsticky⟩
      | some picked =>
          rw [hfirst] at hpick
          obtain ⟨hkey, hcandidate, hforced, hsticky⟩ :=
            selectFromTier_some (hfirst.trans hpick)
          exact ⟨⟨tier, List.mem_cons_self, hkey⟩, hcandidate, hforced, hsticky⟩

/-- Every tier is tried before there is no answer. -/
theorem selectFromTiers_eq_none_iff {tiers : List Tier} :
    (engine.selectFromTiers candidate recover now tiers).1 = none ↔
      ∀ tier ∈ tiers, ∀ key ∈ tier.targets, candidate key = false := by
  induction tiers generalizing engine with
  | nil => simp [selectFromTiers]
  | cons tier rest ih =>
      rw [selectFromTiers_cons, List.forall_mem_cons, ← selectFromTier_eq_none_iff]
      cases hfirst : (engine.selectFromTier tier candidate recover now).1 with
      | none => rw [ih, eq_self, true_and]
      | some picked => simp

theorem selectFromTiers_sameRecords (tiers : List Tier) :
    SameRecords engine (engine.selectFromTiers candidate recover now tiers).2 := by
  induction tiers generalizing engine with
  | nil => exact .refl engine
  | cons tier rest ih =>
      have hfirst : SameRecords engine (engine.selectFromTier tier candidate recover now).2 :=
        selectFromTier_sameRecords tier
      rw [selectFromTiers_cons]
      cases (engine.selectFromTier tier candidate recover now).1 with
      | none => exact hfirst.trans ih
      | some picked => exact hfirst

/-! ## Avoided providers -/

/-- The keys that are to be preferred to those of avoided providers. -/
def preferred (engine : Engine) (eligible : ProviderKey → Bool) (now : Millis)
    (key : ProviderKey) : Bool :=
  eligible key && !engine.series.isAvoided key.provider now

/-- Without an avoided provider all eligible keys are preferred. -/
theorem preferred_of_not_avoiding (havoids : engine.series.avoidsAny now = false)
    (eligible : ProviderKey → Bool) : engine.preferred eligible now = eligible := by
  funext key
  have hnot_avoided : engine.series.isAvoided key.provider now = false := by
    rw [SeriesGuard.avoidsAny, List.any_eq_false] at havoids
    rw [SeriesGuard.isAvoided]
    cases hfinish : engine.series.avoided.get? key.provider with
    | none => rfl
    | some finish => exact Bool.not_eq_true _ ▸ havoids _ (Table.get?_eq_some_iff.mp hfinish)
  rw [preferred, hnot_avoided, Bool.not_false, Bool.and_true]

theorem selectByRank_avoiding {eligible : ProviderKey → Bool} {tiers : List Tier}
    (havoids : engine.series.avoidsAny now = true) :
    engine.selectByRank eligible recover now tiers =
      match (engine.selectFromTiers (engine.preferred eligible now) recover now tiers).1 with
      | some picked =>
          (some picked,
            (engine.selectFromTiers (engine.preferred eligible now) recover now tiers).2)
      | none =>
          (engine.selectFromTiers (engine.preferred eligible now) recover now
            tiers).2.selectFromTiers eligible recover now tiers := by
  have hpreferred : engine.preferred eligible now =
      fun key => eligible key && !engine.series.isAvoided key.provider now := rfl
  rw [selectByRank, if_pos havoids, hpreferred]
  dsimp only
  rcases engine.selectFromTiers (fun key => eligible key &&
    !engine.series.isAvoided key.provider now) recover now tiers with
    ⟨_ | picked, after⟩ <;> rfl

theorem selectByRank_some {eligible : ProviderKey → Bool} {tiers : List Tier}
    {key : ProviderKey} {stage : SelectionStage}
    (hpick : (engine.selectByRank eligible recover now tiers).1 = some (key, stage)) :
    TierPick tiers eligible key stage := by
  by_cases havoids : engine.series.avoidsAny now = true
  · rw [selectByRank_avoiding havoids] at hpick
    cases hfirst : (engine.selectFromTiers (engine.preferred eligible now) recover now
        tiers).1 with
    | none =>
        rw [hfirst] at hpick
        exact selectFromTiers_some hpick
    | some picked =>
        rw [hfirst] at hpick
        -- What is preferred is eligible in the first place.
        obtain ⟨hlisted, hpreferred, hforced, hsticky⟩ :=
          selectFromTiers_some (hfirst.trans hpick)
        exact ⟨hlisted, (Bool.and_eq_true_iff.mp hpreferred).1, hforced, hsticky⟩
  · rw [selectByRank, if_neg havoids] at hpick
    exact selectFromTiers_some hpick

/-- Avoided providers are tried again, so avoiding them never exhausts the tiers. -/
theorem selectByRank_eq_none_iff {eligible : ProviderKey → Bool} {tiers : List Tier} :
    (engine.selectByRank eligible recover now tiers).1 = none ↔
      ∀ tier ∈ tiers, ∀ key ∈ tier.targets, eligible key = false := by
  by_cases havoids : engine.series.avoidsAny now = true
  · rw [selectByRank_avoiding havoids]
    cases hfirst : (engine.selectFromTiers (engine.preferred eligible now) recover now
        tiers).1 with
    | none => exact selectFromTiers_eq_none_iff
    | some picked =>
        obtain ⟨⟨tier, htier, hkey⟩, hpreferred, -, -⟩ := selectFromTiers_some hfirst
        have heligible := (Bool.and_eq_true_iff.mp hpreferred).1
        simp only [reduceCtorEq, false_iff]
        intro hnone
        exact Bool.false_ne_true ((hnone tier htier picked.1 hkey).symm.trans heligible)
  · rw [selectByRank, if_neg havoids]
    exact selectFromTiers_eq_none_iff

theorem selectByRank_sameRecords (eligible : ProviderKey → Bool) (tiers : List Tier) :
    SameRecords engine (engine.selectByRank eligible recover now tiers).2 := by
  by_cases havoids : engine.series.avoidsAny now = true
  · have hfirst : SameRecords engine
        (engine.selectFromTiers (engine.preferred eligible now) recover now tiers).2 :=
      selectFromTiers_sameRecords tiers
    rw [selectByRank_avoiding havoids]
    cases (engine.selectFromTiers (engine.preferred eligible now) recover now tiers).1 with
    | none => exact hfirst.trans (selectFromTiers_sameRecords tiers)
    | some picked => exact hfirst
  · rw [selectByRank, if_neg havoids]
    exact selectFromTiers_sameRecords tiers

end Engine

end ProviderRouting
