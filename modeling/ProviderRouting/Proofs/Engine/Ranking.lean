import ProviderRouting.Proofs.Engine.Deciding
import ProviderRouting.Proofs.Engine.Run
import ProviderRouting.Proofs.Ranks

/-!
# Tiers answer by rank

The tier that answers is the first one with a key to offer.  Since the tiers of a route stand in
increasing rank, it is the configured tier of least rank among those.
-/

namespace ProviderRouting

namespace Engine

variable {engine after : Engine} {config : Configuration} {now : Millis} {tiers : List Tier}
  {route : String} {request : SelectionRequest} {key : ProviderKey} {stage : SelectionStage}

/-- The key is among those that a request may get from the tiers of a route. -/
structure Contends (engine : Engine) (route : String) (request : SelectionRequest) (now : Millis)
    (key : ProviderKey) : Prop where
  selectable : engine.Selectable request now key
  passes : engine.Passes request key
  /-- Some key of the route is of no avoided provider, and then this one has to be so too. -/
  spared : (∃ other, engine.routes.lists route other = true ∧ engine.Selectable request now other ∧
      engine.Passes request other ∧ engine.series.isAvoided other.provider now = false) →
    engine.series.isAvoided key.provider now = false

theorem contenders_iff (htiers : engine.routes.tiers? route = some tiers) :
    engine.contenders request now tiers key = true ↔
      engine.Contends route request now key := by
  have hroute : (∃ tier ∈ tiers, ∃ other ∈ tier.targets,
        engine.admissible request now other = true ∧
          engine.series.isAvoided other.provider now = false) ↔
      ∃ other, engine.routes.lists route other = true ∧ engine.Selectable request now other ∧
        engine.Passes request other ∧ engine.series.isAvoided other.provider now = false := by
    simp only [admissible_iff, Routes.lists_iff htiers]
    constructor
    · rintro ⟨tier, htier, other, hother, ⟨hselectable, hpasses⟩, hspared⟩
      exact ⟨other, ⟨tier, htier, hother⟩, hselectable, hpasses, hspared⟩
    · rintro ⟨other, ⟨tier, htier, hother⟩, hselectable, hpasses, hspared⟩
      exact ⟨tier, htier, other, hother, ⟨hselectable, hpasses⟩, hspared⟩
  rw [contenders, remaining_iff, hroute, admissible_iff]
  constructor
  · rintro ⟨⟨hselectable, hpasses⟩, hspared⟩
    exact ⟨hselectable, hpasses, hspared⟩
  · rintro ⟨hselectable, hpasses, hspared⟩
    exact ⟨⟨hselectable, hpasses⟩, hspared⟩

/-- What makes a key of a configured tier the right one to answer with. -/
structure RankedPick (engine : Engine) (route : String) (request : SelectionRequest)
    (now : Millis) (configured : ConfiguredRoute) (source : ConfiguredTier) (key : ProviderKey)
    (stage : SelectionStage) : Prop where
  mem_tiers : source ∈ configured.tiers
  listed : key ∈ source.keys
  contends : engine.Contends route request now key
  /-- All other tiers with a key to offer have greater ranks. -/
  least : ∀ other ∈ configured.tiers, other ≠ source →
    ∀ rival ∈ other.keys, engine.Contends route request now rival → source.rank < other.rank
  stage_eq : stage = source.mode.stage (request.isRetry && !request.excluded.isEmpty)
  /-- Keys before the pick weigh less, and keys after it no more. -/
  healthiest : stage = .recovery → ∃ before later, source.keys = before ++ key :: later ∧
    (∀ rival ∈ before, engine.Contends route request now rival →
      engine.weight now rival < engine.weight now key) ∧
    ∀ rival ∈ later, engine.Contends route request now rival →
      engine.weight now rival ≤ engine.weight now key

/-- In every state that an engine can reach, tiers answer in the order of their ranks, and with keys
of avoided providers only when they have no other. -/
theorem select_by_rank (hreachable : Reachable config engine)
    (hselect : engine.select route request now = .ok (.selected key stage, after))
    (hforced : stage ≠ .forced) (hsticky : stage ≠ .sticky) :
    ∃ configured source, config.routes.get? route = some configured ∧
      RankedPick engine route request now configured source key stage := by
  generalize hselection : Selection.selected key stage = selection at hselect
  cases select_ending hselect with
  | early hstage =>
      cases hselection
      exact absurd hstage (not_or.mpr ⟨hforced, hsticky⟩)
  | @ranked tiers htiers =>
      have hpick := answerOf_eq_selected_iff.mp hselection.symm
      obtain ⟨tier, hfind, hranked⟩ := ranked_some hpick
      rw [hranked] at hpick
      obtain ⟨configured, hroute, hsources⟩ :=
        Routes.exists_configured_route hreachable.routes_eq htiers
      obtain ⟨source, hsource, rfl⟩ := (hsources tier).mp (List.mem_of_find?_eq_some hfind)
      obtain ⟨hlisted, hcandidate, -, -⟩ := selectFromTier_some hpick
      refine ⟨configured, source, hroute, hsource, hlisted,
        (contenders_iff htiers).mp hcandidate, ?_, selectFromTier_stage hpick, ?_⟩
      · intro other hother hne rival hrival hcontends
        have hoffers : offers (engine.contenders request now tiers)
            (Routes.tierOf route (Routes.penaltyWindow config) other) = true :=
          List.any_eq_true.mpr ⟨rival, hrival, (contenders_iff htiers).mpr hcontends⟩
        have hranks := Configuration.nodup_ranks_of_validate
          (Routes.ofConfiguration_ok hreachable.routes_eq).1 (Table.get?_eq_some_iff.mp hroute)
        refine Routes.rank_lt_of_find? hreachable.routes_eq htiers hfind
          ((hsources _).mpr ⟨other, hother, rfl⟩) hoffers fun htier => hne ?_
        exact List.inj_on_of_nodup_map hranks hother hsource (congrArg Tier.rank htier)
      · rintro rfl
        obtain ⟨before, later, hsplit, hbefore, hlater⟩ := selectFromTier_recovery hpick
        refine ⟨before, later, hsplit, fun rival hrival hcontends => ?_,
          fun rival hrival hcontends => ?_⟩
        · exact hbefore rival hrival ((contenders_iff htiers).mpr hcontends)
        · exact hlater rival hrival ((contenders_iff htiers).mpr hcontends)

/-- An avoided provider does not answer, although it could and its tier has the least rank. -/
theorem select_by_rank_of_avoided :
    ∃ engine after configured source, Reachable fallbackFirst engine ∧
      engine.Selectable {} 0 ⟨"north", "a", "small"⟩ ∧
      engine.select "chat" {} 0 = .ok (.selected ⟨"south", "b", "small"⟩ .priority, after) ∧
      RankedPick engine "chat" {} 0 configured source ⟨"south", "b", "small"⟩ .priority := by
  obtain ⟨fresh, hbuilt⟩ := exists_ofConfiguration fallbackFirst_valid
  let failure : EngineCall := .reportError
    { key := ⟨"north", "a", "large"⟩, status := some 429, code := some "overloaded", time := 0 }
    none
  let engine : Engine := fresh.perform 0 failure
  have hreachable : Reachable fallbackFirst engine := (Reachable.built hbuilt).called 0 failure
  have hanswer : engine.isAvailable {} {} 0 ⟨"north", "a", "small"⟩ = true ∧
      (engine.select "chat" {} 0).toOption.map Prod.fst =
        some (.selected ⟨"south", "b", "small"⟩ .priority) := by
    simp only [ofConfiguration, publish, Routes.ofConfiguration, fallbackFirst_valid] at hbuilt
    cases hbuilt
    simp only [engine, fallbackFirst, List.map_cons, List.map_nil, tiersOf_fallbackFirst]
    exact ⟨by decide +kernel, by decide +kernel⟩
  obtain ⟨havailable, hpicked⟩ := hanswer
  cases hselect : engine.select "chat" {} 0 with
  | error cause => simp [hselect, Except.toOption] at hpicked
  | ok result =>
      obtain ⟨selection, after⟩ := result
      obtain rfl : selection = .selected ⟨"south", "b", "small"⟩ .priority := by
        simpa [hselect, Except.toOption] using hpicked
      obtain ⟨configured, source, -, hpick⟩ :=
        select_by_rank hreachable hselect (by decide) (by decide)
      exact ⟨engine, after, configured, source, hreachable,
        (isAvailable_iff_selectable engine {} 0 _).mp havailable, hselect, hpick⟩

end Engine

end ProviderRouting
