import ProviderRouting.Proofs.Engine.Selection

/-!
# The tier that answers

A tier without a candidate leaves the engine as it is, so the answer is that of the first tier that
has one.  Avoided providers only make the candidates fewer: as long as the route has an eligible
key of another provider, theirs are none.  Tiers look at neither sessions nor counts, and so a
whole selection is what a forced target, a binding, or this one tier answers.
-/

namespace ProviderRouting

/-- The stage of what a tier selects, for a request that recovers from a failure or does not. -/
def TierPolicy.stage : TierPolicy → Bool → SelectionStage
  | .priority, _ => .priority
  | .roundRobin, true => .recovery
  | .roundRobin, false => .roundRobin

namespace Engine

variable {engine after : Engine} {candidate eligible : ProviderKey → Bool}
  {recover : Bool} {now : Millis} {tier : Tier} {tiers : List Tier} {route : String}
  {request : SelectionRequest} {key : ProviderKey} {stage : SelectionStage}
  {selection : Selection}

/-! ## The first tier with a candidate -/

/-- A rotation without candidates is not turned. -/
theorem selectFromTier_of_none
    (hnone : (engine.selectFromTier tier candidate recover now).1 = none) :
    engine.selectFromTier tier candidate recover now = (none, engine) := by
  have hcandidates := selectFromTier_eq_none_iff.mp hnone
  refine Prod.ext hnone ?_
  rw [selectFromTier]
  cases tier.mode with
  | priority => rfl
  | roundRobin =>
      cases recover with
      | true => rfl
      | false =>
          have hempty : tier.targets.filter candidate = [] :=
            List.filter_eq_nil_iff.mpr fun key hkey => by simp [hcandidates key hkey]
          simp only [Bool.false_eq_true, if_false, totalWeight_weighted_eq_zero_iff, hempty,
            if_true]

theorem selectFromTier_stage
    (hpick : (engine.selectFromTier tier candidate recover now).1 = some (key, stage)) :
    stage = tier.mode.stage recover := by
  cases hmode : tier.mode with
  | priority =>
      simp only [selectFromTier, hmode, Option.map_eq_some_iff, Prod.mk.injEq] at hpick
      obtain ⟨-, -, -, rfl⟩ := hpick
      rfl
  | roundRobin =>
      cases recover with
      | true =>
          simp only [selectFromTier, hmode, if_true, Option.map_eq_some_iff, Prod.mk.injEq] at hpick
          obtain ⟨-, -, -, rfl⟩ := hpick
          rfl
      | false =>
          simp only [selectFromTier_rotation hmode, Option.map_eq_some_iff, Prod.mk.injEq] at hpick
          obtain ⟨-, -, -, rfl⟩ := hpick
          rfl

/-- A retry gets the earliest of the healthiest candidates. -/
theorem selectFromTier_recovery
    (hpick : (engine.selectFromTier tier candidate recover now).1 = some (key, .recovery)) :
    ∃ before later, tier.targets = before ++ key :: later ∧
      (∀ rival ∈ before, candidate rival = true →
        engine.weight now rival < engine.weight now key) ∧
      ∀ rival ∈ later, candidate rival = true →
        engine.weight now rival ≤ engine.weight now key := by
  have hstage := selectFromTier_stage hpick
  cases hmode : tier.mode with
  | priority => simp [hmode, TierPolicy.stage] at hstage
  | roundRobin =>
      cases recover with
      | false => simp [hmode, TierPolicy.stage] at hstage
      | true =>
          simp only [selectFromTier, hmode, if_true, Option.map_eq_some_iff, Prod.mk.injEq,
            and_true, exists_eq_right] at hpick
          exact heaviest?_filter_split hpick

def offers (candidate : ProviderKey → Bool) (tier : Tier) : Bool :=
  tier.targets.any candidate

theorem offers_eq_false_iff :
    offers candidate tier = false ↔
      (engine.selectFromTier tier candidate recover now).1 = none := by
  rw [selectFromTier_eq_none_iff, offers, List.any_eq_false]
  simp only [Bool.not_eq_true]

theorem selectFromTiers_eq :
    engine.selectFromTiers candidate recover now tiers =
      match tiers.find? (offers candidate) with
      | some tier => engine.selectFromTier tier candidate recover now
      | none => (none, engine) := by
  induction tiers with
  | nil => rfl
  | cons tier rest ih =>
      rw [selectFromTiers_cons, List.find?_cons]
      cases hpick : (engine.selectFromTier tier candidate recover now).1 with
      | none =>
          rw [offers_eq_false_iff.mpr hpick, selectFromTier_of_none hpick]
          exact ih
      | some picked =>
          have hoffers : offers candidate tier = true := by
            rw [← Bool.not_eq_false, offers_eq_false_iff, hpick]
            exact Option.some_ne_none picked
          rw [hoffers]
          exact Prod.ext hpick.symm rfl

/-! ## Sparing avoided providers -/

/-- What is left of the eligible keys: those of avoided providers only count when no tier has
another one. -/
def remaining (engine : Engine) (tiers : List Tier) (eligible : ProviderKey → Bool)
    (now : Millis) : ProviderKey → Bool :=
  if tiers.any (offers (engine.preferred eligible now)) then engine.preferred eligible now
  else eligible

/-- The tiers are searched once, for what is left of the eligible keys. -/
theorem selectByRank_eq :
    engine.selectByRank eligible recover now tiers =
      engine.selectFromTiers (engine.remaining tiers eligible now) recover now tiers := by
  cases havoids : engine.series.avoidsAny now with
  | false =>
      rw [selectByRank, havoids, if_neg Bool.false_ne_true, remaining,
        preferred_of_not_avoiding havoids, ite_self]
  | true =>
      rw [selectByRank_avoiding havoids, remaining]
      cases hany : tiers.any (offers (engine.preferred eligible now)) with
      | false =>
          have hfind : tiers.find? (offers (engine.preferred eligible now)) = none := by
            rw [List.find?_eq_none]
            exact List.any_eq_false.mp hany
          rw [selectFromTiers_eq, hfind, if_neg Bool.false_ne_true]
      | true =>
          have hpick : (engine.selectFromTiers (engine.preferred eligible now) recover now
              tiers).1 ≠ none := by
            rw [ne_eq, selectFromTiers_eq_none_iff]
            obtain ⟨tier, htier, hoffers⟩ := List.any_eq_true.mp hany
            obtain ⟨key, hkey, hpreferred⟩ := List.any_eq_true.mp hoffers
            intro hnone
            exact Bool.false_ne_true ((hnone tier htier key hkey).symm.trans hpreferred)
          obtain ⟨picked, hpicked⟩ := Option.ne_none_iff_exists'.mp hpick
          rw [hpicked, if_pos rfl]
          exact Prod.ext hpicked.symm rfl

theorem remaining_iff :
    engine.remaining tiers eligible now key = true ↔
      eligible key = true ∧
        ((∃ tier ∈ tiers, ∃ other ∈ tier.targets, eligible other = true ∧
            engine.series.isAvoided other.provider now = false) →
          engine.series.isAvoided key.provider now = false) := by
  have hpreferred (key : ProviderKey) : engine.preferred eligible now key = true ↔
      eligible key = true ∧ engine.series.isAvoided key.provider now = false := by
    rw [preferred, Bool.and_eq_true, Bool.not_eq_true']
  have hany : tiers.any (offers (engine.preferred eligible now)) = true ↔
      ∃ tier ∈ tiers, ∃ other ∈ tier.targets, eligible other = true ∧
        engine.series.isAvoided other.provider now = false := by
    simp only [List.any_eq_true, offers, hpreferred]
  rw [remaining, ← hany]
  by_cases hspares : tiers.any (offers (engine.preferred eligible now)) = true
  · rw [if_pos hspares, hpreferred, forall_prop_of_true hspares]
  · rw [if_neg hspares, forall_prop_of_false hspares, and_true]

/-! ## Whole selections -/

/-- The engine with other sessions and other counts. -/
def beside (engine : Engine) (sessions : Sessions) (metrics : Option Metrics) : Engine :=
  { engine with sessions, metrics }

/-- Tiers look at neither sessions nor counts. -/
theorem selectFromTier_beside (sessions : Sessions) (metrics : Option Metrics) :
    (engine.beside sessions metrics).selectFromTier tier candidate recover now =
      ((engine.selectFromTier tier candidate recover now).1,
        (engine.selectFromTier tier candidate recover now).2.beside sessions metrics) := by
  rw [selectFromTier, selectFromTier]
  cases tier.mode with
  | priority => rfl
  | roundRobin => cases recover <;> rfl

theorem selectByRank_beside (sessions : Sessions) (metrics : Option Metrics) :
    (engine.beside sessions metrics).selectByRank eligible recover now tiers =
      ((engine.selectByRank eligible recover now tiers).1,
        (engine.selectByRank eligible recover now tiers).2.beside sessions metrics) := by
  have hremaining : (engine.beside sessions metrics).remaining tiers eligible now =
      engine.remaining tiers eligible now := rfl
  rw [selectByRank_eq, selectByRank_eq, hremaining, selectFromTiers_eq, selectFromTiers_eq]
  cases tiers.find? (offers (engine.remaining tiers eligible now)) with
  | none => rfl
  | some tier => exact selectFromTier_beside sessions metrics

def admissible (engine : Engine) (request : SelectionRequest) (now : Millis)
    (key : ProviderKey) : Bool :=
  engine.isAvailable request request.directives now key &&
    (engine.sessionFilter? request).all (·.admits key)

theorem admissible_iff :
    engine.admissible request now key = true ↔
      engine.Selectable request now key ∧ engine.Passes request key := by
  rw [admissible, Bool.and_eq_true, isAvailable_iff_selectable, Option.all_eq_true]
  rfl

def ranked (engine : Engine) (request : SelectionRequest) (now : Millis) (tiers : List Tier) :
    Option (ProviderKey × SelectionStage) × Engine :=
  engine.selectByRank (engine.admissible request now) request.seeksHealthiest now tiers

def contenders (engine : Engine) (request : SelectionRequest) (now : Millis) (tiers : List Tier) :
    ProviderKey → Bool :=
  engine.remaining tiers (engine.admissible request now) now

/-- A single tier answers, or none. -/
theorem ranked_eq :
    engine.ranked request now tiers =
      match tiers.find? (offers (engine.contenders request now tiers)) with
      | some tier =>
          engine.selectFromTier tier (engine.contenders request now tiers)
            request.seeksHealthiest now
      | none => (none, engine) := by
  rw [ranked, selectByRank_eq, selectFromTiers_eq]
  rfl

theorem ranked_of_none (hnone : (engine.ranked request now tiers).1 = none) :
    engine.ranked request now tiers = (none, engine) := by
  rw [ranked_eq] at hnone ⊢
  cases hfind : tiers.find? (offers (engine.contenders request now tiers)) with
  | none => rfl
  | some tier =>
      rw [hfind] at hnone
      exact selectFromTier_of_none hnone

/-- The tier that answers is the first one with a key to offer. -/
theorem ranked_some (hpick : (engine.ranked request now tiers).1 = some (key, stage)) :
    ∃ tier, tiers.find? (offers (engine.contenders request now tiers)) = some tier ∧
      engine.ranked request now tiers =
        engine.selectFromTier tier (engine.contenders request now tiers)
          request.seeksHealthiest now := by
  cases hfind : tiers.find? (offers (engine.contenders request now tiers)) with
  | none =>
      rw [ranked_eq, hfind] at hpick
      cases hpick
  | some tier => exact ⟨tier, rfl, by rw [ranked_eq, hfind]⟩

def answerOf : Option (ProviderKey × SelectionStage) → Selection
  | some (key, stage) => .selected key stage
  | none => .exhausted

theorem answerOf_eq_selected_iff {pick : Option (ProviderKey × SelectionStage)} :
    answerOf pick = .selected key stage ↔ pick = some (key, stage) := by
  cases pick <;> simp [answerOf, Prod.ext_iff]

/-- How a selection ends: before the tiers are tried at all, or with what they have. -/
inductive Ending (engine : Engine) (route : String) (request : SelectionRequest) (now : Millis) :
    Selection → Engine → Prop where
  | early {key : ProviderKey} {stage : SelectionStage}
      (stage_eq : stage = .forced ∨ stage = .sticky) (sessions : Sessions)
      (metrics : Option Metrics) :
      Ending engine route request now (.selected key stage) (engine.beside sessions metrics)
  | ranked {tiers : List Tier} (tiers_eq : engine.routes.tiers? route = some tiers)
      (sessions : Sessions) (metrics : Option Metrics) :
      Ending engine route request now (answerOf (engine.ranked request now tiers).1)
        ((engine.ranked request now tiers).2.beside sessions metrics)

theorem selectBound_beside (directives : Directives) :
    ∃ sessions, (engine.selectBound route request directives now).2 =
      engine.beside sessions engine.metrics := by
  rw [selectBound]
  cases request.session with
  | none => exact ⟨engine.sessions, rfl⟩
  | some name => exact ⟨_, rfl⟩

def counted (route : String) (metrics : Option Metrics) : Selection → Option Metrics
  | .selected key stage =>
      metrics.map (·.countSelection route key.provider key.model stage.label)
  | .exhausted => metrics.map (·.countExhausted route)

theorem selectOnRoute_beside {sessions : Sessions} {metrics : Option Metrics}
    (hfilter : request.session.bind sessions.filter? = engine.sessionFilter? request) :
    (engine.beside sessions metrics).selectOnRoute route tiers request request.directives now =
      (answerOf (engine.ranked request now tiers).1,
        (engine.ranked request now tiers).2.beside sessions
          (counted route metrics (answerOf (engine.ranked request now tiers).1))) := by
  have heligible : (engine.beside sessions metrics).eligible request request.directives now =
      engine.admissible request now := by
    funext key
    rw [eligible, admissible, ← hfilter]
    rfl
  rw [selectOnRoute_eq, heligible, selectByRank_beside, ranked]
  cases (engine.selectByRank (engine.admissible request now) request.seeksHealthiest now
      tiers).1 with
  | none => rfl
  | some picked => rfl

/-- Every selection ends in one of the two ways. -/
theorem select_ending (hselect : engine.select route request now = .ok (selection, after)) :
    Ending engine route request now selection after := by
  cases htiers : engine.routes.tiers? route with
  | none =>
      rw [select_of_no_tiers htiers] at hselect
      cases hselect
  | some tiers =>
      rw [select_of_tiers htiers, Except.ok.injEq] at hselect
      cases hforced : engine.forcedKey? request request.directives now with
      | some key =>
          rw [hforced] at hselect
          cases hselect
          exact .early (.inl rfl) _ _
      | none =>
          rw [hforced] at hselect
          have hfilter : request.session.bind ((engine.instructed request).selectBound route
              request request.directives now).2.sessions.filter? =
                engine.sessionFilter? request :=
            selectBound_filter? _
          obtain ⟨sessions, hsessions⟩ : ∃ sessions, ((engine.instructed request).selectBound route
              request request.directives now).2 = engine.beside sessions engine.metrics :=
            selectBound_beside request.directives
          rcases hbound : (engine.instructed request).selectBound route request
              request.directives now with ⟨outcome, bound⟩
          rw [hbound] at hselect hfilter hsessions
          subst hsessions
          cases outcome with
          | selected key =>
              cases hselect
              exact .early (.inr rfl) _ _
          | cleared =>
              cases (selectOnRoute_beside hfilter).symm.trans hselect
              exact .ranked htiers _ _
          | notApplicable =>
              cases (selectOnRoute_beside hfilter).symm.trans hselect
              exact .ranked htiers _ _

/-- What a request gets that no binding answers: the forced key, or what the tiers have. -/
def unbound (engine : Engine) (request : SelectionRequest) (now : Millis) (tiers : List Tier) :
    Selection × Engine :=
  match engine.forcedKey? request request.directives now with
  | some key => (.selected key .forced, engine)
  | none =>
      (answerOf (engine.ranked request now tiers).1, (engine.ranked request now tiers).2)

theorem select_unbound (htiers : engine.routes.tiers? route = some tiers)
    (hbound : (engine.instructed request).selectBound route request request.directives now =
      (.notApplicable, engine.instructed request)) :
    engine.select route request now = .ok ((engine.unbound request now tiers).1,
      (engine.unbound request now tiers).2.beside (engine.instructed request).sessions
        (counted route engine.metrics (engine.unbound request now tiers).1)) := by
  rw [select_of_tiers htiers, hbound, unbound]
  cases engine.forcedKey? request request.directives now with
  | some key => rfl
  | none =>
      have hfilter : request.session.bind (engine.instructed request).sessions.filter? =
          engine.sessionFilter? request := rfl
      exact congrArg Except.ok (selectOnRoute_beside hfilter)

theorem selectBound_of_no_session (directives : Directives) (hsession : request.session = none) :
    engine.selectBound route request directives now = (.notApplicable, engine) := by
  rw [selectBound, hsession]

end Engine

end ProviderRouting
