import ProviderRouting.Proofs.Engine.Restart

/-!
# Selections after a restart

A snapshot carries entries and series cooldowns, but not which providers are avoided.  On a route
of priority tiers nothing else decides what a request without a session gets.  A restarted engine
therefore selects what the engine before it would have selected, except when the engine before it
was avoiding the provider of that key and had another key to offer.
-/

namespace ProviderRouting

namespace Engine

variable {engine other after fresh restored : Engine} {config : Configuration}
  {candidate eligible keep : ProviderKey → Bool} {recover : Bool} {now time : Millis}
  {tiers : List Tier} {route : String} {request : SelectionRequest} {key : ProviderKey}
  {snapshot : Snapshot}

/-! ## Priority tiers -/

/-- The answer of the first priority tier that has one. -/
def priorityPick? (engine : Engine) (candidate : ProviderKey → Bool) (now : Millis)
    (tiers : List Tier) : Option ProviderKey :=
  tiers.findSome? fun tier => Priority.select tier.targets candidate (engine.penalty tier now)

theorem selectFromTiers_priority (hmode : ∀ tier ∈ tiers, tier.mode = .priority) :
    engine.selectFromTiers candidate recover now tiers =
      ((engine.priorityPick? candidate now tiers).map (·, .priority), engine) := by
  induction tiers with
  | nil => rfl
  | cons tier rest ih =>
      rw [List.forall_mem_cons] at hmode
      rw [selectFromTiers, selectFromTier, hmode.1, priorityPick?, List.findSome?_cons]
      cases Priority.select tier.targets candidate (engine.penalty tier now) with
      | none => exact ih hmode.2
      | some picked => rfl

theorem priorityPick?_eq_none_iff :
    engine.priorityPick? candidate now tiers = none ↔
      ∀ tier ∈ tiers, ∀ key ∈ tier.targets, candidate key = false := by
  simp only [priorityPick?, List.findSome?_eq_none_iff, Priority.select_eq_none_iff]

/-- Priority tiers answer with a candidate that one of them lists. -/
theorem exists_of_priorityPick? (hpick : engine.priorityPick? candidate now tiers = some key) :
    candidate key = true ∧ ∃ tier ∈ tiers, key ∈ tier.targets := by
  obtain ⟨tier, htier, hselect⟩ := List.exists_of_findSome?_eq_some hpick
  obtain ⟨hlisted, hcandidate⟩ := Priority.select_mem hselect
  exact ⟨hcandidate, tier, htier, hlisted⟩

/-- The first answer stays the first when there are fewer candidates. -/
theorem priorityPick?_narrowed (hpick : engine.priorityPick? candidate now tiers = some key)
    (hkeep : keep key = true) :
    engine.priorityPick? (fun key => candidate key && keep key) now tiers = some key := by
  induction tiers with
  | nil => cases hpick
  | cons tier rest ih =>
      rw [priorityPick?, List.findSome?_cons] at hpick ⊢
      cases hselect : Priority.select tier.targets candidate (engine.penalty tier now) with
      | none =>
          have hnone : Priority.select tier.targets (fun key => candidate key && keep key)
              (engine.penalty tier now) = none := by
            rw [Priority.select_eq_none_iff] at hselect ⊢
            exact fun key hkey => by rw [hselect key hkey, Bool.false_and]
          rw [hselect] at hpick
          rw [hnone]
          exact ih hpick
      | some picked =>
          rw [hselect] at hpick
          obtain rfl := Option.some.inj hpick
          rw [Priority.select_narrowed hselect hkeep]

/-! ## Avoided providers -/

/-- The answer of priority tiers that are first tried without avoided providers. -/
def steeredPick? (engine : Engine) (eligible : ProviderKey → Bool) (now : Millis)
    (tiers : List Tier) : Option ProviderKey :=
  (engine.priorityPick? (engine.preferred eligible now) now tiers).or
    (engine.priorityPick? eligible now tiers)

theorem selectByRank_priority (hmode : ∀ tier ∈ tiers, tier.mode = .priority) :
    engine.selectByRank eligible recover now tiers =
      ((engine.steeredPick? eligible now tiers).map (·, .priority), engine) := by
  cases havoids : engine.series.avoidsAny now with
  | true =>
      rw [selectByRank_avoiding havoids]
      simp only [selectFromTiers_priority hmode, steeredPick?]
      cases engine.priorityPick? (engine.preferred eligible now) now tiers <;> rfl
  | false =>
      have hrank : engine.selectByRank eligible recover now tiers =
          engine.selectFromTiers eligible recover now tiers := by
        rw [selectByRank, havoids]
        rfl
      rw [hrank, selectFromTiers_priority hmode, steeredPick?, preferred_of_not_avoiding havoids,
        Option.or_self]

/-- Avoiding providers makes a difference only if it spares the provider of the key that would
be picked, and another key is left. -/
theorem steeredPick?_eq_iff :
    engine.steeredPick? eligible now tiers = engine.priorityPick? eligible now tiers ↔
      ¬ ∃ key, engine.priorityPick? eligible now tiers = some key ∧
        engine.series.isAvoided key.provider now = true ∧
          ∃ tier ∈ tiers, ∃ other ∈ tier.targets, eligible other = true ∧
            engine.series.isAvoided other.provider now = false := by
  have hpreferred (key : ProviderKey) : engine.preferred eligible now key = true ↔
      eligible key = true ∧ engine.series.isAvoided key.provider now = false := by
    rw [preferred, Bool.and_eq_true, Bool.not_eq_true']
  cases hfirst : engine.priorityPick? (engine.preferred eligible now) now tiers with
  | none =>
      -- Nothing is preferred, so the tiers are tried a second time with all eligible keys.
      have hnone := priorityPick?_eq_none_iff.mp hfirst
      rw [steeredPick?, hfirst, Option.none_or, eq_self, true_iff]
      rintro ⟨-, -, -, tier, htier, other, hother, hoffered⟩
      exact Bool.false_ne_true
        ((hnone tier htier other hother).symm.trans ((hpreferred other).mpr hoffered))
  | some first =>
      obtain ⟨hcandidate, tier, htier, hlisted⟩ := exists_of_priorityPick? hfirst
      obtain ⟨heligible, hspared⟩ := (hpreferred first).mp hcandidate
      rw [steeredPick?, hfirst, Option.some_or]
      constructor
      · rintro hsame ⟨key, hpick, havoided, -⟩
        obtain rfl := Option.some.inj (hsame.trans hpick)
        exact Bool.false_ne_true (hspared.symm.trans havoided)
      · intro hnot_steered
        cases hpick : engine.priorityPick? eligible now tiers with
        | none =>
            have hnone := priorityPick?_eq_none_iff.mp hpick tier htier first hlisted
            exact absurd (hnone.symm.trans heligible) Bool.false_ne_true
        | some key =>
            by_cases havoided : engine.series.isAvoided key.provider now = true
            · exact absurd ⟨key, hpick, havoided, tier, htier, first, hlisted, heligible, hspared⟩
                hnot_steered
            · let spared (key : ProviderKey) : Bool := !engine.series.isAvoided key.provider now
              have hkept : spared key = true := by simpa [spared] using havoided
              exact hfirst.symm.trans (priorityPick?_narrowed hpick hkept)

/-! ## Whole selections -/

/-- The answer with what priority tiers pick. -/
def answerWith : Option ProviderKey → Selection
  | some key => .selected key .priority
  | none => .exhausted

theorem answerWith_injective : Function.Injective answerWith := by
  rintro (_ | left) (_ | right) hsame <;> cases hsame <;> rfl

/-- What a request without a session gets on a route of priority tiers. -/
theorem answer_select_priority (htiers : engine.routes.tiers? route = some tiers)
    (hmode : ∀ tier ∈ tiers, tier.mode = .priority) (hsession : request.session = none) :
    engine.answer now (.select route request) = .selected (.ok (
      match engine.forcedKey? request request.directives now with
      | some key => .selected key .forced
      | none => answerWith (engine.steeredPick?
          (engine.isAvailable request request.directives now) now tiers))) := by
  have hbound : (engine.instructed request).selectBound route request request.directives now =
      (.notApplicable, engine.instructed request) := by
    rw [selectBound, hsession]
  have heligible : (engine.instructed request).eligible request request.directives now =
      engine.isAvailable request request.directives now := by
    funext key
    rw [eligible, hsession]
    exact Bool.and_true _
  have hsteered : (engine.instructed request).steeredPick?
      (engine.isAvailable request request.directives now) now tiers =
        engine.steeredPick? (engine.isAvailable request request.directives now) now tiers := rfl
  simp only [answer, select_of_tiers htiers, hbound, selectOnRoute_eq, heligible,
    selectByRank_priority hmode, hsteered]
  cases engine.forcedKey? request request.directives now with
  | some key => rfl
  | none =>
      cases engine.steeredPick? (engine.isAvailable request request.directives now) now tiers <;>
        rfl

theorem answer_select_of_toOption {selection : Selection}
    (hselect : (engine.select route request now).toOption.map Prod.fst = some selection) :
    engine.answer now (.select route request) = .selected (.ok selection) := by
  rw [answer]
  cases hresult : engine.select route request now with
  | error cause => simp [hresult, Except.toOption] at hselect
  | ok result =>
      have hpicked : result.1 = selection := by simpa [hresult, Except.toOption] using hselect
      rw [Except.map, hpicked]

/-- The engines have the same routes and weights and record the same of every key.  Which providers
they avoid may differ. -/
structure SameChoices (left right : Engine) : Prop where
  routes : left.routes = right.routes
  health : left.health = right.health
  mirrors : left.Mirrors right

namespace SameChoices

variable {left right : Engine}

theorem isAvailable_eq (hsame : left.SameChoices right) (request : SelectionRequest)
    (directives : Directives) (now : Millis) :
    left.isAvailable request directives now = right.isAvailable request directives now := by
  funext key
  simp only [isAvailable, hsame.mirrors.series.isCoolingDown_eq, QuotaLedger.isAvailable,
    hsame.mirrors.quota.entryAt_eq]

theorem forcedKey?_eq (hsame : left.SameChoices right) (request : SelectionRequest)
    (directives : Directives) (now : Millis) :
    left.forcedKey? request directives now = right.forcedKey? request directives now := by
  have hweight : left.weight now = right.weight now := by
    funext key
    rw [weight, weight, hsame.health, hsame.mirrors.quota.entryAt_eq]
  simp only [forcedKey?, hsame.isAvailable_eq, hsame.routes, hweight]

theorem priorityPick?_eq (hsame : left.SameChoices right) (candidate : ProviderKey → Bool)
    (now : Millis) (tiers : List Tier) :
    left.priorityPick? candidate now tiers = right.priorityPick? candidate now tiers := by
  have hpenalty (tier : Tier) : left.penalty tier now = right.penalty tier now := by
    funext key
    rw [penalty, penalty, hsame.mirrors.quota.entryAt_eq]
  simp only [priorityPick?, hpenalty]

end SameChoices

/-- The engine avoids the provider of the key, and some tier of the route has another key for the
request. -/
structure SteersFrom (engine : Engine) (route : String) (request : SelectionRequest)
    (now : Millis) (key : ProviderKey) : Prop where
  avoided : engine.series.isAvoided key.provider now = true
  alternative : ∃ other, engine.routes.lists route other = true ∧
    engine.Selectable request now other ∧ engine.series.isAvoided other.provider now = false

/-- Two engines that make the same choices, one of which avoids no provider, differ in an answer
exactly when the other one steers away from the key that the first picks. -/
theorem SameChoices.answer_select_eq_iff {left right : Engine} (hsame : left.SameChoices right)
    (hnever : left.series.avoided = ∅)
    (hpriority : ∀ route tiers, right.routes.tiers? route = some tiers →
      ∀ tier ∈ tiers, tier.mode = .priority)
    (hsession : request.session = none) :
    left.answer now (.select route request) = right.answer now (.select route request) ↔
      ¬ ∃ key, left.answer now (.select route request) =
          .selected (.ok (.selected key .priority)) ∧
        right.SteersFrom route request now key := by
  cases htiers : right.routes.tiers? route with
  | none =>
      have hleft : left.routes.tiers? route = none := hsame.routes ▸ htiers
      simp [answer, select, htiers, hleft, Except.map]
  | some tiers =>
      have hmode := hpriority route tiers htiers
      have hleft : left.routes.tiers? route = some tiers := hsame.routes ▸ htiers
      have hsteered (candidate : ProviderKey → Bool) :
          left.steeredPick? candidate now tiers = right.priorityPick? candidate now tiers := by
        have hnone : left.series.avoidsAny now = false := by
          rw [SeriesGuard.avoidsAny, hnever]
          rfl
        rw [steeredPick?, preferred_of_not_avoiding hnone, Option.or_self, hsame.priorityPick?_eq]
      rw [answer_select_priority hleft hmode hsession, answer_select_priority htiers hmode hsession,
        hsame.forcedKey?_eq, hsame.isAvailable_eq, hsteered]
      cases right.forcedKey? request request.directives now with
      | some key => simp
      | none =>
          simp only [CallAnswer.selected.injEq, Except.ok.injEq, answerWith_injective.eq_iff]
          rw [eq_comm, steeredPick?_eq_iff, not_iff_not]
          refine exists_congr fun key => and_congr ?_ ⟨?_, ?_⟩
          · have hkey : Selection.selected key .priority = answerWith (some key) := rfl
            rw [hkey, answerWith_injective.eq_iff]
          · rintro ⟨havoided, tier, htier, other, hother, havailable, hspared⟩
            exact ⟨havoided, other, (Routes.lists_iff htiers other).mpr ⟨tier, htier, hother⟩,
              (right.isAvailable_iff_selectable request now other).mp havailable, hspared⟩
          · rintro ⟨havoided, other, hlisted, hselectable, hspared⟩
            obtain ⟨tier, htier, hother⟩ := (Routes.lists_iff htiers other).mp hlisted
            exact ⟨havoided, tier, htier, other, hother,
              (right.isAvailable_iff_selectable request now other).mpr hselectable, hspared⟩

/-- A new engine that restores a snapshot makes the choices of the engine that it was taken of, and
avoids no provider. -/
theorem exists_restore_sameChoices (hreachable : ReachableBy NamesWellFormed config engine)
    (hfresh : Fresh config fresh) (hgrouping : fresh.series.grouping = engine.series.grouping)
    (now : Millis) :
    ∃ restored, fresh.restore (engine.snapshot now).1 = .ok restored ∧
      restored.SameChoices (engine.snapshot now).2 ∧ restored.series.avoided = ∅ := by
  obtain ⟨restored, hrestore, hmirrors⟩ := exists_restore_mirrors hreachable hfresh hgrouping now
  refine ⟨restored, hrestore, ?_⟩
  obtain ⟨rows, -, -, rfl⟩ := restore_ok hrestore
  have hroutes : fresh.routes = engine.routes :=
    hfresh.reachable.routes_unique hreachable.reachable
  have hhealth : fresh.health = engine.health :=
    hfresh.reachable.health_eq.trans hreachable.reachable.health_eq.symm
  exact ⟨⟨hroutes, hhealth, hmirrors⟩, hfresh.series_idle.2⟩

/-- On priority tiers, a restarted engine gives a request without a session the same answer as the
engine whose snapshot it restored, now and at all times, unless that engine steers away from the
key: it avoids the key's provider and has another key to offer. -/
theorem restored_answers_alike_iff (hreachable : ReachableBy NamesWellFormed config engine)
    (hpriority : ∀ route tiers, engine.routes.tiers? route = some tiers →
      ∀ tier ∈ tiers, tier.mode = .priority)
    (hsnapshot : engine.snapshot now = (snapshot, after)) :
    (∃ fresh, Fresh config fresh ∧ fresh.series.grouping = engine.series.grouping) ∧
      ∀ fresh, Fresh config fresh → fresh.series.grouping = engine.series.grouping →
        ∃ restored, fresh.restore snapshot = .ok restored ∧
          ∀ route request time, request.session = none →
            (restored.answer time (.select route request) =
                after.answer time (.select route request) ↔
              ¬ ∃ key, restored.answer time (.select route request) =
                  .selected (.ok (.selected key .priority)) ∧
                after.SteersFrom route request time key) := by
  refine ⟨hreachable.reachable.exists_fresh, fun fresh hfresh hgrouping => ?_⟩
  cases hsnapshot
  obtain ⟨restored, hrestore, hsame, hnever⟩ :=
    exists_restore_sameChoices hreachable hfresh hgrouping now
  exact ⟨restored, hrestore, fun route request time hsession =>
    hsame.answer_select_eq_iff hnever hpriority hsession⟩

/-! ## A provider with a single account -/

/-- Two providers, of which the preferred one has a single account. -/
def singleAccount : Configuration :=
  chat [{ provider := "north", model := "small", aliases := ["a"] },
    { provider := "south", model := "small", aliases := ["b"] }]
    { singleAccountProviders := ["north"] }

def overload : ErrorEvent where
  key := ⟨"north", "a", "large"⟩
  status := some 429
  code := some "overloaded"
  time := 0

/-- After the error the engine avoids the preferred provider, and the restarted engine does not. -/
theorem exists_steering :
    ∃ fresh engine, Fresh singleAccount fresh ∧
      ReachableBy NamesWellFormed singleAccount engine ∧
      fresh.series.grouping = engine.series.grouping ∧
      (∀ route tiers, engine.routes.tiers? route = some tiers →
        ∀ tier ∈ tiers, tier.mode = .priority) ∧
      (engine.snapshot 0).2.SteersFrom "chat" {} 0 ⟨"north", "a", "small"⟩ ∧
      ∀ restored, fresh.restore (engine.snapshot 0).1 = .ok restored →
        restored.answer 0 (.select "chat" {}) =
          .selected (.ok (.selected ⟨"north", "a", "small"⟩ .priority)) := by
  have hvalid : singleAccount.validate = .ok () := by
    refine chat_valid rfl rfl ?_
    simp [Configuration.ensureTarget, Configuration.ensureAliases, Configuration.ensureIdentifier]
    rfl
  obtain ⟨fresh, hbuilt⟩ := exists_ofConfiguration hvalid
  let failure : EngineCall := .reportError overload none
  let engine : Engine := fresh.perform 0 failure
  have hnames : NamesWellFormed failure := by
    rintro key hrecorded
    obtain rfl := Option.some.inj hrecorded
    constructor <;> simp [overload]
  have hreachable : ReachableBy NamesWellFormed singleAccount engine :=
    (ReachableBy.built hbuilt).called 0 failure hnames
  have hpriority (route : String) (tiers : List Tier)
      (htiers : engine.routes.tiers? route = some tiers) : ∀ tier ∈ tiers,
        tier.mode = .priority := by
    intro tier htier
    obtain ⟨row, hrow, source, hsource, rfl⟩ :=
      Routes.exists_configured_tier hreachable.reachable.routes_eq htiers htier
    obtain rfl := List.mem_singleton.mp hrow
    obtain rfl := List.mem_singleton.mp hsource
    rfl
  have hsteers : fresh.series.grouping = engine.series.grouping ∧
      (engine.snapshot 0).2.SteersFrom "chat" {} 0 ⟨"north", "a", "small"⟩ ∧
      ((fresh.restore (engine.snapshot 0).1).toOption.bind fun restored =>
          (restored.select "chat" {} 0).toOption.map Prod.fst) =
        some (.selected ⟨"north", "a", "small"⟩ .priority) := by
    simp only [ofConfiguration, publish, Routes.ofConfiguration, hvalid] at hbuilt
    cases hbuilt
    refine ⟨rfl, ⟨by decide +kernel, ⟨"south", "b", "small"⟩, by decide +kernel, ?_,
      by decide +kernel⟩, by decide +kernel⟩
    exact (isAvailable_iff_selectable _ {} 0 _).mp (by decide +kernel)
  obtain ⟨hgrouping, hsteers, hpick⟩ := hsteers
  refine ⟨fresh, engine, .built hbuilt, hreachable, hgrouping, hpriority, hsteers, ?_⟩
  intro restored hrestore
  rw [hrestore] at hpick
  exact answer_select_of_toOption hpick

/-- A restart makes a difference to a request that had been steered away from a provider. -/
theorem restored_answers_alike_iff_of_overload :
    ∃ engine fresh restored, ReachableBy NamesWellFormed singleAccount engine ∧
      Fresh singleAccount fresh ∧ fresh.restore (engine.snapshot 0).1 = .ok restored ∧
        restored.answer 0 (.select "chat" {}) ≠
          (engine.snapshot 0).2.answer 0 (.select "chat" {}) := by
  obtain ⟨fresh, engine, hfresh, hreachable, hgrouping, hpriority, hsteers, hpicks⟩ :=
    exists_steering
  obtain ⟨-, hrestored⟩ := restored_answers_alike_iff hreachable hpriority rfl
  obtain ⟨restored, hrestore, hanswers⟩ := hrestored fresh hfresh hgrouping
  refine ⟨engine, fresh, restored, hreachable, hfresh, hrestore, fun hsame => ?_⟩
  exact (hanswers "chat" {} 0 rfl).mp hsame ⟨_, hpicks restored hrestore, hsteers⟩

/-- Restarts do not leave all selections as they are, not even on priority tiers and at the time of
the snapshot. -/
theorem not_forall_restored_answers_alike :
    ¬ ∀ config engine fresh restored now, ReachableBy NamesWellFormed config engine →
      (∀ route tiers, engine.routes.tiers? route = some tiers →
        ∀ tier ∈ tiers, tier.mode = .priority) →
      Fresh config fresh → fresh.series.grouping = engine.series.grouping →
      fresh.restore (engine.snapshot now).1 = .ok restored →
      ∀ route request, request.session = none →
        restored.answer now (.select route request) =
          (engine.snapshot now).2.answer now (.select route request) := by
  intro hall
  obtain ⟨fresh, engine, hfresh, hreachable, hgrouping, hpriority, hsteers, hpicks⟩ :=
    exists_steering
  obtain ⟨restored, hrestore, hsame, hnever⟩ :=
    exists_restore_sameChoices hreachable hfresh hgrouping 0
  have halike := hall singleAccount engine fresh restored 0 hreachable hpriority hfresh hgrouping
    hrestore "chat" {} rfl
  have hdiffers := (hsame.answer_select_eq_iff hnever hpriority rfl).mp halike
  exact hdiffers ⟨_, hpicks restored hrestore, hsteers⟩

end Engine

end ProviderRouting
