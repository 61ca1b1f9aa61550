import ProviderRouting.Proofs.Engine.Counting

/-!
# What metrics account for

An engine that counts accounts for every exhausted route, stage, error, error class, series cooldown
and dropped binding, and its gauges tell what was last said about a key, as long as the digest of
its metrics does not take labels for others that read differently.  The one exception are selections
whose labels read the same one after the other, such as a model `2large` of `north` and a model
`large` of `north2`: under any digest they share one count, which is shown under the labels of the
first.
-/

namespace ProviderRouting

def EngineCall.judgedKey? : EngineCall → Option ProviderKey
  | .forgive key => some key
  | call => call.recordedKey?

theorem MadeCall.judgedKey?_of_judgement {made : MadeCall} {judgement : ProviderKey × PoolReason}
    (hjudgement : made.judgement? = some judgement) :
    made.call.judgedKey? = some judgement.1 := by
  obtain ⟨engine, now, call⟩ := made
  cases call with
  | publish config => cases hjudgement
  | select route request => cases hjudgement
  | reportError event session => exact congrArg (Option.map Prod.fst) hjudgement
  | reportSuccess event => exact congrArg (Option.map Prod.fst) hjudgement
  | reportUsage key tokens => exact congrArg (Option.map Prod.fst) hjudgement
  | reportQuota report => exact congrArg (Option.map Prod.fst) hjudgement
  | forgive key =>
      rw [MadeCall.judgement?, Option.ite_none_right_eq_some] at hjudgement
      exact congrArg (Option.map Prod.fst) hjudgement.2
  | snapshot => cases hjudgement
  | restore snapshot => cases hjudgement

/-- No two of the selections have different labels that read the same one after the other. -/
def Selection.ReadApart (selections : List (String × Selection)) : Prop :=
  Set.InjOn String.join {labels | labels ∈ selections.filterMap Selection.labels?}

namespace Metrics

/-- Each outcome of the calls was counted once: exhausted selections by their routes, selections by
the stages that made them, errors by their classes, cooldowns by their series, and the bindings that
were dropped.  The gauge of a key that is one is that of the reason last told. -/
structure Accounts (metrics : Metrics) (made : List MadeCall) : Prop where
  exhausted : ∀ route, metrics.exhausted.value [route] =
    (made.filterMap MadeCall.selection?).count (route, .exhausted)
  stages : ∀ stage : SelectionStage, metrics.selections.total (·.getLast? == some stage.label) =
    (made.filterMap MadeCall.selection?).countP (·.2.stage? == some stage)
  errors : metrics.errors.total (fun _ => true) = (made.filterMap MadeCall.failure?).length
  classes : ∀ errorClass : ErrorClass,
    metrics.errors.total (·.getLast? == some errorClass.label) =
      (made.filterMap MadeCall.failure?).countP (·.2.errorClass == errorClass)
  cooldowns : ∀ series, metrics.seriesCooldowns.value [series] =
    (made.filterMap MadeCall.failure?).countP (ErrorSummary.series? · == some series)
  autoClears : metrics.autoClears = made.countP MadeCall.dropsBinding
  gauges : ∀ key : ProviderKey, key.WellFormed → ∀ reason ∈ blockReasons,
    metrics.blocked.value [key.text, reason.label] =
      if (made.filterMap MadeCall.judgement?).reverse.lookup key = some reason then 1 else 0

/-- Each selection was counted under its own labels, and each route has as many selections and
exhausted ones as were asked of it. -/
structure AccountsByLabels (metrics : Metrics) (made : List MadeCall) : Prop where
  selections : ∀ labels, metrics.selections.value labels =
    (made.filterMap MadeCall.selection?).countP (Selection.labels? · == some labels)
  routes : ∀ route,
    metrics.selections.total (·.head? == some route) + metrics.exhausted.value [route] =
      (made.filterMap MadeCall.selection?).countP (·.1 == route)

/-- Of the labels that some outcomes are counted under, those with one digest read the same. -/
structure NoCollisions (digest : String → UInt64) (made : List MadeCall) : Prop where
  selections : MetricFamily.NoCollision digest
    ((made.filterMap MadeCall.selection?).filterMap Selection.labels?)
  exhausted : MetricFamily.NoCollision digest
    (((made.filterMap MadeCall.selection?).filterMap Selection.exhaustedRoute?).map ([·]))
  errors : MetricFamily.NoCollision digest
    ((made.filterMap MadeCall.failure?).map ErrorSummary.labels)
  blocked : MetricFamily.NoCollision digest
    (MetricFamily.gaugeLabels ((made.filterMap MadeCall.judgement?).map (·.1.text)))
  seriesCooldowns : MetricFamily.NoCollision digest
    (((made.filterMap MadeCall.failure?).filterMap ErrorSummary.series?).map ([·]))

variable {digest : String → UInt64} {made : List MadeCall}

theorem NoCollisions.of_outcomes {selections : List (String × Selection)}
    {failures : List (ProviderKey × ErrorSummary)} {judgements : List (ProviderKey × PoolReason)}
    (hselections : made.filterMap MadeCall.selection? = selections)
    (hfailures : made.filterMap MadeCall.failure? = failures)
    (hjudgements : made.filterMap MadeCall.judgement? = judgements)
    (hapart : MetricFamily.NoCollision digest (selections.filterMap Selection.labels?) ∧
      MetricFamily.NoCollision digest ((selections.filterMap Selection.exhaustedRoute?).map ([·])) ∧
      MetricFamily.NoCollision digest (failures.map ErrorSummary.labels) ∧
      MetricFamily.NoCollision digest (MetricFamily.gaugeLabels (judgements.map (·.1.text))) ∧
      MetricFamily.NoCollision digest ((failures.filterMap ErrorSummary.series?).map ([·]))) :
    NoCollisions digest made := by
  subst hselections hfailures hjudgements
  obtain ⟨hlabels, hroutes, herrors, hgauges, hseries⟩ := hapart
  exact ⟨hlabels, hroutes, herrors, hgauges, hseries⟩

theorem exhausted_value (hdigest : NoCollisions digest made) (route : String) :
    (ofCalls digest made).exhausted.value [route] =
      (made.filterMap MadeCall.selection?).count (route, .exhausted) := by
  rw [ofCalls, MetricFamily.tally_singletons hdigest.exhausted, List.count_filterMap, List.count]
  refine List.countP_congr fun selection _ => ?_
  rcases selection with ⟨other, ⟨key, stage⟩ | _⟩ <;> simp [Selection.exhaustedRoute?]

theorem selections_total_stage (hdigest : NoCollisions digest made) (stage : SelectionStage) :
    (ofCalls digest made).selections.total (·.getLast? == some stage.label) =
      (made.filterMap MadeCall.selection?).countP (·.2.stage? == some stage) := by
  have hlast : ∀ labels ∈ (made.filterMap MadeCall.selection?).filterMap Selection.labels?,
      ∃ (earlier : List String) (stage : SelectionStage), labels = earlier ++ [stage.label] := by
    intro labels hlabels
    obtain ⟨⟨route, ⟨key, stage⟩ | _⟩, -, hselection⟩ := List.mem_filterMap.mp hlabels
    · obtain rfl := Option.some.inj hselection
      exact ⟨[route, key.provider, key.model], stage, rfl⟩
    · cases hselection
  rw [ofCalls, MetricFamily.tally_total_last SelectionStage.label_apart hdigest.selections hlast,
    List.countP_filterMap]
  refine List.countP_congr fun selection _ => ?_
  rcases selection with ⟨route, ⟨key, other⟩ | _⟩
  · simp [Selection.labels?, Selection.stage?, SelectionStage.label_apart.eq_iff]
  · simp [Selection.labels?, Selection.stage?]

theorem errors_total_class (hdigest : NoCollisions digest made) (errorClass : ErrorClass) :
    (ofCalls digest made).errors.total (·.getLast? == some errorClass.label) =
      (made.filterMap MadeCall.failure?).countP (·.2.errorClass == errorClass) := by
  have hlast : ∀ labels ∈ (made.filterMap MadeCall.failure?).map ErrorSummary.labels,
      ∃ (earlier : List String) (errorClass : ErrorClass),
        labels = earlier ++ [errorClass.label] := by
    rw [List.forall_mem_map]
    exact fun failure _ =>
      ⟨[failure.1.provider, failure.1.model], failure.2.errorClass, rfl⟩
  rw [ofCalls, MetricFamily.tally_total_last ErrorClass.label_apart hdigest.errors hlast,
    List.countP_map]
  refine List.countP_congr fun failure _ => ?_
  simp [ErrorSummary.labels, ErrorClass.label_apart.eq_iff]

theorem ofCalls_accounts (hdigest : NoCollisions digest made)
    (hnames : ∀ judgement ∈ made.filterMap MadeCall.judgement?, judgement.1.WellFormed) :
    (ofCalls digest made).Accounts made where
  exhausted := exhausted_value hdigest
  stages := selections_total_stage hdigest
  errors := by
    rw [ofCalls, MetricFamily.tally_total fun _ _ _ _ _ => rfl, List.countP_true,
      List.length_map]
  classes := errors_total_class hdigest
  cooldowns := fun series => by
    rw [ofCalls, MetricFamily.tally_singletons hdigest.seriesCooldowns, List.count_filterMap]
  autoClears := rfl
  gauges := fun _ hkey _ hreason =>
    MetricFamily.gauges_value (fun _ => List.mem_map_of_mem) hdigest.blocked hnames hkey hreason

theorem ofCalls_accountsByLabels_iff (hdigest : NoCollisions digest made) :
    (ofCalls digest made).AccountsByLabels made ↔
      Selection.ReadApart (made.filterMap MadeCall.selection?) := by
  have hvalues : (∀ labels, (ofCalls digest made).selections.value labels =
      (made.filterMap MadeCall.selection?).countP (Selection.labels? · == some labels)) ↔
      Selection.ReadApart (made.filterMap MadeCall.selection?) := by
    rw [Selection.ReadApart, ← hdigest.selections.injOn_iff, ← MetricFamily.tally_value_iff]
    simp only [List.count_filterMap]
    rfl
  refine ⟨fun haccounts => hvalues.mp haccounts.selections, fun hinjective =>
    ⟨hvalues.mpr hinjective, fun route => ?_⟩⟩
  have htotal : (ofCalls digest made).selections.total (·.head? == some route) =
      ((made.filterMap MadeCall.selection?).filterMap Selection.labels?).countP
        (·.head? == some route) :=
    MetricFamily.tally_total fun one hone other hother hsame => by
      rw [hinjective hone hother (hdigest.selections one hone other hother hsame)]
  rw [htotal, exhausted_value hdigest, List.countP_filterMap]
  generalize made.filterMap MadeCall.selection? = selections
  induction selections with
  | nil => rfl
  | cons selection rest ih =>
      rw [List.countP_cons, List.count_cons, List.countP_cons, ← ih]
      rcases selection with ⟨other, ⟨key, stage⟩ | _⟩
      · simp [Selection.labels?]
        omega
      · simp [Selection.labels?]
        omega

end Metrics

namespace Engine

variable {engine : Engine} {calls : List TimedCall} {digest : String → UInt64}

theorem wellFormed_of_judgement
    (hnames : ∀ timed ∈ calls, ∀ key, timed.call.judgedKey? = some key → key.WellFormed) :
    ∀ judgement ∈ (engine.made calls).filterMap MadeCall.judgement?, judgement.1.WellFormed := by
  intro judgement hjudgement
  obtain ⟨made, hmade, hanswer⟩ := List.mem_filterMap.mp hjudgement
  have htimed : made.timed ∈ (engine.made calls).map MadeCall.timed := List.mem_map_of_mem hmade
  rw [made_map_timed] at htimed
  exact hnames made.timed htimed judgement.1 (MadeCall.judgedKey?_of_judgement hanswer)

/-- An engine that counts by a digest without collisions accounts for every outcome of its calls
once, and tells by the gauges of a key what was last said about it.  Its selections are counted
under their own labels, and add up for each route, if and only if no two of them have different
labels that read the same. -/
theorem counted_once (hmetrics : engine.metrics = none)
    (hnames : ∀ timed ∈ calls, ∀ key, timed.call.judgedKey? = some key → key.WellFormed)
    (hdigest : Metrics.NoCollisions digest ((engine.counting digest).made calls)) :
    ∃ metrics, ((engine.counting digest).run calls).metrics = some metrics ∧
      metrics.Accounts ((engine.counting digest).made calls) ∧
      (metrics.AccountsByLabels ((engine.counting digest).made calls) ↔
        Selection.ReadApart
          (((engine.counting digest).made calls).filterMap MadeCall.selection?)) :=
  ⟨_, run_metrics hmetrics digest calls,
    Metrics.ofCalls_accounts hdigest (wellFormed_of_judgement hnames),
    Metrics.ofCalls_accountsByLabels_iff hdigest⟩

/-- A session is bound and served.  Then both keys fail for good, so the binding is dropped and the
route is exhausted, until one of the keys is forgiven. -/
def troubledCalls : List TimedCall :=
  let request : SelectionRequest := { session := some "s" }
  [⟨0, .select "chat" { request with instructions := [.sticky "north" "large" none] }⟩,
    ⟨1000, .reportError ⟨⟨"north", "a", "large"⟩, none, some 401, none, 1000⟩ (some "s")⟩,
    ⟨2000, .reportError ⟨⟨"north", "b", "large"⟩, none, some 401, none, 2000⟩ none⟩,
    ⟨3000, .select "chat" request⟩, ⟨4000, .forgive ⟨"north", "a", "large"⟩⟩,
    ⟨5000, .select "chat" {}⟩]

/-- Each of these outcomes was counted once. -/
theorem counted_once_of_troubled :
    ∃ engine metrics, Reachable twoAliases engine ∧ engine.metrics = none ∧
      (engine.counting.run troubledCalls).metrics = some metrics ∧
      metrics.selections.value ["chat", "north", "large", "sticky"] = 1 ∧
      metrics.selections.value ["chat", "north", "large", "priority"] = 1 ∧
      metrics.exhausted.value ["chat"] = 1 ∧
      metrics.errors.total (·.getLast? == some "EFATAL") = 2 ∧ metrics.autoClears = 1 ∧
      metrics.blocked.value ["north/a/large", "fatal"] = 0 ∧
      metrics.blocked.value ["north/b/large", "fatal"] = 1 := by
  obtain ⟨engine, hbuilt⟩ := exists_ofConfiguration_twoAliases
  obtain ⟨hmetrics, hselections, hfailures, hdrops, hjudgements⟩ : engine.metrics = none ∧
      (engine.counting.made troubledCalls).filterMap MadeCall.selection? =
        [("chat", .selected ⟨"north", "a", "large"⟩ .sticky), ("chat", .exhausted),
          ("chat", .selected ⟨"north", "a", "large"⟩ .priority)] ∧
      (engine.counting.made troubledCalls).filterMap MadeCall.failure? =
        [(⟨"north", "a", "large"⟩, ⟨.fatal, .fatal, none, false⟩),
          (⟨"north", "b", "large"⟩, ⟨.fatal, .fatal, none, false⟩)] ∧
      (engine.counting.made troubledCalls).countP MadeCall.dropsBinding = 1 ∧
      (engine.counting.made troubledCalls).filterMap MadeCall.judgement? =
        [(⟨"north", "a", "large"⟩, .fatal), (⟨"north", "b", "large"⟩, .fatal),
          (⟨"north", "a", "large"⟩, .ok)] := by
    simp only [ofConfiguration, publish, Routes.ofConfiguration, twoAliases_valid] at hbuilt
    cases hbuilt
    exact ⟨rfl, by decide +kernel, by decide +kernel, by decide +kernel, by decide +kernel⟩
  have ha : ProviderKey.WellFormed ⟨"north", "a", "large"⟩ := by constructor <;> decide
  have hb : ProviderKey.WellFormed ⟨"north", "b", "large"⟩ := by constructor <;> decide
  have hnames : ∀ timed ∈ troubledCalls, ∀ key, timed.call.judgedKey? = some key →
      key.WellFormed := by
    simp [troubledCalls, EngineCall.judgedKey?, EngineCall.recordedKey?, ha, hb]
  have hdigest : Metrics.NoCollisions fnv1a (engine.counting.made troubledCalls) :=
    .of_outcomes hselections hfailures hjudgements (by decide +kernel)
  obtain ⟨metrics, hrun, haccounts, hlabels⟩ := counted_once hmetrics hnames hdigest
  rw [hselections] at hlabels
  have hown := hlabels.mpr (by
    have hdiffer : ∀ one ∈ [["chat", "north", "large", "sticky"],
        ["chat", "north", "large", "priority"]], ∀ other ∈ [["chat", "north", "large", "sticky"],
        ["chat", "north", "large", "priority"]], String.join one = String.join other →
          one = other := by decide +kernel
    exact fun one hone other hother => hdiffer one hone other hother)
  refine ⟨engine, metrics, .built hbuilt, hmetrics, hrun, ?_, ?_, ?_, ?_, ?_, ?_, ?_⟩
  · rw [hown.selections, hselections]
    decide +kernel
  · rw [hown.selections, hselections]
    decide +kernel
  · rw [haccounts.exhausted, hselections]
    decide +kernel
  · refine (haccounts.classes .fatal).trans ?_
    rw [hfailures]
    decide +kernel
  · exact haccounts.autoClears.trans hdrops
  · refine (haccounts.gauges _ ha .fatal (by decide)).trans ?_
    rw [hjudgements]
    decide +kernel
  · refine (haccounts.gauges _ hb .fatal (by decide)).trans ?_
    rw [hjudgements]
    decide +kernel

/-- Two targets whose provider and model read the same. -/
def alikeTargets : Configuration :=
  chat [{ provider := "north", model := "2large", aliases := ["a"] },
    { provider := "north2", model := "large", aliases := ["b"] }] {}

/-- A request, and another one that does not want the key that the first one gets. -/
def alikeSelections : List TimedCall :=
  let excluded : KeySet := .ofList [(⟨"north", "a", "2large"⟩, ())]
  [⟨0, .select "chat" {}⟩, ⟨0, .select "chat" { excluded }⟩]

/-- Not every selection is counted under its own labels. -/
theorem not_forall_accountsByLabels :
    ¬ ∀ config engine calls digest metrics, Reachable config engine → engine.metrics = none →
      (∀ timed ∈ calls, ∀ key, timed.call.judgedKey? = some key → key.WellFormed) →
      Metrics.NoCollisions digest ((engine.counting digest).made calls) →
      ((engine.counting digest).run calls).metrics = some metrics →
        metrics.Accounts ((engine.counting digest).made calls) ∧
          metrics.AccountsByLabels ((engine.counting digest).made calls) := by
  intro hall
  have hvalid : alikeTargets.validate = .ok () := by
    refine chat_valid rfl rfl ?_
    simp [Configuration.ensureTarget, Configuration.ensureAliases, Configuration.ensureIdentifier]
    rfl
  obtain ⟨engine, hbuilt⟩ := exists_ofConfiguration hvalid
  obtain ⟨hmetrics, hfailures, hjudgements, hselections⟩ : engine.metrics = none ∧
      (engine.counting.made alikeSelections).filterMap MadeCall.failure? = [] ∧
      (engine.counting.made alikeSelections).filterMap MadeCall.judgement? = [] ∧
      (engine.counting.made alikeSelections).filterMap MadeCall.selection? =
        [("chat", .selected ⟨"north", "a", "2large"⟩ .priority),
          ("chat", .selected ⟨"north2", "b", "large"⟩ .priority)] := by
    simp only [ofConfiguration, publish, Routes.ofConfiguration, hvalid] at hbuilt
    cases hbuilt
    exact ⟨rfl, rfl, rfl, by decide +kernel⟩
  have hdigest : Metrics.NoCollisions fnv1a (engine.counting.made alikeSelections) :=
    .of_outcomes hselections hfailures hjudgements (by decide +kernel)
  obtain ⟨-, hown⟩ := hall alikeTargets engine alikeSelections fnv1a _ (.built hbuilt) hmetrics
    (by simp [alikeSelections, EngineCall.judgedKey?, EngineCall.recordedKey?]) hdigest
    (run_metrics hmetrics fnv1a alikeSelections)
  have hinjective := (Metrics.ofCalls_accountsByLabels_iff hdigest).mp hown
  rw [hselections] at hinjective
  have hsame : ["chat", "north", "2large", "priority"] = ["chat", "north2", "large", "priority"] :=
    hinjective (.head _) (.tail _ (.head _)) (by decide +kernel)
  exact absurd hsame (by decide)

end Engine

end ProviderRouting
