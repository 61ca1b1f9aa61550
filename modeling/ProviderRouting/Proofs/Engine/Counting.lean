import ProviderRouting.Proofs.Engine.Isolation
import ProviderRouting.Proofs.Engine.KnownKeys
import ProviderRouting.Proofs.Metrics
import ProviderRouting.Proofs.Session.Answers

/-!
# What an engine counts

What a call counts depends on the call and on what it answers, so the metrics of an engine that
counts can be told from the calls made on it since.  Every way out of a selection counts it once,
and one that drops a binding is counted once more.
-/

namespace ProviderRouting

/-! ## Dropped bindings -/

namespace Sessions

variable {sessions : Sessions} {name : String} {query : BindingQuery}

def isBound (sessions : Sessions) (name : String) : Bool :=
  (sessions.get? name).any (·.mode != .unbound)

theorem isBound_eq_false_iff : sessions.isBound name = false ↔ sessions.IsUnbound name := by
  rw [isBound, Option.any_eq_false]
  simp only [bne_eq_false_iff_eq, IsUnbound]

/-- A binding that is dropped was there, and is there no more. -/
theorem isBound_of_cleared (hselect : (sessions.select name query).1 = .cleared) :
    sessions.isBound name = true ∧ (sessions.select name query).2.isBound name = false := by
  have happlies : ¬ (sessions.select name query).1 = .notApplicable := by simp [hselect]
  constructor
  · rw [← Bool.not_eq_false, isBound_eq_false_iff]
    exact fun hunbound => happlies (select_of_unbound hunbound query)
  · rcases sessions.select_cases name query with hcase | ⟨session, -, hcase⟩
    · exact absurd (congrArg Prod.fst hcase) happlies
    · rw [hcase] at hselect ⊢
      cases hpick : session.pick? query with
      | some key => simp [hpick] at hselect
      | none => exact isBound_eq_false_iff.mpr (release_isUnbound sessions name session)

end Sessions

/-! ## Calls that are made -/

/-- A call on the engine that the calls before it left. -/
structure MadeCall where
  engine : Engine
  time : Millis
  call : EngineCall

namespace MadeCall

def timed (made : MadeCall) : TimedCall :=
  ⟨made.time, made.call⟩

/-- The route and the answer of a selection; an unknown route has none. -/
def selection? (made : MadeCall) : Option (String × Selection) :=
  match made.call with
  | .select route request =>
      (made.engine.select route request made.time).toOption.map fun chosen => (route, chosen.1)
  | _ => none

/-- The selection dropped the binding of its session, which was bound when the instructions of the
request had been carried out. -/
def dropsBinding (made : MadeCall) : Bool :=
  match made.call with
  | .select route request =>
      match made.engine.select route request made.time with
      | .ok (_, after) =>
          request.session.any fun name =>
            (made.engine.instructed request).sessions.isBound name &&
              !after.sessions.isBound name
      | .error _ => false
  | _ => false

def failure? (made : MadeCall) : Option (ProviderKey × ErrorSummary) :=
  match made.call with
  | .reportError event session => some (event.key, (made.engine.reportError event session).1)
  | _ => none

def judgement? (made : MadeCall) : Option (ProviderKey × PoolReason) :=
  match made.call with
  | .reportError event session =>
      some (event.key, (made.engine.reportError event session).1.reason)
  | .reportSuccess event => some (event.key, (made.engine.reportSuccess event).1)
  | .reportUsage key tokens => some (key, (made.engine.reportUsage key tokens made.time).1)
  | .reportQuota report => some (report.key, (made.engine.reportQuota report made.time).1)
  | .forgive key => if (made.engine.forgive key made.time).1 then some (key, .ok) else none
  | _ => none

end MadeCall

/-- The labels of a selection: its route, and the provider, model and stage of its answer. -/
def Selection.labels? : String × Selection → Option (List String)
  | (route, .selected key stage) => some [route, key.provider, key.model, stage.label]
  | (_, .exhausted) => none

def Selection.exhaustedRoute? : String × Selection → Option String
  | (_, .selected _ _) => none
  | (route, .exhausted) => some route

def ErrorSummary.labels (failure : ProviderKey × ErrorSummary) : List String :=
  [failure.1.provider, failure.1.model, failure.2.errorClass.label]

def ErrorSummary.series? (failure : ProviderKey × ErrorSummary) : Option String :=
  failure.2.seriesCooldown.map Prod.fst

namespace Metrics

def afterCall (metrics : Metrics) (made : MadeCall) : Metrics where
  selections := (made.selection?.bind Selection.labels?).elim metrics.selections
    metrics.selections.add
  exhausted := (made.selection?.bind Selection.exhaustedRoute?).elim metrics.exhausted
    fun route => metrics.exhausted.add [route]
  errors := made.failure?.elim metrics.errors fun failure =>
    metrics.errors.add (ErrorSummary.labels failure)
  blocked := made.judgement?.elim metrics.blocked fun judgement =>
    metrics.blocked.judge judgement.1.text judgement.2
  seriesCooldowns := (made.failure?.bind ErrorSummary.series?).elim metrics.seriesCooldowns
    fun series => metrics.seriesCooldowns.add [series]
  autoClears := metrics.autoClears + if made.dropsBinding then 1 else 0

/-- The metrics of all calls that were made since the counting began. -/
def ofCalls (digest : String → UInt64) (made : List MadeCall) : Metrics where
  selections := .tally digest ((made.filterMap MadeCall.selection?).filterMap Selection.labels?)
  exhausted := .tally digest
    (((made.filterMap MadeCall.selection?).filterMap Selection.exhaustedRoute?).map ([·]))
  errors := .tally digest ((made.filterMap MadeCall.failure?).map ErrorSummary.labels)
  blocked := .gauges digest (made.filterMap MadeCall.judgement?)
  seriesCooldowns := .tally digest
    (((made.filterMap MadeCall.failure?).filterMap ErrorSummary.series?).map ([·]))
  autoClears := made.countP MadeCall.dropsBinding

theorem ofCalls_append_singleton (digest : String → UInt64) (made : List MadeCall)
    (last : MadeCall) : ofCalls digest (made ++ [last]) = (ofCalls digest made).afterCall last := by
  simp only [ofCalls, afterCall, List.filterMap_append, List.map_append, List.countP_append,
    List.countP_singleton]
  congr 1
  · rcases hselection : last.selection? with _ | ⟨route, ⟨key, stage⟩ | _⟩ <;>
      simp [hselection, List.filterMap_cons, Selection.labels?,
        MetricFamily.tally_append_singleton]
  · rcases hselection : last.selection? with _ | ⟨route, ⟨key, stage⟩ | _⟩ <;>
      simp [hselection, List.filterMap_cons, Selection.exhaustedRoute?,
        MetricFamily.tally_append_singleton]
  · cases hfailure : last.failure? <;>
      simp [hfailure, MetricFamily.tally_append_singleton]
  · cases hjudgement : last.judgement? <;>
      simp [hjudgement, MetricFamily.gauges_append_singleton]
  · rcases hfailure : last.failure? with _ | failure
    · simp [hfailure]
    · cases hseries : ErrorSummary.series? failure <;>
        simp [hfailure, hseries, MetricFamily.tally_append_singleton]

end Metrics

namespace Engine

variable {engine after : Engine} {route : String} {request : SelectionRequest} {now : Millis}
  {selection : Selection}

def made (engine : Engine) : List TimedCall → List MadeCall
  | [] => []
  | timed :: calls =>
      ⟨engine, timed.time, timed.call⟩ :: (engine.perform timed.time timed.call).made calls

theorem made_map_timed (engine : Engine) (calls : List TimedCall) :
    (engine.made calls).map MadeCall.timed = calls := by
  induction calls generalizing engine with
  | nil => rfl
  | cons timed rest ih => exact congrArg (timed :: ·) (ih _)

theorem made_append_singleton (engine : Engine) (calls : List TimedCall) (last : TimedCall) :
    engine.made (calls ++ [last]) =
      engine.made calls ++ [⟨engine.run calls, last.time, last.call⟩] := by
  induction calls generalizing engine with
  | nil => rfl
  | cons timed rest ih => exact congrArg _ (ih _)

/-! ## Counting a selection -/

theorem selectByRank_metrics (engine : Engine) (eligible : ProviderKey → Bool) (recover : Bool)
    (now : Millis) (tiers : List Tier) :
    (engine.selectByRank eligible recover now tiers).2.metrics = engine.metrics := by
  rw [selectByRank_snd_eq]
  rfl

theorem selectOnRoute_metrics {tiers : List Tier} {directives : Directives}
    (hselect : engine.selectOnRoute route tiers request directives now = (selection, after)) :
    after.metrics = counted route engine.metrics selection := by
  have hkept := engine.selectByRank_metrics (engine.eligible request directives now)
    request.seeksHealthiest now tiers
  rw [selectOnRoute_eq] at hselect
  rcases hranked : engine.selectByRank (engine.eligible request directives now)
      request.seeksHealthiest now tiers with ⟨_ | ⟨key, stage⟩, ranked⟩ <;>
    rw [hranked] at hselect hkept <;> cases hselect
  · exact congrArg (Option.map _) hkept
  · exact congrArg (Option.map _) hkept

theorem selectBound_metrics (directives : Directives) :
    (engine.selectBound route request directives now).2.metrics = engine.metrics := by
  obtain ⟨sessions, hbound⟩ : ∃ sessions, (engine.selectBound route request directives now).2 =
      engine.beside sessions engine.metrics := selectBound_beside directives
  rw [hbound]
  rfl

/-- Only a binding that is dropped changes a session. -/
theorem selectBound_kept {directives : Directives} {outcome : BindingOutcome}
    (hbound : engine.selectBound route request directives now = (outcome, after))
    (houtcome : outcome ≠ .cleared) : after.sessions = engine.sessions := by
  rw [selectBound] at hbound
  cases hsession : request.session with
  | none =>
      rw [hsession] at hbound
      cases hbound
      rfl
  | some name =>
      rw [hsession] at hbound
      cases hbound
      exact Sessions.select_snd_eq houtcome

theorem selectBound_cleared {directives : Directives}
    (hbound : engine.selectBound route request directives now = (.cleared, after)) :
    ∃ name, request.session = some name ∧ engine.sessions.isBound name = true ∧
      after.sessions.isBound name = false := by
  rw [selectBound] at hbound
  cases hsession : request.session with
  | none => simp [hsession] at hbound
  | some name =>
      rw [hsession] at hbound
      obtain ⟨houtcome, rfl⟩ := Prod.mk.inj hbound
      exact ⟨name, rfl, Sessions.isBound_of_cleared houtcome⟩

def cleared (metrics : Option Metrics) (drops : Bool) : Option Metrics :=
  if drops then metrics.map Metrics.countAutoClear else metrics

/-- A selection is counted once, after a binding that it drops. -/
theorem select_metrics (hselect : engine.select route request now = .ok (selection, after)) :
    after.metrics = counted route (cleared engine.metrics
      (MadeCall.dropsBinding ⟨engine, now, .select route request⟩)) selection := by
  have hdrops : MadeCall.dropsBinding ⟨engine, now, .select route request⟩ =
      request.session.any fun name =>
        (engine.instructed request).sessions.isBound name && !after.sessions.isBound name := by
    simp only [MadeCall.dropsBinding, hselect]
  have hkeeps (hsessions : after.sessions = (engine.instructed request).sessions) :
      MadeCall.dropsBinding ⟨engine, now, .select route request⟩ = false := by
    rw [hdrops, hsessions]
    cases request.session <;> simp
  cases htiers : engine.routes.tiers? route with
  | none =>
      rw [select_of_no_tiers htiers] at hselect
      cases hselect
  | some tiers =>
      rw [select_of_tiers htiers, Except.ok.injEq] at hselect
      cases hforced : engine.forcedKey? request request.directives now with
      | some key =>
          rw [hforced] at hselect
          cases hselect
          rw [hkeeps rfl]
          rfl
      | none =>
          rw [hforced] at hselect
          have hmetrics : ((engine.instructed request).selectBound route request
              request.directives now).2.metrics = engine.metrics := selectBound_metrics _
          rcases hbound : (engine.instructed request).selectBound route request
              request.directives now with ⟨outcome, bound⟩
          rw [hbound] at hselect hmetrics
          cases outcome with
          | selected key =>
              have hsessions := selectBound_kept hbound (by simp)
              cases hselect
              rw [hkeeps hsessions]
              exact congrArg (Option.map _) hmetrics
          | cleared =>
              obtain ⟨name, hname, hbefore, hafter⟩ := selectBound_cleared hbound
              have hsessions := selectOnRoute_sessions hselect
              have hafter : after.sessions.isBound name = false := by
                rw [hsessions]
                exact hafter
              rw [hdrops, hname, Option.any_some, hbefore, hafter, selectOnRoute_metrics hselect,
                ← hmetrics]
              rfl
          | notApplicable =>
              rw [hkeeps ((selectOnRoute_sessions hselect).trans
                (selectBound_kept hbound (by simp))), selectOnRoute_metrics hselect,
                hmetrics]
              rfl

/-! ## Counting a call -/

theorem reportError_metrics (event : ErrorEvent) (session : Option String) :
    (engine.reportError event session).2.metrics =
      engine.metrics.map (·.afterCall ⟨engine, now, .reportError event session⟩) := by
  simp only [Metrics.afterCall, MadeCall.failure?, MadeCall.judgement?, reportError]
  rcases engine.series.noteError event with ⟨_ | cooldown, series⟩
  · rfl
  · rfl

theorem forgive_metrics (key : ProviderKey) :
    (engine.forgive key now).2.metrics =
      engine.metrics.map (·.afterCall ⟨engine, now, .forgive key⟩) := by
  rcases hclear : engine.quota.clear key now with ⟨_ | _, quota⟩
  · simp only [Metrics.afterCall, MadeCall.judgement?, forgive, hclear]
    exact Option.map_id'.symm
  · simp only [Metrics.afterCall, MadeCall.judgement?, forgive, hclear]
    rfl

/-- What a call counts can be told from the call and what it answers. -/
theorem perform_metrics (engine : Engine) (now : Millis) (call : EngineCall) :
    (engine.perform now call).metrics = engine.metrics.map (·.afterCall ⟨engine, now, call⟩) := by
  have hsilent (hcall : ∀ metrics : Metrics, metrics.afterCall ⟨engine, now, call⟩ = metrics) :
      engine.metrics.map (·.afterCall ⟨engine, now, call⟩) = engine.metrics := by
    simp only [hcall, Option.map_id']
  cases call with
  | publish config =>
      rw [hsilent fun _ => rfl, perform]
      cases hpublish : engine.publish config with
      | error cause => rfl
      | ok after =>
          obtain ⟨routes, series, -, -, rfl⟩ := publish_ok hpublish
          rfl
  | select route request =>
      rw [perform]
      cases hselect : engine.select route request now with
      | error cause =>
          have hselection : MadeCall.selection? ⟨engine, now, .select route request⟩ = none := by
            simp only [MadeCall.selection?, hselect]
            rfl
          have hdrops : MadeCall.dropsBinding ⟨engine, now, .select route request⟩ = false := by
            simp only [MadeCall.dropsBinding, hselect]
          refine (hsilent fun metrics => ?_).symm
          rw [Metrics.afterCall, hselection, hdrops]
          rfl
      | ok chosen =>
          obtain ⟨selection, after⟩ := chosen
          have hselection : MadeCall.selection? ⟨engine, now, .select route request⟩ =
              some (route, selection) := by
            simp only [MadeCall.selection?, hselect]
            rfl
          have hmetrics := select_metrics hselect
          simp only [Metrics.afterCall, hselection, hmetrics]
          cases MadeCall.dropsBinding ⟨engine, now, .select route request⟩ <;>
            cases selection <;> cases engine.metrics <;> rfl
  | reportError event session => exact reportError_metrics event session
  | reportSuccess event => rfl
  | reportUsage key tokens => rfl
  | reportQuota report => rfl
  | forgive key => exact forgive_metrics key
  | snapshot => exact (hsilent fun _ => rfl).symm
  | restore snapshot =>
      rw [hsilent fun _ => rfl, perform]
      cases hrestore : engine.restore snapshot with
      | error cause => rfl
      | ok after =>
          obtain ⟨entries, -, -, rfl⟩ := restore_ok hrestore
          rfl

/-- The metrics of an engine that counts tell from the calls made since. -/
theorem run_metrics (hmetrics : engine.metrics = none) (digest : String → UInt64)
    (calls : List TimedCall) :
    ((engine.counting digest).run calls).metrics =
      some (.ofCalls digest ((engine.counting digest).made calls)) := by
  induction calls using List.reverseRecOn with
  | nil =>
      rw [run, List.foldl_nil, counting, hmetrics]
      rfl
  | append_singleton earlier timed ih =>
      rw [made_append_singleton, Metrics.ofCalls_append_singleton, run, List.foldl_append,
        List.foldl_cons, List.foldl_nil, ← run, perform_metrics, ih, Option.map_some]

end Engine

end ProviderRouting
