import ProviderRouting.Proofs.Engine.Answers
import ProviderRouting.Proofs.Engine.Deciding
import ProviderRouting.Proofs.Session.Calls

/-!
# Sessions do not interfere

Two engines that differ only in sessions of other names answer alike all calls that are made for
one session or for none, and still differ only in those sessions afterwards.  So other conversations
have a part in the answers through entries, cooldowns, rotations and counts, but not through their
sessions.
-/

namespace ProviderRouting

/-! ## Sessions -/

namespace Sessions

variable {left right : Sessions} {name : String}

/-- What calls make of a session depends on this session only. -/
theorem get?_run_congr (hsame : left.get? name = right.get? name) (calls : List SessionCall) :
    (left.run calls).get? name = (right.run calls).get? name := by
  induction calls generalizing left right with
  | nil => exact hsame
  | cons call rest ih =>
      apply ih
      rw [get?_perform, get?_perform, hsame]

theorem filter?_congr (hsame : left.get? name = right.get? name) :
    left.filter? name = right.filter? name := by
  rw [filter?_eq, filter?_eq, hsame]

/-- What a binding has to say depends on its session only. -/
theorem select_fst_congr (hsame : left.get? name = right.get? name) (query : BindingQuery) :
    (left.select name query).1 = (right.select name query).1 := by
  rw [select, select, hsame]
  cases query.hint with
  | some hint => rfl
  | none =>
      cases right.get? name with
      | none => rfl
      | some session =>
          by_cases happlies : session.applies query.inRoute = true
          · simp only [if_pos happlies]
            split <;> rfl
          · simp only [if_neg happlies]

end Sessions

/-! ## Engines -/

def EngineCall.session? : EngineCall → Option String
  | .select _ request => request.session
  | .reportError _ session => session
  | _ => none

namespace Engine

/-- The engines differ in sessions of other names only. -/
structure SameFor (name : String) (left right : Engine) : Prop where
  beside : right = left.beside right.sessions left.metrics
  session : left.sessions.get? name = right.sessions.get? name

variable {engine left right : Engine} {name route : String} {now : Millis} {call : EngineCall}
  {calls : List TimedCall} {request : SelectionRequest} {directives : Directives}

theorem sameFor_beside (engine : Engine) {sessions others : Sessions}
    (hsession : sessions.get? name = others.get? name) (metrics : Option Metrics) :
    SameFor name (engine.beside sessions metrics) (engine.beside others metrics) :=
  ⟨rfl, hsession⟩

/-- Tiers leave sessions and counts as they are. -/
theorem selectByRank_snd_eq (engine : Engine) (eligible : ProviderKey → Bool) (recover : Bool)
    (now : Millis) (tiers : List Tier) :
    (engine.selectByRank eligible recover now tiers).2 =
      (engine.selectByRank eligible recover now tiers).2.beside engine.sessions engine.metrics :=
  congrArg Prod.snd (selectByRank_beside engine.sessions engine.metrics)

theorem publish_beside (config : Configuration) (sessions : Sessions) (metrics : Option Metrics) :
    (engine.beside sessions metrics).publish config =
      (engine.publish config).map (·.beside sessions metrics) := by
  have hguard : (engine.beside sessions metrics).series = engine.series := rfl
  rw [publish, publish, hguard]
  cases Routes.ofConfiguration config with
  | error cause => rfl
  | ok routes => cases engine.series.withSettings config.series <;> rfl

theorem restore_beside (snapshot : Snapshot) (sessions : Sessions) (metrics : Option Metrics) :
    (engine.beside sessions metrics).restore snapshot =
      (engine.restore snapshot).map (·.beside sessions metrics) := by
  rw [restore, restore]
  cases snapshot.ensureReadable with
  | error cause => rfl
  | ok readable => cases snapshot.entries <;> rfl

namespace SameFor

theorem exists_beside (hsame : SameFor name left right) :
    ∃ sessions, left.sessions.get? name = sessions.get? name ∧
      right = left.beside sessions left.metrics :=
  ⟨right.sessions, hsame.session, hsame.beside⟩

theorem count (hsame : SameFor name left right) (change : Metrics → Metrics) :
    SameFor name (left.count change) (right.count change) := by
  obtain ⟨sessions, hsession, rfl⟩ := hsame.exists_beside
  exact ⟨rfl, hsession⟩

theorem countSelection (hsame : SameFor name left right) (route : String) (key : ProviderKey)
    (stage : SelectionStage) :
    Alike (SameFor name) (left.countSelection route key stage)
      (right.countSelection route key stage) :=
  ⟨rfl, hsame.count _⟩

theorem instructed (hsame : SameFor name left right) (request : SelectionRequest) :
    SameFor name (left.instructed request) (right.instructed request) := by
  obtain ⟨sessions, hsession, rfl⟩ := hsame.exists_beside
  obtain ⟨calls, -, hcarried⟩ :=
    exists_calls_foldl_carryOut left.routes request.session request.instructions
  refine ⟨rfl, ?_⟩
  calc
    (left.carryOutAll request).2.get? name = (left.sessions.run calls).get? name :=
      congrArg (Table.get? · name) (hcarried ({}, left.sessions))
    _ = (sessions.run calls).get? name := Sessions.get?_run_congr hsession calls
    _ = ((left.beside sessions left.metrics).carryOutAll request).2.get? name :=
      congrArg (Table.get? · name) (hcarried ({}, sessions)).symm

theorem forcedKey?_eq (hsame : SameFor name left right) :
    left.forcedKey? request directives now = right.forcedKey? request directives now := by
  obtain ⟨sessions, -, rfl⟩ := hsame.exists_beside
  rfl

section Selecting

variable (hsame : SameFor name left right)
  (hwithin : request.session = none ∨ request.session = some name)

include hsame hwithin

theorem selectBound (route : String) (directives : Directives) (now : Millis) :
    Alike (SameFor name) (left.selectBound route request directives now)
      (right.selectBound route request directives now) := by
  obtain ⟨sessions, hsession, rfl⟩ := hsame.exists_beside
  rw [Engine.selectBound, Engine.selectBound]
  rcases hwithin with hnone | hname
  · rw [hnone]
    exact ⟨rfl, hsame⟩
  · rw [hname]
    refine ⟨Sessions.select_fst_congr hsession _, rfl, ?_⟩
    exact Sessions.get?_run_congr hsession [⟨name, .select _⟩]

theorem eligible_eq (directives : Directives) (now : Millis) :
    left.eligible request directives now = right.eligible request directives now := by
  obtain ⟨sessions, hsession, rfl⟩ := hsame.exists_beside
  have hfilter : request.session.bind left.sessions.filter? =
      request.session.bind sessions.filter? := by
    rcases hwithin with hnone | hname
    · rw [hnone]
      rfl
    · rw [hname]
      exact Sessions.filter?_congr hsession
  funext key
  rw [eligible, hfilter]
  rfl

theorem selectOnRoute (route : String) (tiers : List Tier) (directives : Directives)
    (now : Millis) :
    Alike (SameFor name) (left.selectOnRoute route tiers request directives now)
      (right.selectOnRoute route tiers request directives now) := by
  have heligible := hsame.eligible_eq hwithin directives now
  obtain ⟨sessions, hsession, rfl⟩ := hsame.exists_beside
  rw [selectOnRoute_eq, selectOnRoute_eq, ← heligible, selectByRank_beside]
  -- What the tiers reach keeps the sessions, so it differs from side to side as they did before.
  have hkept := selectByRank_snd_eq left (left.eligible request directives now)
    request.seeksHealthiest now tiers
  generalize left.selectByRank (left.eligible request directives now) request.seeksHealthiest now
    tiers = ranked at hkept ⊢
  have hreached := sameFor_beside ranked.2 hsession left.metrics
  rw [← hkept] at hreached
  obtain ⟨picked, reached⟩ := ranked
  cases picked with
  | none => exact ⟨rfl, hreached.count _⟩
  | some picked => exact hreached.countSelection route picked.1 picked.2

/-- A selection for the session, or for none, gets the same answer. -/
theorem select {tiers : List Tier} (htiers : left.routes.tiers? route = some tiers)
    (now : Millis) :
    ∃ chosen other, left.select route request now = .ok chosen ∧
      right.select route request now = .ok other ∧ Alike (SameFor name) chosen other := by
  have htiers_right : right.routes.tiers? route = some tiers := by
    obtain ⟨sessions, -, rfl⟩ := hsame.exists_beside
    exact htiers
  refine ⟨_, _, select_of_tiers htiers, select_of_tiers htiers_right, ?_⟩
  have hinstructed := hsame.instructed request
  -- Forced keys are the same on both sides, then what the binding says, then what is eligible.
  rw [hsame.forcedKey?_eq]
  cases right.forcedKey? request request.directives now with
  | some key => exact hinstructed.countSelection route key .forced
  | none =>
      have hbound := hinstructed.selectBound hwithin route request.directives now
      generalize (left.instructed request).selectBound route request request.directives now =
        bound at hbound ⊢
      generalize (right.instructed request).selectBound route request request.directives now =
        bound' at hbound ⊢
      obtain ⟨houtcome, hreached⟩ := hbound
      obtain ⟨outcome, reached⟩ := bound
      obtain ⟨outcome', reached'⟩ := bound'
      obtain rfl : outcome = outcome' := houtcome
      cases outcome with
      | selected key => exact hreached.countSelection route key .sticky
      | cleared =>
          exact (hreached.count Metrics.countAutoClear).selectOnRoute hwithin route tiers _ now
      | notApplicable => exact hreached.selectOnRoute hwithin route tiers _ now

end Selecting

theorem reportError (hsame : SameFor name left right) (event : ErrorEvent)
    {session : Option String} (hwithin : session = none ∨ session = some name) :
    Alike (SameFor name) (left.reportError event session) (right.reportError event session) := by
  obtain ⟨sessions, hsession, rfl⟩ := hsame.exists_beside
  refine ⟨rfl, rfl, ?_⟩
  rcases hwithin with rfl | rfl
  · exact hsession
  · exact Sessions.get?_run_congr hsession [⟨name, .rotate event.key _⟩]

theorem forgive (hsame : SameFor name left right) (key : ProviderKey) (now : Millis) :
    Alike (SameFor name) (left.forgive key now) (right.forgive key now) := by
  obtain ⟨sessions, hsession, rfl⟩ := hsame.exists_beside
  have hledger : (left.beside sessions left.metrics).quota = left.quota := rfl
  rw [Engine.forgive, Engine.forgive, hledger]
  rcases left.quota.clear key now with ⟨_ | _, quota⟩
  · exact ⟨rfl, rfl, hsession⟩
  · exact ⟨rfl, rfl, hsession⟩

/-- A call for the session, or for none, is answered alike, and the engines still differ in
sessions of other names only. -/
theorem perform (hsame : SameFor name left right)
    (hwithin : call.session? = none ∨ call.session? = some name) :
    left.answer now call = right.answer now call ∧
      SameFor name (left.perform now call) (right.perform now call) := by
  obtain ⟨sessions, hsession, rfl⟩ := hsame.exists_beside
  cases call with
  | publish config =>
      rw [answer, answer, Engine.perform, Engine.perform, publish_beside]
      cases hpublish : left.publish config with
      | error cause => exact ⟨rfl, hsame⟩
      | ok after =>
          obtain ⟨routes, series, -, -, rfl⟩ := publish_ok hpublish
          exact ⟨rfl, rfl, hsession⟩
  | select route request =>
      rw [answer, answer, Engine.perform, Engine.perform]
      cases htiers : left.routes.tiers? route with
      | none =>
          have hother : (left.beside sessions left.metrics).routes.tiers? route = none := htiers
          rw [select_of_no_tiers htiers, select_of_no_tiers hother]
          exact ⟨rfl, hsame⟩
      | some tiers =>
          obtain ⟨chosen, other, hleft, hright, halike⟩ := hsame.select hwithin htiers now
          rw [hleft, hright]
          exact ⟨congrArg (fun selection => CallAnswer.selected (.ok selection)) halike.answer,
            halike.state⟩
  | reportError event session =>
      have halike := hsame.reportError event hwithin
      exact ⟨congrArg CallAnswer.failed halike.answer, halike.state⟩
  | reportSuccess event => exact ⟨rfl, rfl, hsession⟩
  | reportUsage key tokens => exact ⟨rfl, rfl, hsession⟩
  | reportQuota report => exact ⟨rfl, rfl, hsession⟩
  | forgive key =>
      have halike := hsame.forgive key now
      exact ⟨congrArg CallAnswer.forgiven halike.answer, halike.state⟩
  | snapshot => exact ⟨rfl, rfl, hsession⟩
  | restore snapshot =>
      rw [answer, answer, Engine.perform, Engine.perform, restore_beside]
      cases hrestore : left.restore snapshot with
      | error cause => exact ⟨rfl, hsame⟩
      | ok after =>
          obtain ⟨entries, -, -, rfl⟩ := restore_ok hrestore
          exact ⟨rfl, rfl, hsession⟩

end SameFor

/-- Engines that differ in sessions of other names only cannot be told apart by any run of calls
for the session, or for none, and differ in nothing else after it. -/
theorem run_isolated (hsame : SameFor name left right)
    (hwithin : ∀ timed ∈ calls,
      timed.call.session? = none ∨ timed.call.session? = some name) :
    left.answers calls = right.answers calls ∧
      SameFor name (left.run calls) (right.run calls) := by
  induction calls generalizing left right with
  | nil => exact ⟨rfl, hsame⟩
  | cons timed rest ih =>
      rw [List.forall_mem_cons] at hwithin
      obtain ⟨hanswer, hafter⟩ := hsame.perform hwithin.1
      obtain ⟨hanswers, hfinal⟩ := ih hafter hwithin.2
      refine ⟨?_, hfinal⟩
      rw [answers, answers, hanswer, hanswers]

/-- A conversation that is bound to a model, moves on when a key fails, and is answered again. -/
def conversation : List TimedCall :=
  let request : SelectionRequest := { session := some "s" }
  [⟨0, .select "chat" { request with instructions := [.sticky "north" "large" none] }⟩,
    ⟨1000, .reportError ⟨⟨"north", "a", "large"⟩, none, some 500, none, 1000⟩ (some "s")⟩,
    ⟨2000, .select "chat" request⟩, ⟨3000, .select "chat" {}⟩]

/-- The other engine has one more session, which may select no key at all. -/
theorem run_isolated_of_another :
    ∃ engine other, Reachable twoAliases engine ∧ SameFor "s" engine other ∧
      engine.sessions.contains "t" = false ∧ other.sessions.contains "t" = true ∧
      (∀ timed ∈ conversation,
        timed.call.session? = none ∨ timed.call.session? = some "s") ∧
      engine.answers conversation = other.answers conversation ∧
      SameFor "s" (engine.run conversation) (other.run conversation) := by
  obtain ⟨engine, hbuilt⟩ := exists_ofConfiguration_twoAliases
  have hreachable : Reachable twoAliases engine := .built hbuilt
  have hnone : engine.sessions = ∅ := by
    simp only [ofConfiguration, publish, Routes.ofConfiguration, twoAliases_valid] at hbuilt
    cases hbuilt
    rfl
  have hsame : SameFor "s" engine
      (engine.beside (engine.sessions.allow "t" ["south"]) engine.metrics) := by
    refine ⟨rfl, ?_⟩
    have hother := Sessions.get?_update engine.sessions "t" "s" (·.allow ["south"])
    exact (hother.trans (if_neg (by decide))).symm
  have hwithin : ∀ timed ∈ conversation,
      timed.call.session? = none ∨ timed.call.session? = some "s" := by
    simp [conversation, EngineCall.session?]
  refine ⟨engine, _, hreachable, hsame, ?_, ?_, hwithin, run_isolated hsame hwithin⟩
  · rw [hnone]
    rfl
  · exact (Table.contains_insert_iff engine.sessions "t" "t" _).mpr (.inl rfl)

end Engine

end ProviderRouting
