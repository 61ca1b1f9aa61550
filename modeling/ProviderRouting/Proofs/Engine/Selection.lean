import ProviderRouting.Proofs.Engine.Directives
import ProviderRouting.Proofs.Engine.Tiers

/-!
# How a selection comes about

A selection is forced, or made by the binding of the request's session, or made by a tier of the
route, or exhausted.  Each of these has conditions that say nothing about how keys are searched
for; `select_outcome` shows that they hold.  What a selection may change are sessions, rotations
and metrics.
-/

namespace ProviderRouting

/-! ## Sessions -/

namespace Session

/-- The queued key that a binding answers with. -/
def pick? (session : Session) (query : BindingQuery) : Option ProviderKey :=
  if query.recover then
    heaviest? query.weight (session.candidates query.inRoute query.selectable)
  else (session.candidates query.inRoute query.selectable).head?

theorem pick?_mem {session : Session} {query : BindingQuery} {key : ProviderKey}
    (hpick : session.pick? query = some key) :
    key ∈ session.candidates query.inRoute query.selectable := by
  rw [pick?] at hpick
  split at hpick
  · exact heaviest?_mem hpick
  · exact List.mem_of_mem_head? hpick

end Session

namespace Sessions

variable {sessions : Sessions} {name : String} {query : BindingQuery}

theorem filter?_eq (sessions : Sessions) (name : String) :
    sessions.filter? name =
      ((sessions.get? name).map Session.filter).filter fun filter => !filter.isEmpty := rfl

/-- Dropping a binding leaves the session's filter as it is. -/
theorem release_filter? {session : Session} (hsession : sessions.get? name = some session) :
    (sessions.release name session).filter? name = sessions.filter? name := by
  rw [release]
  by_cases hempty : session.filter.isEmpty = true
  · rw [if_pos hempty, filter?_eq, filter?_eq, hsession, Table.get?_erase, if_pos rfl]
    simp [Option.filter, hempty]
  · rw [if_neg hempty, filter?_eq, filter?_eq, hsession, Table.get?_insert, if_pos rfl]
    rfl

/-- A selection from a session changes nothing unless a binding applies. -/
theorem select_cases (sessions : Sessions) (name : String) (query : BindingQuery) :
    sessions.select name query = (.notApplicable, sessions) ∨
      ∃ session, sessions.get? name = some session ∧
        sessions.select name query =
          match session.pick? query with
          | some key => (.selected key, sessions)
          | none => (.cleared, sessions.release name session) := by
  rw [select]
  cases query.hint with
  | some hint => exact .inl rfl
  | none =>
      cases hsession : sessions.get? name with
      | none => exact .inl rfl
      | some session =>
          by_cases happlies : session.applies query.inRoute = true
          · exact .inr ⟨session, rfl, if_pos happlies⟩
          · exact .inl (if_neg happlies)

theorem select_filter? : (sessions.select name query).2.filter? name = sessions.filter? name := by
  rcases sessions.select_cases name query with hselect | ⟨session, hsession, hselect⟩
  · rw [hselect]
  · rw [hselect]
    cases session.pick? query with
    | some key => rfl
    | none => exact release_filter? hsession

/-- A binding answers with a queued key that the session lets through. -/
theorem select_selected {key : ProviderKey}
    (hselected : (sessions.select name query).1 = .selected key) :
    ∃ session, sessions.get? name = some session ∧ key ∈ session.queue ∧
      query.inRoute key = true ∧ session.filter.admits key = true ∧
        query.selectable key = true := by
  rcases sessions.select_cases name query with hselect | ⟨session, hsession, hselect⟩
  · simp [hselect] at hselected
  · rw [hselect] at hselected
    cases hpick : session.pick? query with
    | none => simp [hpick] at hselected
    | some picked =>
        obtain rfl : picked = key := by simpa [hpick] using hselected
        obtain ⟨hqueued, hkey⟩ := List.mem_filter.mp (Session.pick?_mem hpick)
        simp only [Bool.and_eq_true] at hkey
        exact ⟨session, hsession, hqueued, hkey.1.1, hkey.1.2, hkey.2⟩

end Sessions

theorem Routes.lists_iff {routes : Routes} {route : String} {tiers : List Tier}
    (htiers : routes.tiers? route = some tiers) (key : ProviderKey) :
    routes.lists route key = true ↔ ∃ tier ∈ tiers, key ∈ tier.targets := by
  simp [lists, htiers]

namespace Engine

/-! ## The conditions -/

/-- The request may use the key now, whatever led to the key. -/
structure Selectable (engine : Engine) (request : SelectionRequest) (now : Millis)
    (key : ProviderKey) : Prop where
  not_excluded : request.excluded.contains key = false
  permitted : request.Permits key
  not_cooling : engine.series.isCoolingDown key now = false
  in_pool : (engine.entryAt key now).inPool = true

/-- The filter of the request's session, once the request's instructions are carried out. -/
def sessionFilter? (engine : Engine) (request : SelectionRequest) : Option KeyFilter :=
  request.session.bind (engine.carryOutAll request).2.filter?

def Passes (engine : Engine) (request : SelectionRequest) (key : ProviderKey) : Prop :=
  ∀ filter, engine.sessionFilter? request = some filter → filter.admits key = true

/-- What has to be the case for each selection. -/
inductive Outcome (engine : Engine) (route : String) (request : SelectionRequest)
    (now : Millis) : Selection → Prop where
  | forced {target : KeySelector} {key : ProviderKey}
      (target_eq : request.forceTarget? = some target) (configured : key ∈ engine.routes.keys)
      (covered : target.covers key = true) (selectable : engine.Selectable request now key) :
      Outcome engine route request now (.selected key .forced)
  | sticky {name : String} {session : Session} {key : ProviderKey}
      (name_eq : request.session = some name)
      (session_eq : (engine.carryOutAll request).2.get? name = some session)
      (queued : key ∈ session.queue) (listed : engine.routes.lists route key = true)
      (passes : engine.Passes request key) (selectable : engine.Selectable request now key) :
      Outcome engine route request now (.selected key .sticky)
  | ranked {key : ProviderKey} {stage : SelectionStage}
      (ne_forced : stage ≠ .forced) (ne_sticky : stage ≠ .sticky)
      (listed : engine.routes.lists route key = true) (passes : engine.Passes request key)
      (selectable : engine.Selectable request now key) :
      Outcome engine route request now (.selected key stage)
  | exhausted
      (no_forced : ∀ target, request.forceTarget? = some target → ∀ key ∈ engine.routes.keys,
        target.covers key = true → ¬ engine.Selectable request now key)
      (no_listed : ∀ key, engine.routes.lists route key = true →
        engine.Selectable request now key → ¬ engine.Passes request key) :
      Outcome engine route request now .exhausted

variable {engine after : Engine} {route : String} {request : SelectionRequest} {now : Millis}
  {key : ProviderKey}

theorem Outcome.selectable {stage : SelectionStage}
    (houtcome : Outcome engine route request now (.selected key stage)) :
    engine.Selectable request now key := by
  cases houtcome <;> assumption

theorem isAvailable_iff_selectable (engine : Engine) (request : SelectionRequest) (now : Millis)
    (key : ProviderKey) :
    engine.isAvailable request request.directives now key = true ↔
      engine.Selectable request now key := by
  simp only [isAvailable, Bool.and_eq_true, Bool.not_eq_true', request.directives_admits_iff]
  constructor
  · rintro ⟨⟨⟨hexcluded, hpermitted⟩, hcooling⟩, hpool⟩
    exact ⟨hexcluded, hpermitted, hcooling, hpool⟩
  · rintro ⟨hexcluded, hpermitted, hcooling, hpool⟩
    exact ⟨⟨⟨hexcluded, hpermitted⟩, hcooling⟩, hpool⟩

theorem SameRecords.isAvailable_eq (hsame : SameRecords engine after)
    (request : SelectionRequest) (directives : Directives) (now : Millis) :
    after.isAvailable request directives now = engine.isAvailable request directives now := by
  funext key
  simp only [isAvailable, hsame.series, hsame.quota]

/-! ## The stages -/

/-- A forced key is a configured key that the target covers. -/
theorem forcedKey?_some (hforced : engine.forcedKey? request request.directives now = some key) :
    ∃ target, request.forceTarget? = some target ∧ key ∈ engine.routes.keys ∧
      target.covers key = true ∧ engine.Selectable request now key := by
  obtain ⟨target, htarget, hheaviest⟩ := Option.bind_eq_some_iff.mp hforced
  obtain ⟨hcovered, havailable⟩ := List.mem_filter.mp (heaviest?_mem hheaviest)
  obtain ⟨hconfigured, hcovers⟩ := List.mem_filter.mp hcovered
  exact ⟨target, htarget, hconfigured, hcovers,
    (engine.isAvailable_iff_selectable request now key).mp havailable⟩

theorem not_selectable_of_forcedKey?_none {target : KeySelector}
    (hforced : engine.forcedKey? request request.directives now = none)
    (htarget : request.forceTarget? = some target) (hconfigured : key ∈ engine.routes.keys)
    (hcovers : target.covers key = true) : ¬ engine.Selectable request now key := by
  intro hselectable
  have hnone := Option.bind_eq_none_iff.mp hforced target htarget
  rw [heaviest?_eq_none_iff, List.filter_eq_nil_iff] at hnone
  exact hnone key (List.mem_filter.mpr ⟨hconfigured, hcovers⟩)
    ((engine.isAvailable_iff_selectable request now key).mpr hselectable)

theorem selectBound_sameRecords (directives : Directives) :
    SameRecords engine (engine.selectBound route request directives now).2 := by
  rw [selectBound]
  cases request.session with
  | none => exact .refl engine
  | some name => exact ⟨rfl, rfl, rfl, rfl⟩

theorem selectBound_filter? (directives : Directives) :
    request.session.bind (engine.selectBound route request directives now).2.sessions.filter? =
      request.session.bind engine.sessions.filter? := by
  rw [selectBound]
  cases hsession : request.session with
  | none => rfl
  | some name => exact Sessions.select_filter?

theorem selectBound_selected {directives : Directives}
    (hbound : (engine.selectBound route request directives now).1 = .selected key) :
    ∃ name session, request.session = some name ∧ engine.sessions.get? name = some session ∧
      key ∈ session.queue ∧ engine.routes.lists route key = true ∧
        session.filter.admits key = true ∧
          engine.isAvailable request directives now key = true := by
  rw [selectBound] at hbound
  cases hname : request.session with
  | none => simp [hname] at hbound
  | some name =>
      rw [hname] at hbound
      obtain ⟨session, hsession, hkey⟩ := Sessions.select_selected hbound
      exact ⟨name, session, rfl, hsession, hkey⟩

def eligible (engine : Engine) (request : SelectionRequest) (directives : Directives)
    (now : Millis) (key : ProviderKey) : Bool :=
  engine.isAvailable request directives now key &&
    (request.session.bind engine.sessions.filter?).all (·.admits key)

theorem selectOnRoute_eq (tiers : List Tier) (directives : Directives) :
    engine.selectOnRoute route tiers request directives now =
      match engine.selectByRank (engine.eligible request directives now)
        request.seeksHealthiest now tiers with
      | (some (key, stage), engine) => engine.countSelection route key stage
      | (none, engine) => (.exhausted, engine.count (·.countExhausted route)) := rfl

/-- The tiers of a route decide once nothing is forced and no binding applies. -/
theorem selectOnRoute_outcome {tiers : List Tier}
    (htiers : engine.routes.tiers? route = some tiers)
    (hforced : engine.forcedKey? request request.directives now = none)
    {reached : Engine} (hsame : SameRecords engine reached)
    (hfilter : request.session.bind reached.sessions.filter? = engine.sessionFilter? request)
    {selection : Selection}
    (hselect : reached.selectOnRoute route tiers request request.directives now =
      (selection, after)) :
    Outcome engine route request now selection ∧ SameRecords engine after := by
  have heligible (key : ProviderKey) :
      reached.eligible request request.directives now key = true ↔
        engine.Selectable request now key ∧ engine.Passes request key := by
    rw [eligible, hsame.isAvailable_eq, hfilter, Bool.and_eq_true,
      isAvailable_iff_selectable, Option.all_eq_true]
    rfl
  have hranked : SameRecords reached (reached.selectByRank
      (reached.eligible request request.directives now) request.seeksHealthiest now tiers).2 :=
    selectByRank_sameRecords _ tiers
  rw [selectOnRoute_eq] at hselect
  rcases hrank : reached.selectByRank (reached.eligible request request.directives now)
      request.seeksHealthiest now tiers with ⟨_ | ⟨key, stage⟩, ranked⟩
  · rw [hrank] at hselect hranked
    cases hselect
    refine ⟨.exhausted (fun target htarget key hconfigured hcovers =>
      not_selectable_of_forcedKey?_none hforced htarget hconfigured hcovers) ?_,
        (hsame.trans hranked).trans (count_sameRecords ranked _)⟩
    intro key hlisted hselectable hpasses
    have hnone := selectByRank_eq_none_iff.mp (congrArg Prod.fst hrank)
    obtain ⟨tier, htier, hkey⟩ := (Routes.lists_iff htiers key).mp hlisted
    have hcandidate := (heligible key).mpr ⟨hselectable, hpasses⟩
    exact Bool.false_ne_true ((hnone tier htier key hkey).symm.trans hcandidate)
  · rw [hrank] at hselect hranked
    cases hselect
    obtain ⟨hlisted, hcandidate, hne_forced, hne_sticky⟩ :=
      selectByRank_some (congrArg Prod.fst hrank)
    obtain ⟨hselectable, hpasses⟩ := (heligible key).mp hcandidate
    exact ⟨.ranked hne_forced hne_sticky ((Routes.lists_iff htiers key).mpr hlisted) hpasses
      hselectable, (hsame.trans hranked).trans (count_sameRecords ranked _)⟩

/-! ## The whole selection -/

def instructed (engine : Engine) (request : SelectionRequest) : Engine :=
  { engine with sessions := (engine.carryOutAll request).2 }

theorem instructed_sameRecords (engine : Engine) (request : SelectionRequest) :
    SameRecords engine (engine.instructed request) :=
  ⟨rfl, rfl, rfl, rfl⟩

theorem select_of_tiers {tiers : List Tier} (htiers : engine.routes.tiers? route = some tiers) :
    engine.select route request now = .ok (
      match engine.forcedKey? request request.directives now with
      | some key => (engine.instructed request).countSelection route key .forced
      | none =>
          match (engine.instructed request).selectBound route request request.directives now with
          | (.selected key, engine) => engine.countSelection route key .sticky
          | (.cleared, engine) =>
              (engine.count Metrics.countAutoClear).selectOnRoute route tiers request
                request.directives now
          | (.notApplicable, engine) =>
              engine.selectOnRoute route tiers request request.directives now) := by
  -- The directives do not depend on the sessions that the instructions change.
  have hdirectives := engine.carryOutAll_fst request
  rw [select, htiers, instructed]
  generalize engine.carryOutAll request = state at hdirectives ⊢
  obtain ⟨directives, sessions⟩ := state
  subst hdirectives
  change (match engine.forcedKey? request request.directives now with
    | some key => _
    | none => _) = _
  cases engine.forcedKey? request request.directives now with
  | some key => rfl
  | none =>
      rcases ({ engine with sessions } : Engine).selectBound route request request.directives now
        with ⟨_ | key | _, bound⟩ <;> rfl

theorem select_of_no_tiers (htiers : engine.routes.tiers? route = none) :
    engine.select route request now = .error (.unknownRoute route) := by
  rw [select, htiers]

/-- Only an unknown route keeps a selection from an answer. -/
theorem select_ok {tiers : List Tier} (htiers : engine.routes.tiers? route = some tiers)
    (request : SelectionRequest) (now : Millis) :
    ∃ selection after, engine.select route request now = .ok (selection, after) :=
  ⟨_, _, select_of_tiers htiers⟩

/-- The key of a binding has the conditions of its stage. -/
theorem sticky_outcome
    (hbound : ((engine.instructed request).selectBound route request request.directives now).1 =
      .selected key) :
    Outcome engine route request now (.selected key .sticky) := by
  obtain ⟨name, session, hname, hsession, hqueued, hlisted, hadmits, havailable⟩ :=
    selectBound_selected hbound
  refine .sticky hname hsession hqueued hlisted ?_
    ((engine.isAvailable_iff_selectable request now key).mp havailable)
  intro filter hfilter
  have hstored : (engine.carryOutAll request).2.get? name = some session := hsession
  rw [sessionFilter?, hname, Option.bind_some, Sessions.filter?_eq, hstored,
    Option.map_some, Option.filter_eq_some_iff, Option.some.injEq] at hfilter
  rw [← hfilter.1]
  exact hadmits

/-- Every answer of a selection has its conditions, and the records stay as they are. -/
theorem select_outcome {selection : Selection}
    (hselect : engine.select route request now = .ok (selection, after)) :
    Outcome engine route request now selection ∧ SameRecords engine after := by
  cases htiers : engine.routes.tiers? route with
  | none =>
      rw [select_of_no_tiers htiers] at hselect
      cases hselect
  | some tiers =>
      rw [select_of_tiers htiers, Except.ok.injEq] at hselect
      have hinstructed := engine.instructed_sameRecords request
      cases hforced : engine.forcedKey? request request.directives now with
      | some key =>
          rw [hforced] at hselect
          cases hselect
          obtain ⟨target, htarget, hconfigured, hcovers, hselectable⟩ := forcedKey?_some hforced
          exact ⟨.forced htarget hconfigured hcovers hselectable,
            hinstructed.trans (count_sameRecords _ _)⟩
      | none =>
          rw [hforced] at hselect
          have hsame : SameRecords engine ((engine.instructed request).selectBound route request
              request.directives now).2 :=
            hinstructed.trans (selectBound_sameRecords _)
          have hfilter : request.session.bind ((engine.instructed request).selectBound route
              request request.directives now).2.sessions.filter? =
                engine.sessionFilter? request :=
            selectBound_filter? _
          cases hbound : (engine.instructed request).selectBound route request
              request.directives now with
          | mk outcome bound =>
              rw [hbound] at hselect hsame hfilter
              cases outcome with
              | selected key =>
                  cases hselect
                  exact ⟨sticky_outcome (congrArg Prod.fst hbound),
                    hsame.trans (count_sameRecords bound _)⟩
              | cleared =>
                  have hcounted := hsame.trans (count_sameRecords bound Metrics.countAutoClear)
                  exact selectOnRoute_outcome htiers hforced hcounted hfilter hselect
              | notApplicable =>
                  exact selectOnRoute_outcome htiers hforced hsame hfilter hselect

end Engine

end ProviderRouting
