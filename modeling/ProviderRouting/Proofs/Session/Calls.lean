import ProviderRouting.Proofs.Engine.Run

/-!
# Calls on sessions

Sessions are changed by eight calls, each of which names one session and depends on nothing but
that session.  An engine changes its sessions by such calls only: the instructions of a request
make some, a selection makes one more, and an error that is recorded for a session makes one.
-/

namespace ProviderRouting

inductive SessionChange where
  | bindModel (provider model : String) (pool : List ProviderKey)
  | bindKey (key : ProviderKey)
  | allow (providers : List String)
  | disable (target : KeySelector)
  | enable (target : KeySelector)
  | clear
  | select (query : BindingQuery)
  | rotate (key : ProviderKey) (hardBlock : Bool)

structure SessionCall where
  name : String
  change : SessionChange

def SessionChange.apply : SessionChange → Option Session → Option Session
  | .bindModel provider model pool, session? =>
      if pool.isEmpty then session? else some ((session?.getD {}).bindModel provider model pool)
  | .bindKey key, session? => some ((session?.getD {}).bindKey key)
  | .allow providers, session? => some ((session?.getD {}).allow providers)
  | .disable target, session? => some ((session?.getD {}).disable target)
  | .enable target, session? => session?.map (·.enable target)
  | .clear, _ => none
  | .select _, none => none
  | .select query, some session =>
      if query.hint.isNone && session.applies query.inRoute && (session.pick? query).isNone then
        if session.filter.isEmpty then none else some session.dropBinding
      else some session
  | .rotate key hardBlock, session? => session?.map (·.rotate key hardBlock)

namespace Session

/-! ## Disabled targets -/

theorem mem_disable_iff (session : Session) (target other : KeySelector) :
    other ∈ (session.disable target).filter.disabled ↔
      other = target ∨ other ∈ session.filter.disabled := by
  rw [disable]
  by_cases hknown : session.filter.disabled.contains target = true
  · rw [if_pos hknown]
    refine ⟨.inr, ?_⟩
    rintro (rfl | hother)
    · exact List.contains_iff_mem.mp hknown
    · exact hother
  · rw [if_neg hknown, List.mem_append, List.mem_singleton, or_comm]

theorem disable_allowed (session : Session) (target : KeySelector) :
    (session.disable target).filter.allowed = session.filter.allowed := by
  rw [disable]
  split <;> rfl

end Session

namespace Sessions

def perform (sessions : Sessions) (call : SessionCall) : Sessions :=
  match call.change with
  | .bindModel provider model pool => (sessions.bindModel call.name provider model pool).2
  | .bindKey key => sessions.bindKey call.name key
  | .allow providers => sessions.allow call.name providers
  | .disable target => sessions.disable call.name target
  | .enable target => sessions.enable call.name target
  | .clear => (sessions.clear call.name).2
  | .select query => (sessions.select call.name query).2
  | .rotate key hardBlock => sessions.rotate call.name key hardBlock

def run (sessions : Sessions) (calls : List SessionCall) : Sessions :=
  calls.foldl perform sessions

theorem run_append (sessions : Sessions) (first second : List SessionCall) :
    sessions.run (first ++ second) = (sessions.run first).run second :=
  List.foldl_append

/-- What the calls on a session have to tell, one after another. -/
def toldOf {Told : Type} (tell : SessionChange → Option Told) (name : String)
    (calls : List SessionCall) : List Told :=
  calls.filterMap fun call => if call.name = name then tell call.change else none

theorem toldOf_cons {Told : Type} (tell : SessionChange → Option Told) (name : String)
    (call : SessionCall) (calls : List SessionCall) :
    toldOf tell name (call :: calls) =
      (if call.name = name then (tell call.change).toList else []) ++ toldOf tell name calls := by
  rw [toldOf, List.filterMap_cons]
  by_cases hname : call.name = name
  · rw [if_pos hname, if_pos hname]
    cases tell call.change <;> rfl
  · rw [if_neg hname, if_neg hname]
    rfl

/-! ## A call touches one session -/

theorem get?_update (sessions : Sessions) (name probe : String) (change : Session → Session) :
    (sessions.update name change).get? probe =
      if probe = name then some (change ((sessions.get? probe).getD {}))
      else sessions.get? probe := by
  rw [update, Table.get?_insert]
  by_cases hprobe : probe = name
  · rw [if_pos hprobe, if_pos hprobe, hprobe]
  · rw [if_neg hprobe, if_neg hprobe]

theorem get?_updateExisting (sessions : Sessions) (name probe : String)
    (change : Session → Session) :
    (sessions.updateExisting name change).get? probe =
      if probe = name then (sessions.get? probe).map change else sessions.get? probe := by
  rw [updateExisting]
  by_cases hprobe : probe = name
  · rw [if_pos hprobe, hprobe]
    cases hsession : sessions.get? name with
    | none => exact hsession
    | some session => exact (sessions.get?_insert name name _).trans (if_pos rfl)
  · rw [if_neg hprobe]
    cases sessions.get? name with
    | none => rfl
    | some session => exact (sessions.get?_insert name probe _).trans (if_neg hprobe)

theorem get?_release (sessions : Sessions) (name probe : String) (session : Session) :
    (sessions.release name session).get? probe =
      if probe = name then if session.filter.isEmpty then none else some session.dropBinding
      else sessions.get? probe := by
  rw [release]
  by_cases hempty : session.filter.isEmpty = true
  · rw [if_pos hempty, if_pos hempty, Table.get?_erase]
  · rw [if_neg hempty, if_neg hempty, Table.get?_insert]

theorem select_of_session {sessions : Sessions} {name : String} {query : BindingQuery}
    {session : Session} (hhint : query.hint = none)
    (hsession : sessions.get? name = some session) :
    sessions.select name query =
      if session.applies query.inRoute then
        match session.pick? query with
        | some key => (.selected key, sessions)
        | none => (.cleared, sessions.release name session)
      else (.notApplicable, sessions) := by
  rw [select, hhint, hsession]
  rfl

/-- A selection drops a binding that applies and has no key to answer with. -/
theorem get?_select (sessions : Sessions) (name probe : String) (query : BindingQuery) :
    (sessions.select name query).2.get? probe =
      if probe = name then (SessionChange.select query).apply (sessions.get? probe)
      else sessions.get? probe := by
  have hsame (hkept : probe = name →
      (SessionChange.select query).apply (sessions.get? probe) = sessions.get? probe) :
      sessions.get? probe =
        if probe = name then (SessionChange.select query).apply (sessions.get? probe)
        else sessions.get? probe := by
    split
    · next hprobe => exact (hkept hprobe).symm
    · rfl
  cases hhint : query.hint with
  | some hint =>
      rw [select, hhint]
      refine hsame fun _ => ?_
      cases sessions.get? probe <;> simp [SessionChange.apply, hhint]
  | none =>
      cases hsession : sessions.get? name with
      | none =>
          rw [select, hhint, hsession]
          exact hsame fun hprobe => by simp [SessionChange.apply, hprobe, hsession]
      | some session =>
          rw [select_of_session hhint hsession]
          by_cases happlies : session.applies query.inRoute = true
          · rw [if_pos happlies]
            cases hpick : session.pick? query with
            | some key =>
                exact hsame fun hprobe => by simp [SessionChange.apply, hprobe, hsession, hpick]
            | none =>
                rw [get?_release]
                by_cases hprobe : probe = name
                · rw [if_pos hprobe, if_pos hprobe, hprobe, hsession]
                  simp [SessionChange.apply, hhint, happlies, hpick]
                · rw [if_neg hprobe, if_neg hprobe]
          · rw [if_neg happlies]
            exact hsame fun hprobe => by simp [SessionChange.apply, hprobe, hsession, happlies]

/-- A call does to the session that it names what its change does, and nothing to the others. -/
theorem get?_perform (sessions : Sessions) (call : SessionCall) (name : String) :
    (sessions.perform call).get? name =
      if name = call.name then call.change.apply (sessions.get? name)
      else sessions.get? name := by
  obtain ⟨named, change⟩ := call
  cases change with
  | bindModel provider model pool =>
      cases hpool : pool.isEmpty with
      | true => simp [perform, bindModel, SessionChange.apply, hpool]
      | false => simp [perform, bindModel, SessionChange.apply, hpool, get?_update]
  | bindKey key => exact get?_update sessions named name _
  | allow providers => exact get?_update sessions named name _
  | disable target => exact get?_update sessions named name _
  | enable target => exact get?_updateExisting sessions named name _
  | clear => exact Table.get?_erase sessions named name
  | select query => exact get?_select sessions named name query
  | rotate key hardBlock => exact get?_updateExisting sessions named name _

/-! ## The calls of an engine -/

/-- The sessions come about by calls on others. -/
def Leads (before after : Sessions) : Prop :=
  ∃ calls, after = before.run calls

namespace Leads

theorem refl (sessions : Sessions) : Leads sessions sessions :=
  ⟨[], rfl⟩

theorem trans {before between after : Sessions} (hfirst : Leads before between)
    (hsecond : Leads between after) : Leads before after := by
  obtain ⟨first, rfl⟩ := hfirst
  obtain ⟨second, rfl⟩ := hsecond
  exact ⟨first ++ second, (run_append before first second).symm⟩

theorem of_perform (sessions : Sessions) (call : SessionCall) :
    Leads sessions (sessions.perform call) :=
  ⟨[call], rfl⟩

end Leads

/-- The sessions come about by calls on one session, and by none when no session is named. -/
def LeadsWithin (session : Option String) (before after : Sessions) : Prop :=
  ∃ calls : List SessionCall,
    (∀ call ∈ calls, session = some call.name) ∧ after = before.run calls

namespace LeadsWithin

variable {session : Option String} {before between after : Sessions}

theorem leads (hwithin : LeadsWithin session before after) : Leads before after := by
  obtain ⟨calls, -, hrun⟩ := hwithin
  exact ⟨calls, hrun⟩

theorem trans (hfirst : LeadsWithin session before between)
    (hsecond : LeadsWithin session between after) : LeadsWithin session before after := by
  obtain ⟨first, hfirst_names, rfl⟩ := hfirst
  obtain ⟨second, hsecond_names, rfl⟩ := hsecond
  refine ⟨first ++ second, ?_, (run_append before first second).symm⟩
  rw [List.forall_mem_append]
  exact ⟨hfirst_names, hsecond_names⟩

theorem of_perform (sessions : Sessions) (call : SessionCall) :
    LeadsWithin (some call.name) sessions (sessions.perform call) :=
  ⟨[call], by simp, rfl⟩

/-- All other sessions stay as they are. -/
theorem get?_eq (hwithin : LeadsWithin session before after) {name : String}
    (hname : session ≠ some name) : after.get? name = before.get? name := by
  obtain ⟨calls, hnames, rfl⟩ := hwithin
  induction calls generalizing before with
  | nil => rfl
  | cons call rest ih =>
      rw [List.forall_mem_cons] at hnames
      have hother : name ≠ call.name := fun hsame => hname (hsame ▸ hnames.1)
      have hcall : (before.perform call).get? name = before.get? name := by
        rw [get?_perform, if_neg hother]
      exact (ih hnames.2).trans hcall

/-- Without a session there is no call to make. -/
theorem eq_of_none (hwithin : LeadsWithin none before after) : after = before := by
  obtain ⟨calls, hnames, rfl⟩ := hwithin
  cases calls with
  | nil => rfl
  | cons call rest => cases hnames call List.mem_cons_self

end LeadsWithin

end Sessions

namespace Engine

open Sessions

variable {engine after : Engine} {config : Configuration}

/-- Binding a session is a call, the same one whatever the sessions are. -/
theorem exists_calls_bind (routes : Routes) (name provider model : String)
    (keyAlias : Option String) :
    ∃ calls : List SessionCall, (∀ call ∈ calls, call.name = name) ∧
      ∀ sessions, bind routes sessions name provider model keyAlias = sessions.run calls := by
  cases keyAlias with
  | none =>
      refine ⟨[⟨name, .bindModel provider model (routes.servingKeys provider model)⟩], by simp, ?_⟩
      exact fun sessions => rfl
  | some keyAlias =>
      by_cases hkey : routes.contains ⟨provider, keyAlias, model⟩ = true
      · refine ⟨[⟨name, .bindKey ⟨provider, keyAlias, model⟩⟩], by simp, fun sessions => ?_⟩
        exact if_pos hkey
      · refine ⟨[], by simp, fun sessions => ?_⟩
        exact if_neg hkey

/-- What an instruction does to sessions does not depend on them. -/
theorem exists_calls_carryOut (routes : Routes) (session : Option String)
    (instruction : Instruction) :
    ∃ calls : List SessionCall, (∀ call ∈ calls, session = some call.name) ∧
      ∀ state, (carryOut routes session state instruction).2 = state.2.run calls := by
  have hcall (name : String) (change : SessionChange)
      (hchange : ∀ state, (carryOut routes (some name) state instruction).2 =
        state.2.perform ⟨name, change⟩) :
      ∃ calls : List SessionCall, (∀ call ∈ calls, some name = some call.name) ∧
        ∀ state, (carryOut routes (some name) state instruction).2 = state.2.run calls :=
    ⟨[⟨name, change⟩], by simp, hchange⟩
  cases session with
  | none => exact ⟨[], by simp, fun state => by cases instruction <;> rfl⟩
  | some name =>
      cases instruction with
      | force provider model keyAlias => exact ⟨[], by simp, fun state => rfl⟩
      | sticky provider model keyAlias =>
          obtain ⟨calls, hnames, hbind⟩ := exists_calls_bind routes name provider model keyAlias
          refine ⟨calls, fun call hmem => ?_, fun state => hbind state.2⟩
          rw [hnames call hmem]
      | allow providers => exact hcall name (.allow providers) fun state => rfl
      | disable target => exact hcall name (.disable target) fun state => rfl
      | enable target => exact hcall name (.enable target) fun state => rfl
      | clear => exact hcall name .clear fun state => rfl

/-- The instructions of a request make the same calls whatever the sessions are. -/
theorem exists_calls_foldl_carryOut (routes : Routes) (session : Option String)
    (instructions : List Instruction) :
    ∃ calls : List SessionCall, (∀ call ∈ calls, session = some call.name) ∧
      ∀ state, (instructions.foldl (carryOut routes session) state).2 = state.2.run calls := by
  induction instructions with
  | nil => exact ⟨[], by simp, fun state => rfl⟩
  | cons instruction rest ih =>
      obtain ⟨first, hfirst, hcarried⟩ := exists_calls_carryOut routes session instruction
      obtain ⟨later, hlater, hrest⟩ := ih
      refine ⟨first ++ later, ?_, fun state => ?_⟩
      · rw [List.forall_mem_append]
        exact ⟨hfirst, hlater⟩
      · rw [List.foldl_cons, hrest, hcarried, run_append]

theorem carryOutAll_leadsWithin (engine : Engine) (request : SelectionRequest) :
    LeadsWithin request.session engine.sessions (engine.carryOutAll request).2 := by
  obtain ⟨calls, hnames, hcarried⟩ :=
    exists_calls_foldl_carryOut engine.routes request.session request.instructions
  exact ⟨calls, hnames, hcarried ({}, engine.sessions)⟩

theorem selectFromTiers_sessions {candidate : ProviderKey → Bool} {recover : Bool}
    {now : Millis} (engine : Engine) (tiers : List Tier) :
    (engine.selectFromTiers candidate recover now tiers).2.sessions = engine.sessions := by
  induction tiers generalizing engine with
  | nil => rfl
  | cons tier rest ih =>
      have htier : (engine.selectFromTier tier candidate recover now).2.sessions =
          engine.sessions := by
        rw [selectFromTier]
        cases tier.mode with
        | priority => rfl
        | roundRobin => cases recover <;> rfl
      rw [selectFromTiers_cons]
      cases (engine.selectFromTier tier candidate recover now).1 with
      | some picked => exact htier
      | none => exact (ih _).trans htier

theorem selectByRank_sessions (engine : Engine) (eligible : ProviderKey → Bool) (recover : Bool)
    (now : Millis) (tiers : List Tier) :
    (engine.selectByRank eligible recover now tiers).2.sessions = engine.sessions := by
  by_cases havoids : engine.series.avoidsAny now = true
  · rw [selectByRank_avoiding havoids]
    cases (engine.selectFromTiers (engine.preferred eligible now) recover now tiers).1 with
    | some picked => exact selectFromTiers_sessions engine tiers
    | none => exact (selectFromTiers_sessions _ tiers).trans (selectFromTiers_sessions engine tiers)
  · rw [selectByRank, if_neg havoids]
    exact selectFromTiers_sessions engine tiers

theorem selectOnRoute_sessions {route : String} {tiers : List Tier}
    {request : SelectionRequest} {directives : Directives} {now : Millis} {selection : Selection}
    (hselect : engine.selectOnRoute route tiers request directives now = (selection, after)) :
    after.sessions = engine.sessions := by
  have hranked := engine.selectByRank_sessions (engine.eligible request directives now)
    request.seeksHealthiest now tiers
  rw [selectOnRoute_eq] at hselect
  rcases hrank : engine.selectByRank (engine.eligible request directives now)
      request.seeksHealthiest now tiers with ⟨_ | ⟨key, stage⟩, ranked⟩ <;>
    rw [hrank] at hselect hranked <;> cases hselect <;> exact hranked

/-- A selection carries out the instructions and may then ask the binding of its session. -/
theorem select_sessions {route : String} {request : SelectionRequest} {now : Millis}
    {selection : Selection} (hselect : engine.select route request now = .ok (selection, after)) :
    after.sessions = (engine.carryOutAll request).2 ∨
      ∃ name query, request.session = some name ∧
        after.sessions = ((engine.carryOutAll request).2.select name query).2 := by
  cases htiers : engine.routes.tiers? route with
  | none =>
      rw [select_of_no_tiers htiers] at hselect
      cases hselect
  | some tiers =>
      rw [select_of_tiers htiers, Except.ok.injEq] at hselect
      cases hforced : engine.forcedKey? request request.directives now with
      | some key =>
          rw [hforced] at hselect
          cases hselect
          exact .inl rfl
      | none =>
          have hasked : ((engine.instructed request).selectBound route request request.directives
                now).2.sessions = (engine.carryOutAll request).2 ∨
              ∃ name query, request.session = some name ∧
                ((engine.instructed request).selectBound route request request.directives
                  now).2.sessions = ((engine.carryOutAll request).2.select name query).2 := by
            rw [selectBound]
            cases request.session with
            | none => exact .inl rfl
            | some name => exact .inr ⟨name, _, rfl, rfl⟩
          rw [hforced] at hselect
          rcases hbound : (engine.instructed request).selectBound route request
              request.directives now with ⟨_ | key | _, bound⟩ <;>
            simp only [hbound] at hselect hasked
          · rw [selectOnRoute_sessions hselect]
            exact hasked
          · cases hselect
            exact hasked
          · rw [selectOnRoute_sessions hselect]
            exact hasked

/-- A selection changes no session but that of its request. -/
theorem select_leadsWithin {route : String} {request : SelectionRequest} {now : Millis}
    {selection : Selection} (hselect : engine.select route request now = .ok (selection, after)) :
    LeadsWithin request.session engine.sessions after.sessions := by
  have hinstructed := engine.carryOutAll_leadsWithin request
  rcases select_sessions hselect with hsessions | ⟨name, query, hname, hsessions⟩
  · rw [hsessions]
    exact hinstructed
  · rw [hsessions]
    rw [hname] at hinstructed ⊢
    exact hinstructed.trans (.of_perform _ ⟨name, .select query⟩)

theorem forgive_sessions (key : ProviderKey) (now : Millis) :
    (engine.forgive key now).2.sessions = engine.sessions := by
  rw [forgive]
  rcases engine.quota.clear key now with ⟨_ | _, quota⟩ <;> rfl

/-- Of all other calls only an error that is recorded for a session changes sessions. -/
theorem perform_sessions (engine : Engine) (now : Millis) {call : EngineCall}
    (hselect : ∀ route request, call ≠ .select route request) :
    (engine.perform now call).sessions = engine.sessions ∨
      ∃ name key hardBlock,
        (engine.perform now call).sessions = engine.sessions.rotate name key hardBlock := by
  cases call with
  | publish config =>
      rw [perform]
      cases hpublish : engine.publish config with
      | error cause => exact .inl rfl
      | ok after =>
          obtain ⟨routes, series, -, -, rfl⟩ := publish_ok hpublish
          exact .inl rfl
  | select route request => exact absurd rfl (hselect route request)
  | reportError event session =>
      cases session with
      | none => exact .inl rfl
      | some name => exact .inr ⟨name, event.key, _, rfl⟩
  | reportSuccess event => exact .inl rfl
  | reportUsage key tokens => exact .inl rfl
  | reportQuota report => exact .inl rfl
  | forgive key => exact .inl (forgive_sessions key now)
  | snapshot => exact .inl rfl
  | restore snapshot =>
      rw [perform]
      cases hrestore : engine.restore snapshot with
      | error cause => exact .inl rfl
      | ok after =>
          obtain ⟨entries, -, -, rfl⟩ := restore_ok hrestore
          exact .inl rfl

theorem perform_leads (engine : Engine) (now : Millis) (call : EngineCall) :
    Leads engine.sessions (engine.perform now call).sessions := by
  by_cases hselect : ∃ route request, call = .select route request
  · obtain ⟨route, request, rfl⟩ := hselect
    rw [perform]
    cases hresult : engine.select route request now with
    | error cause => exact .refl engine.sessions
    | ok result => exact (select_leadsWithin hresult).leads
  · have hother (route : String) (request : SelectionRequest) : call ≠ .select route request :=
      fun hcall => hselect ⟨route, request, hcall⟩
    rcases engine.perform_sessions now hother with hsame | ⟨name, key, hardBlock, hrotated⟩
    · rw [hsame]
      exact .refl engine.sessions
    · rw [hrotated]
      exact .of_perform engine.sessions ⟨name, .rotate key hardBlock⟩

/-- The sessions of every reachable engine come about by calls, from no sessions at all. -/
theorem Reachable.sessions_leads (hreachable : Reachable config engine) :
    Leads ∅ engine.sessions := by
  induction hreachable with
  | built hbuilt =>
      obtain ⟨series, -, hpublish⟩ := bind_eq_ok_iff.mp hbuilt
      obtain ⟨routes, series, -, -, rfl⟩ := publish_ok hpublish
      exact .refl ∅
  | counting _ ih => exact ih
  | groupedBy _ group ih => exact ih
  | called _ now call ih => exact ih.trans (perform_leads _ now call)

end Engine

end ProviderRouting
