import ProviderRouting.Proofs.Engine.Deciding
import ProviderRouting.Proofs.Engine.Steering
import ProviderRouting.Proofs.Session.Calls

/-!
# Requests with and without a session

Without a session the directives of a request restrict what the request may get.  With a session
they become the session's filter, which is asked later and reads an empty allowlist as none at all.
For a session without a record of its own the two come to the same, unless a target is forced that
the request itself rules out, or the last allowlist is empty.
-/

namespace ProviderRouting

/-- The instruction has a meaning without a session, too, and binds none. -/
def Instruction.IsDirective : Instruction → Prop
  | .force _ _ _ | .allow _ | .disable _ => True
  | _ => False

def SelectionRequest.alone (request : SelectionRequest) : SelectionRequest :=
  { request with session := none }

/-! ## The filter of a session -/

namespace KeyFilter

variable {filter : KeyFilter} {key : ProviderKey}

theorem admits_of_isEmpty (hempty : filter.isEmpty = true) : filter.admits key = true := by
  rw [isEmpty, Bool.and_eq_true, List.isEmpty_iff] at hempty
  simp [admits, hempty.1, hempty.2]

/-- The filter says what these instructions say, except that an empty allowlist is none. -/
structure Holds (filter : KeyFilter) (instructions : List Instruction) : Prop where
  allowed : filter.allowed =
    .ofList (((instructions.filterMap Instruction.allowed?).getLast?.getD []).map (·, ()))
  disabled : ∀ target, target ∈ filter.disabled ↔ .disable target ∈ instructions

theorem Holds.admits_iff {instructions : List Instruction} (hholds : filter.Holds instructions) :
    filter.admits key = true ↔
      (∀ providers, (instructions.filterMap Instruction.allowed?).getLast? = some providers →
        providers = [] ∨ key.provider ∈ providers) ∧
      ∀ target, .disable target ∈ instructions → target.covers key = false := by
  have hdisabled : filter.disabled.any (·.covers key) = false ↔
      ∀ target, .disable target ∈ instructions → target.covers key = false := by
    simp only [List.any_eq_false, Bool.not_eq_true, hholds.disabled]
  have hallowed : (filter.allowed.isEmpty || filter.allowed.contains key.provider) = true ↔
      ∀ providers, (instructions.filterMap Instruction.allowed?).getLast? = some providers →
        providers = [] ∨ key.provider ∈ providers := by
    rw [hholds.allowed, Bool.or_eq_true, Table.isEmpty_ofList_keys, List.isEmpty_iff,
      Table.contains_ofList_keys_iff]
    cases (instructions.filterMap Instruction.allowed?).getLast? <;> simp
  rw [admits, Bool.and_eq_true, Bool.not_eq_true', hallowed, hdisabled]

end KeyFilter

namespace Session

/-- The session is bound to nothing, and its filter holds these instructions. -/
structure Restricts (session : Session) (instructions : List Instruction) : Prop where
  unbound : session = { filter := session.filter }
  holds : session.filter.Holds instructions

variable {session : Session} {earlier : List Instruction}

theorem restricts_default : Restricts {} [] where
  unbound := rfl
  holds := ⟨rfl, by simp⟩

namespace Restricts

theorem force (hrestricts : session.Restricts earlier) (provider model : String)
    (keyAlias : Option String) :
    session.Restricts (earlier ++ [.force provider model keyAlias]) where
  unbound := hrestricts.unbound
  holds := {
    allowed := by simpa [Instruction.allowed?] using hrestricts.holds.allowed
    disabled := by simpa using hrestricts.holds.disabled }

/-- Only the last allowlist counts. -/
theorem allow (hrestricts : session.Restricts earlier) (providers : List String) :
    (session.allow providers).Restricts (earlier ++ [.allow providers]) where
  unbound := by rw [hrestricts.unbound]; rfl
  holds := {
    allowed := by simp [Session.allow, Instruction.allowed?]
    disabled := by simpa [Session.allow] using hrestricts.holds.disabled }

/-- Disabled targets add up. -/
theorem disable (hrestricts : session.Restricts earlier) (target : KeySelector) :
    (session.disable target).Restricts (earlier ++ [.disable target]) where
  unbound := by
    rw [Session.disable]
    split
    · exact hrestricts.unbound
    · rw [hrestricts.unbound]
  holds := {
    allowed := by
      rw [session.disable_allowed]
      simpa [Instruction.allowed?] using hrestricts.holds.allowed
    disabled := fun other => by
      rw [session.mem_disable_iff, hrestricts.holds.disabled, List.mem_append, List.mem_singleton,
        Instruction.disable.injEq, or_comm] }

end Restricts

end Session

namespace Engine

open Sessions

variable {engine after : Engine} {config : Configuration} {now : Millis} {tiers : List Tier}
  {route name : String} {request : SelectionRequest} {key : ProviderKey}
  {stage : SelectionStage} {selection : Selection}

/-- A directive restricts an unbound session one instruction further. -/
theorem carryOut_restricts {routes : Routes} {state : Directives × Sessions}
    {earlier : List Instruction} {instruction : Instruction}
    (hrestricts : ((state.2.get? name).getD {}).Restricts earlier)
    (hdirective : instruction.IsDirective) :
    (((carryOut routes (some name) state instruction).2.get? name).getD {}).Restricts
      (earlier ++ [instruction]) := by
  obtain ⟨directives, sessions⟩ := state
  cases instruction with
  | force provider model keyAlias => exact hrestricts.force provider model keyAlias
  | allow providers =>
      change (((sessions.update name (·.allow providers)).get? name).getD {}).Restricts _
      rw [get?_update, if_pos rfl]
      exact hrestricts.allow providers
  | disable target =>
      change (((sessions.update name (·.disable target)).get? name).getD {}).Restricts _
      rw [get?_update, if_pos rfl]
      exact hrestricts.disable target
  | sticky => cases hdirective
  | enable => cases hdirective
  | clear => cases hdirective

/-- Once the directives of a request are carried out, its session's filter holds them. -/
theorem instructed_restricts (hsession : request.session = some name)
    (hfresh : (engine.sessions.get? name).getD {} = {})
    (hdirectives : ∀ instruction ∈ request.instructions, instruction.IsDirective) :
    (((engine.instructed request).sessions.get? name).getD {}).Restricts request.instructions := by
  rw [instructed, carryOutAll, hsession]
  dsimp only
  generalize request.instructions = instructions at hdirectives ⊢
  induction instructions using List.reverseRecOn with
  | nil =>
      dsimp only [List.foldl_nil]
      rw [hfresh]
      exact Session.restricts_default
  | append_singleton earlier last ih =>
      rw [List.forall_mem_append, List.forall_mem_singleton] at hdirectives
      rw [List.foldl_append]
      exact carryOut_restricts (ih hdirectives.1) hdirectives.2

/-- The filter of a request's session is what its session's record holds, if it has one. -/
theorem passes_iff_admits (hsession : request.session = some name) :
    engine.Passes request key ↔
      (((engine.instructed request).sessions.get? name).getD {}).filter.admits key = true := by
  have hfilter : engine.sessionFilter? request =
      (((engine.instructed request).sessions.get? name).map Session.filter).filter
        fun filter => !filter.isEmpty := by
    rw [sessionFilter?, hsession]
    rfl
  rw [Passes, hfilter]
  cases (engine.instructed request).sessions.get? name with
  | none =>
      have hdefault : (({} : Session)).filter.admits key = true :=
        KeyFilter.admits_of_isEmpty rfl
      simpa using hdefault
  | some session =>
      cases hempty : session.filter.isEmpty with
      | true => simp [Option.filter, hempty, KeyFilter.admits_of_isEmpty hempty]
      | false => simp [Option.filter, hempty]

/-! ## The two readings of the directives -/

section Reading

variable (hsession : request.session = some name)
  (hfresh : (engine.sessions.get? name).getD {} = {})
  (hdirectives : ∀ instruction ∈ request.instructions, instruction.IsDirective)

theorem alone_permits_iff :
    request.alone.Permits key ↔
      (∀ providers, request.allowlist? = some providers → key.provider ∈ providers) ∧
        ∀ target, .disable target ∈ request.instructions → target.covers key = false :=
  ⟨fun hpermits => hpermits rfl, fun hpermits _ => hpermits⟩

include hsession hfresh hdirectives

/-- An empty allowlist is the only difference between the filter and the directives. -/
theorem passes_iff :
    engine.Passes request key ↔
      (∀ providers, request.allowlist? = some providers →
        providers = [] ∨ key.provider ∈ providers) ∧
      ∀ target, .disable target ∈ request.instructions → target.covers key = false := by
  rw [passes_iff_admits hsession]
  exact (instructed_restricts hsession hfresh hdirectives).holds.admits_iff

theorem passes_of_permits (hpermits : request.alone.Permits key) : engine.Passes request key := by
  rw [passes_iff hsession hfresh hdirectives]
  rw [alone_permits_iff] at hpermits
  exact ⟨fun providers hallowed => .inr (hpermits.1 providers hallowed), hpermits.2⟩

theorem permits_of_passes (hallowlist : request.allowlist? ≠ some [])
    (hpasses : engine.Passes request key) : request.alone.Permits key := by
  rw [passes_iff hsession hfresh hdirectives] at hpasses
  rw [alone_permits_iff]
  refine ⟨fun providers hallowed => ?_, hpasses.2⟩
  refine (hpasses.1 providers hallowed).resolve_left ?_
  rintro rfl
  exact hallowlist hallowed

omit hfresh hdirectives in
/-- Alone, a request may use the keys that its directives permit. -/
theorem selectable_alone_iff :
    engine.Selectable request.alone now key ↔
      engine.Selectable request now key ∧ request.alone.Permits key := by
  have hfree : request.Permits key := fun hnone => by rw [hsession] at hnone; cases hnone
  constructor
  · rintro ⟨hexcluded, hpermits, hcooling, hpool⟩
    exact ⟨⟨hexcluded, hfree, hcooling, hpool⟩, hpermits⟩
  · rintro ⟨⟨hexcluded, -, hcooling, hpool⟩, hpermits⟩
    exact ⟨hexcluded, hpermits, hcooling, hpool⟩

omit hfresh hdirectives in
theorem isAvailable_alone :
    engine.isAvailable request.alone request.alone.directives now = fun key =>
      request.alone.directives.admits key &&
        engine.isAvailable request request.directives now key := by
  funext key
  rw [Bool.eq_iff_iff, Bool.and_eq_true, isAvailable_iff_selectable, isAvailable_iff_selectable,
    SelectionRequest.directives_admits_iff, selectable_alone_iff hsession, and_comm]

omit hfresh hsession in
/-- Directives force the same target with and without a session. -/
theorem alone_forceTarget? : request.alone.forceTarget? = request.forceTarget? := by
  have hforced : request.instructions.filterMap (Instruction.forced? none) =
      request.instructions.filterMap (Instruction.forced? request.session) := by
    apply List.filterMap_congr
    intro instruction hinstruction
    have hdirective := hdirectives instruction hinstruction
    cases instruction with
    | sticky => cases hdirective
    | _ => rfl
  exact congrArg List.getLast? hforced

omit hfresh in
/-- A forced key that the request permits itself is forced without the session, too. -/
theorem forcedKey?_alone_some
    (hforced : engine.forcedKey? request request.directives now = some key)
    (hpermits : request.alone.Permits key) :
    engine.forcedKey? request.alone request.alone.directives now = some key := by
  have hforce : request.alone.directives.force = request.directives.force :=
    alone_forceTarget? hdirectives
  have hadmits : request.alone.directives.admits key = true :=
    (request.alone.directives_admits_iff key).mpr hpermits
  obtain ⟨target, htarget, hheaviest⟩ := Option.bind_eq_some_iff.mp hforced
  refine Option.bind_eq_some_iff.mpr ⟨target, hforce.trans htarget, ?_⟩
  rw [isAvailable_alone hsession, ← List.filter_filter]
  exact firstGreatest?_filter hheaviest hadmits

omit hfresh in
theorem forcedKey?_alone_none
    (hforced : engine.forcedKey? request request.directives now = none) :
    engine.forcedKey? request.alone request.alone.directives now = none := by
  cases halone : engine.forcedKey? request.alone request.alone.directives now with
  | none => rfl
  | some key =>
      obtain ⟨target, htarget, hconfigured, hcovers, hselectable⟩ := forcedKey?_some halone
      rw [alone_forceTarget? hdirectives] at htarget
      exact absurd ((selectable_alone_iff hsession).mp hselectable).1
        (not_selectable_of_forcedKey?_none hforced htarget hconfigured hcovers)

omit hfresh hdirectives in
theorem admissible_alone_iff :
    engine.admissible request.alone now key = true ↔
      engine.Selectable request now key ∧ request.alone.Permits key := by
  have hpasses : engine.Passes request.alone key := fun filter hfilter => by cases hfilter
  rw [admissible_iff, selectable_alone_iff hsession, and_iff_left hpasses]

/-- Unless the last allowlist is empty, tiers are searched for the same keys. -/
theorem ranked_alone (hallowlist : request.allowlist? ≠ some []) :
    engine.ranked request.alone now tiers = engine.ranked request now tiers := by
  have hadmissible : engine.admissible request.alone now = engine.admissible request now := by
    funext key
    rw [Bool.eq_iff_iff, admissible_alone_iff hsession, admissible_iff, and_congr_right_iff]
    intro _
    exact ⟨passes_of_permits hsession hfresh hdirectives,
      permits_of_passes hsession hfresh hdirectives hallowlist⟩
  rw [ranked, ranked, hadmissible]
  rfl

theorem ranked_alone_of_none (hnone : (engine.ranked request now tiers).1 = none) :
    engine.ranked request.alone now tiers = engine.ranked request now tiers := by
  rw [ranked_of_none hnone]
  apply ranked_of_none
  rw [ranked, selectByRank_eq_none_iff] at hnone ⊢
  intro tier htier key hkey
  rw [← Bool.not_eq_true, admissible_alone_iff hsession]
  rintro ⟨hselectable, hpermits⟩
  have hadmissible : engine.admissible request now key = true :=
    admissible_iff.mpr ⟨hselectable, passes_of_permits hsession hfresh hdirectives hpermits⟩
  exact Bool.false_ne_true ((hnone tier htier key hkey).symm.trans hadmissible)

/-- With a key that its directives permit, the request gets the same key alone. -/
theorem unbound_alone (hpermits : ∀ key, (engine.unbound request now tiers).1.key? = some key →
      request.alone.Permits key) :
    engine.unbound request.alone now tiers = engine.unbound request now tiers := by
  rw [unbound] at hpermits ⊢
  rw [unbound]
  cases hforced : engine.forcedKey? request request.directives now with
  | some key =>
      rw [hforced] at hpermits
      rw [forcedKey?_alone_some hsession hdirectives hforced (hpermits key rfl)]
  | none =>
      rw [hforced] at hpermits
      rw [forcedKey?_alone_none hsession hdirectives hforced]
      have hranked : engine.ranked request.alone now tiers = engine.ranked request now tiers := by
        cases hpick : (engine.ranked request now tiers).1 with
        | none => exact ranked_alone_of_none hsession hfresh hdirectives hpick
        | some picked =>
            rw [hpick] at hpermits
            have hpermitted := alone_permits_iff.mp (hpermits picked.1 rfl)
            apply ranked_alone hsession hfresh hdirectives
            intro hempty
            exact List.not_mem_nil (hpermitted.1 [] hempty)
      rw [hranked]

end Reading

/-! ## Attaching a session -/

theorem selectBound_of_unbound (hsession : request.session = some name)
    (hunbound : ((engine.sessions.get? name).getD {}).mode = .unbound) (directives : Directives) :
    engine.selectBound route request directives now = (.notApplicable, engine) := by
  have hselect (query : BindingQuery) :
      engine.sessions.select name query = (.notApplicable, engine.sessions) := by
    rw [Sessions.select]
    cases query.hint with
    | some hint => rfl
    | none =>
        cases hfound : engine.sessions.get? name with
        | none => rfl
        | some session =>
            rw [hfound, Option.getD_some] at hunbound
            have happlies : session.applies query.inRoute = false := by
              rw [Session.applies, hunbound]
              rfl
            exact if_neg (Bool.not_eq_true _ ▸ happlies)
  rw [selectBound, hsession]
  dsimp only
  rw [hselect]

/-- A selection abides by the directives of its request. -/
theorem select_permits (hselect : engine.select route request now = .ok (selection, after))
    (hkey : selection.key? = some key) : request.Permits key := by
  cases selection with
  | exhausted => cases hkey
  | selected picked stage =>
      cases hkey
      exact (select_outcome hselect).1.selectable.permitted

/-- The filter of a session rules out what the directives do, but for forced keys and an empty
allowlist. -/
theorem select_permits_alone (hsession : request.session = some name)
    (hfresh : (engine.sessions.get? name).getD {} = {})
    (hdirectives : ∀ instruction ∈ request.instructions, instruction.IsDirective)
    (hselect : engine.select route request now = .ok (selection, after))
    (hunforced : selection.stage? ≠ some .forced) (hallowlist : request.allowlist? ≠ some [])
    (hkey : selection.key? = some key) : request.alone.Permits key := by
  have hpasses : engine.Passes request key := by
    cases (select_outcome hselect).1 with
    | forced => exact absurd rfl hunforced
    | sticky _ _ _ _ hpasses _ =>
        cases hkey
        exact hpasses
    | ranked _ _ _ hpasses _ =>
        cases hkey
        exact hpasses
    | exhausted => cases hkey
  exact permits_of_passes hsession hfresh hdirectives hallowlist hpasses

/-- What a request gets with its session and without it. -/
structure Attached (engine : Engine) (request : SelectionRequest) (name : String)
    (attached alone : Selection × Engine) : Prop where
  /-- The answers are the same unless the session's is one that the directives rule out. -/
  answer_eq_iff : attached.1 = alone.1 ↔
    ∀ key, attached.1.key? = some key → request.alone.Permits key
  /-- There are two ways to such an answer. -/
  differs : attached.1 ≠ alone.1 →
    attached.1.stage? = some .forced ∨ request.allowlist? = some []
  /-- With the same answer, the engines differ in their sessions only. -/
  effect : attached.1 = alone.1 →
    attached.2 = alone.2.beside attached.2.sessions alone.2.metrics
  alone_sessions : alone.2.sessions = engine.sessions
  other_sessions : ∀ other, other ≠ name →
    attached.2.sessions.get? other = engine.sessions.get? other
  /-- What is left in the session is a filter. -/
  filter : ∃ filter, (attached.2.sessions.get? name).getD {} = { filter }

/-- For a session without a record, a request gets the same answer with the session and without it,
exactly if its own directives permit the key that it gets with the session. -/
theorem attached_agrees_iff (htiers : engine.routes.tiers? route = some tiers)
    (hsession : request.session = some name)
    (hfresh : (engine.sessions.get? name).getD {} = {})
    (hdirectives : ∀ instruction ∈ request.instructions, instruction.IsDirective)
    (now : Millis) :
    ∃ attached alone, engine.select route request now = .ok attached ∧
      engine.select route request.alone now = .ok alone ∧
        Attached engine request name attached alone := by
  have hrestricts := instructed_restricts hsession hfresh hdirectives
  have hunbound : (((engine.instructed request).sessions.get? name).getD {}).mode = .unbound := by
    rw [hrestricts.unbound]
  have hattached : engine.select route request now = _ :=
    select_unbound htiers (selectBound_of_unbound hsession hunbound request.directives)
  have halone : engine.select route request.alone now = _ :=
    select_unbound htiers (selectBound_of_no_session request.alone.directives rfl)
  have hagrees : (engine.unbound request now tiers).1 = (engine.unbound request.alone now tiers).1 ↔
      ∀ key, (engine.unbound request now tiers).1.key? = some key →
        request.alone.Permits key := by
    constructor
    · exact fun hsame key hkey => select_permits halone (hsame ▸ hkey)
    · intro hpermits
      rw [unbound_alone hsession hfresh hdirectives hpermits]
  refine ⟨_, _, hattached, halone, hagrees, fun hdiffers => ?_, fun hsame => ?_, ?_,
    fun other hother => ?_, _, hrestricts.unbound⟩
  · by_contra hneither
    rw [not_or] at hneither
    refine hdiffers (hagrees.mpr fun key => ?_)
    exact select_permits_alone hsession hfresh hdirectives hattached hneither.1 hneither.2
  · rw [unbound_alone hsession hfresh hdirectives (hagrees.mp hsame)]
    rfl
  · exact (engine.carryOutAll_leadsWithin request.alone).eq_of_none
  · have hwithin := engine.carryOutAll_leadsWithin request
    rw [hsession] at hwithin
    exact hwithin.get?_eq fun hsame => hother (Option.some.inj hsame).symm

def filtering : SelectionRequest where
  session := some "s"
  instructions := [.allow ["north"], .disable (.ofKey ⟨"north", "a", "large"⟩)]

/-- A new session gets what the request gets alone. -/
theorem attached_agrees_iff_of_filtering :
    ∃ engine attached alone, Reachable twoAliases engine ∧
      engine.select "chat" filtering 0 = .ok attached ∧
      engine.select "chat" filtering.alone 0 = .ok alone ∧
      attached.1 = .selected ⟨"north", "b", "large"⟩ .priority ∧ attached.1 = alone.1 ∧
        Attached engine filtering "s" attached alone := by
  obtain ⟨engine, hbuilt⟩ := exists_ofConfiguration_twoAliases
  have hsetting : (engine.routes.tiers? "chat").isSome = true ∧
      (engine.sessions.get? "s").getD {} = {} ∧
      (engine.select "chat" filtering 0).toOption.map Prod.fst =
        some (.selected ⟨"north", "b", "large"⟩ .priority) := by
    simp only [ofConfiguration, publish, Routes.ofConfiguration, twoAliases_valid] at hbuilt
    cases hbuilt
    exact ⟨by decide +kernel, rfl, by decide +kernel⟩
  obtain ⟨hpublished, hfresh, hanswer⟩ := hsetting
  obtain ⟨tiers, htiers⟩ := Option.isSome_iff_exists.mp hpublished
  have hdirectives : ∀ instruction ∈ filtering.instructions, instruction.IsDirective := by
    simp [filtering, Instruction.IsDirective]
  obtain ⟨attached, alone, hattached, halone, hagrees⟩ :=
    attached_agrees_iff htiers rfl hfresh hdirectives 0
  have hpicked : attached.1 = .selected ⟨"north", "b", "large"⟩ .priority := by
    simpa [hattached, Except.toOption] using hanswer
  refine ⟨engine, attached, alone, .built hbuilt, hattached, halone, hpicked, ?_, hagrees⟩
  rw [hagrees.answer_eq_iff, hpicked]
  rintro key hkey
  cases hkey
  exact (filtering.alone.directives_admits_iff _).mp (by decide +kernel)

def ruledOut : SelectionRequest where
  session := some "s"
  instructions := [.force "north" "large" (some "a"), .disable (.ofKey ⟨"north", "a", "large"⟩)]

/-- With a session, a request may get a key that its own directives rule out. -/
theorem not_forall_attached_agrees :
    ¬ ∀ config engine route request name now, Reachable config engine →
      (engine.routes.tiers? route).isSome = true → request.session = some name →
      (engine.sessions.get? name).getD {} = {} →
      (∀ instruction ∈ request.instructions, instruction.IsDirective) →
      engine.answer now (.select route request) =
        engine.answer now (.select route request.alone) := by
  intro hall
  obtain ⟨engine, hbuilt⟩ := exists_ofConfiguration_twoAliases
  have hsetting : (engine.routes.tiers? "chat").isSome = true ∧
      (engine.sessions.get? "s").getD {} = {} ∧
      (engine.select "chat" ruledOut 0).toOption.map Prod.fst =
        some (.selected ⟨"north", "a", "large"⟩ .forced) ∧
      (engine.select "chat" ruledOut.alone 0).toOption.map Prod.fst =
        some (.selected ⟨"north", "b", "large"⟩ .priority) := by
    simp only [ofConfiguration, publish, Routes.ofConfiguration, twoAliases_valid] at hbuilt
    cases hbuilt
    exact ⟨by decide +kernel, rfl, by decide +kernel, by decide +kernel⟩
  obtain ⟨hpublished, hfresh, hattached, halone⟩ := hsetting
  have hdirectives : ∀ instruction ∈ ruledOut.instructions, instruction.IsDirective := by
    simp [ruledOut, Instruction.IsDirective]
  have hsame := hall twoAliases engine "chat" ruledOut "s" 0 (.built hbuilt) hpublished rfl hfresh
    hdirectives
  rw [answer_select_of_toOption hattached, answer_select_of_toOption halone] at hsame
  simp at hsame

end Engine

end ProviderRouting
