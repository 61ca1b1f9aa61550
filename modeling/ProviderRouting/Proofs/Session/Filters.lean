import ProviderRouting.Proofs.Session.Calls
import Mathlib.Data.List.DropRight

/-!
# Filters are what was written last

The filter of a session outlives its bindings, and even the record of the session: a selection
drops the record only when there is nothing to filter.  So the filter can be told from the
instructions alone.  Since the last one that clears the session, the last allowlist counts, and for
each target the last instruction that disables or enables exactly this target.
-/

namespace ProviderRouting

/-! ## What instructions say of a filter -/

namespace Instruction

variable {earlier : List Instruction} {instruction : Instruction} {target : KeySelector}

def sinceClear (instructions : List Instruction) : List Instruction :=
  instructions.rtakeWhile (· != .clear)

/-- The last allowlist since then; no provider if there is none. -/
def lastAllowed (instructions : List Instruction) : List String :=
  ((sinceClear instructions).filterMap allowed?).getLast?.getD []

def switches (target : KeySelector) (instruction : Instruction) : Bool :=
  instruction == .disable target || instruction == .enable target

/-- The last instruction since then that disables or enables exactly this target disables it. -/
def LeavesDisabled (instructions : List Instruction) (target : KeySelector) : Prop :=
  ((sinceClear instructions).filter (switches target)).getLast? = some (.disable target)

theorem sinceClear_append_clear (earlier : List Instruction) :
    sinceClear (earlier ++ [.clear]) = [] := by
  rw [sinceClear, List.rtakeWhile_concat]
  rfl

theorem sinceClear_append (hclear : instruction ≠ .clear) :
    sinceClear (earlier ++ [instruction]) = sinceClear earlier ++ [instruction] := by
  rw [sinceClear, List.rtakeWhile_concat, if_pos (bne_iff_ne.mpr hclear), ← sinceClear]

theorem lastAllowed_append (hclear : instruction ≠ .clear) :
    lastAllowed (earlier ++ [instruction]) = instruction.allowed?.getD (lastAllowed earlier) := by
  rw [lastAllowed, sinceClear_append hclear, List.filterMap_append]
  cases hallowed : instruction.allowed? <;> simp [hallowed, lastAllowed]

theorem leavesDisabled_append_iff (hclear : instruction ≠ .clear) :
    LeavesDisabled (earlier ++ [instruction]) target ↔
      instruction = .disable target ∨
        instruction ≠ .enable target ∧ LeavesDisabled earlier target := by
  rw [LeavesDisabled, sinceClear_append hclear, List.filter_append, List.filter_singleton]
  by_cases hdisable : instruction = .disable target
  · simp [hdisable, switches]
  · by_cases henable : instruction = .enable target
    · simp [henable, switches]
    · have hother : switches target instruction = false := by simp [switches, hdisable, henable]
      simp [hdisable, henable, hother, LeavesDisabled]

end Instruction

namespace KeyFilter

variable {filter : KeyFilter} {earlier : List Instruction}

/-- The filter is what these instructions wrote last. -/
structure LastWritten (filter : KeyFilter) (instructions : List Instruction) : Prop where
  allowed : filter.allowed = .ofList ((Instruction.lastAllowed instructions).map (·, ()))
  disabled : ∀ target, target ∈ filter.disabled ↔ Instruction.LeavesDisabled instructions target
  nodup : filter.disabled.Nodup

theorem lastWritten_nil : LastWritten {} [] where
  allowed := rfl
  disabled target := by simp [Instruction.LeavesDisabled, Instruction.sinceClear]
  nodup := List.nodup_nil

theorem lastWritten_clear (earlier : List Instruction) : LastWritten {} (earlier ++ [.clear]) where
  allowed := by
    rw [Instruction.lastAllowed, Instruction.sinceClear_append_clear]
    rfl
  disabled target := by simp [Instruction.LeavesDisabled, Instruction.sinceClear_append_clear]
  nodup := List.nodup_nil

theorem eq_of_isEmpty (hempty : filter.isEmpty = true) : filter = {} := by
  obtain ⟨⟨rows, sorted⟩, disabled⟩ := filter
  rw [isEmpty, Bool.and_eq_true, Table.isEmpty, List.isEmpty_iff, List.isEmpty_iff] at hempty
  obtain ⟨rfl, rfl⟩ := hempty
  rfl

namespace LastWritten

/-- Instructions that force or bind a key have no part in the filter. -/
theorem of_silent (hwritten : filter.LastWritten earlier) (instruction : Instruction)
    (hclear : instruction ≠ .clear) (hallowed : instruction.allowed? = none)
    (hswitches : ∀ target, instruction.switches target = false) :
    filter.LastWritten (earlier ++ [instruction]) where
  allowed := by rw [Instruction.lastAllowed_append hclear, hallowed, hwritten.allowed]; rfl
  disabled target := by
    have hother := hswitches target
    rw [Instruction.switches, Bool.or_eq_false_iff, beq_eq_false_iff_ne, beq_eq_false_iff_ne]
      at hother
    rw [Instruction.leavesDisabled_append_iff hclear, hwritten.disabled]
    simp [hother]
  nodup := hwritten.nodup

end LastWritten

end KeyFilter

namespace Session

open Instruction

variable {session : Session} {earlier : List Instruction}

theorem allow_lastWritten (hwritten : session.filter.LastWritten earlier)
    (providers : List String) :
    (session.allow providers).filter.LastWritten (earlier ++ [.allow providers]) where
  allowed := by
    rw [lastAllowed_append Instruction.noConfusion]
    rfl
  disabled target := by
    rw [leavesDisabled_append_iff Instruction.noConfusion, ← hwritten.disabled]
    simp [allow]
  nodup := hwritten.nodup

/-- A target that is disabled again is not listed again. -/
theorem disable_nodup (hnodup : session.filter.disabled.Nodup) (target : KeySelector) :
    (session.disable target).filter.disabled.Nodup := by
  rw [disable]
  by_cases hknown : session.filter.disabled.contains target = true
  · rw [if_pos hknown]
    exact hnodup
  · have hconcat := hnodup.concat (mt List.contains_iff_mem.mpr hknown)
    rw [List.concat_eq_append] at hconcat
    rw [if_neg hknown]
    exact hconcat

theorem disable_lastWritten (hwritten : session.filter.LastWritten earlier)
    (target : KeySelector) :
    (session.disable target).filter.LastWritten (earlier ++ [.disable target]) where
  allowed := by
    rw [lastAllowed_append Instruction.noConfusion, session.disable_allowed, hwritten.allowed]
    rfl
  disabled other := by
    rw [leavesDisabled_append_iff Instruction.noConfusion, mem_disable_iff, hwritten.disabled]
    simp [eq_comm]
  nodup := disable_nodup hwritten.nodup target

theorem enable_lastWritten (hwritten : session.filter.LastWritten earlier)
    (target : KeySelector) :
    (session.enable target).filter.LastWritten (earlier ++ [.enable target]) where
  allowed := by
    rw [lastAllowed_append Instruction.noConfusion, enable, hwritten.allowed]
    rfl
  disabled other := by
    rw [leavesDisabled_append_iff Instruction.noConfusion, ← hwritten.disabled, enable,
      List.mem_filter, bne_iff_ne, or_iff_right Instruction.noConfusion, ne_eq, ne_eq,
      Instruction.enable.injEq, and_comm, eq_comm]
  nodup := hwritten.nodup.filter _

theorem rotate_filter (session : Session) (key : ProviderKey) (hardBlock : Bool) :
    (session.rotate key hardBlock).filter = session.filter := by
  rw [rotate]
  split <;> rfl

end Session

/-! ## What calls do to a filter -/

namespace SessionChange

def instruction? : SessionChange → Option Instruction
  | .allow providers => some (.allow providers)
  | .disable target => some (.disable target)
  | .enable target => some (.enable target)
  | .clear => some .clear
  | _ => none

variable {change : SessionChange}

/-- Bindings, selections and failures leave the filter alone, also when the session goes. -/
theorem apply_filter (hsilent : change.instruction? = none) (before : Option Session) :
    ((change.apply before).getD {}).filter = (before.getD {}).filter := by
  cases change with
  | bindModel provider model pool =>
      rw [apply]
      split <;> rfl
  | bindKey key => rfl
  | allow providers => cases hsilent
  | disable target => cases hsilent
  | enable target => cases hsilent
  | clear => cases hsilent
  | select query =>
      cases before with
      | none => rfl
      | some session =>
          rw [apply]
          split
          · by_cases hempty : session.filter.isEmpty = true
            · rw [if_pos hempty]
              exact (KeyFilter.eq_of_isEmpty hempty).symm
            · rw [if_neg hempty]
              rfl
          · rfl
  | rotate key hardBlock =>
      cases before with
      | none => rfl
      | some session => exact session.rotate_filter key hardBlock

theorem apply_lastWritten {before : Option Session} {earlier : List Instruction}
    (hwritten : (before.getD {}).filter.LastWritten earlier) :
    ((change.apply before).getD {}).filter.LastWritten (earlier ++ change.instruction?.toList) := by
  by_cases hsilent : change.instruction? = none
  · rw [apply_filter hsilent, hsilent, Option.toList_none, List.append_nil]
    exact hwritten
  · cases change with
    | allow providers => exact Session.allow_lastWritten hwritten providers
    | disable target => exact Session.disable_lastWritten hwritten target
    | enable target =>
        have henabled := Session.enable_lastWritten hwritten target
        cases before with
        | none => exact henabled
        | some session => exact henabled
    | clear => exact KeyFilter.lastWritten_clear earlier
    | _ => exact absurd rfl hsilent

end SessionChange

namespace Sessions

variable {sessions : Sessions} {name : String} {call : SessionCall} {calls : List SessionCall}
  {earlier : List Instruction}

/-- The filter of a session; a session that is not there filters nothing. -/
def filterOf (sessions : Sessions) (name : String) : KeyFilter :=
  ((sessions.get? name).getD {}).filter

theorem filterOf_perform (sessions : Sessions) (name : String) {call : SessionCall}
    (hsilent : call.change.instruction? = none) :
    (sessions.perform call).filterOf name = sessions.filterOf name := by
  rw [filterOf, get?_perform]
  split
  · exact SessionChange.apply_filter hsilent _
  · rfl

theorem perform_lastWritten (hwritten : (sessions.filterOf name).LastWritten earlier)
    (call : SessionCall) :
    ((sessions.perform call).filterOf name).LastWritten
      (earlier ++ if call.name = name then call.change.instruction?.toList else []) := by
  rw [filterOf, get?_perform]
  by_cases hname : call.name = name
  · rw [if_pos hname.symm, if_pos hname]
    exact SessionChange.apply_lastWritten hwritten
  · rw [if_neg (Ne.symm hname), if_neg hname, List.append_nil]
    exact hwritten

def instructionsOf (name : String) (calls : List SessionCall) : List Instruction :=
  toldOf SessionChange.instruction? name calls

theorem run_lastWritten (hwritten : (sessions.filterOf name).LastWritten earlier) :
    ((sessions.run calls).filterOf name).LastWritten (earlier ++ instructionsOf name calls) := by
  induction calls generalizing sessions earlier with
  | nil =>
      rw [instructionsOf, toldOf, List.filterMap_nil, List.append_nil]
      exact hwritten
  | cons call rest ih =>
      rw [instructionsOf, toldOf_cons, ← List.append_assoc]
      exact ih (perform_lastWritten hwritten call)

/-- What a session filters follows from the instructions for it: the last allowlist, the targets
that were disabled last, and no filter at all exactly if both are empty. -/
structure FilterFollows (sessions : Sessions) (name : String) (instructions : List Instruction) :
    Prop where
  allowed_iff : ∀ provider, (sessions.filterOf name).allowed.contains provider = true ↔
    provider ∈ Instruction.lastAllowed instructions
  disabled_iff : ∀ target, target ∈ (sessions.filterOf name).disabled ↔
    Instruction.LeavesDisabled instructions target
  nodup : (sessions.filterOf name).disabled.Nodup
  filter?_eq_none_iff : sessions.filter? name = none ↔
    Instruction.lastAllowed instructions = [] ∧
      ∀ target, ¬ Instruction.LeavesDisabled instructions target

theorem filter?_eq_none_iff_isEmpty (sessions : Sessions) (name : String) :
    sessions.filter? name = none ↔ (sessions.filterOf name).isEmpty = true := by
  rw [filter?_eq, filterOf]
  cases sessions.get? name with
  | none => exact iff_of_true rfl rfl
  | some session => simp [Option.filter]

theorem filterFollows_of_lastWritten {instructions : List Instruction}
    (hwritten : (sessions.filterOf name).LastWritten instructions) :
    sessions.FilterFollows name instructions where
  allowed_iff provider := by rw [hwritten.allowed, Table.contains_ofList_keys_iff]
  disabled_iff := hwritten.disabled
  nodup := hwritten.nodup
  filter?_eq_none_iff := by
    rw [filter?_eq_none_iff_isEmpty, KeyFilter.isEmpty, Bool.and_eq_true, hwritten.allowed,
      Table.isEmpty_ofList_keys, List.isEmpty_iff, List.isEmpty_iff]
    refine and_congr_right fun _ => List.eq_nil_iff_forall_not_mem.trans ?_
    exact forall_congr' fun target => not_congr (hwritten.disabled target)

end Sessions

/-! ## Filters in an engine -/

namespace Engine

open Sessions

variable {engine : Engine} {name : String} {request : SelectionRequest}
  {earlier : List Instruction} {state : Directives × Sessions}

theorem bind_filterOf (routes : Routes) (sessions : Sessions) (session provider model : String)
    (keyAlias : Option String) :
    (bind routes sessions session provider model keyAlias).filterOf name =
      sessions.filterOf name := by
  cases keyAlias with
  | none =>
      let call : SessionCall :=
        ⟨session, .bindModel provider model (routes.servingKeys provider model)⟩
      have hsilent : call.change.instruction? = none := rfl
      exact sessions.filterOf_perform name hsilent
  | some keyAlias =>
      let call : SessionCall := ⟨session, .bindKey ⟨provider, keyAlias, model⟩⟩
      have hsilent : call.change.instruction? = none := rfl
      rw [bind]
      split
      · exact sessions.filterOf_perform name hsilent
      · rfl

/-- The filter of a session follows each instruction for it. -/
theorem carryOut_lastWritten (routes : Routes)
    (hwritten : (state.2.filterOf name).LastWritten earlier) (instruction : Instruction) :
    ((carryOut routes (some name) state instruction).2.filterOf name).LastWritten
      (earlier ++ [instruction]) := by
  have hcall (change : SessionChange) (hchange : change.instruction? = some instruction) :
      ((state.2.perform ⟨name, change⟩).filterOf name).LastWritten (earlier ++ [instruction]) := by
    have hperformed := Sessions.perform_lastWritten hwritten ⟨name, change⟩
    rwa [if_pos rfl, hchange, Option.toList_some] at hperformed
  cases instruction with
  | force provider model keyAlias =>
      exact hwritten.of_silent _ Instruction.noConfusion rfl fun _ => rfl
  | sticky provider model keyAlias =>
      have hsilent := hwritten.of_silent (.sticky provider model keyAlias)
        Instruction.noConfusion rfl fun _ => rfl
      rwa [← bind_filterOf routes state.2 name provider model keyAlias] at hsilent
  | allow providers => exact hcall (.allow providers) rfl
  | disable target => exact hcall (.disable target) rfl
  | enable target => exact hcall (.enable target) rfl
  | clear => exact hcall .clear rfl

theorem foldl_carryOut_lastWritten (routes : Routes)
    (hwritten : (state.2.filterOf name).LastWritten earlier) (instructions : List Instruction) :
    ((instructions.foldl (carryOut routes (some name)) state).2.filterOf name).LastWritten
      (earlier ++ instructions) := by
  induction instructions generalizing state earlier with
  | nil => rwa [List.append_nil]
  | cons instruction rest ih =>
      have hrest := ih (carryOut_lastWritten routes hwritten instruction)
      rwa [List.append_assoc] at hrest

/-- The instructions that a call carries out for a session; there are none on an unknown route. -/
def instructionsIn (engine : Engine) (name : String) : EngineCall → List Instruction
  | .select route request =>
      if request.session = some name ∧ (engine.routes.tiers? route).isSome then
        request.instructions
      else []
  | _ => []

def instructionsOver (engine : Engine) (name : String) : List TimedCall → List Instruction
  | [] => []
  | timed :: rest =>
      engine.instructionsIn name timed.call ++
        (engine.perform timed.time timed.call).instructionsOver name rest

/-- Beyond carrying out its instructions, a selection leaves filters alone. -/
theorem select_lastWritten (hwritten : (engine.sessions.filterOf name).LastWritten earlier)
    (now : Millis) (route : String) (request : SelectionRequest) :
    ((engine.perform now (.select route request)).sessions.filterOf name).LastWritten
      (earlier ++ engine.instructionsIn name (.select route request)) := by
  cases htiers : engine.routes.tiers? route with
  | none =>
      rw [perform, select_of_no_tiers htiers, instructionsIn, htiers]
      simpa using hwritten
  | some tiers =>
      obtain ⟨selection, after, hselect⟩ := select_ok htiers request now
      have hkept : after.sessions.filterOf name =
          (engine.carryOutAll request).2.filterOf name := by
        rcases select_sessions hselect with hsessions | ⟨asked, query, -, hsessions⟩
        · rw [hsessions]
        · have hsilent : (SessionCall.mk asked (.select query)).change.instruction? = none := rfl
          rw [hsessions]
          exact (engine.carryOutAll request).2.filterOf_perform name hsilent
      rw [perform, hselect, instructionsIn, htiers]
      dsimp only
      rw [hkept]
      by_cases hsession : request.session = some name
      · rw [if_pos ⟨hsession, rfl⟩, carryOutAll, hsession]
        exact foldl_carryOut_lastWritten engine.routes hwritten request.instructions
      · have hsame := (engine.carryOutAll_leadsWithin request).get?_eq hsession
        rw [if_neg fun hfor => hsession hfor.1, List.append_nil, filterOf, hsame]
        exact hwritten

theorem perform_lastWritten (hwritten : (engine.sessions.filterOf name).LastWritten earlier)
    (now : Millis) (call : EngineCall) :
    ((engine.perform now call).sessions.filterOf name).LastWritten
      (earlier ++ engine.instructionsIn name call) := by
  by_cases hselect : ∃ route request, call = .select route request
  · obtain ⟨route, request, rfl⟩ := hselect
    exact select_lastWritten hwritten now route request
  · have hother (route : String) (request : SelectionRequest) : call ≠ .select route request :=
      fun hcall => hselect ⟨route, request, hcall⟩
    have hnone : engine.instructionsIn name call = [] := by
      cases call with
      | select route request => exact absurd rfl (hother route request)
      | _ => rfl
    rw [hnone, List.append_nil]
    rcases engine.perform_sessions now hother with hsame | ⟨failing, key, hardBlock, hrotated⟩
    · rwa [hsame]
    · have hsilent : (SessionCall.mk failing (.rotate key hardBlock)).change.instruction? = none :=
        rfl
      have hkept := engine.sessions.filterOf_perform name hsilent
      rw [hrotated]
      rwa [← hkept] at hwritten

theorem run_lastWritten (hwritten : (engine.sessions.filterOf name).LastWritten earlier)
    (calls : List TimedCall) :
    ((engine.run calls).sessions.filterOf name).LastWritten
      (earlier ++ engine.instructionsOver name calls) := by
  induction calls generalizing engine earlier with
  | nil => rwa [instructionsOver, List.append_nil]
  | cons timed rest ih =>
      rw [instructionsOver, ← List.append_assoc]
      exact ih (perform_lastWritten hwritten timed.time timed.call)

end Engine

namespace Sessions

/-- Whatever is done to a session that begins without a record, its filter is what the instructions
for it wrote last, whether they are calls on the sessions or come with the requests to an engine. -/
theorem filters_last_written (name : String) :
    (∀ calls, (run ∅ calls).FilterFollows name (instructionsOf name calls)) ∧
      ∀ engine : Engine, engine.sessions = ∅ → ∀ calls,
        (engine.run calls).sessions.FilterFollows name (engine.instructionsOver name calls) := by
  have hempty : (filterOf ∅ name).LastWritten [] := KeyFilter.lastWritten_nil
  constructor
  · intro calls
    exact filterFollows_of_lastWritten (run_lastWritten hempty)
  · intro engine hsessions calls
    rw [← hsessions] at hempty
    exact filterFollows_of_lastWritten (Engine.run_lastWritten hempty calls)

/-- A key is disabled and enabled again around a fatal error of it, another key is disabled twice,
and the request that would clear the session does not find its route. -/
theorem filters_last_written_of_lost_clear :
    let key (keyAlias : String) : KeySelector := .ofKey ⟨"north", keyAlias, "large"⟩
    let request (instructions : List Instruction) : SelectionRequest :=
      { session := some "s", instructions }
    let calls : List TimedCall := [
      ⟨0, .select "chat" (request [.allow ["north"], .disable (key "a"),
        .sticky "north" "large" none])⟩,
      ⟨5, .reportError { key := ⟨"north", "a", "large"⟩, status := some 401, time := 5 }
        (some "s")⟩,
      ⟨5, .select "chat" (request [.disable (key "b"), .enable (key "a"), .disable (key "b")])⟩,
      ⟨6, .select "nowhere" (request [.clear])⟩]
    ∃ engine, Engine.ofConfiguration Engine.twoAliases = .ok engine ∧ engine.sessions = ∅ ∧
      (engine.run calls).sessions.FilterFollows "s" [.allow ["north"], .disable (key "a"),
        .sticky "north" "large" none, .disable (key "b"), .enable (key "a"), .disable (key "b")] := by
  intro key request calls
  obtain ⟨engine, hbuilt⟩ := Engine.exists_ofConfiguration_twoAliases
  have hsaid : engine.sessions = ∅ ∧ engine.instructionsOver "s" calls = [.allow ["north"],
      .disable (key "a"), .sticky "north" "large" none, .disable (key "b"), .enable (key "a"),
        .disable (key "b")] := by
    simp only [Engine.ofConfiguration, Engine.publish, Routes.ofConfiguration,
      Engine.twoAliases_valid] at hbuilt
    cases hbuilt
    exact ⟨rfl, by decide +kernel⟩
  obtain ⟨hempty, hinstructions⟩ := hsaid
  refine ⟨engine, hbuilt, hempty, ?_⟩
  rw [← hinstructions]
  exact (filters_last_written "s").2 engine hempty calls

end Sessions

end ProviderRouting
