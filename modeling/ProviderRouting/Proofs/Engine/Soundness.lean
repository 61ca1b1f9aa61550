import ProviderRouting.Proofs.Engine.Run
import ProviderRouting.Proofs.Quota.Windows

/-!
# Selections are sound and miss no key

A key that is handed out is configured, may be used by the request now, and has the part in the
route, the session or the instructions that its stage stands for.  Conversely a selection is
exhausted only when no key could have been handed out: neither bindings, nor avoided providers,
nor rotations, nor retries hide a key that is left.
-/

namespace ProviderRouting

namespace Engine

variable {engine after : Engine} {config : Configuration} {route : String}
  {request : SelectionRequest} {now : Millis} {key : ProviderKey} {stage : SelectionStage}

/-- Routes list configured keys only, so every stage answers with a configured key. -/
theorem Outcome.contains (hcompiled : Routes.ofConfiguration config = .ok engine.routes)
    (houtcome : Outcome engine route request now (.selected key stage)) :
    engine.routes.contains key = true := by
  cases houtcome with
  | forced _ hconfigured _ _ => exact List.contains_iff_mem.mpr hconfigured
  | sticky _ _ _ hlisted _ _ =>
      exact (Routes.contains_iff_declares hcompiled).mpr
        (Routes.declares_of_lists hcompiled hlisted)
  | ranked _ _ hlisted _ _ =>
      exact (Routes.contains_iff_declares hcompiled).mpr
        (Routes.declares_of_lists hcompiled hlisted)

theorem Selectable.unblocked (hselectable : engine.Selectable request now key) :
    (engine.quota.entry key).Unblocked now engine.quota.settings.usageWindow :=
  (QuotaEntry.asOf_inPool_iff _ _ _).mp hselectable.in_pool

/-- All that a caller may rely on about a key that was selected at a stage. -/
structure SoundPick (config : Configuration) (engine : Engine) (route : String)
    (request : SelectionRequest) (now : Millis) (key : ProviderKey)
    (stage : SelectionStage) : Prop where
  configured : engine.routes.contains key = true
  declared : Routes.Declares config key
  selectable : engine.Selectable request now key
  unblocked : (engine.quota.entry key).Unblocked now engine.quota.settings.usageWindow
  listed : stage ≠ .forced → engine.routes.lists route key = true
  passes : stage ≠ .forced → engine.Passes request key
  forced : stage = .forced →
    ∃ target, request.forceTarget? = some target ∧ target.covers key = true
  queued : stage = .sticky →
    ∃ name session, request.session = some name ∧
      (engine.carryOutAll request).2.get? name = some session ∧ key ∈ session.queue

/-- In every state that an engine can reach, every key that it hands out is a sound pick. -/
theorem select_sound (hreachable : Reachable config engine)
    (hselect : engine.select route request now = .ok (.selected key stage, after)) :
    SoundPick config engine route request now key stage := by
  have hcompiled := hreachable.routes_eq
  obtain ⟨houtcome, -⟩ := select_outcome hselect
  have hconfigured := houtcome.contains hcompiled
  have hdeclared := (Routes.contains_iff_declares hcompiled).mp hconfigured
  have hselectable := houtcome.selectable
  refine ⟨hconfigured, hdeclared, hselectable, hselectable.unblocked, ?_, ?_, ?_, ?_⟩
  · cases houtcome with
    | forced => exact fun hstage => absurd rfl hstage
    | sticky _ _ _ hlisted _ _ => exact fun _ => hlisted
    | ranked _ _ hlisted _ _ => exact fun _ => hlisted
  · cases houtcome with
    | forced => exact fun hstage => absurd rfl hstage
    | sticky _ _ _ _ hpasses _ => exact fun _ => hpasses
    | ranked _ _ _ hpasses _ => exact fun _ => hpasses
  · rintro rfl
    cases houtcome with
    | forced htarget _ hcovers _ => exact ⟨_, htarget, hcovers⟩
    | ranked hne_forced _ _ _ _ => exact absurd rfl hne_forced
  · rintro rfl
    cases houtcome with
    | sticky hname hsession hqueued _ _ _ => exact ⟨_, _, hname, hsession, hqueued⟩
    | ranked _ hne_sticky _ _ _ => exact absurd rfl hne_sticky

def bindingRequest : SelectionRequest where
  session := some "s"
  instructions := [.sticky "north" "large" none, .disable (.ofProvider "south")]

/-- A session whose preferred alias has just failed gets the other one. -/
theorem select_sound_of_binding :
    ∃ engine after, Reachable twoAliases engine ∧
      engine.select "chat" bindingRequest 5 =
          .ok (.selected ⟨"north", "b", "large"⟩ .sticky, after) ∧
        SoundPick twoAliases engine "chat" bindingRequest 5 ⟨"north", "b", "large"⟩ .sticky := by
  obtain ⟨engine, hbuilt⟩ := exists_ofConfiguration_twoAliases
  let failure : EngineCall :=
    .reportError { key := ⟨"north", "a", "large"⟩, status := some 429, time := 0 } none
  have hreachable : Reachable twoAliases (engine.perform 0 failure) :=
    (Reachable.built hbuilt).called 0 failure
  have hanswer :
      ((engine.perform 0 failure).select "chat" bindingRequest 5).toOption.map Prod.fst =
        some (.selected ⟨"north", "b", "large"⟩ .sticky) := by
    simp only [ofConfiguration, publish, Routes.ofConfiguration, twoAliases_valid] at hbuilt
    cases hbuilt
    decide +kernel
  cases hselect : (engine.perform 0 failure).select "chat" bindingRequest 5 with
  | error cause => simp [hselect, Except.toOption] at hanswer
  | ok result =>
      obtain ⟨selection, after⟩ := result
      obtain rfl : selection = .selected ⟨"north", "b", "large"⟩ .sticky := by
        simpa [hselect, Except.toOption] using hanswer
      exact ⟨_, after, hreachable, hselect, select_sound hreachable hselect⟩

/-- A selection on a published route is exhausted if and only if no configured key that a forced
target covers can be used, and no key of the route's tiers can be used and passes the session's
filter. -/
theorem select_exhausted_iff (engine : Engine) (route : String) (request : SelectionRequest)
    (now : Millis) :
    (∃ after, engine.select route request now = .ok (.exhausted, after)) ↔
      (engine.routes.tiers? route).isSome = true ∧
        (∀ target, request.forceTarget? = some target → ∀ key ∈ engine.routes.keys,
          target.covers key = true → ¬ engine.Selectable request now key) ∧
        ∀ key, engine.routes.lists route key = true → engine.Selectable request now key →
          ¬ engine.Passes request key := by
  constructor
  · rintro ⟨after, hselect⟩
    obtain ⟨houtcome, -⟩ := select_outcome hselect
    cases houtcome with
    | exhausted hforced hlisted =>
        refine ⟨?_, hforced, hlisted⟩
        cases htiers : engine.routes.tiers? route with
        | none => simp [select, htiers] at hselect
        | some tiers => rfl
  · rintro ⟨hpublished, hforced, hlisted⟩
    obtain ⟨tiers, htiers⟩ := Option.isSome_iff_exists.mp hpublished
    obtain ⟨selection, after, hselect⟩ := select_ok htiers request now
    obtain ⟨houtcome, -⟩ := select_outcome hselect
    cases houtcome with
    | forced htarget hconfigured hcovers hselectable =>
        exact absurd hselectable (hforced _ htarget _ hconfigured hcovers)
    | sticky _ _ _ hkey hpasses hselectable =>
        exact absurd hpasses (hlisted _ hkey hselectable)
    | ranked _ _ hkey hpasses hselectable =>
        exact absurd hpasses (hlisted _ hkey hselectable)
    | exhausted => exact ⟨after, hselect⟩

end Engine

end ProviderRouting
