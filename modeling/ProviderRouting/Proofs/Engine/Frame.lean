import ProviderRouting.Proofs.Engine.Deciding
import ProviderRouting.Proofs.Ranks
import ProviderRouting.Proofs.Session.Calls

/-!
# What a selection may change

A selection leaves all records as they are, and the sessions of all other requests.  It turns a
rotation only when it answers with a key from it, and no other rotation then.  A selection on an
unknown route does nothing at all.
-/

namespace ProviderRouting

namespace Engine

variable {engine after : Engine} {config : Configuration} {candidate : ProviderKey → Bool}
  {recover : Bool} {now : Millis} {tier : Tier} {tiers : List Tier} {route : String}
  {request : SelectionRequest} {key : ProviderKey} {stage : SelectionStage}
  {selection : Selection}

/-! ## Rotations -/

/-- The rotation of a tier has been turned to a key, among targets of this tier. -/
structure Turned (engine after : Engine) (now : Millis) (tier : Tier) (key : ProviderKey) :
    Prop where
  mode_eq : tier.mode = .roundRobin
  listed : key ∈ tier.targets
  turned : ∃ (candidates : List ProviderKey) (next : Rotation), candidates.Sublist tier.targets ∧
    ((engine.rotations.get? tier.id).getD {}).select
        (candidates.map fun candidate => (candidate, engine.weight now candidate))
        (turnBound candidates.length engine.health.leastMultiplier) = (some key, next) ∧
      after.rotations = engine.rotations.insert tier.id next

/-- Only a round-robin tier that does not recover turns its rotation. -/
theorem selectFromTier_of_still
    (hstill : (engine.selectFromTier tier candidate recover now).1.map Prod.snd ≠
      some .roundRobin) :
    (engine.selectFromTier tier candidate recover now).2 = engine := by
  cases hpick : (engine.selectFromTier tier candidate recover now).1 with
  | none => rw [selectFromTier_of_none hpick]
  | some picked =>
      have hstage := selectFromTier_stage hpick
      rw [hpick, Option.map_some, ne_eq, Option.some.injEq] at hstill
      rw [selectFromTier]
      cases hmode : tier.mode with
      | priority => rfl
      | roundRobin =>
          cases recover with
          | true => rfl
          | false => exact absurd (hstage.trans (by rw [hmode]; rfl)) hstill

theorem selectFromTier_turned
    (hpick : (engine.selectFromTier tier candidate recover now).1 = some (key, .roundRobin)) :
    Turned engine (engine.selectFromTier tier candidate recover now).2 now tier key := by
  obtain ⟨hlisted, -, -, -⟩ := selectFromTier_some hpick
  have hstage := selectFromTier_stage hpick
  cases hmode : tier.mode with
  | priority => simp [hmode, TierPolicy.stage] at hstage
  | roundRobin =>
      cases recover with
      | true => simp [hmode, TierPolicy.stage] at hstage
      | false =>
          rw [selectFromTier_rotation hmode, Option.map_eq_some_iff, List.length_map] at hpick
          obtain ⟨picked, hpicked, hpair⟩ := hpick
          cases hpair
          -- A pick shows that the weights do not add up to zero.
          have hweight : Rotation.totalWeight ((tier.targets.filter candidate).map fun key =>
              (key, engine.weight now key)) ≠ 0 := by
            rw [ne_eq, ← Rotation.select_eq_none_iff, hpicked]
            exact Option.some_ne_none key
          refine ⟨hmode, hlisted, tier.targets.filter candidate, _, List.filter_sublist,
            Prod.ext hpicked rfl, ?_⟩
          rw [selectFromTier, hmode, ← List.length_map fun key => (key, engine.weight now key)]
          exact if_neg hweight

/-! ## The frame -/

/-- What a selection leaves as it was. -/
structure Frame (engine : Engine) (route : String) (request : SelectionRequest) (now : Millis)
    (selection : Selection) (after : Engine) : Prop where
  records : SameRecords engine after
  revision : after.revision = engine.revision
  /-- Sessions of other requests stay as they are. -/
  sessions : ∀ name, request.session ≠ some name →
    after.sessions.get? name = engine.sessions.get? name
  rotations : selection.stage? ≠ some .roundRobin → after.rotations = engine.rotations
  /-- A rotation is turned for a pick of its own tier, and no other tier's rotation with it. -/
  turned : ∀ key, selection = .selected key .roundRobin →
    ∃ tiers tier, engine.routes.tiers? route = some tiers ∧ tier ∈ tiers ∧
      Turned engine after now tier key ∧
      ∀ other others, engine.routes.tiers? other = some others → ∀ unturned ∈ others,
        unturned ≠ tier → after.rotations.get? unturned.id = engine.rotations.get? unturned.id

theorem Ending.rotations (hending : Ending engine route request now selection after)
    (hstill : selection.stage? ≠ some .roundRobin) : after.rotations = engine.rotations := by
  cases hending with
  | early => rfl
  | @ranked tiers =>
      have hranked : (engine.ranked request now tiers).2 = engine := by
        cases hpick : (engine.ranked request now tiers).1 with
        | none => rw [ranked_of_none hpick]
        | some picked =>
            obtain ⟨tier, -, hranked⟩ := ranked_some hpick
            rw [hpick] at hstill
            rw [hranked] at hpick ⊢
            apply selectFromTier_of_still
            rw [hpick]
            exact hstill
      change (engine.ranked request now tiers).2.rotations = engine.rotations
      rw [hranked]

/-- A key of a rotation is the pick of the tier whose rotation is turned. -/
theorem Ending.turned
    (hending : Ending engine route request now (.selected key .roundRobin) after) :
    ∃ tiers tier, engine.routes.tiers? route = some tiers ∧ tier ∈ tiers ∧
      Turned engine after now tier key := by
  generalize hselection : Selection.selected key .roundRobin = selection at hending
  cases hending with
  | early hstage =>
      cases hselection
      cases hstage with
      | inl hforced => cases hforced
      | inr hsticky => cases hsticky
  | @ranked tiers htiers =>
      have hpick := answerOf_eq_selected_iff.mp hselection.symm
      obtain ⟨tier, hfind, hranked⟩ := ranked_some hpick
      rw [hranked] at hpick ⊢
      obtain ⟨hmode, hlisted, hturned⟩ := selectFromTier_turned hpick
      exact ⟨tiers, tier, htiers, List.mem_of_find?_eq_some hfind, hmode, hlisted, hturned⟩

/-- In every state that an engine can reach, a selection on a published route keeps to its frame,
and a selection on any other route is an error that changes nothing. -/
theorem select_frame (hreachable : Reachable config engine) (route : String)
    (request : SelectionRequest) (now : Millis) :
    match engine.routes.tiers? route with
    | none =>
        engine.select route request now = .error (.unknownRoute route) ∧
          engine.perform now (.select route request) = engine
    | some _ =>
        ∃ selection after, engine.select route request now = .ok (selection, after) ∧
          engine.perform now (.select route request) = after ∧
            Frame engine route request now selection after := by
  cases htiers : engine.routes.tiers? route with
  | none =>
      have hselect : engine.select route request now = .error (.unknownRoute route) := by
        rw [select, htiers]
      exact ⟨hselect, by rw [perform, hselect]⟩
  | some tiers =>
      obtain ⟨selection, after, hselect⟩ := select_ok htiers request now
      obtain ⟨-, hrecords⟩ := select_outcome hselect
      have hending := select_ending hselect
      refine ⟨selection, after, hselect, by rw [perform, hselect], hrecords, ?_, ?_,
        hending.rotations, ?_⟩
      · rw [revision, revision, hrecords.quota, hrecords.series]
      · exact fun name hname => (select_leadsWithin hselect).get?_eq hname
      · rintro key rfl
        obtain ⟨tiers, tier, htiers, htier, hturned⟩ := hending.turned
        refine ⟨tiers, tier, htiers, htier, hturned, ?_⟩
        intro other others hothers unturned hunturned hne
        obtain ⟨_, next, -, -, hrotations⟩ := hturned.turned
        rw [hrotations, Table.get?_insert, if_neg]
        intro hid
        obtain ⟨-, hsame⟩ :=
          Routes.eq_of_tierId hreachable.routes_eq hothers hunturned htiers htier hid
        exact hne hsame

/-- A selection that turns the rotation of a tier with a single key. -/
theorem select_frame_of_turn :
    ∃ engine after, Reachable fallbackFirst engine ∧
      engine.select "chat" {} 0 = .ok (.selected ⟨"north", "a", "small"⟩ .roundRobin, after) ∧
        Frame engine "chat" {} 0 (.selected ⟨"north", "a", "small"⟩ .roundRobin) after := by
  obtain ⟨engine, hbuilt⟩ := exists_ofConfiguration fallbackFirst_valid
  have hreachable : Reachable fallbackFirst engine := .built hbuilt
  let first : Tier := Routes.tierOf "chat" (Routes.penaltyWindow fallbackFirst) rotating
  let second : Tier := Routes.tierOf "chat" (Routes.penaltyWindow fallbackFirst) fallback
  have hsetting : engine.routes.tiers? "chat" = some [first, second] ∧
      engine.forcedKey? {} (SelectionRequest.directives {}) 0 = none ∧
      [first, second].find? (offers (engine.contenders {} 0 [first, second])) = some first := by
    simp only [ofConfiguration, publish, Routes.ofConfiguration, fallbackFirst_valid] at hbuilt
    cases hbuilt
    simp only [fallbackFirst, List.map_cons, List.map_nil, tiersOf_fallbackFirst]
    exact ⟨rfl, by decide +kernel, by decide +kernel⟩
  obtain ⟨htiers, hforced, hfind⟩ := hsetting
  have hpick : (engine.ranked {} 0 [first, second]).1 =
      some (⟨"north", "a", "small"⟩, .roundRobin) := by
    rw [ranked_eq, hfind]
    change (engine.selectFromTier first (engine.contenders {} 0 [first, second]) false 0).1 = _
    cases hpick : (engine.selectFromTier first (engine.contenders {} 0 [first, second]) false
        0).1 with
    | none =>
        have hoffers := List.find?_some hfind
        rw [offers_eq_false_iff.mpr hpick] at hoffers
        cases hoffers
    | some picked =>
        obtain ⟨key, stage⟩ := picked
        obtain ⟨hlisted, -, -, -⟩ := selectFromTier_some hpick
        obtain rfl := List.mem_singleton.mp hlisted
        rw [selectFromTier_stage hpick]
        rfl
  have hunbound : engine.select "chat" {} 0 = _ :=
    select_unbound htiers (selectBound_of_no_session _ rfl)
  have hframe := select_frame hreachable "chat" {} 0
  rw [htiers] at hframe
  obtain ⟨selection, after, hselect, -, hframe⟩ := hframe
  obtain rfl : selection = .selected ⟨"north", "a", "small"⟩ .roundRobin := by
    have hanswer := congrArg Prod.fst (Except.ok.inj (hselect.symm.trans hunbound))
    rw [unbound, hforced, hpick] at hanswer
    exact hanswer
  exact ⟨engine, after, hreachable, hselect, hframe⟩

end Engine

end ProviderRouting
