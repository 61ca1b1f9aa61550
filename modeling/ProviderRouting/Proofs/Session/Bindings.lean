import ProviderRouting.Proofs.Session.Calls
import Mathlib.Data.List.Induction

/-!
# Bindings and their queues

A session that is bound to something has a target and keys to select from, and one that is not
has neither.  Every call on a session keeps this but for one: a failure that takes the last key
out of the queue of a bound model leaves the binding behind.  Nothing drops it then, since a
selection passes by a queue that holds no key of the route; only another binding or the end of
the session does.
-/

namespace ProviderRouting

namespace Session

/-- The session is bound to a target with keys to select from, or it is not bound at all. -/
structure Coherent (session : Session) : Prop where
  target_iff : session.mode = .unbound ↔ session.target = none
  queue_iff : session.mode = .unbound ↔ session.queue = []

/-- The session is bound to a model, and no key is left to select from. -/
structure Dangles (session : Session) : Prop where
  mode_eq : session.mode = .model
  target_ne : session.target ≠ none
  queue_eq : session.queue = []

structure SameBinding (before after : Session) : Prop where
  mode_eq : after.mode = before.mode
  target_eq : after.target = before.target
  queue_eq : after.queue = before.queue

variable {session before after : Session} {key : ProviderKey}

theorem Dangles.not_coherent (hdangles : session.Dangles) : ¬ session.Coherent := by
  intro hcoherent
  have hmode := hcoherent.queue_iff.mpr hdangles.queue_eq
  rw [hdangles.mode_eq] at hmode
  exact BindingMode.noConfusion hmode

theorem Coherent.of_sameBinding (hcoherent : before.Coherent) (hsame : SameBinding before after) :
    after.Coherent where
  target_iff := by rw [hsame.mode_eq, hsame.target_eq, hcoherent.target_iff]
  queue_iff := by rw [hsame.mode_eq, hsame.queue_eq, hcoherent.queue_iff]

theorem Dangles.of_sameBinding (hdangles : before.Dangles) (hsame : SameBinding before after) :
    after.Dangles where
  mode_eq := hsame.mode_eq.trans hdangles.mode_eq
  target_ne := hsame.target_eq ▸ hdangles.target_ne
  queue_eq := hsame.queue_eq.trans hdangles.queue_eq

/-! ## Changes of one session -/

theorem dropBinding_coherent (session : Session) : session.dropBinding.Coherent :=
  ⟨iff_of_true rfl rfl, iff_of_true rfl rfl⟩

theorem bindModel_coherent (session : Session) (provider model : String)
    {pool : List ProviderKey} (hpool : pool ≠ []) :
    (session.bindModel provider model pool).Coherent :=
  ⟨iff_of_false BindingMode.noConfusion (Option.some_ne_none _),
    iff_of_false BindingMode.noConfusion hpool⟩

theorem bindKey_coherent (session : Session) (key : ProviderKey) :
    (session.bindKey key).Coherent :=
  ⟨iff_of_false BindingMode.noConfusion (Option.some_ne_none _),
    iff_of_false BindingMode.noConfusion (List.cons_ne_nil key [])⟩

theorem allow_sameBinding (session : Session) (providers : List String) :
    SameBinding session (session.allow providers) :=
  ⟨rfl, rfl, rfl⟩

theorem disable_sameBinding (session : Session) (target : KeySelector) :
    SameBinding session (session.disable target) := by
  rw [disable]
  split <;> exact ⟨rfl, rfl, rfl⟩

theorem enable_sameBinding (session : Session) (target : KeySelector) :
    SameBinding session (session.enable target) :=
  ⟨rfl, rfl, rfl⟩

theorem rotate_mode (session : Session) (key : ProviderKey) (hardBlock : Bool) :
    (session.rotate key hardBlock).mode = session.mode := by
  rw [rotate]
  split <;> rfl

/-- The failure of a key that is not queued changes nothing. -/
theorem rotate_eq_self (hkey : key ∉ session.queue) (hardBlock : Bool) :
    session.rotate key hardBlock = session :=
  if_neg fun hqueued => hkey hqueued.2

/-- A failure moves a key within the queue of a bound model, or takes it out. -/
theorem rotate_coherent (hcoherent : session.Coherent) {hardBlock : Bool}
    (hkept : ¬ (hardBlock = true ∧ session.mode = .model ∧ session.queue = [key])) :
    (session.rotate key hardBlock).Coherent := by
  rw [rotate]
  by_cases hqueued : session.mode = .model ∧ key ∈ session.queue
  · rw [if_pos hqueued]
    obtain ⟨hmode, hmem⟩ := hqueued
    have hbound : session.mode ≠ .unbound := by
      rw [hmode]
      exact BindingMode.noConfusion
    refine ⟨iff_of_false hbound (mt hcoherent.target_iff.mpr hbound), iff_of_false hbound ?_⟩
    intro hempty
    obtain ⟨herase, hrest⟩ := List.append_eq_nil_iff.mp hempty
    cases hardBlock with
    | false => exact absurd hrest (List.cons_ne_nil key [])
    | true =>
        rcases List.erase_eq_nil_iff.mp herase with hnil | hlast
        · exact List.not_mem_nil (hnil ▸ hmem)
        · exact hkept ⟨rfl, hmode, hlast⟩
  · rw [if_neg hqueued]
    exact hcoherent

/-- The failure of the last key leaves the binding behind. -/
theorem rotate_dangles (htarget : session.target ≠ none) (hmode : session.mode = .model)
    (hqueue : session.queue = [key]) : (session.rotate key true).Dangles := by
  have hqueued : session.mode = .model ∧ key ∈ session.queue :=
    ⟨hmode, hqueue ▸ List.mem_singleton_self key⟩
  rw [rotate, if_pos hqueued]
  exact ⟨hmode, htarget, by simp [hqueue]⟩

theorem Dangles.rotate_eq (hdangles : session.Dangles) (key : ProviderKey) (hardBlock : Bool) :
    session.rotate key hardBlock = session :=
  rotate_eq_self (hdangles.queue_eq ▸ List.not_mem_nil) hardBlock

/-- A binding without a key applies to no route. -/
theorem Dangles.applies_eq (hdangles : session.Dangles) (inRoute : ProviderKey → Bool) :
    session.applies inRoute = false := by
  rw [applies, hdangles.queue_eq, List.any_nil, Bool.and_false]

end Session

namespace SessionChange

variable {change : SessionChange} {before : Option Session} {after session : Session}

/-- The change is a failure that takes the last key out of the queue of a bound model. -/
def Drains (change : SessionChange) (before : Option Session) : Prop :=
  ∃ session key, before = some session ∧ change = .rotate key true ∧ session.mode = .model ∧
    session.queue = [key]

/-- The change binds the session anew or ends it. -/
def Renews : SessionChange → Prop
  | .bindModel _ _ pool => pool ≠ []
  | .bindKey _ => True
  | .clear => True
  | _ => False

def Binds : SessionChange → Prop
  | .bindModel _ _ pool => pool ≠ []
  | .bindKey _ => True
  | _ => False

/-- What holds of every session that is not bound, and depends on the binding only, is kept by a
change if the new bindings and the failures keep it. -/
theorem apply_keeps {Has : Session → Prop} (hdropped : ∀ session : Session, Has session.dropBinding)
    (hsame : ∀ {earlier later}, Has earlier → Session.SameBinding earlier later → Has later)
    (hbinds : change.Binds → Has after)
    (hrotate : ∀ session key hardBlock, before = some session → change = .rotate key hardBlock →
      Has session → Has (session.rotate key hardBlock))
    (hbefore : ∀ session, before = some session → Has session)
    (happly : change.apply before = some after) : Has after := by
  have hpresent : Has (before.getD {}) := by
    cases before with
    | none => exact hdropped {}
    | some session => exact hbefore session rfl
  cases change with
  | bindModel provider model pool =>
      by_cases hpool : pool = []
      · rw [apply, if_pos (List.isEmpty_iff.mpr hpool)] at happly
        exact hbefore after happly
      · exact hbinds hpool
  | bindKey key => exact hbinds trivial
  | allow providers =>
      cases happly
      exact hsame hpresent (Session.allow_sameBinding _ providers)
  | disable target =>
      cases happly
      exact hsame hpresent (Session.disable_sameBinding _ target)
  | enable target =>
      obtain ⟨session, hsession, rfl⟩ := Option.map_eq_some_iff.mp happly
      exact hsame (hbefore session hsession) (session.enable_sameBinding target)
  | clear => cases happly
  | select query =>
      cases before with
      | none => cases happly
      | some session =>
          rw [apply] at happly
          split at happly
          · split at happly
            · cases happly
            · cases happly
              exact hdropped session
          · exact hbefore after happly
  | rotate key hardBlock =>
      obtain ⟨session, hsession, rfl⟩ := Option.map_eq_some_iff.mp happly
      exact hrotate session key hardBlock hsession rfl (hbefore session hsession)

/-- A session stays unbound through all changes that do not bind it. -/
theorem apply_unbound (hbefore : ∀ session, before = some session → session.mode = .unbound)
    (hbinds : ¬ change.Binds) (happly : change.apply before = some after) :
    after.mode = .unbound := by
  refine apply_keeps (fun session => rfl) (fun hunbound hsame => hsame.mode_eq.trans hunbound)
    (fun hbound => absurd hbound hbinds) ?_ hbefore happly
  intro session key hardBlock hsession hchange hunbound
  exact (session.rotate_mode key hardBlock).trans hunbound

theorem Binds.renews (hbinds : change.Binds) : change.Renews := by
  cases change with
  | bindModel provider model pool => exact hbinds
  | bindKey key => trivial
  | _ => exact absurd hbinds id

/-- A session is as it should be after a change that binds it anew, whatever it was before. -/
theorem apply_coherent_of_renews (hrenews : change.Renews)
    (happly : change.apply before = some after) : after.Coherent := by
  cases change with
  | bindModel provider model pool =>
      rw [apply, if_neg (mt List.isEmpty_iff.mp hrenews), Option.some.injEq] at happly
      rw [← happly]
      exact Session.bindModel_coherent _ provider model hrenews
  | bindKey key =>
      cases happly
      exact Session.bindKey_coherent _ key
  | clear => cases happly
  | _ => exact absurd hrenews id

/-- No change but a draining failure leaves a binding without a key. -/
theorem apply_coherent (hbefore : ∀ session, before = some session → session.Coherent)
    (hdrains : ¬ change.Drains before) (happly : change.apply before = some after) :
    after.Coherent := by
  refine apply_keeps Session.dropBinding_coherent Session.Coherent.of_sameBinding
    (fun hbinds => apply_coherent_of_renews hbinds.renews happly) ?_ hbefore happly
  rintro session key hardBlock rfl rfl hcoherent
  refine Session.rotate_coherent hcoherent ?_
  rintro ⟨rfl, hmode, hqueue⟩
  exact hdrains ⟨session, key, rfl, rfl, hmode, hqueue⟩

/-- A binding without a key stays until the session is bound anew or ended. -/
theorem apply_dangles (hdangles : session.Dangles) (hrenews : ¬ change.Renews) :
    ∃ after, change.apply (some session) = some after ∧ after.Dangles := by
  cases change with
  | bindModel provider model pool =>
      have hpool : pool.isEmpty = true := List.isEmpty_iff.mpr (not_not.mp hrenews)
      exact ⟨session, if_pos hpool, hdangles⟩
  | bindKey key => exact absurd trivial hrenews
  | allow providers =>
      exact ⟨_, rfl, hdangles.of_sameBinding (session.allow_sameBinding providers)⟩
  | disable target =>
      exact ⟨_, rfl, hdangles.of_sameBinding (session.disable_sameBinding target)⟩
  | enable target =>
      exact ⟨_, rfl, hdangles.of_sameBinding (session.enable_sameBinding target)⟩
  | clear => exact absurd trivial hrenews
  | select query =>
      refine ⟨session, ?_, hdangles⟩
      rw [apply, hdangles.applies_eq]
      simp
  | rotate key hardBlock =>
      refine ⟨session, ?_, hdangles⟩
      rw [apply, Option.map_some, hdangles.rotate_eq]

end SessionChange

namespace Sessions

variable {calls later : List SessionCall} {call : SessionCall} {name : String}
  {session : Session} {sessions : Sessions}

/-- A failure took the last key from the session's queue, and the session has not been bound anew
or ended since. -/
def Drained (calls : List SessionCall) (name : String) : Prop :=
  ∃ before change later, calls = before ++ ⟨name, change⟩ :: later ∧
    change.Drains ((run ∅ before).get? name) ∧
      ∀ call ∈ later, call.name = name → ¬ call.change.Renews

theorem Drained.append_singleton (hdrained : Drained calls name)
    (hrenews : call.name = name → ¬ call.change.Renews) : Drained (calls ++ [call]) name := by
  obtain ⟨before, change, later, rfl, hdrains, hlater⟩ := hdrained
  refine ⟨before, change, later ++ [call], by simp, hdrains, fun other hother => ?_⟩
  rcases List.mem_append.mp hother with hearlier | hlast
  · exact hlater other hearlier
  · rw [List.mem_singleton.mp hlast]
    exact hrenews

/-- Every session is as it should be, or it dangles and a failure has drained it. -/
theorem run_coherent_or_drained (hsession : (run ∅ calls).get? name = some session) :
    session.Coherent ∨ session.Dangles ∧ Drained calls name := by
  induction calls using List.reverseRecOn generalizing session with
  | nil => cases hsession
  | append_singleton calls call ih =>
      rw [run_append] at hsession
      change ((run ∅ calls).perform call).get? name = some session at hsession
      rw [get?_perform] at hsession
      by_cases hname : name = call.name
      · rw [if_pos hname] at hsession
        subst hname
        by_cases hrenews : call.change.Renews
        · exact .inl (SessionChange.apply_coherent_of_renews hrenews hsession)
        · cases hbefore : (run ∅ calls).get? call.name with
          | none =>
              rw [hbefore] at hsession
              refine .inl (SessionChange.apply_coherent (by simp) ?_ hsession)
              rintro ⟨drained, key, hnone, -⟩
              cases hnone
          | some before =>
              rw [hbefore] at hsession
              rcases ih hbefore with hcoherent | ⟨hdangles, hdrained⟩
              · by_cases hdrains : call.change.Drains (some before)
                · right
                  obtain ⟨drained, key, hsome, hchange, hmode, hqueue⟩ := hdrains
                  cases hsome
                  have htarget : before.target ≠ none := by
                    rw [ne_eq, ← hcoherent.target_iff, hmode]
                    exact BindingMode.noConfusion
                  have hafter := Session.rotate_dangles htarget hmode hqueue
                  rw [hchange, SessionChange.apply, Option.map_some, Option.some.injEq] at hsession
                  rw [← hsession]
                  refine ⟨hafter, calls, call.change, [], rfl, ?_, by simp⟩
                  rw [hbefore]
                  exact ⟨before, key, rfl, hchange, hmode, hqueue⟩
                · refine .inl (SessionChange.apply_coherent ?_ hdrains hsession)
                  rintro present hpresent
                  cases hpresent
                  exact hcoherent
              · right
                obtain ⟨after, hafter, hafter_dangles⟩ :=
                  SessionChange.apply_dangles hdangles hrenews
                rw [hafter, Option.some.injEq] at hsession
                rw [← hsession]
                exact ⟨hafter_dangles, hdrained.append_singleton fun _ => hrenews⟩
      · rw [if_neg hname] at hsession
        rcases ih hsession with hcoherent | ⟨hdangles, hdrained⟩
        · exact .inl hcoherent
        · exact .inr ⟨hdangles, hdrained.append_singleton fun hsame => absurd hsame.symm hname⟩

/-- Calls that do not bind a dangling session anew or end it leave it dangling. -/
theorem run_dangles (hsession : sessions.get? name = some session) (hdangles : session.Dangles)
    (hlater : ∀ call ∈ later, call.name = name → ¬ call.change.Renews) :
    ∃ after, (sessions.run later).get? name = some after ∧ after.Dangles := by
  induction later generalizing sessions session with
  | nil => exact ⟨session, hsession, hdangles⟩
  | cons call rest ih =>
      rw [List.forall_mem_cons] at hlater
      have hnext := get?_perform sessions call name
      by_cases hname : name = call.name
      · obtain ⟨after, hafter, hafter_dangles⟩ :=
          SessionChange.apply_dangles hdangles (hlater.1 hname.symm)
        rw [if_pos hname, hsession, hafter] at hnext
        exact ih hnext hafter_dangles hlater.2
      · rw [if_neg hname, hsession] at hnext
        exact ih hnext hdangles hlater.2

theorem Drained.dangles (hdrained : Drained calls name) :
    ∃ session, (run ∅ calls).get? name = some session ∧ session.Dangles := by
  obtain ⟨before, change, later, rfl, ⟨session, key, hsession, hchange, hmode, hqueue⟩, hlater⟩ :=
    hdrained
  have htarget : session.target ≠ none := by
    rcases run_coherent_or_drained hsession with hcoherent | ⟨hdangles, -⟩
    · rw [ne_eq, ← hcoherent.target_iff, hmode]
      exact BindingMode.noConfusion
    · exact hdangles.target_ne
  have hnext : ((run ∅ before).perform ⟨name, change⟩).get? name =
      some (session.rotate key true) := by
    rw [get?_perform, if_pos rfl, hsession, hchange]
    rfl
  rw [run_append]
  have hend := run_dangles hnext (Session.rotate_dangles htarget hmode hqueue) hlater
  exact hend

/-- After any calls, a session is bound to a target with keys to select from or not bound at all,
unless a failure has taken the last key from its queue and the session has not been bound anew or
ended since.  The sessions of an engine come about by such calls. -/
theorem run_coherent_iff (name : String) (session : Session) :
    (∀ calls, (run ∅ calls).get? name = some session →
      (session.Coherent ↔ ¬ Drained calls name)) ∧
      ∀ config engine, Engine.Reachable config engine →
        engine.sessions.get? name = some session →
          ∃ calls, engine.sessions = run ∅ calls ∧
            (session.Coherent ↔ ¬ Drained calls name) := by
  have hcalls (calls : List SessionCall) (hsession : (run ∅ calls).get? name = some session) :
      session.Coherent ↔ ¬ Drained calls name := by
    constructor
    · intro hcoherent hdrained
      obtain ⟨drained, hget, hdangles⟩ := hdrained.dangles
      rw [hsession, Option.some.injEq] at hget
      exact hdangles.not_coherent (hget ▸ hcoherent)
    · intro hkept
      rcases run_coherent_or_drained hsession with hcoherent | ⟨-, hdrained⟩
      · exact hcoherent
      · exact absurd hdrained hkept
  refine ⟨hcalls, fun config engine hreachable hsession => ?_⟩
  obtain ⟨calls, hrun⟩ := hreachable.sessions_leads
  exact ⟨calls, hrun, hcalls calls (hrun ▸ hsession)⟩

/-- A session that has lost one of two keys for good is still bound to the other. -/
theorem run_coherent_iff_of_two_keys :
    (run ∅ [⟨"s", .bindModel "north" "large" [⟨"north", "a", "large"⟩, ⟨"north", "b", "large"⟩]⟩,
      ⟨"s", .rotate ⟨"north", "a", "large"⟩ true⟩]).get? "s" =
        some { mode := .model, target := some ("north", "large"),
               queue := [⟨"north", "b", "large"⟩] } ∧
      ¬ Drained [⟨"s", .bindModel "north" "large" [⟨"north", "a", "large"⟩,
        ⟨"north", "b", "large"⟩]⟩, ⟨"s", .rotate ⟨"north", "a", "large"⟩ true⟩] "s" := by
  refine ⟨rfl, ((run_coherent_iff _ _).1 _ rfl).mp ?_⟩
  exact ⟨iff_of_false BindingMode.noConfusion (Option.some_ne_none _),
    iff_of_false BindingMode.noConfusion (List.cons_ne_nil _ [])⟩

def modelRequest : SelectionRequest where
  session := some "s"
  instructions := [.sticky "north" "large" none]

/-- Fatal errors of all keys of a model leave the session bound to it without a key. -/
theorem not_forall_coherent :
    ¬ ∀ config engine, Engine.Reachable config engine → ∀ name session,
      engine.sessions.get? name = some session → session.Coherent := by
  intro hall
  obtain ⟨engine, hbuilt⟩ := Engine.exists_ofConfiguration_twoAliases
  let refusal (keyAlias : String) : EngineCall :=
    .reportError { key := ⟨"north", keyAlias, "large"⟩, status := some 401, time := 5 } (some "s")
  let drained := ((engine.perform 0 (.select "chat" modelRequest)).perform 5 (refusal "a")).perform
    5 (refusal "b")
  have hreachable : Engine.Reachable Engine.twoAliases drained :=
    (((Engine.Reachable.built hbuilt).called 0 (.select "chat" modelRequest)).called 5
      (refusal "a")).called 5 (refusal "b")
  have hsession : (drained.sessions.get? "s").map (fun session => (session.mode, session.queue)) =
      some (.model, []) := by
    simp only [Engine.ofConfiguration, Engine.publish, Routes.ofConfiguration,
      Engine.twoAliases_valid] at hbuilt
    cases hbuilt
    decide +kernel
  obtain ⟨session, hget, hbound⟩ := Option.map_eq_some_iff.mp hsession
  obtain ⟨hmode, hqueue⟩ := Prod.mk.inj hbound
  have hunbound := (hall _ _ hreachable "s" session hget).queue_iff.mpr hqueue
  rw [hmode] at hunbound
  exact BindingMode.noConfusion hunbound

end Sessions

end ProviderRouting
