import ProviderRouting.Proofs.Session.Bindings

/-!
# What a binding answers

A binding has something to say only about a request without a hint, and only on a route that lists
one of the queued keys.  Then it answers with a queued key that may be used, or it is dropped.  A
session without a binding has nothing to say until it is bound again, whatever else is done to it.
-/

namespace ProviderRouting

namespace Session

variable {session : Session} {query : BindingQuery} {key : ProviderKey}

theorem applies_iff {inRoute : ProviderKey → Bool} :
    session.applies inRoute = true ↔
      session.mode ≠ .unbound ∧ ∃ key ∈ session.queue, inRoute key = true := by
  rw [applies, Bool.and_eq_true, bne_iff_ne, List.any_eq_true]

theorem pick?_eq_none_iff :
    session.pick? query = none ↔ session.candidates query.inRoute query.selectable = [] := by
  rw [pick?]
  cases query.recover with
  | true => exact heaviest?_eq_none_iff
  | false => exact List.head?_eq_none_iff

/-- A binding answers with the first candidate, or with the earliest of the heaviest ones. -/
theorem pick?_eq_some_iff :
    session.pick? query = some key ↔
      if query.recover then
        EarliestGreatest (fun key => (query.weight key : Int))
          (session.candidates query.inRoute query.selectable) key
      else (session.candidates query.inRoute query.selectable).head? = some key := by
  rw [pick?]
  cases query.recover with
  | true => exact firstGreatest?_eq_some_iff
  | false => exact Iff.rfl

end Session

namespace Sessions

variable {sessions : Sessions} {name : String} {query : BindingQuery} {session : Session}
  {candidates : List ProviderKey}

/-! ## Sessions without a binding -/

def IsUnbound (sessions : Sessions) (name : String) : Prop :=
  ∀ session, sessions.get? name = some session → session.mode = .unbound

theorem IsUnbound.run (hunbound : sessions.IsUnbound name) {calls : List SessionCall}
    (hcalls : ∀ call ∈ calls, call.name = name → ¬ call.change.Binds) :
    (sessions.run calls).IsUnbound name := by
  induction calls generalizing sessions with
  | nil => exact hunbound
  | cons call rest ih =>
      rw [List.forall_mem_cons] at hcalls
      refine ih (fun after hafter => ?_) hcalls.2
      rw [get?_perform] at hafter
      by_cases hname : name = call.name
      · rw [if_pos hname] at hafter
        exact SessionChange.apply_unbound hunbound (hcalls.1 hname.symm) hafter
      · rw [if_neg hname] at hafter
        exact hunbound after hafter

/-! ## The answer -/

/-- When a binding has nothing to say. -/
theorem select_notApplicable_iff :
    (sessions.select name query).1 = .notApplicable ↔
      query.hint ≠ none ∨ sessions.get? name = none ∨
        ∃ session, sessions.get? name = some session ∧
          (session.mode = .unbound ∨ ∀ key ∈ session.queue, query.inRoute key = false) := by
  cases hhint : query.hint with
  | some hint => simp [select, hhint]
  | none =>
      cases hsession : sessions.get? name with
      | none => simp [select, hhint, hsession]
      | some session =>
          have happlies : session.applies query.inRoute = false ↔
              session.mode = .unbound ∨ ∀ key ∈ session.queue, query.inRoute key = false := by
            rw [← Bool.not_eq_true, Session.applies_iff]
            simp [imp_iff_or_not, or_comm]
          rw [select_of_session hhint hsession]
          cases hroute : session.applies query.inRoute with
          | true =>
              have hbound := mt happlies.mpr (by simp [hroute])
              cases session.pick? query <;> simpa using hbound
          | false => simpa using happlies.mp hroute

theorem select_of_unbound (hunbound : sessions.IsUnbound name) (query : BindingQuery) :
    (sessions.select name query).1 = .notApplicable := by
  rw [select_notApplicable_iff]
  cases hsession : sessions.get? name with
  | none => exact .inr (.inl rfl)
  | some session => exact .inr (.inr ⟨session, rfl, .inl (hunbound session hsession)⟩)

/-- Only a binding that is dropped changes anything. -/
theorem select_snd_eq (hselect : (sessions.select name query).1 ≠ .cleared) :
    (sessions.select name query).2 = sessions := by
  rcases sessions.select_cases name query with hcase | ⟨session, -, hcase⟩
  · rw [hcase]
  · rw [hcase] at hselect ⊢
    cases hpick : session.pick? query with
    | some key => rfl
    | none => exact absurd (by rw [hpick]) hselect

theorem select_eq_of_applicable (hsession : sessions.get? name = some session)
    (hselect : (sessions.select name query).1 ≠ .notApplicable) :
    sessions.select name query =
      match session.pick? query with
      | some key => (.selected key, sessions)
      | none => (.cleared, sessions.release name session) := by
  rcases sessions.select_cases name query with hcase | ⟨present, hpresent, hcase⟩
  · exact absurd (congrArg Prod.fst hcase) hselect
  · obtain rfl := Option.some.inj (hsession.symm.trans hpresent)
    exact hcase

/-- A binding with a candidate left answers with one of them, and nothing changes. -/
theorem select_eq_selected (hsession : sessions.get? name = some session)
    (hselect : (sessions.select name query).1 ≠ .notApplicable)
    (hleft : session.candidates query.inRoute query.selectable ≠ []) :
    ∃ key, sessions.select name query = (.selected key, sessions) ∧
      session.pick? query = some key := by
  have hcase := select_eq_of_applicable hsession hselect
  cases hpick : session.pick? query with
  | none => exact absurd (Session.pick?_eq_none_iff.mp hpick) hleft
  | some key =>
      rw [hpick] at hcase
      exact ⟨key, hcase, rfl⟩

/-- A binding without a candidate is dropped, and so is the session if it has no filter. -/
theorem select_eq_cleared (hsession : sessions.get? name = some session)
    (hselect : (sessions.select name query).1 ≠ .notApplicable)
    (hnone : session.candidates query.inRoute query.selectable = []) :
    sessions.select name query = (.cleared, sessions.release name session) := by
  rw [select_eq_of_applicable hsession hselect, Session.pick?_eq_none_iff.mpr hnone]

theorem release_isUnbound (sessions : Sessions) (name : String) (session : Session) :
    (sessions.release name session).IsUnbound name := by
  intro after hafter
  rw [get?_release, if_pos rfl] at hafter
  split at hafter
  · cases hafter
  · cases hafter
    rfl

/-- What a binding answers: nothing to say, and nothing changed, for a request with a hint, for a
session that is not there or not bound, and on a route without a queued key; else one of the queued
keys that the route lists, the filter lets through and that can be selected; and if there is none,
the binding is dropped and the filter kept.  From then on there is nothing to say until the session
is bound again.  Other sessions stay as they are. -/
theorem select_answers (sessions : Sessions) (name : String) (query : BindingQuery) :
    ((sessions.select name query).1 = .notApplicable ↔
      query.hint ≠ none ∨ sessions.get? name = none ∨
        ∃ session, sessions.get? name = some session ∧
          (session.mode = .unbound ∨ ∀ key ∈ session.queue, query.inRoute key = false)) ∧
    ((sessions.select name query).1 = .notApplicable →
      (sessions.select name query).2 = sessions) ∧
    (∀ session candidates, sessions.get? name = some session →
      candidates = session.queue.filter (fun key =>
        query.inRoute key && session.filter.admits key && query.selectable key) →
      (sessions.select name query).1 ≠ .notApplicable →
        (candidates ≠ [] → ∃ key, sessions.select name query = (.selected key, sessions) ∧
          if query.recover then
            EarliestGreatest (fun key => (query.weight key : Int)) candidates key
          else candidates.head? = some key) ∧
        (candidates = [] → (sessions.select name query).1 = .cleared ∧
          (sessions.select name query).2.get? name =
            (if session.filter.isEmpty then none
              else some
                { mode := .unbound, target := none, queue := [], filter := session.filter }) ∧
          ∀ calls : List SessionCall, (∀ call ∈ calls, call.name = name → ¬ call.change.Binds) →
            ∀ later, (((sessions.select name query).2.run calls).select name later).1 =
              .notApplicable)) ∧
    ∀ other, other ≠ name → (sessions.select name query).2.get? other = sessions.get? other := by
  refine ⟨select_notApplicable_iff, fun hselect => select_snd_eq (by simp [hselect]), ?_, ?_⟩
  · rintro session candidates hsession rfl hselect
    constructor
    · intro hleft
      obtain ⟨key, hcase, hpick⟩ := select_eq_selected hsession hselect hleft
      exact ⟨key, hcase, Session.pick?_eq_some_iff.mp hpick⟩
    · intro hnone
      rw [select_eq_cleared hsession hselect hnone]
      refine ⟨rfl, (get?_release _ _ _ _).trans (if_pos rfl), fun calls hcalls later => ?_⟩
      exact select_of_unbound ((release_isUnbound sessions name session).run hcalls) later
  · intro other hother
    rw [get?_select, if_neg hother]

/-- Two keys of a model, of which the session does not want the first one. -/
def choosySession : Session where
  mode := .model
  target := some ("north", "large")
  queue := [⟨"north", "a", "large"⟩, ⟨"north", "b", "large"⟩]
  filter := { disabled := [.ofKey ⟨"north", "a", "large"⟩] }

/-- The second key is the answer while it can be selected.  Once it cannot, the binding is dropped
and the filter kept, and allowing all providers does not bring the binding back. -/
theorem select_answers_of_choosy :
    let sessions : Sessions := (∅ : Sessions).insert "s" choosySession
    let query (blocked : Bool) : BindingQuery :=
      { inRoute := fun _ => true, selectable := fun _ => !blocked, weight := fun _ => 1 }
    sessions.select "s" (query false) = (.selected ⟨"north", "b", "large"⟩, sessions) ∧
    (sessions.select "s" (query true)).1 = .cleared ∧
      (sessions.select "s" (query true)).2.get? "s" = some { filter := choosySession.filter } ∧
      (((sessions.select "s" (query true)).2.run [⟨"s", .allow []⟩]).select "s" (query false)).1 =
        .notApplicable := by
  intro sessions query
  have hsession : sessions.get? "s" = some choosySession := rfl
  constructor
  · have happlies : (sessions.select "s" (query false)).1 ≠ .notApplicable := by decide
    obtain ⟨key, hselect, hhead⟩ := ((select_answers sessions "s" (query false)).2.2.1 _ _ hsession
      rfl happlies).1 (by decide)
    obtain rfl : ⟨"north", "b", "large"⟩ = key := Option.some.inj hhead
    exact hselect
  · have happlies : (sessions.select "s" (query true)).1 ≠ .notApplicable := by decide
    obtain ⟨hcleared, hkept, hlater⟩ := ((select_answers sessions "s" (query true)).2.2.1 _ _
      hsession rfl happlies).2 (by decide)
    exact ⟨hcleared, hkept, hlater [⟨"s", .allow []⟩] (by simp [SessionChange.Binds]) (query false)⟩

end Sessions

end ProviderRouting
