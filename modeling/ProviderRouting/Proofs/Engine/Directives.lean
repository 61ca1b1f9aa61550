import ProviderRouting.Engine.Select
import Mathlib.Data.List.Induction

/-!
# What a request asks for

The instructions of a request are carried out one after another.  Their effect on the request
itself does not depend on the engine: the last instruction that names a target forces it, and for
a request without a session the last allowlist and every disabled target count.
-/

namespace ProviderRouting

namespace Instruction

/-- The target that an instruction forces on a request of this session. -/
def forced? (session : Option String) : Instruction → Option KeySelector
  | .force provider model keyAlias => some { provider, model := some model, keyAlias }
  | .sticky provider model keyAlias =>
      if session.isNone then some { provider, model := some model, keyAlias } else none
  | _ => none

def allowed? : Instruction → Option (List String)
  | .allow providers => some providers
  | _ => none

def disabled? : Instruction → Option KeySelector
  | .disable target => some target
  | _ => none

theorem disabled?_eq_some_iff {instruction : Instruction} {target : KeySelector} :
    instruction.disabled? = some target ↔ instruction = .disable target := by
  cases instruction <;> simp [disabled?]

end Instruction

namespace SelectionRequest

def forceTarget? (request : SelectionRequest) : Option KeySelector :=
  (request.instructions.filterMap (Instruction.forced? request.session)).getLast?

def allowlist? (request : SelectionRequest) : Option (List String) :=
  (request.instructions.filterMap Instruction.allowed?).getLast?

/-- The instructions of a request without a session let it use the key. -/
def Permits (request : SelectionRequest) (key : ProviderKey) : Prop :=
  request.session = none →
    (∀ providers, request.allowlist? = some providers → key.provider ∈ providers) ∧
      ∀ target, .disable target ∈ request.instructions → target.covers key = false

/-- What is left of the instructions for the request alone. -/
def directives (request : SelectionRequest) : Directives where
  force := request.forceTarget?
  allowed := if request.session.isNone then request.allowlist? else none
  disabled :=
    if request.session.isNone then request.instructions.filterMap Instruction.disabled? else []

theorem directives_admits_iff (request : SelectionRequest) (key : ProviderKey) :
    request.directives.admits key = true ↔ request.Permits key := by
  cases hsession : request.session with
  | some name => simp [directives, Directives.admits, Permits, hsession]
  | none =>
      have hdisabled :
          (request.instructions.filterMap Instruction.disabled?).any (·.covers key) = false ↔
            ∀ target, .disable target ∈ request.instructions → target.covers key = false := by
        simp only [List.any_eq_false, List.mem_filterMap, Instruction.disabled?_eq_some_iff,
          Bool.not_eq_true]
        constructor
        · intro hnone target htarget
          exact hnone target ⟨.disable target, htarget, rfl⟩
        · rintro hnone target ⟨instruction, hmem, rfl⟩
          exact hnone target hmem
      have hallowed : request.allowlist?.all (·.contains key.provider) = true ↔
          ∀ providers, request.allowlist? = some providers → key.provider ∈ providers := by
        cases request.allowlist? <;> simp
      simp only [directives, Directives.admits, Permits, hsession, Option.isNone_none, if_true,
        Bool.and_eq_true, Bool.not_eq_true', hallowed, hdisabled, forall_const]

end SelectionRequest

namespace Engine

/-- Carrying out instructions collects the directives, wherever the sessions start from. -/
theorem foldl_carryOut_fst (routes : Routes) (request : SelectionRequest) (sessions : Sessions) :
    (request.instructions.foldl (carryOut routes request.session) ({}, sessions)).1 =
      request.directives := by
  obtain ⟨instructions, excluded, isRetry, session, hint⟩ := request
  induction instructions using List.reverseRecOn with
  | nil => cases session <;> rfl
  | append_singleton earlier last ih =>
      rw [List.foldl_append, List.foldl_cons, List.foldl_nil]
      generalize hstate : earlier.foldl (carryOut routes session) ({}, sessions) = state at ih ⊢
      obtain ⟨directives, reached⟩ := state
      simp only at ih
      subst ih
      cases last <;> cases session <;>
        simp [carryOut, SelectionRequest.directives, SelectionRequest.forceTarget?,
          SelectionRequest.allowlist?, Instruction.forced?, Instruction.allowed?,
          Instruction.disabled?, List.filterMap_append]

theorem carryOutAll_fst (engine : Engine) (request : SelectionRequest) :
    (engine.carryOutAll request).1 = request.directives :=
  foldl_carryOut_fst engine.routes request engine.sessions

end Engine

end ProviderRouting
