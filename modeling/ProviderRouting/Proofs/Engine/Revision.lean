import ProviderRouting.Proofs.Engine.Answers
import ProviderRouting.Proofs.Engine.Restart
import Mathlib.Data.UInt

/-!
# How far the revision moves

Every change of the ledger or of the series guard moves the revision on by one.  How many changes a
call makes shows before the call is made.  An event changes the ledger and the series guard once
each at most, so only very many events lead the revision to its end.
-/

namespace ProviderRouting

theorem SeriesGuard.noteError_revision (guard : SeriesGuard) (event : ErrorEvent) :
    (guard.noteError event).2.revision =
      guard.revision + .ofNat (if guard.rules.meansNoCapacity event then 1 else 0) := by
  rw [SeriesGuard.noteError]
  split
  · rfl
  · exact guard.revision.add_zero.symm

namespace Engine

variable {engine : Engine} {config : Configuration} {now : Millis} {call : EngineCall}

/-- How many changes a call makes to what a snapshot holds. -/
def changes (engine : Engine) : EngineCall → Nat
  | .publish config =>
      match engine.publish config with
      | .ok after => after.routes.settings.size
      | .error _ => 0
  | .select _ _ => 0
  | .reportError event _ => 1 + if engine.series.rules.meansNoCapacity event then 1 else 0
  | .reportSuccess _ => 1
  | .reportUsage _ _ => 1
  | .reportQuota _ => 1
  | .forgive key => if engine.quota.entries.contains key then 1 else 0
  | .snapshot => 0
  | .restore snapshot =>
      match engine.restore snapshot with
      | .ok _ => 2
      | .error _ => 0

theorem applySettings_revision (ledger : QuotaLedger)
    (settings : Table ProviderKey StaticSettings) :
    (applySettings ledger settings).revision = ledger.revision + .ofNat settings.size := by
  rw [applySettings, Table.size]
  generalize settings.rows = rows
  induction rows generalizing ledger with
  | nil => exact ledger.revision.add_zero.symm
  | cons row rest ih =>
      rw [List.foldl_cons, ih, List.length_cons, UInt64.ofNat_add, ← UInt64.add_assoc,
        add_right_comm]
      rfl

/-- A call moves the revision on by one for each change that it makes. -/
theorem perform_revision (engine : Engine) (now : Millis) (call : EngineCall) :
    (engine.perform now call).revision = engine.revision + .ofNat (engine.changes call) := by
  have hsame {after : Engine} (hquota : after.quota = engine.quota)
      (hseries : after.series = engine.series) : after.revision = engine.revision + .ofNat 0 := by
    rw [revision, hquota, hseries]
    exact engine.revision.add_zero.symm
  have hledger : engine.quota.revision + 1 + engine.series.revision =
      engine.revision + .ofNat 1 := add_right_comm ..
  cases call with
  | publish config =>
      rw [perform, changes]
      cases hpublish : engine.publish config with
      | error cause => exact hsame rfl rfl
      | ok after =>
          obtain ⟨routes, series, -, hseries, rfl⟩ := publish_ok hpublish
          obtain ⟨rules, -, rfl⟩ := SeriesGuard.withSettings_ok hseries
          rw [revision, applySettings_revision]
          exact add_right_comm ..
  | select route request =>
      have hrecords := select_sameRecords engine now route request
      exact hsame hrecords.quota hrecords.series
  | reportError event session =>
      change engine.quota.revision + 1 + (engine.series.noteError event).2.revision = _
      rw [SeriesGuard.noteError_revision, ← UInt64.add_assoc, hledger, changes, UInt64.ofNat_add,
        UInt64.add_assoc]
  | reportSuccess event => exact hledger
  | reportUsage key tokens => exact hledger
  | reportQuota report => exact hledger
  | forgive key =>
      rw [perform, revision, forgive_quota, forgive_series, QuotaLedger.clear, changes,
        Table.contains]
      cases engine.quota.entries.get? key with
      | none => exact engine.revision.add_zero.symm
      | some entry => exact hledger
  | snapshot => exact engine.revision.add_zero.symm
  | restore snapshot =>
      rw [perform, changes]
      cases hrestore : engine.restore snapshot with
      | error cause => exact hsame rfl rfl
      | ok after =>
          obtain ⟨rows, -, -, rfl⟩ := restore_ok hrestore
          change engine.quota.revision + 1 + (engine.series.revision + 1) = _
          rw [← UInt64.add_assoc, hledger, UInt64.add_assoc]
          rfl

/-- A call that makes no change keeps all entries, and of the series cooldowns all that have not
ended. -/
theorem perform_of_changes_eq_zero (now : Millis) (hnone : engine.changes call = 0) :
    (engine.perform now call).quota.entries = engine.quota.entries ∧
      ∀ series finish, now < finish →
        ((engine.perform now call).series.cooldowns.get? series = some finish ↔
          engine.series.cooldowns.get? series = some finish) := by
  have hkept {after : Engine} (hentries : after.quota.entries = engine.quota.entries)
      (hseries : after.series.cooldowns = engine.series.cooldowns) :
      after.quota.entries = engine.quota.entries ∧
        ∀ series finish, now < finish →
          (after.series.cooldowns.get? series = some finish ↔
            engine.series.cooldowns.get? series = some finish) :=
    ⟨hentries, fun series finish _ => by rw [hseries]⟩
  cases call with
  | publish config =>
      rw [changes] at hnone
      rw [perform]
      cases hpublish : engine.publish config with
      | error cause => exact hkept rfl rfl
      | ok after =>
          rw [hpublish] at hnone
          obtain ⟨routes, series, -, hseries, rfl⟩ := publish_ok hpublish
          obtain ⟨rules, -, rfl⟩ := SeriesGuard.withSettings_ok hseries
          refine hkept ?_ rfl
          have hrows : routes.settings.rows = [] := List.length_eq_zero_iff.mp hnone
          change (applySettings _ routes.settings).entries = _
          rw [applySettings, hrows]
          rfl
  | select route request =>
      have hrecords := select_sameRecords engine now route request
      exact hkept (congrArg _ hrecords.quota) (congrArg _ hrecords.series)
  | reportError event session => simp [changes] at hnone
  | reportSuccess event => cases hnone
  | reportUsage key tokens => cases hnone
  | reportQuota report => cases hnone
  | forgive key =>
      have hunknown : engine.quota.entries.get? key = none := by
        cases hentry : engine.quota.entries.get? key with
        | none => rfl
        | some entry => simp [changes, Table.contains, hentry] at hnone
      refine hkept ?_ (congrArg _ (forgive_series engine key now))
      rw [perform, forgive_quota, QuotaLedger.clear, hunknown]
  | snapshot =>
      refine ⟨rfl, fun series finish hfinish => ?_⟩
      rw [perform, get?_snapshot_cooldowns, and_iff_left hfinish]
  | restore snapshot =>
      rw [changes] at hnone
      rw [perform]
      cases hrestore : engine.restore snapshot with
      | error cause => exact hkept rfl rfl
      | ok after => simp [hrestore] at hnone

def changesOf (engine : Engine) : List TimedCall → Nat
  | [] => 0
  | timed :: calls =>
      engine.changes timed.call + (engine.perform timed.time timed.call).changesOf calls

theorem run_revision (engine : Engine) (calls : List TimedCall) :
    (engine.run calls).revision = engine.revision + .ofNat (engine.changesOf calls) := by
  induction calls generalizing engine with
  | nil => exact engine.revision.add_zero.symm
  | cons timed rest ih =>
      rw [run_cons, ih, perform_revision, changesOf, UInt64.ofNat_add, UInt64.add_assoc]

/-- An event is one change of the ledger at most, and one of the series guard. -/
theorem changes_le_two (hevent : call.IsEvent) : engine.changes call ≤ 2 := by
  cases call with
  | reportError event session =>
      rw [changes]
      split <;> decide
  | reportSuccess event => exact Nat.le_succ 1
  | reportUsage key tokens => exact Nat.le_succ 1
  | reportQuota report => exact Nat.le_succ 1
  | forgive key =>
      rw [changes]
      split <;> decide
  | publish config => exact hevent.elim
  | select route request => exact hevent.elim
  | snapshot => exact hevent.elim
  | restore snapshot => exact hevent.elim

/-- The revision of a new engine counts the keys that the configuration says something about. -/
theorem Fresh.revision_eq (hfresh : Fresh config engine) :
    engine.revision = .ofNat (Routes.settingsOf config).size := by
  induction hfresh with
  | built hbuilt =>
      obtain ⟨routes, rules, hroutes, -, rfl⟩ := ofConfiguration_ok hbuilt
      obtain rfl := (Routes.ofConfiguration_ok hroutes).2
      rw [revision, applySettings_revision, UInt64.zero_add]
      exact UInt64.add_zero _
  | counting _ ih => exact ih
  | groupedBy _ group ih => exact ih
  | called _ _ _ hcall => exact hcall.elim

end Engine

/-! ## Bounds -/

/-- The revision has moved on by some changes, by at most so many. -/
def MovesBy (most : Nat) (before after : UInt64) : Prop :=
  ∃ changes ≤ most, after = before + .ofNat changes

namespace MovesBy

variable {first second : Nat} {before between after : UInt64}

theorem refl (revision : UInt64) : MovesBy 0 revision revision :=
  ⟨0, Nat.le_refl 0, revision.add_zero.symm⟩

theorem mono (hmoves : MovesBy first before after) (hle : first ≤ second) :
    MovesBy second before after := by
  obtain ⟨changes, hchanges, hafter⟩ := hmoves
  exact ⟨changes, hchanges.trans hle, hafter⟩

theorem trans (hfirst : MovesBy first before between) (hsecond : MovesBy second between after) :
    MovesBy (first + second) before after := by
  obtain ⟨earlier, hearlier, rfl⟩ := hfirst
  obtain ⟨later, hlater, rfl⟩ := hsecond
  exact ⟨earlier + later, Nat.add_le_add hearlier hlater,
    by rw [UInt64.ofNat_add, UInt64.add_assoc]⟩

/-- Where there is room for all changes, the revision does not wrap. -/
theorem toNat_le (hmoves : MovesBy first before after)
    (hroom : before.toNat + first < 18446744073709551616) :
    after.toNat ≤ before.toNat + first := by
  obtain ⟨changes, hchanges, rfl⟩ := hmoves
  rw [UInt64.toNat_add, UInt64.toNat_ofNat']
  omega

end MovesBy

theorem Engine.perform_movesBy {call : EngineCall} (hevent : call.IsEvent) (engine : Engine)
    (now : Millis) : MovesBy 2 engine.revision (engine.perform now call).revision :=
  ⟨engine.changes call, changes_le_two hevent, engine.perform_revision now call⟩

theorem Engine.ofConfiguration_movesBy {config : Configuration} {engine : Engine}
    (hbuilt : ofConfiguration config = .ok engine) :
    MovesBy (Routes.settingsOf config).rows.length 0 engine.revision :=
  ⟨_, Nat.le_refl _, (Fresh.revision_eq (.built hbuilt)).trans (UInt64.zero_add _).symm⟩

end ProviderRouting
