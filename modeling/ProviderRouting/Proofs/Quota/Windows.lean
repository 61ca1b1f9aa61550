import ProviderRouting.Quota.Ledger
import Mathlib.Tactic.Common

/-!
# Blocking windows

An entry leaves the pool while one of its windows is open or one of its limits is reached.  What
happens to a key before a window ends never shortens that window: a look drops only windows that
have ended, and errors move an end forward or leave it.  A blacklist that comes from a fatal
error stays fatal for the same reason.
-/

namespace ProviderRouting

namespace QuotaEntry

variable {entry before after last : QuotaEntry} {now window finish : Millis}
  {until? : Option Millis}

/-! ## An entry at a time -/

@[simp]
theorem asOf_cooldownUntil (entry : QuotaEntry) (now window : Millis) :
    (entry.asOf now window).cooldownUntil = stillOpen now entry.cooldownUntil := rfl

@[simp]
theorem asOf_blacklistUntil (entry : QuotaEntry) (now window : Millis) :
    (entry.asOf now window).blacklistUntil = stillOpen now entry.blacklistUntil := rfl

@[simp]
theorem asOf_depletedUntil (entry : QuotaEntry) (now window : Millis) :
    (entry.asOf now window).depletedUntil = stillOpen now entry.depletedUntil := rfl

@[simp]
theorem asOf_fatal (entry : QuotaEntry) (now window : Millis) :
    (entry.asOf now window).fatal =
      (entry.fatal && (stillOpen now entry.blacklistUntil).isSome) := rfl

theorem asOf_reason (entry : QuotaEntry) (now window : Millis) :
    (entry.asOf now window).reason = (entry.asOf now window).strongestReason := rfl

theorem asOf_inPool (entry : QuotaEntry) (now window : Millis) :
    (entry.asOf now window).inPool = ((entry.asOf now window).strongestReason == .ok) := rfl

theorem stillOpen_eq_none_iff :
    stillOpen now until? = none ↔ ∀ time, until? = some time → time ≤ now := by
  cases until? with
  | none => simp [stillOpen]
  | some time =>
      simp only [stillOpen, Option.filter_eq_none_iff, Option.some.injEq, forall_eq',
        decide_eq_true_eq, Millis.lt_iff, Millis.le_iff, Int.not_lt]

@[simp]
theorem stillOpen_stillOpen (now : Millis) (until? : Option Millis) :
    stillOpen now (stillOpen now until?) = stillOpen now until? := by
  simp [stillOpen, Option.filter_filter]

theorem strongestReason_eq_ok_iff (entry : QuotaEntry) :
    entry.strongestReason = .ok ↔
      entry.cooldownUntil = none ∧ entry.blacklistUntil = none ∧ entry.depletedUntil = none ∧
        entry.isDepleted = false := by
  rw [strongestReason]
  cases entry.blacklistUntil <;> cases entry.cooldownUntil <;> cases entry.depletedUntil <;>
    cases entry.fatal <;> cases entry.isDepleted <;> simp

/-- Nothing in an entry blocks its key: every window has ended, and no limit is reached. -/
structure Unblocked (entry : QuotaEntry) (now window : Millis) : Prop where
  cooldown : ∀ time, entry.cooldownUntil = some time → time ≤ now
  blacklist : ∀ time, entry.blacklistUntil = some time → time ≤ now
  depletion : ∀ time, entry.depletedUntil = some time → time ≤ now
  usage : (entry.asOf now window).isDepleted = false

/-- A key may be selected exactly when nothing blocks it. -/
theorem asOf_inPool_iff (entry : QuotaEntry) (now window : Millis) :
    (entry.asOf now window).inPool = true ↔ entry.Unblocked now window := by
  rw [asOf_inPool, beq_iff_eq, strongestReason_eq_ok_iff]
  simp only [asOf_cooldownUntil, asOf_blacklistUntil, asOf_depletedUntil, stillOpen_eq_none_iff]
  constructor
  · rintro ⟨hcooldown, hblacklist, hdepletion, husage⟩
    exact ⟨hcooldown, hblacklist, hdepletion, husage⟩
  · rintro ⟨hcooldown, hblacklist, hdepletion, husage⟩
    exact ⟨hcooldown, hblacklist, hdepletion, husage⟩

/-! ## Windows that last -/

def LastsUntil (finish : Millis) (until? : Option Millis) : Prop :=
  ∃ time, until? = some time ∧ finish ≤ time

theorem LastsUntil.of_eq_some (huntil : until? = some finish) : LastsUntil finish until? :=
  ⟨finish, huntil, Int.le_refl _⟩

theorem LastsUntil.stillOpen (hlasts : LastsUntil finish until?) (hnow : now < finish) :
    LastsUntil finish (stillOpen now until?) := by
  obtain ⟨time, huntil, hfinish⟩ := hlasts
  exact ⟨time, stillOpen_eq_some_iff.mpr ⟨huntil, Int.lt_of_lt_of_le hnow hfinish⟩, hfinish⟩

theorem LastsUntil.extend (hlasts : LastsUntil finish until?) (time : Millis) :
    LastsUntil finish (extend until? time) := by
  obtain ⟨current, rfl, hfinish⟩ := hlasts
  refine ⟨max current time, rfl, ?_⟩
  rw [Millis.le_iff, Millis.value_max]
  exact Int.le_trans hfinish (Int.le_max_left _ _)

theorem not_unblocked_of_cooldown (hlasts : LastsUntil finish entry.cooldownUntil)
    (hnow : now < finish) : ¬ entry.Unblocked now window := by
  intro hunblocked
  obtain ⟨time, huntil, hfinish⟩ := hlasts
  exact Int.not_lt.mpr (hunblocked.cooldown time huntil) (Int.lt_of_lt_of_le hnow hfinish)

theorem not_unblocked_of_blacklist (hlasts : LastsUntil finish entry.blacklistUntil)
    (hnow : now < finish) : ¬ entry.Unblocked now window := by
  intro hunblocked
  obtain ⟨time, huntil, hfinish⟩ := hlasts
  exact Int.not_lt.mpr (hunblocked.blacklist time huntil) (Int.lt_of_lt_of_le hnow hfinish)

/-- A fatal blacklist outweighs every other reason. -/
theorem asOf_reason_eq_fatal (hlasts : LastsUntil finish entry.blacklistUntil)
    (hfatal : entry.fatal = true) (hnow : now < finish) :
    (entry.asOf now window).reason = .fatal := by
  obtain ⟨time, hopen, -⟩ := hlasts.stillOpen hnow
  simp [asOf_reason, strongestReason, hopen, hfatal]

/-! ## What happens before a window ends -/

/-- The windows that last until a time, and a fatal blacklist that does, still do. -/
structure Prolongs (finish : Millis) (before after : QuotaEntry) : Prop where
  cooldown : LastsUntil finish before.cooldownUntil → LastsUntil finish after.cooldownUntil
  blacklist : LastsUntil finish before.blacklistUntil → LastsUntil finish after.blacklistUntil
  fatal : LastsUntil finish before.blacklistUntil → before.fatal = true → after.fatal = true

namespace Prolongs

theorem refl (finish : Millis) (entry : QuotaEntry) : Prolongs finish entry entry :=
  ⟨id, id, fun _ => id⟩

theorem trans (hfirst : Prolongs finish before entry) (hsecond : Prolongs finish entry after) :
    Prolongs finish before after where
  cooldown hlasts := hsecond.cooldown (hfirst.cooldown hlasts)
  blacklist hlasts := hsecond.blacklist (hfirst.blacklist hlasts)
  fatal hlasts hfatal := hsecond.fatal (hfirst.blacklist hlasts) (hfirst.fatal hlasts hfatal)

theorem of_eq (hcooldown : after.cooldownUntil = before.cooldownUntil)
    (hblacklist : after.blacklistUntil = before.blacklistUntil)
    (hfatal : after.fatal = before.fatal) : Prolongs finish before after where
  cooldown hlasts := by rwa [hcooldown]
  blacklist hlasts := by rwa [hblacklist]
  fatal _ hbefore := by rwa [hfatal]

end Prolongs

theorem asOf_prolongs (hnow : now < finish) : Prolongs finish entry (entry.asOf now window) where
  cooldown hlasts := hlasts.stillOpen hnow
  blacklist hlasts := hlasts.stillOpen hnow
  fatal hlasts hfatal := by
    obtain ⟨time, hopen, -⟩ := hlasts.stillOpen hnow
    simp [hfatal, hopen]

theorem escalate_prolongs (settings : QuotaSettings) (errorClass : ErrorClass)
    (retryAfter : Option Millis) (now : Millis) :
    Prolongs finish entry (entry.escalate settings errorClass retryAfter now) := by
  by_cases hclass : errorClass = .fatal
  · simp only [escalate, if_pos hclass]
    exact ⟨id, fun hlasts => hlasts.extend _, fun _ _ => rfl⟩
  · simp only [escalate, if_neg hclass]
    refine ⟨fun hlasts => hlasts.extend _, fun hlasts => ?_, fun _ => id⟩
    split
    · exact hlasts.extend _
    · exact hlasts

/-- The windows are looked at twice, before the error is counted and once it had its effect. -/
theorem afterError_prolongs {event : ErrorEvent} (settings : QuotaSettings)
    (hnow : event.time < finish) : Prolongs finish entry (entry.afterError settings event) := by
  rw [afterError]
  refine Prolongs.trans ?_ (asOf_prolongs hnow)
  have hseen : Prolongs finish entry (entry.asOf event.time settings.usageWindow) :=
    asOf_prolongs hnow
  have hcounted : Prolongs finish entry ((entry.asOf event.time settings.usageWindow).countError
      settings event.errorClass event.time) :=
    hseen.trans (.of_eq rfl rfl rfl)
  have hblocked := hcounted.trans
    (escalate_prolongs settings event.errorClass event.retryAfter event.time)
  exact hblocked.trans (.of_eq rfl rfl rfl)

theorem afterSuccess_prolongs (settings : QuotaSettings) (hnow : now < finish) :
    Prolongs finish entry (entry.afterSuccess settings now) := by
  rw [afterSuccess]
  refine Prolongs.trans ?_ (asOf_prolongs hnow)
  exact .of_eq rfl rfl rfl

theorem afterUsage_prolongs (settings : QuotaSettings) (tokens : UInt64) (hnow : now < finish) :
    Prolongs finish entry (entry.afterUsage settings tokens now) := by
  rw [afterUsage]
  refine Prolongs.trans ?_ (asOf_prolongs hnow)
  have hseen : Prolongs finish entry (entry.asOf now settings.usageWindow) := asOf_prolongs hnow
  exact hseen.trans (.of_eq rfl rfl rfl)

theorem afterReport_prolongs (settings : QuotaSettings) (remaining : Float)
    (resetAt : Option Millis) (hnow : now < finish) :
    Prolongs finish entry (entry.afterReport settings remaining resetAt now) := by
  rw [afterReport]
  refine Prolongs.trans ?_ (asOf_prolongs hnow)
  exact .of_eq rfl rfl rfl

theorem withStatic_prolongs (limits : Option UsageLimits) (priorityTier : Option UInt32) :
    Prolongs finish entry (entry.withStatic limits priorityTier) :=
  .of_eq rfl rfl rfl

end QuotaEntry

namespace QuotaLedger

/-! ## A whole ledger -/

/-- Every key's entry keeps the windows that last until a time. -/
def Prolongs (finish : Millis) (before after : QuotaLedger) : Prop :=
  ∀ key, (before.entry key).Prolongs finish (after.entry key)

variable {before after ledger : QuotaLedger} {finish now : Millis} {key : ProviderKey}

theorem Prolongs.refl (finish : Millis) (ledger : QuotaLedger) : ledger.Prolongs finish ledger :=
  fun key => .refl finish (ledger.entry key)

theorem Prolongs.trans (hfirst : before.Prolongs finish ledger)
    (hsecond : ledger.Prolongs finish after) : before.Prolongs finish after :=
  fun key => (hfirst key).trans (hsecond key)

/-- Storing an entry concerns its own key only. -/
theorem store_prolongs {stored : QuotaEntry}
    (hstored : (ledger.entry key).Prolongs finish stored) :
    ledger.Prolongs finish (ledger.store key stored) := by
  intro probe
  rw [entry_store]
  by_cases hprobe : probe = key
  · rw [if_pos hprobe, hprobe]
    exact hstored
  · rw [if_neg hprobe]
    exact .refl finish (ledger.entry probe)

theorem noteError_prolongs {event : ErrorEvent} (hnow : event.time < finish) :
    ledger.Prolongs finish (ledger.noteError event).2 :=
  store_prolongs (QuotaEntry.afterError_prolongs ledger.settings hnow)

theorem noteSuccess_prolongs {event : SuccessEvent} (hnow : event.time < finish) :
    ledger.Prolongs finish (ledger.noteSuccess event).2 :=
  store_prolongs (QuotaEntry.afterSuccess_prolongs ledger.settings hnow)

theorem noteUsage_prolongs (tokens : UInt64) (hnow : now < finish) :
    ledger.Prolongs finish (ledger.noteUsage key tokens now).2 :=
  store_prolongs (QuotaEntry.afterUsage_prolongs ledger.settings tokens hnow)

theorem noteReport_prolongs (report : QuotaReport) (hnow : now < finish) :
    ledger.Prolongs finish (ledger.noteReport report now).2 :=
  store_prolongs (QuotaEntry.afterReport_prolongs ledger.settings report.remaining report.resetAt
    hnow)

theorem putStatic_prolongs (limits : Option UsageLimits) (priorityTier : Option UInt32) :
    ledger.Prolongs finish (ledger.putStatic key limits priorityTier) :=
  store_prolongs (QuotaEntry.withStatic_prolongs limits priorityTier)

/-- Clearing a key says nothing about the others. -/
theorem entry_clear_of_ne {probe : ProviderKey} (hne : probe ≠ key) :
    (ledger.clear key now).2.entry probe = ledger.entry probe := by
  rw [clear]
  cases ledger.entries.get? key with
  | none => rfl
  | some entry => rw [entry_store, if_neg hne]

end QuotaLedger

end ProviderRouting
