import ProviderRouting.Proofs.Quota.Metering

/-!
# The parts of an entry

An entry has three parts that know nothing of each other: what its errors led to, what was used of
its limits, and what the provider reported.  The reason and the pool follow from the parts and the
limits.  So a look at an entry looks at each part on its own, and an entry that is up to date is
determined by its parts, its settings and the time stamp.
-/

namespace ProviderRouting

/-- What an entry keeps of the errors of its key. -/
structure ErrorRecord where
  cooldownUntil : Option Millis
  blacklistUntil : Option Millis
  fatal : Bool
  consecutive : UInt32
  series : UInt32
  lastAt : Option Millis
  lastClass : Option ErrorClass
  penalty : UInt32

/-- What an entry keeps of the reports of its key's provider. -/
structure Supply where
  remaining : Option Float
  depletedUntil : Option Millis

inductive EntryPart where
  | errors
  | usage
  | supply
deriving DecidableEq

namespace QuotaEntry

def errorRecord (entry : QuotaEntry) : ErrorRecord where
  cooldownUntil := entry.cooldownUntil
  blacklistUntil := entry.blacklistUntil
  fatal := entry.fatal
  consecutive := entry.consecutiveErrors
  series := entry.seriesErrors
  lastAt := entry.lastErrorAt
  lastClass := entry.lastErrorClass
  penalty := entry.penalty

def supply (entry : QuotaEntry) : Supply :=
  ⟨entry.remaining, entry.depletedUntil⟩

def AgreeOn : EntryPart → QuotaEntry → QuotaEntry → Prop
  | .errors, left, right => left.errorRecord = right.errorRecord
  | .usage, left, right => left.meter = right.meter
  | .supply, left, right => left.supply = right.supply

variable {left right other : QuotaEntry} {part : EntryPart}

theorem AgreeOn.symm (hsame : AgreeOn part left right) : AgreeOn part right left := by
  cases part <;> exact Eq.symm hsame

theorem AgreeOn.trans (hleft : AgreeOn part left other) (hright : AgreeOn part other right) :
    AgreeOn part left right := by
  cases part <;> exact Eq.trans hleft hright

structure SameSettings (left right : QuotaEntry) : Prop where
  limits : left.limits = right.limits
  priorityTier : left.priorityTier = right.priorityTier

/-- The entry with these parts, not yet brought up to date. -/
def ofParts (errors : ErrorRecord) (usage : Meter) (supply : Supply) (limits : UsageLimits)
    (priorityTier : UInt32) (updatedAt : Millis) : QuotaEntry where
  priorityTier
  cooldownUntil := errors.cooldownUntil
  blacklistUntil := errors.blacklistUntil
  fatal := errors.fatal
  consecutiveErrors := errors.consecutive
  seriesErrors := errors.series
  lastErrorAt := errors.lastAt
  lastErrorClass := errors.lastClass
  penalty := errors.penalty
  limits
  windowStartedAt := usage.startedAt
  windowRequests := usage.requests
  windowTokens := usage.tokens
  totalTokens := usage.total
  remaining := supply.remaining
  depletedUntil := supply.depletedUntil
  updatedAt

theorem judged_eq_ofParts (entry : QuotaEntry) :
    entry.judged = (ofParts entry.errorRecord entry.meter entry.supply entry.limits
      entry.priorityTier entry.updatedAt).judged := rfl

/-- Entries that are up to date are the same as soon as their parts are. -/
theorem eq_of_agreeOn (hleft : left.judged = left) (hright : right.judged = right)
    (hparts : ∀ part, AgreeOn part left right) (hsettings : SameSettings left right)
    (hupdated : left.updatedAt = right.updatedAt) : left = right := by
  have herrors : left.errorRecord = right.errorRecord := hparts .errors
  have husage : left.meter = right.meter := hparts .usage
  have hsupply : left.supply = right.supply := hparts .supply
  rw [← hleft, ← hright, judged_eq_ofParts left, judged_eq_ofParts right, herrors, husage,
    hsupply, hsettings.limits, hsettings.priorityTier, hupdated]

end QuotaEntry

/-! ## Looking at the parts -/

namespace QuotaEntry

variable {early now : Millis}

/-- What a look leaves open, an earlier look has left open too. -/
theorem stillOpen_of_le (until? : Option Millis) (hle : early ≤ now) :
    stillOpen now (stillOpen early until?) = stillOpen now until? := by
  apply Option.ext
  intro finish
  rw [stillOpen_eq_some_iff, stillOpen_eq_some_iff, stillOpen_eq_some_iff, and_assoc]
  have hearly (hlt : now < finish) : early < finish := Int.lt_of_le_of_lt hle hlt
  exact and_congr_right fun _ => and_iff_right_of_imp hearly

end QuotaEntry

open QuotaEntry (stillOpen stillOpen_of_le stillOpen_eq_some_iff)

namespace ErrorRecord

def asOf (record : ErrorRecord) (now : Millis) : ErrorRecord :=
  { record with
    cooldownUntil := stillOpen now record.cooldownUntil
    blacklistUntil := stillOpen now record.blacklistUntil
    fatal := record.fatal && (stillOpen now record.blacklistUntil).isSome }

theorem asOf_asOf (record : ErrorRecord) {early now : Millis} (hle : early ≤ now) :
    (record.asOf early).asOf now = record.asOf now := by
  have hlater : (stillOpen now record.blacklistUntil).isSome = true →
      (stillOpen early record.blacklistUntil).isSome = true := by
    rw [← stillOpen_of_le _ hle]
    cases stillOpen early record.blacklistUntil with
    | none => exact id
    | some finish => exact fun _ => rfl
  simp only [asOf, stillOpen_of_le _ hle, mk.injEq, true_and, and_true]
  rw [Bool.and_assoc, Bool.and_eq_right_iff_imp.mpr hlater]

end ErrorRecord

namespace Supply

def asOf (supply : Supply) (now : Millis) : Supply :=
  { supply with depletedUntil := stillOpen now supply.depletedUntil }

theorem asOf_asOf (supply : Supply) {early now : Millis} (hle : early ≤ now) :
    (supply.asOf early).asOf now = supply.asOf now := by
  simp only [asOf, stillOpen_of_le _ hle]

end Supply

namespace QuotaEntry

variable {left right : QuotaEntry} {part : EntryPart} {early now window : Millis}

@[simp]
theorem errorRecord_asOf (entry : QuotaEntry) (now window : Millis) :
    (entry.asOf now window).errorRecord = entry.errorRecord.asOf now := rfl

theorem AgreeOn.asOf (hsame : AgreeOn part left right) (now window : Millis) :
    AgreeOn part (left.asOf now window) (right.asOf now window) := by
  cases part with
  | errors => exact congrArg (·.asOf now) hsame
  | usage =>
      change (left.asOf now window).meter = (right.asOf now window).meter
      rw [meter_asOf, meter_asOf]
      exact congrArg (·.asOf now window) hsame
  | supply => exact congrArg (·.asOf now) hsame

/-- An earlier look makes no difference to a later one. -/
theorem asOf_asOf (entry : QuotaEntry) (window : Millis) (hle : early ≤ now) :
    (entry.asOf early window).asOf now window = entry.asOf now window := by
  refine eq_of_agreeOn rfl rfl (fun part => ?_) ⟨rfl, rfl⟩ rfl
  cases part with
  | errors => exact entry.errorRecord.asOf_asOf hle
  | usage =>
      change ((entry.asOf early window).asOf now window).meter = (entry.asOf now window).meter
      rw [meter_asOf, meter_asOf, meter_asOf, Meter.asOf_asOf _ _ hle]
  | supply => exact entry.supply.asOf_asOf hle

end QuotaEntry

end ProviderRouting
