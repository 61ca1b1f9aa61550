import ProviderRouting.Proofs.Quota.Returning

/-!
# What entries never contradict

The reason of an entry is derived from its windows, the penalty repeats one of its counts, and the
two counts of errors, the last error and the usage window are changed apart from each other.
Whatever happens to a ledger, at whatever times, all of this fits together in every entry that is
stored.
-/

namespace ProviderRouting

theorem increment_ne_zero (count : UInt32) : increment count ≠ 0 := by
  intro hzero
  have hvalue := toNat_increment count
  rw [hzero, UInt32.toNat_zero] at hvalue
  omega

theorem increment_le_increment {fewer more : UInt32} (hle : fewer ≤ more) :
    increment fewer ≤ increment more := by
  rw [UInt32.le_iff_toNat_le] at hle ⊢
  rw [toNat_increment, toNat_increment]
  omega

theorem one_le_increment (count : UInt32) : 1 ≤ increment count := by
  rw [UInt32.le_iff_toNat_le, UInt32.toNat_one, toNat_increment]
  omega

/-! ## Records of errors -/

namespace ErrorRecord

/-- Only a blacklist is fatal, the penalty is the count of errors, and both counts and the last
error tell alike whether there was an error since the last success. -/
structure Consistent (record : ErrorRecord) : Prop where
  fatal : record.fatal = true → record.blacklistUntil.isSome = true
  penalty : record.penalty = record.consecutive
  series_le : record.series ≤ record.consecutive
  series_iff : record.series = 0 ↔ record.consecutive = 0
  lastClass_iff : record.lastClass = none ↔ record.consecutive = 0
  lastAt : record.consecutive ≠ 0 → record.lastAt.isSome = true

variable {record : ErrorRecord}

/-- A look takes away the mark of a fatal error with the blacklist. -/
theorem Consistent.asOf (hrecord : record.Consistent) (now : Millis) :
    (record.asOf now).Consistent :=
  { hrecord with fatal := fun hfatal => (Bool.and_eq_true_iff.mp hfatal).2 }

/-- With no error counted, nothing else has to be known of the errors. -/
theorem Consistent.of_no_errors
    (hfatal : record.fatal = true → record.blacklistUntil.isSome = true)
    (hconsecutive : record.consecutive = 0) (hseries : record.series = 0)
    (hpenalty : record.penalty = 0) (hclass : record.lastClass = none) : record.Consistent where
  fatal := hfatal
  penalty := hpenalty.trans hconsecutive.symm
  series_le := by rw [hseries]; exact UInt32.zero_le
  series_iff := iff_of_true hseries hconsecutive
  lastClass_iff := iff_of_true hclass hconsecutive
  lastAt hcount := absurd hconsecutive hcount

end ErrorRecord

namespace QuotaEntry

variable {entry : QuotaEntry}

theorem errorRecord_consistent_countError (entry : QuotaEntry)
    (hentry : entry.errorRecord.Consistent)
    (settings : QuotaSettings) (errorClass : ErrorClass) (now : Millis) :
    (entry.countError settings errorClass now).errorRecord.Consistent where
  fatal := hentry.fatal
  penalty := rfl
  series_le := by
    change (if entry.continuesSeries settings errorClass now then increment entry.seriesErrors
      else 1) ≤ increment entry.consecutiveErrors
    split
    · exact increment_le_increment hentry.series_le
    · exact one_le_increment entry.consecutiveErrors
  series_iff := by
    refine iff_of_false ?_ (increment_ne_zero entry.consecutiveErrors)
    change (if entry.continuesSeries settings errorClass now then increment entry.seriesErrors
      else 1) ≠ 0
    split
    · exact increment_ne_zero entry.seriesErrors
    · decide
  lastClass_iff :=
    iff_of_false (Option.some_ne_none errorClass) (increment_ne_zero entry.consecutiveErrors)
  lastAt _ := rfl

/-- A fatal error opens a blacklist, and other errors leave the mark as it is. -/
theorem errorRecord_consistent_escalate (hentry : entry.errorRecord.Consistent)
    (settings : QuotaSettings) (errorClass : ErrorClass) (retryAfter : Option Millis)
    (now : Millis) :
    (entry.escalate settings errorClass retryAfter now).errorRecord.Consistent := by
  by_cases hclass : errorClass = .fatal
  · rw [escalate, if_pos hclass]
    exact { hentry with fatal := fun _ => rfl }
  · rw [escalate, if_neg hclass]
    refine { hentry with fatal := fun hfatal => ?_ }
    change (if settings.blacklistThreshold ≤ entry.seriesErrors then
      extend entry.blacklistUntil (now.plus settings.blacklist) else entry.blacklistUntil).isSome =
        true
    split
    · rfl
    · exact hentry.fatal hfatal

theorem errorRecord_consistent_afterError (hentry : entry.errorRecord.Consistent)
    (settings : QuotaSettings) (event : ErrorEvent) :
    (entry.afterError settings event).errorRecord.Consistent := by
  have hcounted : (entry.counted settings event).errorRecord.Consistent :=
    errorRecord_consistent_countError (entry.asOf event.time settings.usageWindow)
      (hentry.asOf event.time) settings event.errorClass event.time
  exact (errorRecord_consistent_escalate hcounted settings event.errorClass event.retryAfter
    event.time).asOf event.time

/-- Of the errors, a success forgets all but the windows and the time of the last one. -/
theorem errorRecord_consistent_afterSuccess (hentry : entry.errorRecord.Consistent)
    (settings : QuotaSettings) (now : Millis) :
    (entry.afterSuccess settings now).errorRecord.Consistent := by
  have hforgotten : ErrorRecord.Consistent { entry.errorRecord with
      consecutive := 0
      series := 0
      lastClass := none
      penalty := 0 } :=
    .of_no_errors hentry.fatal rfl rfl rfl rfl
  exact hforgotten.asOf now

theorem errorRecord_consistent_cleared (entry : QuotaEntry) (now : Millis) :
    (entry.cleared now).errorRecord.Consistent :=
  .of_no_errors nofun rfl rfl rfl rfl

/-! ## Entries -/

/-- What an entry says of itself fits together: the pool and the windows with the reason, the counts
of errors with each other, and the counts of uses with the usage window. -/
structure Consistent (entry : QuotaEntry) : Prop where
  inPool_iff : entry.inPool = true ↔ entry.reason = .ok
  blacklist : entry.reason.blocksHard = true → entry.blacklistUntil.isSome = true
  cooldown : entry.reason = .cooldown → entry.cooldownUntil.isSome = true
  errors : entry.errorRecord.Consistent
  usage : entry.meter.CountsInWindow

/-- The reason of an entry that is up to date is that of one of its windows. -/
theorem blacklist_of_strongestReason (entry : QuotaEntry)
    (hreason : entry.strongestReason.blocksHard = true) :
    entry.blacklistUntil.isSome = true := by
  by_contra hnone
  rw [strongestReason, if_neg hnone] at hreason
  split at hreason
  · cases hreason
  · split at hreason <;> cases hreason

theorem cooldown_of_strongestReason (entry : QuotaEntry)
    (hreason : entry.strongestReason = .cooldown) :
    entry.cooldownUntil.isSome = true := by
  by_contra hnone
  rw [strongestReason, if_neg hnone] at hreason
  split at hreason
  · split at hreason <;> cases hreason
  · split at hreason <;> cases hreason

/-- An entry is consistent if its parts are and its reason is brought up to date. -/
theorem consistent_judged (entry : QuotaEntry) (herrors : entry.errorRecord.Consistent)
    (husage : entry.meter.CountsInWindow) : entry.judged.Consistent where
  inPool_iff := beq_iff_eq
  blacklist := entry.blacklist_of_strongestReason
  cooldown := entry.cooldown_of_strongestReason
  errors := herrors
  usage := husage

theorem consistent_asOf (entry : QuotaEntry) (now window : Millis)
    (herrors : (entry.asOf now window).errorRecord.Consistent)
    (husage : (entry.asOf now window).meter.CountsInWindow) :
    (entry.asOf now window).Consistent :=
  consistent_judged (entry.dropEnded now window) herrors husage

theorem consistent_new : Consistent {} where
  inPool_iff := iff_of_true rfl rfl
  blacklist := nofun
  cooldown := nofun
  errors := errorRecord_consistent_cleared {} 0
  usage _ := ⟨rfl, rfl⟩

/-- Every event leaves a consistent entry consistent. -/
theorem Consistent.change (hentry : entry.Consistent) (settings : QuotaSettings)
    (event : LedgerEvent) : (event.change settings entry).Consistent := by
  have husage : (event.change settings entry).meter.CountsInWindow :=
    countsInWindow_change settings event entry hentry.usage
  cases event with
  | error event =>
      exact consistent_asOf _ _ _
        (errorRecord_consistent_afterError hentry.errors settings event) husage
  | success event =>
      exact consistent_asOf _ _ _
        (errorRecord_consistent_afterSuccess hentry.errors settings event.time) husage
  | usage key tokens time =>
      exact consistent_asOf _ _ _ ((hentry.errors.asOf time).asOf time) husage
  | report report time => exact consistent_asOf _ _ _ (hentry.errors.asOf time) husage
  | static key limits tier => exact { hentry with }
  | clear key time =>
      exact
        { consistent_new with
          errors := errorRecord_consistent_cleared entry time
          usage := husage }

end QuotaEntry

namespace QuotaLedger

variable {ledger : QuotaLedger} {key : ProviderKey} {entry : QuotaEntry}

/-- Every entry that is stored in a ledger that can be reached is consistent. -/
theorem stored_consistent (hreach : ledger.Reachable)
    (hstored : ledger.entries.get? key = some entry) : entry.Consistent := by
  have hentry : ledger.entry key = entry := by rw [QuotaLedger.entry, hstored, Option.getD_some]
  rw [← hentry]
  exact hreach.entry QuotaEntry.consistent_new
    (fun settings event before hbefore => hbefore.change settings event) key

/-- A key fails for good, is used under new settings, and then an error comes in that is older than
all of this. -/
def lateLedger : QuotaLedger :=
  let failed := apply {} (.error ⟨⟨"north", "a", "large"⟩, none, some 401, none, 5000⟩)
  let used := { failed with settings := { usageWindowSeconds := 1 } }.apply
    (.usage ⟨"north", "a", "large"⟩ 7 4000)
  used.apply (.error ⟨⟨"north", "a", "large"⟩, none, some 500, none, 3000⟩)

/-- The late error is one of two, the first of its class, and leaves the key blocked for good. -/
theorem stored_consistent_of_late :
    lateLedger.Reachable ∧
      ∃ entry, lateLedger.entries.get? ⟨"north", "a", "large"⟩ = some entry ∧
        entry.Consistent ∧ entry.reason = .fatal ∧ entry.penalty = 2 ∧ entry.seriesErrors = 1 ∧
          entry.lastErrorAt = some 3000 ∧ entry.windowTokens = 7 := by
  have hreach : lateLedger.Reachable := by
    unfold lateLedger
    exact .event (.event (.reconfigured (.event (.initial {}) _) _) _) _
  obtain ⟨entry, hstored⟩ : ∃ entry, lateLedger.entries.get? ⟨"north", "a", "large"⟩ = some entry :=
    ⟨_, rfl⟩
  refine ⟨hreach, entry, hstored, stored_consistent hreach hstored, ?_⟩
  cases hstored
  decide +kernel

end QuotaLedger

end ProviderRouting
