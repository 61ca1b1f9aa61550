import ProviderRouting.Proofs.Quota.History

/-!
# Escalation

What an error does to its key depends on the errors before it, of which an entry keeps counts
only.  Through every history of a ledger the counts are those of the errors since the key's last
success or reset and of the series that the last error belongs to; so an error opens the windows
that its place in that series calls for.
-/

namespace ProviderRouting

/-! ## Ledgers and their histories -/

namespace QuotaLedger

def apply (ledger : QuotaLedger) : LedgerEvent → QuotaLedger
  | .error event => (ledger.noteError event).2
  | .success event => (ledger.noteSuccess event).2
  | .usage key tokens time => (ledger.noteUsage key tokens time).2
  | .report report time => (ledger.noteReport report time).2
  | .static key limits priorityTier => ledger.putStatic key limits priorityTier
  | .clear key time => (ledger.clear key time).2

def ofHistory (settings : QuotaSettings) (history : List LedgerEvent) : QuotaLedger :=
  history.foldl apply { settings }

theorem ofHistory_append_singleton (settings : QuotaSettings) (history : List LedgerEvent)
    (event : LedgerEvent) :
    ofHistory settings (history ++ [event]) = (ofHistory settings history).apply event := by
  rw [ofHistory, List.foldl_append]
  rfl

theorem apply_settings (ledger : QuotaLedger) (event : LedgerEvent) :
    (ledger.apply event).settings = ledger.settings := by
  cases event with
  | clear key time =>
      rw [apply, clear]
      cases ledger.entries.get? key <;> rfl
  | _ => rfl

theorem ofHistory_settings (settings : QuotaSettings) (history : List LedgerEvent) :
    (ofHistory settings history).settings = settings := by
  induction history using List.reverseRecOn with
  | nil => rfl
  | append_singleton history event ih =>
      rw [ofHistory_append_singleton, apply_settings, ih]

end QuotaLedger

/-! ## What the counts of an entry stand for -/

namespace QuotaEntry

variable {entry after before : QuotaEntry} {settings : QuotaSettings} {window now : Millis}
  {errors : List ErrorEvent} {event : ErrorEvent}

structure SameCounts (before after : QuotaEntry) : Prop where
  consecutive : after.consecutiveErrors = before.consecutiveErrors
  series : after.seriesErrors = before.seriesErrors
  last_class : after.lastErrorClass = before.lastErrorClass
  last_time : after.lastErrorAt = before.lastErrorAt

theorem escalate_sameCounts (entry : QuotaEntry) (settings : QuotaSettings)
    (errorClass : ErrorClass) (retryAfter : Option Millis) (now : Millis) :
    SameCounts entry (entry.escalate settings errorClass retryAfter now) := by
  by_cases hclass : errorClass = .fatal
  · simp only [escalate, if_pos hclass]
    exact ⟨rfl, rfl, rfl, rfl⟩
  · simp only [escalate, if_neg hclass]
    exact ⟨rfl, rfl, rfl, rfl⟩

def counted (entry : QuotaEntry) (settings : QuotaSettings) (event : ErrorEvent) : QuotaEntry :=
  (entry.asOf event.time settings.usageWindow).countError settings event.errorClass event.time

theorem afterError_eq (entry : QuotaEntry) (settings : QuotaSettings) (event : ErrorEvent) :
    entry.afterError settings event =
      { (entry.counted settings event).escalate settings event.errorClass event.retryAfter
          event.time with updatedAt := event.time }.asOf event.time settings.usageWindow := rfl

theorem afterError_sameCounts (entry : QuotaEntry) (settings : QuotaSettings)
    (event : ErrorEvent) :
    SameCounts (entry.counted settings event) (entry.afterError settings event) := by
  have hescalated := escalate_sameCounts (entry.counted settings event) settings
    event.errorClass event.retryAfter event.time
  exact ⟨hescalated.consecutive, hescalated.series, hescalated.last_class, hescalated.last_time⟩

/-- The entry's counts are those of these errors, the last one first. -/
structure Tracks (window : Millis) (errors : List ErrorEvent) (entry : QuotaEntry) : Prop where
  consecutive : entry.consecutiveErrors.toNat = min errors.length 4294967295
  series : entry.seriesErrors.toNat = min (seriesLength window errors) 4294967295
  last_class : entry.lastErrorClass = errors.head?.map ErrorEvent.errorClass
  last_time : ∀ last, errors.head? = some last → entry.lastErrorAt = some last.time

theorem Tracks.nil (hconsecutive : entry.consecutiveErrors = 0) (hseries : entry.seriesErrors = 0)
    (hclass : entry.lastErrorClass = none) : Tracks window [] entry where
  consecutive := by rw [hconsecutive]; rfl
  series := by rw [hseries]; rfl
  last_class := hclass
  last_time _ hlast := by cases hlast

theorem Tracks.of_sameCounts (htracks : Tracks window errors before)
    (hsame : SameCounts before after) : Tracks window errors after where
  consecutive := by rw [hsame.consecutive, htracks.consecutive]
  series := by rw [hsame.series, htracks.series]
  last_class := by rw [hsame.last_class, htracks.last_class]
  last_time last hlast := by rw [hsame.last_time, htracks.last_time last hlast]

theorem Tracks.continuesSeries_iff {last : ErrorEvent} {rest : List ErrorEvent}
    (htracks : Tracks settings.seriesWindow (last :: rest) entry) :
    entry.continuesSeries settings event.errorClass event.time = true ↔
      event.Follows settings.seriesWindow last := by
  rw [continuesSeries, htracks.last_class, htracks.last_time last rfl, Bool.and_eq_true,
    beq_iff_eq, ErrorEvent.Follows]
  simp

theorem Tracks.le_seriesErrors_iff (htracks : Tracks window errors entry) (threshold : UInt32) :
    threshold ≤ entry.seriesErrors ↔ threshold.toNat ≤ seriesLength window errors := by
  -- The count saturates at the greatest threshold, so comparing it loses nothing.
  have hbound := threshold.toNat_lt
  rw [UInt32.le_iff_toNat_le, htracks.series]
  omega

/-- Counting an error puts it in front of the errors that the entry has counted. -/
theorem Tracks.counted (htracks : Tracks settings.seriesWindow errors entry) :
    Tracks settings.seriesWindow (event :: errors) (entry.counted settings event) where
  consecutive := by
    change (increment entry.consecutiveErrors).toNat = _
    rw [toNat_increment, htracks.consecutive, List.length_cons]
    omega
  series := by
    change (if entry.continuesSeries settings event.errorClass event.time = true then
      increment entry.seriesErrors else 1).toNat = _
    cases errors with
    | nil =>
        have hclass := htracks.last_class
        simp [continuesSeries, hclass, seriesLength]
    | cons last rest =>
        rw [seriesLength]
        by_cases hfollows : event.Follows settings.seriesWindow last
        · rw [if_pos hfollows, if_pos (htracks.continuesSeries_iff.mpr hfollows),
            toNat_increment, htracks.series]
          omega
        · rw [if_neg hfollows, if_neg (mt htracks.continuesSeries_iff.mp hfollows)]
          rfl
  last_class := rfl
  last_time last hlast := by
    cases hlast
    rfl

/-! ## What an error does -/

/-- A window, if it is open at a time, made to end no earlier than another time; if that has
passed and the window is not open, there is none. -/
def prolonged (now : Millis) (until? : Option Millis) (finish : Millis) : Option Millis :=
  stillOpen now (extend (stillOpen now until?) finish)

/-- An error has the effects of one that is the last of some errors in a row and of some errors
in a series. -/
structure Escalated (settings : QuotaSettings) (event : ErrorEvent) (errors series : Nat)
    (before after : QuotaEntry) : Prop where
  consecutive_count : after.consecutiveErrors.toNat = min errors 4294967295
  series_count : after.seriesErrors.toNat = min series 4294967295
  cooldown : event.errorClass ≠ .fatal →
    ∃ seconds, settings.cooldownSchedule[min after.seriesErrors.toNat
        settings.cooldownSchedule.length - 1]? = some seconds ∧
      after.cooldownUntil = prolonged event.time before.cooldownUntil
        (event.time.plus (max (.ofSeconds seconds) (max (event.retryAfter.getD 0) 0)))
  blacklist : event.errorClass ≠ .fatal →
    after.blacklistUntil =
      if settings.blacklistThreshold.toNat ≤ series then
        prolonged event.time before.blacklistUntil (event.time.plus settings.blacklist)
      else stillOpen event.time before.blacklistUntil
  fatal : event.errorClass = .fatal →
    after.blacklistUntil =
        prolonged event.time before.blacklistUntil (event.time.plus settings.fatalBlacklist) ∧
      after.fatal = after.blacklistUntil.isSome ∧
        after.cooldownUntil = stillOpen event.time before.cooldownUntil

/-- A schedule that is not empty has a step for every number of errors. -/
theorem cooldown_of_schedule {settings : QuotaSettings}
    (hschedule : settings.cooldownSchedule ≠ []) (errors : UInt32) :
    ∃ seconds, settings.cooldownSchedule[min errors.toNat
        settings.cooldownSchedule.length - 1]? = some seconds ∧
      settings.cooldown errors = .ofSeconds seconds := by
  have hlength := List.length_pos_iff.mpr hschedule
  have hstep : min errors.toNat settings.cooldownSchedule.length - 1 =
      min (errors.toNat - 1) (settings.cooldownSchedule.length - 1) := by omega
  have hbound : min errors.toNat settings.cooldownSchedule.length - 1 <
      settings.cooldownSchedule.length := by omega
  refine ⟨_, List.getElem?_eq_getElem hbound, ?_⟩
  rw [QuotaSettings.cooldown, ← hstep, List.getElem?_eq_getElem hbound]
  rfl

/-- The effects of one error, given what the entry has counted. -/
theorem afterError_escalated (hschedule : settings.cooldownSchedule ≠ [])
    (htracks : Tracks settings.seriesWindow errors entry) :
    Escalated settings event (event :: errors).length
      (seriesLength settings.seriesWindow (event :: errors)) entry
        (entry.afterError settings event) := by
  have hcounted : Tracks settings.seriesWindow (event :: errors) (entry.counted settings event) :=
    htracks.counted
  have hsame := afterError_sameCounts entry settings event
  have hafter := hcounted.of_sameCounts hsame
  refine ⟨hafter.consecutive, hafter.series, ?_, ?_, ?_⟩
  · intro hclass
    rw [hsame.series]
    obtain ⟨seconds, hseconds, hcooldown⟩ :=
      cooldown_of_schedule hschedule (entry.counted settings event).seriesErrors
    refine ⟨seconds, hseconds, ?_⟩
    rw [afterError_eq, escalate, if_neg hclass, hcooldown]
    rfl
  · intro hclass
    have hthreshold := hcounted.le_seriesErrors_iff settings.blacklistThreshold
    rw [afterError_eq, escalate, if_neg hclass]
    by_cases hreached : settings.blacklistThreshold.toNat ≤
        seriesLength settings.seriesWindow (event :: errors)
    · rw [if_pos hreached, if_pos (hthreshold.mpr hreached)]
      rfl
    · rw [if_neg hreached, if_neg (mt hthreshold.mp hreached)]
      exact stillOpen_stillOpen event.time entry.blacklistUntil
  · intro hclass
    rw [afterError_eq, escalate, if_pos hclass]
    exact ⟨rfl, rfl, stillOpen_stillOpen event.time entry.cooldownUntil⟩

end QuotaEntry

/-! ## Through a history -/

namespace QuotaLedger

variable {ledger : QuotaLedger} {settings : QuotaSettings} {key other : ProviderKey}
  {history : List LedgerEvent} {event : LedgerEvent} {errors : List ErrorEvent}
  {window time : Millis}

theorem store_tracks {stored : QuotaEntry} (hsame : (ledger.entry other).SameCounts stored)
    (htracks : (ledger.entry key).Tracks window errors) :
    ((ledger.store other stored).entry key).Tracks window errors := by
  rw [entry_store]
  by_cases hkey : key = other
  · rw [if_pos hkey]
    exact .of_sameCounts (hkey ▸ htracks) hsame
  · rw [if_neg hkey]
    exact htracks

theorem clear_tracks (ledger : QuotaLedger) (key : ProviderKey) (time window : Millis) :
    ((ledger.clear key time).2.entry key).Tracks window [] := by
  rw [clear]
  cases hstored : ledger.entries.get? key with
  | none =>
      rw [entry, hstored]
      exact .nil rfl rfl rfl
  | some stored =>
      rw [entry_store, if_pos rfl]
      exact .nil rfl rfl rfl

/-- Whatever happens to a ledger, the counts of each key stay those of its errors. -/
theorem apply_tracks (event : LedgerEvent) (hsettings : ledger.settings = settings)
    (htracks : (ledger.entry key).Tracks settings.seriesWindow (errorsSince key history)) :
    ((ledger.apply event).entry key).Tracks settings.seriesWindow
      (errorsSince key (history ++ [event])) := by
  subst hsettings
  rw [errorsSince_append_singleton]
  cases event with
  | error event =>
      rw [apply, noteError, entry_store]
      by_cases hkey : key = event.key
      · subst hkey
        simp only [LedgerEvent.forgives, LedgerEvent.errorOn?, if_true]
        exact htracks.counted.of_sameCounts (QuotaEntry.afterError_sameCounts _ _ _)
      · simp only [LedgerEvent.forgives, LedgerEvent.errorOn?, if_neg hkey, if_neg (Ne.symm hkey)]
        exact htracks
  | success event =>
      rw [apply, noteSuccess, entry_store]
      by_cases hkey : key = event.key
      · rw [if_pos hkey, LedgerEvent.forgives, decide_eq_true hkey.symm]
        exact .nil rfl rfl rfl
      · rw [if_neg hkey, LedgerEvent.forgives, decide_eq_false (Ne.symm hkey)]
        exact htracks
  | usage other tokens time => exact store_tracks ⟨rfl, rfl, rfl, rfl⟩ htracks
  | report report time => exact store_tracks ⟨rfl, rfl, rfl, rfl⟩ htracks
  | static other limits priorityTier => exact store_tracks ⟨rfl, rfl, rfl, rfl⟩ htracks
  | clear other time =>
      rw [apply]
      by_cases hkey : key = other
      · rw [← hkey, LedgerEvent.forgives, decide_eq_true rfl]
        exact clear_tracks ledger key time _
      · rw [LedgerEvent.forgives, decide_eq_false (Ne.symm hkey), entry_clear_of_ne hkey]
        exact htracks

/-- After every history, every key's entry has counted the errors since the last success. -/
theorem ofHistory_tracks (settings : QuotaSettings) (history : List LedgerEvent)
    (key : ProviderKey) :
    ((ofHistory settings history).entry key).Tracks settings.seriesWindow
      (errorsSince key history) := by
  -- An event changes the ledger at the end of its history, so the induction is from the right.
  induction history using List.reverseRecOn with
  | nil => exact .nil rfl rfl rfl
  | append_singleton history event ih =>
      rw [ofHistory_append_singleton]
      exact apply_tracks event (ofHistory_settings settings history) ih

theorem schedule_ne_nil_of_validate (hvalid : settings.validate = .ok ()) :
    settings.cooldownSchedule ≠ [] := by
  intro hschedule
  rw [QuotaSettings.validate, hschedule] at hvalid
  cases hvalid

/-- Whatever happened before, an error has the effects that its place among the errors since the
key's last success and in the series that it ends calls for. -/
theorem error_escalated (settings : QuotaSettings) (history : List LedgerEvent)
    (event : ErrorEvent) (hvalid : settings.validate = .ok ()) :
    ∃ series,
      LongestSeries settings.seriesWindow event.errorClass
          (errorsSince event.key (history ++ [.error event])) series ∧
        QuotaEntry.Escalated settings event
          (errorsSince event.key (history ++ [.error event])).length series
            ((ofHistory settings history).entry event.key)
              ((ofHistory settings (history ++ [.error event])).entry event.key) := by
  have hschedule := schedule_ne_nil_of_validate hvalid
  have htracks := ofHistory_tracks settings history event.key
  have herrors : errorsSince event.key (history ++ [.error event]) =
      event :: errorsSince event.key history := by
    rw [errorsSince_append_singleton]
    simp [LedgerEvent.forgives, LedgerEvent.errorOn?]
  have hafter : (ofHistory settings (history ++ [.error event])).entry event.key =
      ((ofHistory settings history).entry event.key).afterError settings event := by
    rw [ofHistory_append_singleton, apply, noteError, entry_store, if_pos rfl,
      ofHistory_settings]
  rw [herrors, hafter]
  exact ⟨_, longestSeries_seriesLength _ _ _, QuotaEntry.afterError_escalated hschedule htracks⟩

def rateLimitAt (time : Millis) : ErrorEvent where
  key := ⟨"north", "a", "large"⟩
  status := some 429
  time

/-- With the default settings, the third error in three minutes leads to a blacklist. -/
theorem third_error_escalated :
    ∃ series,
      LongestSeries ({} : QuotaSettings).seriesWindow .rateLimited
          (errorsSince ⟨"north", "a", "large"⟩ ([.error (rateLimitAt 0),
            .error (rateLimitAt 60000)] ++ [.error (rateLimitAt 120000)])) series ∧
        QuotaEntry.Escalated {} (rateLimitAt 120000) 3 series
          ((ofHistory {} [.error (rateLimitAt 0), .error (rateLimitAt 60000)]).entry
            ⟨"north", "a", "large"⟩)
          ((ofHistory {} ([.error (rateLimitAt 0), .error (rateLimitAt 60000)] ++
            [.error (rateLimitAt 120000)])).entry ⟨"north", "a", "large"⟩) ∧
          ((ofHistory {} ([.error (rateLimitAt 0), .error (rateLimitAt 60000)] ++
            [.error (rateLimitAt 120000)])).entry ⟨"north", "a", "large"⟩).blacklistUntil =
              some 21720000 := by
  obtain ⟨series, hseries, hescalated⟩ := error_escalated {}
    [.error (rateLimitAt 0), .error (rateLimitAt 60000)] (rateLimitAt 120000) (by decide)
  exact ⟨series, hseries, hescalated, by decide⟩

/-- A cooldown need not end where the wait after an error does: when there is nothing to wait
for, that is when the error happened, and the entry keeps no such window. -/
theorem not_forall_cooldown_eq_extend :
    ¬ ∀ (settings : QuotaSettings) (history : List LedgerEvent) (event : ErrorEvent)
        (series : Nat),
      settings.validate = .ok () → event.errorClass ≠ .fatal →
        LongestSeries settings.seriesWindow event.errorClass
            (errorsSince event.key (history ++ [.error event])) series →
          ∃ seconds, settings.cooldownSchedule[min series
              settings.cooldownSchedule.length - 1]? = some seconds ∧
            ((ofHistory settings (history ++ [.error event])).entry event.key).cooldownUntil =
              QuotaEntry.extend
                (QuotaEntry.stillOpen event.time
                  ((ofHistory settings history).entry event.key).cooldownUntil)
                (event.time.plus
                  (max (.ofSeconds seconds) (max (event.retryAfter.getD 0) 0))) := by
  intro hclaim
  obtain ⟨seconds, -, hcooldown⟩ := hclaim { cooldownSchedule := [0] } [] (rateLimitAt 1000) 1
    (by decide) (by decide) (longestSeries_seriesLength _ (rateLimitAt 1000) [])
  have hnone : ((ofHistory { cooldownSchedule := [0] } ([] ++ [.error (rateLimitAt 1000)])).entry
      (rateLimitAt 1000).key).cooldownUntil = none := by decide
  rw [hnone] at hcooldown
  cases hcooldown

end QuotaLedger

end ProviderRouting
