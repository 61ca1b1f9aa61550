import ProviderRouting.Proofs.Quota.Causes

/-!
# Returning to the pool

For a blocked key the entry tells when it is selectable again: when the last of its windows ends,
the usage window included if a limit of it is reached.  Until then the key is blocked, and from then
on it is not, unless a limit of the usage window is zero.  Such a limit is reached by no use at all,
so the key stays blocked when the window is over, or if there is none.
-/

namespace ProviderRouting

/-- Not even a new usage window lets anything through. -/
def UsageLimits.allowsNothing (limits : UsageLimits) : Bool :=
  limits.requests == some 0 || limits.tokens == some 0

/-! ## Ledgers that can be reached -/

namespace QuotaLedger

/-- What events, at any times, and new settings make of an empty ledger. -/
inductive Reachable : QuotaLedger → Prop
  | initial (settings : QuotaSettings) : Reachable { settings }
  | event {ledger : QuotaLedger} (hreach : Reachable ledger) (event : LedgerEvent) :
      Reachable (ledger.apply event)
  | reconfigured {ledger : QuotaLedger} (hreach : Reachable ledger) (settings : QuotaSettings) :
      Reachable { ledger with settings }

variable {ledger : QuotaLedger}

/-- An event changes the entry of its key, unless there is nothing to clear. -/
theorem entry_apply_self (ledger : QuotaLedger) (event : LedgerEvent) :
    (ledger.apply event).entry event.key =
        event.change ledger.settings (ledger.entry event.key) ∨
      (ledger.apply event).entry event.key = {} := by
  rw [entry, get?_apply, if_pos rfl, entry]
  cases ledger.entries.get? event.key with
  | none =>
      cases event with
      | clear key time => exact .inr rfl
      | _ => exact .inl rfl
  | some stored => exact .inl (by cases event <;> rfl)

/-- What holds of a new entry, and is kept by every change, holds of all entries of a ledger that
can be reached. -/
theorem Reachable.entry {Holds : QuotaEntry → Prop} (hreach : ledger.Reachable) (hnew : Holds {})
    (hchange : ∀ (settings : QuotaSettings) (event : LedgerEvent) (entry : QuotaEntry),
      Holds entry → Holds (event.change settings entry)) (key : ProviderKey) :
    Holds (ledger.entry key) := by
  induction hreach with
  | initial settings => exact hnew
  | @event ledger hreach event ih =>
      by_cases hkey : event.key = key
      · subst hkey
        rcases ledger.entry_apply_self event with hself | hself
        · rw [hself]
          exact hchange _ event _ ih
        · rw [hself]
          exact hnew
      · rw [entry_apply_of_ne ledger hkey]
        exact ih
  | reconfigured hreach settings ih => exact ih

end QuotaLedger

/-! ## Counts without a window -/

/-- Nothing is counted unless a window is open. -/
def Meter.CountsInWindow (meter : Meter) : Prop :=
  meter.startedAt = none → meter.requests = 0 ∧ meter.tokens = 0

namespace Meter.CountsInWindow

variable {meter : Meter}

theorem asOf (hcounts : meter.CountsInWindow) (now window : Millis) :
    (meter.asOf now window).CountsInWindow := by
  rw [Meter.asOf]
  split
  · exact fun _ => ⟨rfl, rfl⟩
  · exact hcounts

theorem count (meter : Meter) (usage : Usage) : (meter.count usage).CountsInWindow :=
  fun hnone => absurd hnone (Option.some_ne_none _)

end Meter.CountsInWindow

namespace QuotaEntry

variable {entry : QuotaEntry} {part : EntryPart} {time now window started finish : Millis}
  {first second : Option Millis}

/-- What does not concern the uses only looks at them. -/
theorem ActsOn.countsInWindow {change : QuotaEntry → QuotaEntry}
    (hchange : ActsOn part time window change) (hpart : .usage ≠ part)
    (hcounts : entry.meter.CountsInWindow) : (change entry).meter.CountsInWindow := by
  have hlooked : (change entry).meter = (entry.asOf time window).meter :=
    hchange.others entry .usage hpart
  rw [hlooked, meter_asOf]
  exact hcounts.asOf time window

theorem countsInWindow_change (settings : QuotaSettings) (event : LedgerEvent) (entry : QuotaEntry)
    (hcounts : entry.meter.CountsInWindow) :
    (event.change settings entry).meter.CountsInWindow := by
  cases event with
  | error event => exact (afterError_actsOn settings event).countsInWindow (by decide) hcounts
  | success event =>
      exact (afterSuccess_actsOn settings event.time).countsInWindow (by decide) hcounts
  | usage key tokens time =>
      change (entry.afterUsage settings tokens time).meter.CountsInWindow
      rw [meter_afterUsage]
      exact (Meter.CountsInWindow.count _ _).asOf time settings.usageWindow
  | report report time =>
      exact (afterReport_actsOn settings report.remaining report.resetAt time).countsInWindow
        (by decide) hcounts
  | static key limits tier => exact hcounts
  | clear key time => exact fun _ => ⟨rfl, rfl⟩

/-! ## Windows and limits -/

theorem not_endsAfter_none : ¬ EndsAfter now none := by
  rintro ⟨finish, hnone, -⟩
  cases hnone

theorem endsAfter_some_iff : EndsAfter now (some finish) ↔ now < finish := by
  constructor
  · rintro ⟨other, hother, hlt⟩
    cases hother
    exact hlt
  · intro hlt
    exact ⟨finish, rfl, hlt⟩

theorem endsAfter_latest :
    EndsAfter now (latest first second) ↔ EndsAfter now first ∨ EndsAfter now second := by
  cases first with
  | none => exact (or_iff_right not_endsAfter_none).symm
  | some left =>
      cases second with
      | none => exact (or_iff_left not_endsAfter_none).symm
      | some right =>
          change EndsAfter now (some (max left right)) ↔ _
          rw [endsAfter_some_iff, endsAfter_some_iff, endsAfter_some_iff, Millis.lt_iff,
            Millis.lt_iff, Millis.lt_iff, Millis.value_max]
          omega

theorem eq_or_eq_of_latest (hlatest : latest first second = some finish) :
    first = some finish ∨ second = some finish := by
  cases first with
  | none => exact .inr hlatest
  | some left =>
      cases second with
      | none => exact .inl hlatest
      | some right =>
          change some (if left ≤ right then right else left) = some finish at hlatest
          split at hlatest
          · exact .inr hlatest
          · exact .inl hlatest

theorem inPool_asOf_eq_false_iff (entry : QuotaEntry) (now window : Millis) :
    (entry.asOf now window).inPool = false ↔
      EndsAfter now entry.blacklistUntil ∨ EndsAfter now entry.cooldownUntil ∨
        EndsAfter now entry.depletedUntil ∨ entry.ReachesLimit now window := by
  have hended (until? : Option Millis) : stillOpen now until? = none ↔ ¬ EndsAfter now until? := by
    rw [← isSome_stillOpen_iff, Option.not_isSome_iff_eq_none]
  rw [← Bool.not_eq_true, asOf_inPool, beq_iff_eq, strongestReason_eq_ok_iff, asOf_cooldownUntil,
    asOf_blacklistUntil, asOf_depletedUntil, hended, hended, hended, ← Bool.not_eq_true,
    isDepleted_asOf_iff, not_and_or, not_and_or, not_and_or, not_not, not_not, not_not, not_not]
  exact or_left_comm

theorem windowIsOver_iff (hstarted : entry.windowStartedAt = some started) :
    entry.windowIsOver time window = true ↔ started.plus window ≤ time := by
  rw [windowIsOver, hstarted, Option.any_some, decide_eq_true_iff]

/-- A window that is still open at a time counts what it counted before. -/
theorem countAt_of_lt (hstarted : entry.windowStartedAt = some started)
    (hopen : time < started.plus window) (count : UInt64) :
    entry.countAt time window count = count :=
  if_neg fun hover => Int.not_le.mpr hopen ((windowIsOver_iff hstarted).mp hover)

theorem reachesLimit_of_usageUntil (hends : EndsAfter time (entry.usageUntil window)) :
    entry.ReachesLimit time window := by
  rw [usageUntil] at hends
  split at hends
  · next htotal => exact .inr (.inr (reached_iff.mp htotal))
  · split at hends
    · next hdepleted =>
        obtain ⟨finish, hfinish, hopen⟩ := hends
        obtain ⟨started, hstarted, rfl⟩ := Option.map_eq_some_iff.mp hfinish
        rw [ReachesLimit, countAt_of_lt hstarted hopen, countAt_of_lt hstarted hopen]
        exact (isDepleted_iff entry).mp hdepleted
    · exact absurd hends not_endsAfter_none

/-- What is counted at a time is counted in a window that is still open then. -/
theorem exists_open_window (hcounts : entry.meter.CountsInWindow)
    (hcount : entry.countAt time window entry.windowRequests ≠ 0 ∨
      entry.countAt time window entry.windowTokens ≠ 0) :
    ∃ started, entry.windowStartedAt = some started ∧ time < started.plus window := by
  cases hstarted : entry.windowStartedAt with
  | none =>
      obtain ⟨hrequests, htokens⟩ := hcounts hstarted
      change entry.windowRequests = 0 at hrequests
      change entry.windowTokens = 0 at htokens
      rw [hrequests, htokens, countAt, ite_self, or_self] at hcount
      exact absurd rfl hcount
  | some started =>
      refine ⟨started, rfl, Int.not_le.mp fun hended => ?_⟩
      have hover := (windowIsOver_iff hstarted).mpr hended
      rw [countAt, countAt, if_pos hover, if_pos hover, or_self] at hcount
      exact absurd rfl hcount

theorem usageUntil_of_reachesLimit (hcounts : entry.meter.CountsInWindow)
    (hlimits : entry.limits.allowsNothing = false) (hlater : time < .greatest)
    (hreaches : entry.ReachesLimit time window) : EndsAfter time (entry.usageUntil window) := by
  by_cases htotal : reached entry.totalTokens entry.limits.totalTokens = true
  · rw [usageUntil, if_pos htotal]
    exact ⟨.greatest, rfl, hlater⟩
  · rw [UsageLimits.allowsNothing, Bool.or_eq_false_iff, beq_eq_false_iff_ne,
      beq_eq_false_iff_ne] at hlimits
    have hpositive {limit count : UInt64} {limit? : Option UInt64} (hnonzero : limit? ≠ some 0)
        (hlimit : limit ∈ limit?) (hle : limit ≤ count) : count ≠ 0 := by
      rintro rfl
      exact hnonzero (hlimit.trans (congrArg some (UInt64.le_antisymm hle UInt64.zero_le)))
    obtain ⟨started, hstarted, hopen⟩ : ∃ started, entry.windowStartedAt = some started ∧
        time < started.plus window := by
      apply exists_open_window hcounts
      rcases hreaches with ⟨limit, hlimit, hle⟩ | ⟨limit, hlimit, hle⟩ | hall
      · exact .inl (hpositive hlimits.1 hlimit hle)
      · exact .inr (hpositive hlimits.2 hlimit hle)
      · exact absurd (reached_iff.mpr hall) htotal
    have hdepleted : entry.isDepleted = true := by
      rw [ReachesLimit, countAt_of_lt hstarted hopen, countAt_of_lt hstarted hopen] at hreaches
      exact (isDepleted_iff entry).mpr hreaches
    rw [usageUntil, if_neg htotal, if_pos hdepleted, hstarted]
    exact ⟨started.plus window, rfl, hopen⟩

/-- A limit of zero is always reached. -/
theorem reachesLimit_of_allowsNothing (hlimits : entry.limits.allowsNothing = true)
    (time window : Millis) : entry.ReachesLimit time window := by
  rw [UsageLimits.allowsNothing, Bool.or_eq_true, beq_iff_eq, beq_iff_eq] at hlimits
  rcases hlimits with hrequests | htokens
  · exact .inl ⟨0, hrequests, UInt64.zero_le⟩
  · exact .inr (.inl ⟨0, htokens, UInt64.zero_le⟩)

/-! ## The time of return -/

theorem endsAfter_blockedUntil_iff :
    EndsAfter time (entry.blockedUntil window) ↔
      EndsAfter time entry.blacklistUntil ∨ EndsAfter time entry.cooldownUntil ∨
        EndsAfter time entry.depletedUntil ∨ EndsAfter time (entry.usageUntil window) := by
  rw [blockedUntil, endsAfter_latest, endsAfter_latest, endsAfter_latest]

/-- A key is blocked until the time that its entry tells. -/
theorem inPool_eq_false_of_endsAfter (hends : EndsAfter time (entry.blockedUntil window)) :
    (entry.asOf time window).inPool = false := by
  rw [inPool_asOf_eq_false_iff]
  exact (endsAfter_blockedUntil_iff.mp hends).imp_right
    (Or.imp_right (Or.imp_right reachesLimit_of_usageUntil))

/-- A key that a new usage window helps is blocked no longer than its entry tells. -/
theorem endsAfter_of_inPool_eq_false (hcounts : entry.meter.CountsInWindow)
    (hlimits : entry.limits.allowsNothing = false) (hlater : time < .greatest)
    (hblocked : (entry.asOf time window).inPool = false) :
    EndsAfter time (entry.blockedUntil window) := by
  rw [inPool_asOf_eq_false_iff] at hblocked
  exact endsAfter_blockedUntil_iff.mpr (hblocked.imp_right
    (Or.imp_right (Or.imp_right (usageUntil_of_reachesLimit hcounts hlimits hlater))))

/-- A usage window that is still there after a look is not over. -/
theorem lt_plus_of_asOf (hstarted : (entry.asOf now window).windowStartedAt = some started) :
    now < started.plus window := by
  change (if entry.windowIsOver now window = true then none else entry.windowStartedAt) =
    some started at hstarted
  split at hstarted
  · cases hstarted
  · next hopen => exact Int.not_le.mp fun hended => hopen ((windowIsOver_iff hstarted).mpr hended)

theorem lt_of_usageUntil (hnow : now < .greatest)
    (hfinish : (entry.asOf now window).usageUntil window = some finish) : now < finish := by
  rw [usageUntil] at hfinish
  split at hfinish
  · cases hfinish
    exact hnow
  · split at hfinish
    · obtain ⟨started, hstarted, rfl⟩ := Option.map_eq_some_iff.mp hfinish
      exact lt_plus_of_asOf hstarted
    · cases hfinish

theorem lt_of_blockedUntil (hnow : now < .greatest)
    (hfinish : (entry.asOf now window).blockedUntil window = some finish) : now < finish := by
  have hopen {until? : Option Millis} (huntil : stillOpen now until? = some finish) :
      now < finish := (stillOpen_eq_some_iff.mp huntil).2
  rcases eq_or_eq_of_latest hfinish with hblacklist | hfinish
  · exact hopen hblacklist
  · rcases eq_or_eq_of_latest hfinish with hcooldown | hfinish
    · exact hopen hcooldown
    · rcases eq_or_eq_of_latest hfinish with hdepleted | husage
      · exact hopen hdepleted
      · exact lt_of_usageUntil hnow husage

/-- What an entry tells at a time is exactly when the key returns, if nothing happens to it. -/
structure ReturnsExactly (entry : QuotaEntry) (now window : Millis) : Prop where
  none_iff : (entry.asOf now window).blockedUntil window = none ↔
    (entry.asOf now window).inPool = true
  later : ∀ finish ∈ (entry.asOf now window).blockedUntil window, now < finish
  blocked : ∀ finish ∈ (entry.asOf now window).blockedUntil window, ∀ time, now ≤ time →
    time < finish → (entry.asOf time window).inPool = false
  back : ∀ finish ∈ (entry.asOf now window).blockedUntil window, finish < .greatest →
    (entry.asOf finish window).inPool = true

theorem blocked_before (hfinish : (entry.asOf now window).blockedUntil window = some finish)
    (hle : now ≤ time) (hlt : time < finish) : (entry.asOf time window).inPool = false := by
  rw [← asOf_asOf entry window hle]
  exact inPool_eq_false_of_endsAfter ⟨finish, hfinish, hlt⟩

theorem returnsExactly_of_window (hcounts : entry.meter.CountsInWindow)
    (hlimits : entry.limits.allowsNothing = false) (hnow : now < .greatest) :
    entry.ReturnsExactly now window := by
  have hsettled : (entry.asOf now window).meter.CountsInWindow := by
    rw [meter_asOf]
    exact hcounts.asOf now window
  -- the entry that was looked at tells at any later time whether the key is in the pool then
  have hreturned {time : Millis} (hle : now ≤ time) (hlater : time < .greatest)
      (hended : ¬ EndsAfter time ((entry.asOf now window).blockedUntil window)) :
      (entry.asOf time window).inPool = true := by
    rw [← Bool.not_eq_false, ← asOf_asOf entry window hle]
    exact fun hblocked => hended (endsAfter_of_inPool_eq_false hsettled hlimits hlater hblocked)
  refine ⟨⟨fun hnone => ?_, fun hpool => ?_⟩, fun finish => lt_of_blockedUntil hnow,
    fun finish hfinish time => blocked_before hfinish, fun finish hfinish hlater => ?_⟩
  · refine hreturned (Int.le_refl _) hnow ?_
    rw [hnone]
    exact not_endsAfter_none
  · rw [Option.eq_none_iff_forall_ne_some]
    intro finish hfinish
    have hblocked := blocked_before hfinish (Int.le_refl _) (lt_of_blockedUntil hnow hfinish)
    rw [hpool] at hblocked
    cases hblocked
  · refine hreturned (Int.le_of_lt (lt_of_blockedUntil hnow hfinish)) hlater ?_
    rw [hfinish, endsAfter_some_iff]
    exact Int.lt_irrefl _

theorem returnsExactly_of_never (hnow : now < .greatest)
    (hnever : (entry.asOf now window).blockedUntil window = some .greatest) :
    entry.ReturnsExactly now window where
  none_iff := by
    rw [hnever, blocked_before hnever (Int.le_refl _) hnow]
    exact iff_of_false (Option.some_ne_none _) Bool.false_ne_true
  later finish := lt_of_blockedUntil hnow
  blocked finish hfinish time := blocked_before hfinish
  back finish hfinish hlater := by
    cases hfinish.symm.trans hnever
    exact absurd hlater (Int.lt_irrefl _)

/-- A key that no usage window helps does not return, whatever its entry tells. -/
theorem ReturnsExactly.never (hreturns : entry.ReturnsExactly now window)
    (hlimits : entry.limits.allowsNothing = true) :
    (entry.asOf now window).blockedUntil window = some .greatest := by
  have hblocked (time : Millis) : (entry.asOf time window).inPool = false :=
    (inPool_asOf_eq_false_iff entry time window).mpr
      (.inr (.inr (.inr (reachesLimit_of_allowsNothing hlimits time window))))
  cases hfinish : (entry.asOf now window).blockedUntil window with
  | none =>
      have hpool := hreturns.none_iff.mp hfinish
      rw [hblocked now] at hpool
      cases hpool
  | some finish =>
      by_cases hlater : finish < .greatest
      · have hpool := hreturns.back finish hfinish hlater
        rw [hblocked finish] at hpool
        cases hpool
      · have hlast : finish.value = 9223372036854775807 :=
          Int.le_antisymm finish.le_greatest (Int.not_lt.mp hlater)
        exact congrArg some (Millis.ext hlast)

end QuotaEntry

namespace QuotaLedger

variable {ledger : QuotaLedger} {now : Millis}

/-- An entry of a ledger that can be reached tells exactly when its key returns to the pool, unless
the usage window has a limit of zero.  Then it does so only if it tells that the key never does. -/
theorem returnsExactly_iff (hreach : ledger.Reachable) (key : ProviderKey) (window : Millis)
    (hnow : now < .greatest) :
    (ledger.entry key).ReturnsExactly now window ↔
      (ledger.entry key).limits.allowsNothing = false ∨
        ((ledger.entry key).asOf now window).blockedUntil window = some .greatest := by
  have hcounts : (ledger.entry key).meter.CountsInWindow :=
    hreach.entry (fun _ => ⟨rfl, rfl⟩) QuotaEntry.countsInWindow_change key
  constructor
  · intro hreturns
    cases hlimits : (ledger.entry key).limits.allowsNothing with
    | false => exact .inl rfl
    | true => exact .inr (hreturns.never hlimits)
  · rintro (hlimits | hnever)
    · exact QuotaEntry.returnsExactly_of_window hcounts hlimits hnow
    · exact QuotaEntry.returnsExactly_of_never hnow hnever

def limitedLedger (limit : UInt64) : QuotaLedger :=
  ({} : QuotaLedger).apply
    (.static ⟨"north", "a", "large"⟩ (some { requests := some limit }) none)

/-- One request uses up a limit of one, and the key returns with the next window.  Under a limit of
zero it is blocked from the beginning, and its entry tells no end of that. -/
theorem returnsExactly_iff_of_limited :
    ((((limitedLedger 1).apply (.usage ⟨"north", "a", "large"⟩ 0 1000)).entry
        ⟨"north", "a", "large"⟩).asOf 61000 60000).inPool = true ∧
      ¬ ((limitedLedger 0).entry ⟨"north", "a", "large"⟩).ReturnsExactly 2000 60000 := by
  have hreach (limit : UInt64) : (limitedLedger limit).Reachable := .event (.initial {}) _
  constructor
  · have hreturns := (returnsExactly_iff (.event (hreach 1) (.usage ⟨"north", "a", "large"⟩ 0 1000))
      ⟨"north", "a", "large"⟩ 60000 (show (2000 : Millis) < .greatest by decide)).mpr
        (.inl (by decide +kernel))
    exact hreturns.back 61000 (by decide +kernel) (by decide)
  · rw [returnsExactly_iff (hreach 0) _ _ (by decide)]
    decide +kernel

/-- Not every entry that can be reached tells exactly when its key returns. -/
theorem not_forall_returnsExactly :
    ¬ ∀ ledger : QuotaLedger, ledger.Reachable → ∀ (key : ProviderKey) (window now : Millis),
      0 < window → now < .greatest → (ledger.entry key).ReturnsExactly now window := by
  intro hall
  have hreturns := hall (limitedLedger 0) (.event (.initial {}) _) ⟨"north", "a", "large"⟩ 60000 0
    (by decide) (by decide)
  have hblocked : (((limitedLedger 0).entry ⟨"north", "a", "large"⟩).asOf 0 60000).inPool =
      false := by decide +kernel
  rw [hreturns.none_iff.mp (by decide +kernel)] at hblocked
  cases hblocked

end QuotaLedger

end ProviderRouting
