import ProviderRouting.Proofs.Quota.Looking

/-!
# Independent causes

What happens to a key comes from different sides: its requests fail or succeed, they use tokens, and
its provider reports what is left.  Each of these changes one part of the entry, looks at the
others, and derives the reason anew.  So if they happen at the same time, their order makes no
difference.
-/

namespace ProviderRouting

namespace QuotaEntry

/-- A change concerns one part of an entry, and all that it does to the other parts is to look at
them at a time. -/
structure ActsOn (part : EntryPart) (time window : Millis) (change : QuotaEntry → QuotaEntry) :
    Prop where
  /-- It does not matter whether one has looked before. -/
  before : ∀ entry, change (entry.asOf time window) = change entry
  /-- There is nothing left to see afterwards. -/
  settled : ∀ entry, (change entry).asOf time window = change entry
  own : ∀ left right, AgreeOn part left right → AgreeOn part (change left) (change right)
  others : ∀ entry other, other ≠ part → AgreeOn other (change entry) (entry.asOf time window)
  settings : ∀ entry, SameSettings (change entry) entry
  stamped : ∀ entry, (change entry).updatedAt = time

variable {part other : EntryPart} {time window : Millis}
  {first second : QuotaEntry → QuotaEntry}

/-- The part of the first change is the same whether the second one comes before or after. -/
theorem ActsOn.agreeOn_own (hfirst : ActsOn part time window first)
    (hsecond : ActsOn other time window second) (hne : part ≠ other) (entry : QuotaEntry) :
    AgreeOn part (first (second entry)) (second (first entry)) := by
  have hbefore : AgreeOn part (first (second entry)) (first entry) := by
    rw [← hfirst.before entry]
    exact hfirst.own _ _ (hsecond.others entry part hne)
  have hafter : AgreeOn part (second (first entry)) (first entry) := by
    have hlooked := hsecond.others (first entry) part hne
    rwa [hfirst.settled] at hlooked
  exact hbefore.trans hafter.symm

/-- A part that neither change concerns is looked at by both. -/
theorem ActsOn.agreeOn_looked (hfirst : ActsOn part time window first)
    (hsecond : ActsOn other time window second) {third : EntryPart} (hpart : third ≠ part)
    (hother : third ≠ other) (entry : QuotaEntry) :
    AgreeOn third (first (second entry)) (entry.asOf time window) := by
  have hlooked := hfirst.others (second entry) third hpart
  rw [hsecond.settled] at hlooked
  exact hlooked.trans (hsecond.others entry third hother)

/-- Changes of different parts at the same time commute. -/
theorem ActsOn.comm (hfirst : ActsOn part time window first)
    (hsecond : ActsOn other time window second) (hne : part ≠ other) (entry : QuotaEntry) :
    first (second entry) = second (first entry) := by
  have hjudged {change : QuotaEntry → QuotaEntry} {concerned : EntryPart}
      (hchange : ActsOn concerned time window change) (given : QuotaEntry) :
      (change given).judged = change given := by
    rw [← hchange.settled given]
    rfl
  refine eq_of_agreeOn (hjudged hfirst _) (hjudged hsecond _) (fun third => ?_) ?_ ?_
  · by_cases hpart : third = part
    · rw [hpart]
      exact hfirst.agreeOn_own hsecond hne entry
    · by_cases hother : third = other
      · rw [hother]
        exact (hsecond.agreeOn_own hfirst hne.symm entry).symm
      · have hleft := hfirst.agreeOn_looked hsecond hpart hother entry
        have hright := hsecond.agreeOn_looked hfirst hother hpart entry
        exact hleft.trans hright.symm
  · obtain ⟨hlimits, htier⟩ := hfirst.settings (second entry)
    obtain ⟨hlimits', htier'⟩ := hsecond.settings (first entry)
    constructor
    · rw [hlimits, hlimits', (hsecond.settings entry).limits, (hfirst.settings entry).limits]
    · rw [htier, htier', (hsecond.settings entry).priorityTier,
        (hfirst.settings entry).priorityTier]
  · rw [hfirst.stamped, hsecond.stamped]

/-! ## Errors and successes -/

/-- An error opens windows, and changes nothing else once it is counted. -/
theorem exists_escalate_eq (entry : QuotaEntry) (settings : QuotaSettings)
    (errorClass : ErrorClass) (retryAfter : Option Millis) (now : Millis) :
    ∃ cooldownUntil blacklistUntil fatal,
      entry.escalate settings errorClass retryAfter now =
        { entry with cooldownUntil, blacklistUntil, fatal } := by
  rw [escalate]
  split
  · exact ⟨_, _, _, rfl⟩
  · exact ⟨_, _, _, rfl⟩

variable {left right : QuotaEntry} {settings : QuotaSettings} {errorClass : ErrorClass}
  {retryAfter : Option Millis} {now : Millis}

theorem errorRecord_countError (hsame : left.errorRecord = right.errorRecord) :
    (left.countError settings errorClass now).errorRecord =
      (right.countError settings errorClass now).errorRecord := by
  simp only [errorRecord, ErrorRecord.mk.injEq] at hsame
  have hcontinues : left.continuesSeries settings errorClass now =
      right.continuesSeries settings errorClass now := by
    simp only [continuesSeries, hsame]
  simp only [errorRecord, countError, hcontinues, hsame]

theorem errorRecord_escalate (hsame : left.errorRecord = right.errorRecord) :
    (left.escalate settings errorClass retryAfter now).errorRecord =
      (right.escalate settings errorClass retryAfter now).errorRecord := by
  simp only [errorRecord, ErrorRecord.mk.injEq] at hsame
  rw [escalate, escalate]
  split <;> simp only [errorRecord, hsame]

theorem meter_settled (entry : QuotaEntry) (now window : Millis) :
    (entry.asOf now window).meter.asOf now window = (entry.asOf now window).meter := by
  rw [meter_asOf, Meter.asOf_asOf _ _ (Int.le_refl _)]

theorem afterError_actsOn (settings : QuotaSettings) (event : ErrorEvent) :
    ActsOn .errors event.time settings.usageWindow (·.afterError settings event) where
  before entry := entry.afterError_asOf settings (Int.le_refl _)
  settled entry := asOf_asOf _ _ (Int.le_refl _)
  own left right hsame := by
    have hlooked : AgreeOn .errors (left.asOf event.time settings.usageWindow)
        (right.asOf event.time settings.usageWindow) :=
      hsame.asOf event.time settings.usageWindow
    exact congrArg (·.asOf event.time)
      (errorRecord_escalate (errorRecord_countError hlooked))
  others entry other hother := by
    obtain ⟨cooldownUntil, blacklistUntil, fatal, hescalate⟩ := exists_escalate_eq
      (entry.counted settings event) settings event.errorClass event.retryAfter event.time
    cases other with
    | errors => exact absurd rfl hother
    | usage =>
        change (entry.afterError settings event).meter =
          (entry.asOf event.time settings.usageWindow).meter
        rw [afterError_eq, hescalate, meter_asOf]
        exact entry.meter_settled event.time settings.usageWindow
    | supply =>
        change (entry.afterError settings event).supply =
          (entry.asOf event.time settings.usageWindow).supply
        rw [afterError_eq, hescalate]
        exact entry.supply.asOf_asOf (Int.le_refl _)
  settings entry := by
    obtain ⟨cooldownUntil, blacklistUntil, fatal, hescalate⟩ := exists_escalate_eq
      (entry.counted settings event) settings event.errorClass event.retryAfter event.time
    rw [afterError_eq, hescalate]
    exact ⟨rfl, rfl⟩
  stamped _ := rfl

theorem afterSuccess_actsOn (settings : QuotaSettings) (now : Millis) :
    ActsOn .errors now settings.usageWindow (·.afterSuccess settings now) where
  before entry := entry.afterSuccess_asOf settings (Int.le_refl _)
  settled entry := asOf_asOf _ _ (Int.le_refl _)
  own left right hsame := by
    have hrecord : left.errorRecord = right.errorRecord := hsame
    simp only [errorRecord, ErrorRecord.mk.injEq] at hrecord
    change (left.afterSuccess settings now).errorRecord =
      (right.afterSuccess settings now).errorRecord
    rw [afterSuccess, afterSuccess, errorRecord_asOf, errorRecord_asOf]
    simp only [errorRecord, hrecord]
  others entry other hother := by
    cases other with
    | errors => exact absurd rfl hother
    | usage =>
        change (entry.afterSuccess settings now).meter = (entry.asOf now settings.usageWindow).meter
        rw [afterSuccess, meter_asOf, meter_asOf]
        rfl
    | supply => rfl
  settings _ := ⟨rfl, rfl⟩
  stamped _ := rfl

/-! ## Uses and reports -/

theorem meter_afterUsage (entry : QuotaEntry) (settings : QuotaSettings) (tokens : UInt64)
    (now : Millis) :
    (entry.afterUsage settings tokens now).meter =
      ((entry.meter.asOf now settings.usageWindow).count ⟨tokens, now⟩).asOf now
        settings.usageWindow := by
  rw [afterUsage, meter_asOf, ← meter_asOf entry]
  rfl

theorem afterUsage_actsOn (settings : QuotaSettings) (tokens : UInt64) (now : Millis) :
    ActsOn .usage now settings.usageWindow (·.afterUsage settings tokens now) where
  before entry := entry.afterUsage_asOf settings tokens (Int.le_refl _)
  settled entry := asOf_asOf _ _ (Int.le_refl _)
  own left right hsame := by
    have hmeter : left.meter = right.meter := hsame
    change (left.afterUsage settings tokens now).meter =
      (right.afterUsage settings tokens now).meter
    rw [meter_afterUsage, meter_afterUsage, hmeter]
  others entry other hother := by
    cases other with
    | errors => exact entry.errorRecord.asOf_asOf (Int.le_refl _)
    | usage => exact absurd rfl hother
    | supply => exact entry.supply.asOf_asOf (Int.le_refl _)
  settings _ := ⟨rfl, rfl⟩
  stamped _ := rfl

theorem meter_afterReport (entry : QuotaEntry) (settings : QuotaSettings) (remaining : Float)
    (resetAt : Option Millis) (now : Millis) :
    (entry.afterReport settings remaining resetAt now).meter =
      (entry.asOf now settings.usageWindow).meter := by
  rw [afterReport, meter_asOf, meter_asOf]
  rfl

theorem afterReport_actsOn (settings : QuotaSettings) (remaining : Float)
    (resetAt : Option Millis) (now : Millis) :
    ActsOn .supply now settings.usageWindow (·.afterReport settings remaining resetAt now) where
  before entry := entry.afterReport_asOf settings remaining resetAt (Int.le_refl _)
  settled entry := asOf_asOf _ _ (Int.le_refl _)
  own _ _ _ := rfl
  others entry other hother := by
    cases other with
    | errors => rfl
    | usage => exact entry.meter_afterReport settings remaining resetAt now
    | supply => exact absurd rfl hother
  settings _ := ⟨rfl, rfl⟩
  stamped _ := rfl

/-- What a later entry has kept of an earlier one: the blocks that were still active at a time, the
counts of errors, and the counts of uses unless their window was over by then. -/
structure Keeps (time window : Millis) (before after : QuotaEntry) : Prop where
  cooldown : ∀ finish, after.cooldownUntil = some finish ↔
    before.cooldownUntil = some finish ∧ time < finish
  blacklist : ∀ finish, after.blacklistUntil = some finish ↔
    before.blacklistUntil = some finish ∧ time < finish
  fatal : after.fatal = true ↔ before.fatal = true ∧ EndsAfter time before.blacklistUntil
  counts : before.SameCounts after
  penalty : after.penalty = before.penalty
  usage : before.windowIsOver time window = false → after.meter = before.meter
  total : after.totalTokens = before.totalTokens

theorem afterReport_keeps (entry : QuotaEntry) (settings : QuotaSettings) (remaining : Float)
    (resetAt : Option Millis) (now : Millis) :
    Keeps now settings.usageWindow entry (entry.afterReport settings remaining resetAt now) where
  cooldown _ := stillOpen_eq_some_iff
  blacklist _ := stillOpen_eq_some_iff
  fatal := by
    rw [← isSome_stillOpen_iff, ← Bool.and_eq_true]
    exact Iff.rfl
  counts := ⟨rfl, rfl, rfl, rfl⟩
  penalty := rfl
  usage hopen := by
    have hmeter : entry.meter.asOf now settings.usageWindow = entry.meter :=
      if_neg (ne_true_of_eq_false hopen)
    rw [meter_afterReport, meter_asOf, hmeter]
  total := rfl

end QuotaEntry

/-! ## Events of one key at one time -/

namespace LedgerEvent

/-- The part of its key's entry that an event changes, if it is one part only. -/
def part? : LedgerEvent → Option EntryPart
  | .error _ => some .errors
  | .success _ => some .errors
  | .usage _ _ _ => some .usage
  | .report _ _ => some .supply
  | .static _ _ _ => none
  | .clear _ _ => none

def change (settings : QuotaSettings) (event : LedgerEvent) (entry : QuotaEntry) : QuotaEntry :=
  (event.act settings (some entry)).2.getD entry

theorem change_actsOn {event : LedgerEvent} {part : EntryPart} {time : Millis}
    (settings : QuotaSettings) (hpart : event.part? = some part) (htime : event.time? = some time) :
    QuotaEntry.ActsOn part time settings.usageWindow (event.change settings) := by
  cases event with
  | error event =>
      cases hpart
      cases htime
      exact QuotaEntry.afterError_actsOn settings event
  | success event =>
      cases hpart
      cases htime
      exact QuotaEntry.afterSuccess_actsOn settings event.time
  | usage key tokens time =>
      cases hpart
      cases htime
      exact QuotaEntry.afterUsage_actsOn settings tokens time
  | report report time =>
      cases hpart
      cases htime
      exact QuotaEntry.afterReport_actsOn settings report.remaining report.resetAt time
  | static key limits tier => cases hpart
  | clear key time => cases hpart

end LedgerEvent

def LedgerAnswer.reason? : LedgerAnswer → Option PoolReason
  | .failed effect => some effect.reason
  | .recorded reason => some reason
  | .noted => none
  | .cleared _ => none

namespace QuotaLedger

variable {ledger : QuotaLedger} {key : ProviderKey} {time : Millis} {event : LedgerEvent}
  {events order : List LedgerEvent}

theorem apply_eq_store {part : EntryPart} (ledger : QuotaLedger)
    (hpart : event.part? = some part) :
    ledger.apply event =
      ledger.store event.key (event.change ledger.settings (ledger.entry event.key)) := by
  cases event with
  | static key limits tier => cases hpart
  | clear key time => cases hpart
  | _ => rfl

/-- Of two entries that are stored for a key, the later one stays. -/
theorem store_store (ledger : QuotaLedger) (key : ProviderKey) (first second : QuotaEntry) :
    (ledger.store key first).store key second =
      { ledger.store key second with revision := ledger.revision + 1 + 1 } := by
  have hentries : (ledger.entries.insert key first).insert key second =
      ledger.entries.insert key second := by
    apply Table.eq_of_get?
    intro probe
    rw [Table.get?_insert, Table.get?_insert, Table.get?_insert]
    split <;> rfl
  rw [store, store, hentries]
  rfl

/-- Events that change different parts of one entry at one time commute. -/
theorem apply_right_comm {first second : LedgerEvent} {part other : EntryPart}
    (ledger : QuotaLedger) (hkey : first.key = second.key) (hfirst : first.part? = some part)
    (hsecond : second.part? = some other) (hne : part ≠ other)
    (htime : first.time? = some time) (htime' : second.time? = some time) :
    (ledger.apply first).apply second = (ledger.apply second).apply first := by
  have hcomm := (first.change_actsOn ledger.settings hfirst htime).comm
    (second.change_actsOn ledger.settings hsecond htime') hne (ledger.entry second.key)
  rw [apply_eq_store _ hsecond, apply_eq_store _ hfirst, apply_eq_store _ hfirst,
    apply_eq_store _ hsecond, hkey, entry_store, entry_store, if_pos rfl, if_pos rfl, store_store,
    store_store]
  change { ledger.store second.key (second.change ledger.settings
      (first.change ledger.settings (ledger.entry second.key))) with
    revision := ledger.revision + 1 + 1 } = _
  rw [← hcomm]
  rfl

/-- Events of one key at one time that change different parts of its entry lead to the same ledger
in every order. -/
theorem run_perm (ledger : QuotaLedger)
    (hsame : ∀ event ∈ events, event.key = key ∧ event.time? = some time ∧
      event.part?.isSome = true)
    (hparts : (events.map LedgerEvent.part?).Nodup)
    (horder : order.Perm events) : ledger.run order = ledger.run events := by
  refine horder.foldl_eq' (fun first hfirst second hsecond given => ?_) ledger
  by_cases heq : first = second
  · rw [heq]
  · replace hfirst := horder.mem_iff.mp hfirst
    replace hsecond := horder.mem_iff.mp hsecond
    obtain ⟨hkey, htime, hpart⟩ := hsame first hfirst
    obtain ⟨hkey', htime', hpart'⟩ := hsame second hsecond
    obtain ⟨part, hpart⟩ := Option.isSome_iff_exists.mp hpart
    obtain ⟨other, hother⟩ := Option.isSome_iff_exists.mp hpart'
    have hne : part ≠ other := by
      rintro rfl
      exact heq (List.inj_on_of_nodup_map hparts hfirst hsecond (hpart.trans hother.symm))
    exact given.apply_right_comm (hkey.trans hkey'.symm) hpart hother hne htime htime'

theorem log_append (ledger : QuotaLedger) (first second : List LedgerEvent) :
    ledger.log (first ++ second) = ledger.log first ++ (ledger.run first).log second := by
  induction first generalizing ledger with
  | nil => rfl
  | cons event rest ih => exact congrArg (List.cons _) (ih (ledger.apply event))

/-- The answer tells the reason that the entry then has. -/
theorem answer_reason? {part : EntryPart} (ledger : QuotaLedger)
    (hpart : event.part? = some part) :
    (ledger.answer event).reason? = some ((ledger.apply event).entry event.key).reason := by
  rw [apply_eq_store _ hpart, entry_store, if_pos rfl]
  cases event with
  | static key limits tier => cases hpart
  | clear key time => cases hpart
  | _ => rfl

/-- The last answer of a run tells the reason that the entry has at its end. -/
theorem lastReason_log (ledger : QuotaLedger) (hne : order ≠ [])
    (hsame : ∀ event ∈ order, event.key = key ∧ event.part?.isSome = true) :
    (ledger.log order).getLast?.bind (fun row => row.2.reason?) =
      some ((ledger.run order).entry key).reason := by
  obtain ⟨earlier, last, rfl⟩ := (List.eq_nil_or_concat order).resolve_left hne
  rw [List.concat_eq_append] at hsame ⊢
  obtain ⟨hkey, hpart⟩ := hsame last (List.mem_append_right earlier List.mem_cons_self)
  obtain ⟨part, hpart⟩ := Option.isSome_iff_exists.mp hpart
  have hrun : ledger.run (earlier ++ [last]) = (ledger.run earlier).apply last := by
    rw [run, List.foldl_append]
    rfl
  rw [log_append, hrun, ← hkey]
  change (_ ++ [(last, (ledger.run earlier).answer last)]).getLast?.bind _ = _
  rw [List.getLast?_concat]
  exact (ledger.run earlier).answer_reason? hpart

/-- A failure or a success, a use, and a report that concern a key at the same time may come in any
order: the ledger, the key's reason and the last answer are the same.  In particular a report leaves
all blocks that are still active, and all counts, as it finds them. -/
theorem independent_causes_commute (ledger : QuotaLedger) (outcome : LedgerEvent)
    (tokens : UInt64) (report : QuotaReport) (houtcome : outcome.part? = some .errors)
    (htime : outcome.time? = some time) (hkey : report.key = outcome.key)
    (horder : order.Perm [outcome, .usage outcome.key tokens time, .report report time]) :
    ledger.run order =
        ledger.run [outcome, .usage outcome.key tokens time, .report report time] ∧
      (ledger.log order).getLast?.bind (fun row => row.2.reason?) =
        some ((ledger.run order).entry outcome.key).reason ∧
      QuotaEntry.Keeps time ledger.settings.usageWindow (ledger.entry outcome.key)
        ((ledger.run [.report report time]).entry outcome.key) := by
  have hsame : ∀ event ∈ [outcome, .usage outcome.key tokens time, .report report time],
      event.key = outcome.key ∧ event.time? = some time ∧ event.part?.isSome = true := by
    refine List.forall_mem_cons.mpr ⟨⟨rfl, htime, ?_⟩, List.forall_mem_cons.mpr
      ⟨⟨rfl, rfl, rfl⟩, List.forall_mem_singleton.mpr ⟨hkey, rfl, rfl⟩⟩⟩
    rw [houtcome]
    rfl
  refine ⟨ledger.run_perm hsame ?_ horder, ledger.lastReason_log ?_ ?_, ?_⟩
  · change (outcome.part? :: [some EntryPart.usage, some .supply]).Nodup
    rw [houtcome]
    decide
  · rintro rfl
    exact List.cons_ne_nil _ _ horder.nil_eq.symm
  · intro event hevent
    obtain ⟨hown, -, hpart⟩ := hsame event (horder.mem_iff.mp hevent)
    exact ⟨hown, hpart⟩
  · change QuotaEntry.Keeps _ _ _ ((ledger.noteReport report time).2.entry outcome.key)
    rw [noteReport, hkey, entry_store, if_pos rfl]
    exact QuotaEntry.afterReport_keeps ..

def strainedKey : ProviderKey :=
  ⟨"north", "a", "large"⟩

def unavailable (time : Millis) : LedgerEvent :=
  .error { key := strainedKey, status := some 503, time }

def nothingLeft : QuotaReport :=
  ⟨strainedKey, 0.0, some 90000⟩

/-- The key may be used once a minute, and has failed before. -/
def strainedLedger : QuotaLedger :=
  ({} : QuotaLedger).run [.static strainedKey (some { requests := some 1 }) none, unavailable 0]

/-- The key cools down after another error, also when the report and the use come first; and the
report alone leaves it in the cooldown of the first error. -/
theorem independent_causes_commute_of_strained :
    strainedLedger.run
          [.report nothingLeft 50000, .usage strainedKey 700 50000, unavailable 50000] =
        strainedLedger.run
          [unavailable 50000, .usage strainedKey 700 50000, .report nothingLeft 50000] ∧
      (strainedLedger.log [.report nothingLeft 50000, .usage strainedKey 700 50000,
        unavailable 50000]).getLast?.bind (fun row => row.2.reason?) = some .cooldown ∧
      ((strainedLedger.run [.report nothingLeft 50000]).entry strainedKey).cooldownUntil =
        some 60000 := by
  obtain ⟨hrun, hreason, hkeeps⟩ := independent_causes_commute strainedLedger (unavailable 50000)
    700 nothingLeft rfl rfl rfl (List.reverse_perm _)
  have hfinal : ((strainedLedger.run [.report nothingLeft 50000, .usage strainedKey 700 50000,
      unavailable 50000]).entry strainedKey).reason = .cooldown := by decide +kernel
  have hopen : (strainedLedger.entry strainedKey).cooldownUntil = some 60000 := by decide +kernel
  exact ⟨hrun, hreason.trans (congrArg some hfinal), (hkeeps.cooldown 60000).mpr ⟨hopen, by decide⟩⟩

end QuotaLedger

end ProviderRouting
