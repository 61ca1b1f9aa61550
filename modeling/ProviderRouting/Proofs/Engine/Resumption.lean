import ProviderRouting.Proofs.Engine.Restart
import ProviderRouting.Proofs.SnapshotStore

/-!
# Restarts through a file

A restart through a file loses the exact shares that providers reported, and the cooldowns that
have ended by then.  Neither can be seen in the answer to any later event: an entry changes by
events without regard to its share, and a capacity error lets its series cool down beyond every
end that has passed.
-/

namespace ProviderRouting

/-! ## Entries -/

namespace QuotaEntry

variable {entry : QuotaEntry}

def withoutShare (entry : QuotaEntry) : QuotaEntry :=
  { entry with remaining := none }

theorem withoutShare_escalate (entry : QuotaEntry) (settings : QuotaSettings)
    (errorClass : ErrorClass) (retryAfter : Option Millis) (now : Millis) :
    (entry.escalate settings errorClass retryAfter now).withoutShare =
      entry.withoutShare.escalate settings errorClass retryAfter now := by
  rw [escalate, escalate]
  split <;> rfl

theorem withoutShare_afterError (settings : QuotaSettings) (event : ErrorEvent) :
    (entry.afterError settings event).withoutShare =
      entry.withoutShare.afterError settings event := by
  have hblocked := withoutShare_escalate
    ((entry.asOf event.time settings.usageWindow).countError settings event.errorClass event.time)
    settings event.errorClass event.retryAfter event.time
  exact congrArg (fun blocked : QuotaEntry =>
    { blocked with updatedAt := event.time }.asOf event.time settings.usageWindow) hblocked

/-! Only a report of the provider changes the share, and it puts a proper one. -/

theorem escalate_remaining (settings : QuotaSettings) (errorClass : ErrorClass)
    (retryAfter : Option Millis) (now : Millis) :
    (entry.escalate settings errorClass retryAfter now).remaining = entry.remaining := by
  rw [escalate]
  split <;> rfl

theorem HasProperShare.of_eq {other : QuotaEntry} (hproper : entry.HasProperShare)
    (hsame : other.remaining = entry.remaining) : other.HasProperShare := by
  rw [HasProperShare, hsame]
  exact hproper

theorem HasProperShare.afterError (hproper : entry.HasProperShare) (settings : QuotaSettings)
    (event : ErrorEvent) : (entry.afterError settings event).HasProperShare :=
  hproper.of_eq (escalate_remaining settings event.errorClass event.retryAfter event.time)

theorem hasProperShare_afterReport (settings : QuotaSettings) (remaining : Float)
    (resetAt : Option Millis) (now : Millis) :
    (entry.afterReport settings remaining resetAt now).HasProperShare := by
  rintro share hshare hfinite
  obtain rfl := Option.some.inj hshare
  exact scaleOf_clampShare hfinite

end QuotaEntry

/-! ## Ledgers -/

namespace QuotaLedger

/-- The ledgers hold the same entries under the same settings, but for the shares. -/
structure AgreesButShares (left right : QuotaLedger) : Prop where
  entries : ∀ key, (left.entries.get? key).map QuotaEntry.withoutShare =
    (right.entries.get? key).map QuotaEntry.withoutShare
  settings : left.settings = right.settings

/-- Every share is between zero and one, if it is a number. -/
def HasProperShares (ledger : QuotaLedger) : Prop :=
  ∀ key, (ledger.entry key).HasProperShare

section Shares

variable {ledger : QuotaLedger} {key : ProviderKey}

theorem hasProperShares_empty (settings : QuotaSettings) :
    QuotaLedger.HasProperShares { settings } := by
  rintro key share hshare
  cases hshare

theorem HasProperShares.store {stored : QuotaEntry} (hproper : ledger.HasProperShares)
    (hstored : stored.HasProperShare) : (ledger.store key stored).HasProperShares := by
  intro probe
  rw [entry_store]
  split
  · exact hstored
  · exact hproper probe

theorem HasProperShares.clear (hproper : ledger.HasProperShares) (key : ProviderKey)
    (now : Millis) : (ledger.clear key now).2.HasProperShares := by
  rw [QuotaLedger.clear]
  cases ledger.entries.get? key with
  | none => exact hproper
  | some entry =>
      refine hproper.store ?_
      rintro share hshare
      cases hshare

theorem hasProperShares_applySettings (settings : Table ProviderKey StaticSettings)
    (hproper : ledger.HasProperShares) :
    (Engine.applySettings ledger settings).HasProperShares := by
  rw [Engine.applySettings]
  generalize settings.rows = rows
  induction rows generalizing ledger with
  | nil => exact hproper
  | cons row rest ih => exact ih (hproper.store ((hproper row.1).of_eq rfl))

end Shares

namespace AgreesButShares

variable {left right : QuotaLedger}

theorem entry (hagrees : left.AgreesButShares right) (key : ProviderKey) :
    (left.entry key).withoutShare = (right.entry key).withoutShare := by
  have hentries := hagrees.entries key
  rw [QuotaLedger.entry, QuotaLedger.entry]
  cases hleft : left.entries.get? key with
  | none =>
      rw [hleft, Option.map_none, eq_comm, Option.map_eq_none_iff] at hentries
      rw [hentries]
  | some entry =>
      rw [hleft, Option.map_some, eq_comm, Option.map_eq_some_iff] at hentries
      obtain ⟨other, hother, hsame⟩ := hentries
      rw [hother]
      exact hsame.symm

theorem store (hagrees : left.AgreesButShares right) (key : ProviderKey)
    {stored other : QuotaEntry} (hstored : stored.withoutShare = other.withoutShare) :
    (left.store key stored).AgreesButShares (right.store key other) where
  entries := fun probe => by
    have hleft := left.entries.get?_insert key probe stored
    have hright := right.entries.get?_insert key probe other
    rw [QuotaLedger.store, QuotaLedger.store, hleft, hright]
    split
    · exact congrArg some hstored
    · exact hagrees.entries probe
  settings := hagrees.settings

/-- Events change an entry, and answer, without regard to its share. -/
theorem change {Answer : Type} (hagrees : left.AgreesButShares right) (key : ProviderKey)
    (next : QuotaEntry → QuotaSettings → QuotaEntry) (answer : QuotaEntry → Answer)
    (hnext : ∀ entry settings,
      (next entry settings).withoutShare = (next entry.withoutShare settings).withoutShare)
    (hanswer : ∀ entry, answer entry = answer entry.withoutShare) :
    Alike AgreesButShares
      (answer (next (left.entry key) left.settings),
        left.store key (next (left.entry key) left.settings))
      (answer (next (right.entry key) right.settings),
        right.store key (next (right.entry key) right.settings)) := by
  have hchanged : (next (left.entry key) left.settings).withoutShare =
      (next (right.entry key) right.settings).withoutShare := by
    rw [hnext, hagrees.entry, hagrees.settings, ← hnext]
  refine ⟨?_, hagrees.store key hchanged⟩
  change answer (next (left.entry key) left.settings) =
    answer (next (right.entry key) right.settings)
  rw [hanswer, hchanged, ← hanswer]

theorem noteError (hagrees : left.AgreesButShares right) (event : ErrorEvent) :
    Alike AgreesButShares (left.noteError event) (right.noteError event) :=
  hagrees.change event.key (fun entry settings => entry.afterError settings event)
    (fun entry => entry.effect event.errorClass)
    (fun entry settings => by
      rw [QuotaEntry.withoutShare_afterError, QuotaEntry.withoutShare_afterError]
      rfl)
    fun _ => rfl

theorem noteSuccess (hagrees : left.AgreesButShares right) (event : SuccessEvent) :
    Alike AgreesButShares (left.noteSuccess event) (right.noteSuccess event) :=
  hagrees.change event.key (fun entry settings => entry.afterSuccess settings event.time)
    QuotaEntry.reason (fun _ _ => rfl) fun _ => rfl

theorem noteUsage (hagrees : left.AgreesButShares right) (key : ProviderKey) (tokens : UInt64)
    (now : Millis) :
    Alike AgreesButShares (left.noteUsage key tokens now) (right.noteUsage key tokens now) :=
  hagrees.change key (fun entry settings => entry.afterUsage settings tokens now)
    QuotaEntry.reason (fun _ _ => rfl) fun _ => rfl

theorem noteReport (hagrees : left.AgreesButShares right) (report : QuotaReport) (now : Millis) :
    Alike AgreesButShares (left.noteReport report now) (right.noteReport report now) :=
  hagrees.change report.key
    (fun entry settings => entry.afterReport settings report.remaining report.resetAt now)
    QuotaEntry.reason (fun _ _ => rfl) fun _ => rfl

theorem clear (hagrees : left.AgreesButShares right) (key : ProviderKey) (now : Millis) :
    Alike AgreesButShares (left.clear key now) (right.clear key now) := by
  have hentries := hagrees.entries key
  rw [QuotaLedger.clear, QuotaLedger.clear]
  cases hleft : left.entries.get? key with
  | none =>
      rw [hleft, Option.map_none, eq_comm, Option.map_eq_none_iff] at hentries
      rw [hentries]
      exact ⟨rfl, hagrees⟩
  | some entry =>
      rw [hleft, Option.map_some, eq_comm, Option.map_eq_some_iff] at hentries
      obtain ⟨other, hother, hsame⟩ := hentries
      rw [hother]
      have hcleared :=
        congrArg (fun entry : QuotaEntry => (entry.cleared now).withoutShare) hsame.symm
      exact ⟨rfl, hagrees.store key hcleared⟩

end AgreesButShares

end QuotaLedger

/-! ## Series guards -/

namespace SeriesGuard

/-- The guards name the same series under the same rules, and the same series cool down beyond a
time. -/
structure AgreesFrom (start : Millis) (left right : SeriesGuard) : Prop where
  rules : left.rules = right.rules
  grouping : left.grouping = right.grouping
  cooldowns : ∀ series finish, start < finish →
    (left.cooldowns.get? series = some finish ↔ right.cooldowns.get? series = some finish)
  patient : 0 ≤ left.rules.cooldown.value

variable {left right : SeriesGuard} {start : Millis} {event : ErrorEvent}

/-- Where a new end lies beyond the time, only ends beyond the time count beside it. -/
theorem elim_max_congr {first second : Option Millis} {finish : Millis} (hfinish : start ≤ finish)
    (hsame : ∀ time, start < time → (first = some time ↔ second = some time)) :
    first.elim finish (max · finish) = second.elim finish (max · finish) := by
  have hended {time : Millis} (hended : ¬ start < time) : max time finish = finish := by
    apply Millis.ext
    rw [Millis.value_max]
    rw [Millis.lt_iff] at hended
    rw [Millis.le_iff] at hfinish
    omega
  have hlater {option : Option Millis} (hlater : ∀ time, start < time → option ≠ some time) :
      option.elim finish (max · finish) = finish := by
    cases option with
    | none => rfl
    | some time => exact hended fun hopen => hlater time hopen rfl
  -- an end that has passed counts no more than none
  by_cases hopen : ∃ time, start < time ∧ first = some time
  · obtain ⟨time, htime, hfirst⟩ := hopen
    rw [hfirst, (hsame time htime).mp hfirst]
  · have hfirst : ∀ time, start < time → first ≠ some time := fun time htime hfirst =>
      hopen ⟨time, htime, hfirst⟩
    rw [hlater hfirst, hlater fun time htime hsecond =>
      hfirst time htime ((hsame time htime).mpr hsecond)]

namespace AgreesFrom

theorem seriesOf_eq (hagrees : left.AgreesFrom start right) (key : ProviderKey) :
    left.seriesOf key = right.seriesOf key := by
  rw [seriesOf, seriesOf, hagrees.rules, hagrees.grouping]

/-- A capacity error after the time has the same effect on both. -/
theorem noteError (hagrees : left.AgreesFrom start right) (htime : start ≤ event.time) :
    Alike (AgreesFrom start) (left.noteError event) (right.noteError event) := by
  have hfinish : start ≤ event.time.plus left.rules.cooldown := by
    have hpatient := hagrees.patient
    have hgreatest := event.time.le_greatest
    have hleast := event.time.least_le
    rw [Millis.le_iff] at htime ⊢
    rw [Millis.value_plus]
    omega
  simp only [SeriesGuard.noteError, ← hagrees.rules, ← hagrees.seriesOf_eq]
  split
  · have hends := elim_max_congr hfinish
      (fun time htime => hagrees.cooldowns (left.seriesOf event.key) time htime)
    refine ⟨?_, rfl, hagrees.grouping, ?_, hagrees.patient⟩
    · simp only [get?_extend, if_pos, hends]
    · intro series finish hopen
      simp only [get?_extend, hends]
      split
      · rfl
      · exact hagrees.cooldowns series finish hopen
  · exact ⟨rfl, hagrees⟩

end AgreesFrom

end SeriesGuard

/-! ## Engines -/

namespace Engine

/-- The engines record the same of every key, but for the shares and for what has ended by some
time. -/
structure AgreesFrom (start : Millis) (left right : Engine) : Prop where
  quota : left.quota.AgreesButShares right.quota
  series : left.series.AgreesFrom start right.series

namespace AgreesFrom

variable {left right : Engine} {start now : Millis}

theorem reportError (hagrees : left.AgreesFrom start right) {event : ErrorEvent}
    (htime : start ≤ event.time) (session : Option String) :
    Alike (AgreesFrom start) (left.reportError event session)
      (right.reportError event session) := by
  have hseries := hagrees.series.noteError htime
  have hquota := hagrees.quota.noteError event
  refine ⟨?_, hquota.state, hseries.state⟩
  simp only [Engine.reportError, hseries.answer, hquota.answer]

theorem reportSuccess (hagrees : left.AgreesFrom start right) (event : SuccessEvent) :
    Alike (AgreesFrom start) (left.reportSuccess event) (right.reportSuccess event) := by
  have hquota := hagrees.quota.noteSuccess event
  exact ⟨hquota.answer, hquota.state, hagrees.series⟩

theorem reportUsage (hagrees : left.AgreesFrom start right) (key : ProviderKey) (tokens : UInt64)
    (now : Millis) :
    Alike (AgreesFrom start) (left.reportUsage key tokens now)
      (right.reportUsage key tokens now) := by
  have hquota := hagrees.quota.noteUsage key tokens now
  exact ⟨hquota.answer, hquota.state, hagrees.series⟩

theorem reportQuota (hagrees : left.AgreesFrom start right) (report : QuotaReport)
    (now : Millis) :
    Alike (AgreesFrom start) (left.reportQuota report now) (right.reportQuota report now) := by
  have hquota := hagrees.quota.noteReport report now
  exact ⟨hquota.answer, hquota.state, hagrees.series⟩

theorem forgive (hagrees : left.AgreesFrom start right) (key : ProviderKey) (now : Millis) :
    Alike (AgreesFrom start) (left.forgive key now) (right.forgive key now) := by
  have hquota := hagrees.quota.clear key now
  refine ⟨?_, ?_, ?_⟩
  · rw [forgive_answer, forgive_answer, hquota.answer]
  · rw [forgive_quota, forgive_quota]
    exact hquota.state
  · rw [forgive_series, forgive_series]
    exact hagrees.series

end AgreesFrom

/-! ## Shares in reachable engines -/

variable {engine fresh : Engine} {config : Configuration} {call : EngineCall} {now : Millis}

theorem perform_hasProperShares (hproper : engine.quota.HasProperShares) (hevent : call.IsEvent) :
    (engine.perform now call).quota.HasProperShares := by
  cases call with
  | reportError event session =>
      exact hproper.store ((hproper event.key).afterError engine.quota.settings event)
  | reportSuccess event => exact hproper.store ((hproper event.key).of_eq rfl)
  | reportUsage key tokens => exact hproper.store ((hproper key).of_eq rfl)
  | reportQuota report =>
      exact hproper.store (QuotaEntry.hasProperShare_afterReport engine.quota.settings
        report.remaining report.resetAt now)
  | forgive key =>
      rw [perform, forgive_quota]
      exact hproper.clear key now
  | publish config => exact hevent.elim
  | select route request => exact hevent.elim
  | snapshot => exact hevent.elim
  | restore snapshot => exact hevent.elim

/-- Events put proper shares only. -/
theorem ReachableBy.hasProperShares (hreachable : ReachableBy EngineCall.IsEvent config engine) :
    engine.quota.HasProperShares := by
  induction hreachable with
  | built hbuilt =>
      obtain ⟨routes, rules, -, -, rfl⟩ := ofConfiguration_ok hbuilt
      exact QuotaLedger.hasProperShares_applySettings routes.settings
        (QuotaLedger.hasProperShares_empty _)
  | counting _ ih => exact ih
  | groupedBy _ group ih => exact ih
  | called _ now call hevent ih => exact perform_hasProperShares ih hevent

theorem published_of_isEvent (engine : Engine) (hevent : call.IsEvent) :
    engine.published config call = config := by
  cases call with
  | publish config => exact hevent.elim
  | _ => rfl

/-- Events leave the names of series to the same rules. -/
theorem perform_grouping (hevent : call.IsEvent) :
    (engine.perform now call).series.grouping = engine.series.grouping := by
  cases call with
  | reportError event session =>
      change (engine.series.noteError event).2.grouping = _
      rw [SeriesGuard.noteError]
      split <;> rfl
  | reportSuccess event => rfl
  | reportUsage key tokens => rfl
  | reportQuota report => rfl
  | forgive key => exact congrArg _ (forgive_series engine key now)
  | publish config => exact hevent.elim
  | select route request => exact hevent.elim
  | snapshot => exact hevent.elim
  | restore snapshot => exact hevent.elim

/-! ## Restoring what was read from a file -/

def TellsWellFormed (call : EngineCall) : Prop :=
  call.IsEvent ∧ NamesWellFormed call

/-- Told one thing more, an engine is still one that was told about well-formed keys only. -/
theorem ReachableBy.told (hreachable : ReachableBy TellsWellFormed config engine) (now : Millis)
    (hcall : TellsWellFormed call) :
    ReachableBy TellsWellFormed config (engine.perform now call) := by
  have hcalled := hreachable.called now call hcall
  rwa [published_of_isEvent engine hcall.1] at hcalled

theorem reread_snapshot (engine : Engine) (now : Millis) :
    (engine.snapshot now).1.reread =
      .ofEntries now (engine.quota.entries.mapValues QuotaEntry.reread)
        (engine.series.prune now).cooldowns := by
  have hproviders := Table.mapValues_ofList
    (engine.quota.entries.rows.map fun row => (row.1.text, row.2)) QuotaEntry.reread
  rw [List.map_map] at hproviders
  simp only [snapshot, Snapshot.reread, Snapshot.ofEntries, hproviders]
  simp only [Table.mapValues, List.map_map]
  rfl

theorem snapshot_hasProperShares (hproper : engine.quota.HasProperShares) :
    ∀ row ∈ (engine.snapshot now).1.providers.rows, row.2.HasProperShare := by
  intro row hrow
  have hfound := Table.mem_of_get?_ofList (Table.get?_eq_some_iff.mpr hrow)
  obtain ⟨⟨key, entry⟩, hentry, hnamed⟩ := List.mem_map.mp hfound
  obtain ⟨-, hsame⟩ := Prod.mk.inj hnamed
  have hstored : engine.quota.entry key = entry := by
    rw [QuotaLedger.entry, Table.get?_eq_some_iff.mpr hentry]
    rfl
  rw [← hsame, ← hstored]
  exact hproper key

/-- A new engine that restores what the file of a snapshot holds agrees with the engine that the
snapshot was taken of, from then on. -/
theorem exists_restore_fileText (hreachable : ReachableBy TellsWellFormed config engine)
    (hfresh : Fresh config fresh) (hgrouping : fresh.series.grouping = engine.series.grouping)
    (now : Millis) :
    ∃ snapshot restored, Snapshot.ofText? (engine.snapshot now).1.fileText = some snapshot ∧
      snapshot.ensureReadable = .ok () ∧ fresh.restore snapshot = .ok restored ∧
        engine.AgreesFrom now restored := by
  have hevents := hreachable.mono fun call hcall => hcall.1
  have hnames := hreachable.mono fun call hcall => hcall.2
  have hkeys : ∀ row ∈ (engine.quota.entries.mapValues QuotaEntry.reread).rows,
      row.1.WellFormed := by
    intro row hrow
    obtain ⟨stored, hstored, rfl⟩ := List.mem_map.mp hrow
    exact hnames.wellFormed (Table.contains_iff.mpr ⟨stored.2, hstored⟩)
  have hknown : ∀ key, fresh.quota.Knows key →
      (engine.quota.entries.mapValues QuotaEntry.reread).contains key = true := by
    intro key hknows
    have hstored := hfresh.knows_of_knows hreachable.reachable hknows
    rw [Table.contains, Table.get?_mapValues, Option.isSome_map]
    exact hstored
  obtain ⟨restored, hrestore, hentries, hsettings, hseries⟩ :=
    exists_restore_ofEntries hkeys hknown (engine.series.prune now).cooldowns
  refine ⟨(engine.snapshot now).1.reread, restored,
    Snapshot.ofText?_fileText (snapshot_hasProperShares hevents.hasProperShares), ?_, ?_, ?_⟩
  · rw [reread_snapshot]
    rfl
  · rw [reread_snapshot]
    exact hrestore
  · -- the settings and the rules are those of the configuration, all else comes from the file
    have hquota : engine.quota.AgreesButShares restored.quota := by
      refine ⟨fun key => ?_, ?_⟩
      · rw [hentries, Table.get?_mapValues, Option.map_map]
        rfl
      · rw [hsettings, hfresh.reachable.follows.settings, hreachable.reachable.follows.settings]
    have hcooldowns : restored.series.cooldowns = (engine.series.prune now).cooldowns := by
      rw [hseries, SeriesGuard.resume_cooldowns hfresh.series_idle.1]
    refine ⟨hquota, ?_, ?_, ?_, ?_⟩
    · rw [hseries]
      exact (hfresh.rules_eq hreachable.reachable).symm
    · rw [hseries]
      exact hgrouping.symm
    · intro series finish hopen
      have hkept := get?_snapshot_cooldowns engine now series finish
      rw [hcooldowns]
      exact ⟨fun hstored => hkept.mpr ⟨hstored, hopen⟩, fun hstored => (hkept.mp hstored).1⟩
    · exact SeriesRules.cooldown_nonneg hreachable.reachable.follows.rules

end Engine

end ProviderRouting
