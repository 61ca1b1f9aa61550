import ProviderRouting.Proofs.Engine.KnownKeys

/-!
# Restarts

An engine's snapshot, restored into a new engine with the same configuration, gives back every
entry and every series cooldown.  From then on the two engines cannot be told apart by what is
recorded: they answer all events alike, every key's entry looks the same at every time, and the
same series cool down.
-/

namespace ProviderRouting

theorem QuotaLedger.putAll_entries {ledger : QuotaLedger} {rows : List (ProviderKey × QuotaEntry)}
    {entries : Table ProviderKey QuotaEntry} (hrows : ∀ row, row ∈ rows ↔ row ∈ entries.rows)
    (hknown : ∀ key, ledger.Knows key → entries.contains key = true) :
    (ledger.putAll rows).entries = entries := by
  apply Table.eq_of_get?
  intro key
  cases hentry : entries.get? key with
  | some entry =>
      have hmem : (key, entry) ∈ rows := (hrows _).mpr (Table.get?_eq_some_iff.mp hentry)
      refine Table.get?_foldl_insert_of_mem hmem fun other hother => ?_
      have hother_entry := Table.get?_eq_some_iff.mpr ((hrows _).mp hother)
      exact Option.some.inj (hother_entry.symm.trans hentry)
  | none =>
      have hunknown : entries.contains key ≠ true := by simp [Table.contains, hentry]
      have habsent : key ∉ rows.map Prod.fst := by
        intro hkey
        obtain ⟨⟨_, entry⟩, hrow, rfl⟩ := List.mem_map.mp hkey
        exact hunknown (Table.contains_iff.mpr ⟨entry, (hrows _).mp hrow⟩)
      refine (Table.get?_foldl_insert_of_not_mem habsent).trans ?_
      have hbefore : ¬ ledger.Knows key := mt (hknown key) hunknown
      simpa [QuotaLedger.Knows, Table.contains] using hbefore

/-- A guard without cooldowns takes over those of a snapshot as they are. -/
theorem SeriesGuard.resume_cooldowns {guard : SeriesGuard} (hempty : guard.cooldowns = ∅)
    (cooldowns : Table String Millis) : (guard.resume cooldowns).cooldowns = cooldowns := by
  apply Table.eq_of_get?
  intro series
  refine (Table.get?_foldl_insertWith max guard.cooldowns cooldowns series).trans ?_
  rw [hempty, Table.get?_empty]
  cases cooldowns.get? series <;> rfl

namespace Engine

variable {engine fresh after : Engine} {config : Configuration} {key : ProviderKey}
  {now : Millis} {snapshot : Snapshot}

/-! ## New engines -/

/-- The engine was just built from the configuration; no call was made on it. -/
def Fresh : Configuration → Engine → Prop :=
  ReachableBy fun _ => False

theorem ofConfiguration_ok (hbuilt : ofConfiguration config = .ok engine) :
    ∃ routes rules, Routes.ofConfiguration config = .ok routes ∧
      SeriesRules.ofSettings config.series = .ok rules ∧
        engine = {
          routes
          health := config.health
          quota := applySettings { settings := config.quota } routes.settings
          series := { rules } } := by
  obtain ⟨initial, hinitial, hpublish⟩ := bind_eq_ok_iff.mp hbuilt
  obtain ⟨_, -, hinitial⟩ := bind_eq_ok_iff.mp hinitial
  obtain ⟨routes, series, hcompiled, hseries, rfl⟩ := publish_ok hpublish
  obtain ⟨rules, hrules, rfl⟩ := SeriesGuard.withSettings_ok hseries
  obtain rfl := Except.ok.inj hinitial
  exact ⟨routes, rules, hcompiled, hrules, rfl⟩

/-- A new engine knows no more than its configuration sets. -/
theorem Fresh.knows_iff (hfresh : Fresh config fresh) :
    fresh.quota.Knows key ↔ fresh.routes.settings.contains key = true := by
  induction hfresh with
  | built hbuilt =>
      obtain ⟨routes, rules, -, -, rfl⟩ := ofConfiguration_ok hbuilt
      exact QuotaLedger.knows_applySettings_iff.trans (or_iff_left Bool.false_ne_true)
  | counting _ ih => exact ih
  | groupedBy _ group ih => exact ih
  | called _ _ _ hcall => exact hcall.elim

/-- The series guard of a new engine has noted nothing yet. -/
theorem Fresh.series_idle (hfresh : Fresh config fresh) :
    fresh.series.cooldowns = ∅ ∧ fresh.series.avoided = ∅ := by
  induction hfresh with
  | built hbuilt =>
      obtain ⟨routes, rules, -, -, rfl⟩ := ofConfiguration_ok hbuilt
      exact ⟨rfl, rfl⟩
  | counting _ ih => exact ih
  | groupedBy _ group ih => exact ih
  | called _ _ _ hcall => exact hcall.elim

/-- Every reachable engine could be built anew, with the same names of series. -/
theorem Reachable.exists_fresh (hreachable : Reachable config engine) :
    ∃ fresh, Fresh config fresh ∧ fresh.series.grouping = engine.series.grouping := by
  have hrules := hreachable.follows.rules
  obtain ⟨fresh, hbuilt⟩ : ∃ fresh, ofConfiguration config = .ok fresh := by
    simp only [ofConfiguration, publish, SeriesGuard.ofSettings, SeriesGuard.withSettings,
      hreachable.routes_eq, hrules]
    exact ⟨_, rfl⟩
  cases hgrouping : engine.series.grouping with
  | none =>
      refine ⟨fresh, .built hbuilt, ?_⟩
      obtain ⟨routes, rules, -, -, rfl⟩ := ofConfiguration_ok hbuilt
      rfl
  | some group => exact ⟨fresh.groupedBy group, (ReachableBy.built hbuilt).groupedBy group, rfl⟩

/-! ## Snapshot and restore -/

/-- A snapshot drops exactly the cooldowns that have ended. -/
theorem get?_snapshot_cooldowns (engine : Engine) (now : Millis) (series : String)
    (finish : Millis) :
    (engine.snapshot now).2.series.cooldowns.get? series = some finish ↔
      engine.series.cooldowns.get? series = some finish ∧ now < finish := by
  change (engine.series.cooldowns.filter fun _ finish => decide (now < finish)).get? series =
    some finish ↔ _
  rw [Table.get?_filter, Option.filter_eq_some_iff, decide_eq_true_eq]

/-- A snapshot of well-formed keys can be restored into any engine. -/
theorem restore_ofEntries {entries : Table ProviderKey QuotaEntry}
    {cooldowns : Table String Millis} (engine : Engine)
    (hkeys : ∀ row ∈ entries.rows, row.1.WellFormed) :
    ∃ rows, (∀ row, row ∈ rows ↔ row ∈ entries.rows) ∧
      engine.restore (.ofEntries now entries cooldowns) = .ok { engine with
        quota := engine.quota.putAll rows
        series := engine.series.resume cooldowns } := by
  obtain ⟨rows, hread, hrows⟩ := Snapshot.entries_ofEntries hkeys
  refine ⟨rows, hrows, ?_⟩
  have hreadable : (Snapshot.ofEntries now entries cooldowns).ensureReadable = .ok () := rfl
  rw [restore, hreadable, hread]
  rfl

/-- An engine that knows nothing else takes over the entries of a snapshot as they are. -/
theorem exists_restore_ofEntries {entries : Table ProviderKey QuotaEntry}
    (hkeys : ∀ row ∈ entries.rows, row.1.WellFormed)
    (hknown : ∀ key, fresh.quota.Knows key → entries.contains key = true)
    (cooldowns : Table String Millis) :
    ∃ restored, fresh.restore (.ofEntries now entries cooldowns) = .ok restored ∧
      restored.quota.entries = entries ∧ restored.quota.settings = fresh.quota.settings ∧
        restored.series = fresh.series.resume cooldowns := by
  obtain ⟨rows, hrows, hrestore⟩ := restore_ofEntries fresh hkeys
  exact ⟨_, hrestore, QuotaLedger.putAll_entries hrows hknown, rfl, rfl⟩

/-- A new engine knows only keys that every engine with the same configuration knows. -/
theorem Fresh.knows_of_knows (hfresh : Fresh config fresh) (hreachable : Reachable config engine)
    (hknows : fresh.quota.Knows key) : engine.quota.Knows key := by
  rw [hfresh.knows_iff, hfresh.reachable.routes_unique hreachable] at hknows
  exact hreachable.follows.knows key hknows

/-- A new engine takes over all entries of an engine that knows well-formed keys only. -/
theorem exists_restore_entries (hreachable : Reachable config engine)
    (hknown : ∀ key, engine.quota.Knows key → key.WellFormed) (hfresh : Fresh config fresh)
    (cooldowns : Table String Millis) :
    ∃ restored,
      fresh.restore (.ofEntries now engine.quota.entries cooldowns) = .ok restored ∧
        restored.quota.Agrees engine.quota ∧
          restored.series = fresh.series.resume cooldowns := by
  have hkeys : ∀ row ∈ engine.quota.entries.rows, row.1.WellFormed := fun row hrow =>
    hknown row.1 (Table.contains_iff.mpr ⟨row.2, hrow⟩)
  obtain ⟨restored, hrestore, hentries, hsettings, hseries⟩ := exists_restore_ofEntries hkeys
    (fun _ => hfresh.knows_of_knows hreachable) cooldowns
  refine ⟨restored, hrestore, ⟨hentries, ?_⟩, hseries⟩
  rw [hsettings, hfresh.reachable.follows.settings, hreachable.follows.settings]

/-- New engines name series by the same rules as every engine with the same configuration. -/
theorem Fresh.rules_eq (hfresh : Fresh config fresh) (hreachable : Reachable config engine) :
    fresh.series.rules = engine.series.rules := by
  have hparsed := hfresh.reachable.follows.rules
  rw [hreachable.follows.rules] at hparsed
  exact (Except.ok.inj hparsed).symm

/-- A new engine that restores a snapshot mirrors the engine the snapshot was taken of. -/
theorem exists_restore_mirrors (hreachable : ReachableBy NamesWellFormed config engine)
    (hfresh : Fresh config fresh) (hgrouping : fresh.series.grouping = engine.series.grouping)
    (now : Millis) :
    ∃ restored, fresh.restore (engine.snapshot now).1 = .ok restored ∧
      restored.Mirrors (engine.snapshot now).2 := by
  have hrules := hfresh.rules_eq hreachable.reachable
  obtain ⟨restored, hrestore, hquota, hseries⟩ := exists_restore_entries hreachable.reachable
    (fun _ => hreachable.wellFormed) hfresh (engine.series.prune now).cooldowns
  refine ⟨restored, hrestore, hquota, ?_⟩
  rw [hseries]
  exact ⟨hrules, hgrouping, SeriesGuard.resume_cooldowns hfresh.series_idle.1 _⟩

/-- A snapshot carries over all that is recorded.  A new engine can be built, and restoring the
snapshot into it succeeds and gives back all entries and all cooldowns that have not ended.  No run
of events tells the two engines apart afterwards. -/
theorem restore_snapshot_preserves (hreachable : ReachableBy NamesWellFormed config engine)
    (hsnapshot : engine.snapshot now = (snapshot, after)) :
    (∃ fresh, Fresh config fresh ∧ fresh.series.grouping = engine.series.grouping) ∧
      ∀ fresh, Fresh config fresh → fresh.series.grouping = engine.series.grouping →
        ∃ restored, fresh.restore snapshot = .ok restored ∧
          restored.quota.entries = engine.quota.entries ∧
          restored.series.cooldowns = after.series.cooldowns ∧
          (∀ series finish, restored.series.cooldowns.get? series = some finish ↔
            engine.series.cooldowns.get? series = some finish ∧ now < finish) ∧
          ∀ calls : List TimedCall, (∀ timed ∈ calls, timed.call.IsEvent) →
            restored.answers calls = after.answers calls ∧
            ∀ key time,
              (restored.run calls).entryAt key time = (after.run calls).entryAt key time ∧
              (restored.run calls).series.isCoolingDown key time =
                (after.run calls).series.isCoolingDown key time := by
  refine ⟨hreachable.reachable.exists_fresh, fun fresh hfresh hgrouping => ?_⟩
  obtain ⟨restored, hrestore, hmirrors⟩ := exists_restore_mirrors hreachable hfresh hgrouping now
  cases hsnapshot
  refine ⟨restored, hrestore, hmirrors.quota.entries, hmirrors.series.cooldowns, ?_, ?_⟩
  · intro series finish
    rw [hmirrors.series.cooldowns]
    exact get?_snapshot_cooldowns engine now series finish
  · intro calls hevents
    obtain ⟨hanswers, hafter⟩ := hmirrors.run hevents
    refine ⟨hanswers, fun key time => ⟨?_, ?_⟩⟩
    · exact hafter.quota.entryAt_eq key time
    · exact hafter.series.isCoolingDown_eq key time

/-- A series that began to cool down before a restart still does after it, also for the alias that
was not asked. -/
theorem restore_snapshot_preserves_cooldown :
    ∃ engine fresh restored, ReachableBy NamesWellFormed twoAliases engine ∧
      Fresh twoAliases fresh ∧ fresh.restore (engine.snapshot 5).1 = .ok restored ∧
        (restored.run [⟨6, .reportUsage ⟨"north", "b", "large"⟩ 10⟩]).series.isCoolingDown
          ⟨"north", "b", "large"⟩ 7 = true := by
  obtain ⟨fresh, hbuilt⟩ := exists_ofConfiguration_twoAliases
  let event : ErrorEvent :=
    { key := ⟨"north", "a", "large"⟩, status := some 429, code := some "RESOURCE_EXHAUSTED",
      time := 0 }
  let exhaustion : EngineCall := .reportError event none
  let later : List TimedCall := [⟨6, .reportUsage ⟨"north", "b", "large"⟩ 10⟩]
  have hnames : NamesWellFormed exhaustion := by
    rintro key hrecorded
    obtain rfl := Option.some.inj hrecorded
    constructor <;> simp [event]
  have hreachable : ReachableBy NamesWellFormed twoAliases (fresh.perform 0 exhaustion) :=
    (ReachableBy.built hbuilt).called 0 exhaustion hnames
  have hexhausted : fresh.series.grouping = (fresh.perform 0 exhaustion).series.grouping ∧
      (((fresh.perform 0 exhaustion).snapshot 5).2.run later).series.isCoolingDown
        ⟨"north", "b", "large"⟩ 7 = true := by
    simp only [ofConfiguration, publish, Routes.ofConfiguration, twoAliases_valid] at hbuilt
    cases hbuilt
    exact ⟨rfl, by decide +kernel⟩
  obtain ⟨hgrouping, hcooling⟩ := hexhausted
  have hfresh : Fresh twoAliases fresh := .built hbuilt
  obtain ⟨-, hrestored⟩ := restore_snapshot_preserves hreachable rfl
  obtain ⟨restored, hrestore, -, -, -, hsame⟩ := hrestored fresh hfresh hgrouping
  have hevents : ∀ timed ∈ later, timed.call.IsEvent := by
    intro timed htimed
    obtain rfl := List.mem_singleton.mp htimed
    trivial
  obtain ⟨-, hafter⟩ := hsame later hevents
  refine ⟨_, fresh, restored, hreachable, hfresh, hrestore, ?_⟩
  exact (hafter ⟨"north", "b", "large"⟩ 7).2.trans hcooling

end Engine

end ProviderRouting
