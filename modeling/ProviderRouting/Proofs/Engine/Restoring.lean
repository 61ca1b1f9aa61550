import ProviderRouting.PersistentEngine
import ProviderRouting.Proofs.Engine.Loading
import ProviderRouting.Proofs.Engine.StaticSettings

/-!
# What restoring a snapshot changes

A snapshot is restored as a whole or not at all.  It is refused when its format is too new or when
one of its texts names no key, and then nothing changes.  Else its entries take the place of the
entries that the engine has under the same keys, with all that stands in them: also the limits and
the priority, whatever the published configuration says about these.
-/

namespace ProviderRouting

/-- The format of the snapshot is too new, or one of its texts names no key. -/
def Snapshot.IsUnreadable (snapshot : Snapshot) : Prop :=
  currentVersion < snapshot.version ∨
    ∃ text, snapshot.providers.contains text = true ∧ ProviderKey.parse? text = none

/-- The entries of a snapshot come before those that a ledger has. -/
theorem QuotaLedger.get?_putAll {snapshot : Snapshot} {rows : List (ProviderKey × QuotaEntry)}
    (hread : snapshot.entries = .ok rows) (ledger : QuotaLedger) (key : ProviderKey) :
    (ledger.putAll rows).entries.get? key =
      (snapshot.held? key).or (ledger.entries.get? key) := by
  cases hentry : snapshot.held? key with
  | some entry =>
      refine Table.get?_foldl_insert_of_mem ((Snapshot.mem_entries_iff hread).mpr hentry) ?_
      intro other hother
      have hother := (Snapshot.mem_entries_iff hread).mp hother
      exact Option.some.inj (hother.symm.trans hentry)
  | none =>
      refine Table.get?_foldl_insert_of_not_mem fun hkey => ?_
      obtain ⟨⟨_, entry⟩, hrow, rfl⟩ := List.mem_map.mp hkey
      have hheld := (Snapshot.mem_entries_iff hread).mp hrow
      rw [hentry] at hheld
      cases hheld

namespace Engine

variable {engine fresh after restored : Engine} {config : Configuration} {snapshot : Snapshot}

/-! ## All or nothing -/

theorem exists_restore_error_iff :
    (∃ cause, engine.restore snapshot = .error cause) ↔ snapshot.IsUnreadable := by
  have hrestored : (∃ after, engine.restore snapshot = .ok after) ↔ ¬ snapshot.IsUnreadable := by
    rw [Snapshot.IsUnreadable, not_or]
    by_cases hversion : Snapshot.currentVersion < snapshot.version
    · have hrefused : engine.restore snapshot =
          .error (.unsupportedVersion snapshot.version Snapshot.currentVersion) := by
        rw [restore, Snapshot.ensureReadable, if_pos hversion]
        rfl
      simp [hrefused, hversion]
    · rw [exists_restore_iff engine (if_neg hversion), Snapshot.exists_entries_iff]
      simp [hversion, Option.isSome_iff_ne_none]
  cases hrestore : engine.restore snapshot with
  | error cause => simpa [hrestore] using hrestored
  | ok after => simpa [hrestore] using hrestored

/-- What restoring a snapshot makes of an engine. -/
structure TakesOver (snapshot : Snapshot) (before after : Engine) : Prop where
  /-- Entries of the snapshot are taken over as they are, and other entries stay. -/
  entries : ∀ key, after.quota.entries.get? key =
    (snapshot.held? key).or (before.quota.entries.get? key)
  /-- A series cools down until the later of both ends, where both are known. -/
  cooldowns : ∀ series, after.series.cooldowns.get? series =
    (snapshot.seriesCooldowns.get? series).elim (before.series.cooldowns.get? series)
      fun stored => some ((before.series.cooldowns.get? series).elim stored (max · stored))
  revision_moved : after.revision ≠ before.revision
  avoided : after.series.avoided = before.series.avoided
  rules : after.series.rules = before.series.rules
  grouping : after.series.grouping = before.series.grouping
  settings : after.quota.settings = before.quota.settings
  routes : after.routes = before.routes
  health : after.health = before.health
  sessions : after.sessions = before.sessions
  rotations : after.rotations = before.rotations
  metrics : after.metrics = before.metrics

theorem restore_takesOver (hrestore : engine.restore snapshot = .ok after) :
    TakesOver snapshot engine after := by
  obtain ⟨rows, -, hread, rfl⟩ := restore_ok hrestore
  refine {
    entries := QuotaLedger.get?_putAll hread engine.quota
    cooldowns := Table.get?_foldl_insertWith max engine.series.cooldowns snapshot.seriesCooldowns
    revision_moved := fun hsame => ?_
    avoided := rfl
    rules := rfl
    grouping := rfl
    settings := rfl
    routes := rfl
    health := rfl
    sessions := rfl
    rotations := rfl
    metrics := rfl }
  -- both counters move by one, and two is not a full turn
  have hmoved : engine.revision + 2 = engine.revision := by
    refine Eq.trans ?_ hsame
    change engine.quota.revision + engine.series.revision + (1 + 1) =
      (engine.quota.revision + 1) + (engine.series.revision + 1)
    ac_rfl
  exact absurd (UInt64.add_eq_left.mp hmoved) (by decide)

/-- A snapshot is refused when its format is too new or one of its texts names no key.  Then the
engine stays as it is, and an engine with a store also keeps its mark of what was flushed.  Else the
snapshot is taken over as a whole. -/
theorem restore_all_or_nothing (engine : Engine) (snapshot : Snapshot) (now : Millis) :
    (snapshot.IsUnreadable ∧ ∃ cause, engine.restore snapshot = .error cause ∧
        engine.perform now (.restore snapshot) = engine ∧
        ∀ store loaded mark, store.load = (.ok (some snapshot), loaded) →
          PersistentEngine.load ⟨engine, store, mark⟩ = (.error cause, ⟨engine, loaded, mark⟩)) ∨
      ¬ snapshot.IsUnreadable ∧ ∃ after, engine.restore snapshot = .ok after ∧
        engine.perform now (.restore snapshot) = after ∧ TakesOver snapshot engine after := by
  have hfails : (∃ cause, engine.restore snapshot = .error cause) ↔ snapshot.IsUnreadable :=
    exists_restore_error_iff
  rw [perform, ← hfails]
  cases hrestore : engine.restore snapshot with
  | error cause =>
      refine .inl ⟨⟨cause, rfl⟩, cause, rfl, rfl, fun store loaded mark hload => ?_⟩
      rw [PersistentEngine.load, hload]
      simp only [hrestore]
  | ok after =>
      refine .inr ⟨?_, after, rfl, rfl, restore_takesOver hrestore⟩
      rintro ⟨cause, ⟨⟩⟩

/-! ## A snapshot of one blocked key -/

/-- A snapshot that says nothing about limits and priorities. -/
def blockedAlias : Snapshot where
  version := 1
  updatedAt := 0
  providers := .ofList [("north/a/large", { cooldownUntil := some 9 })]
  seriesCooldowns := .ofList [("north.large", 7)]

theorem blockedAlias_held :
    blockedAlias.held? ⟨"north", "a", "large"⟩ = some { cooldownUntil := some 9 } := rfl

theorem exists_restore_blockedAlias (engine : Engine) :
    ∃ after, engine.restore blockedAlias = .ok after := ⟨_, rfl⟩

theorem blockedAlias_readable : ¬ blockedAlias.IsUnreadable := by
  rintro (hversion | ⟨text, hcontains, hparse⟩)
  · exact absurd hversion (by decide)
  · obtain ⟨rows, hread⟩ : ∃ rows, blockedAlias.entries = .ok rows := ⟨_, rfl⟩
    have hnamed := Snapshot.exists_entries_iff.mp ⟨rows, hread⟩ text hcontains
    rw [hparse] at hnamed
    cases hnamed

/-- An engine takes a snapshot over, and keeps its state and its mark when the same snapshot comes
in a newer format. -/
theorem restore_all_or_nothing_of_newer :
    ∃ engine after, Reachable twoAliases engine ∧ engine.restore blockedAlias = .ok after ∧
      (after.quota.entries.get? ⟨"north", "a", "large"⟩).map QuotaEntry.cooldownUntil =
        some (some 9) ∧
      ∃ cause,
        PersistentEngine.load ⟨engine, ⟨.memory (some { blockedAlias with version := 2 }) 1, 0⟩, 5⟩ =
          (.error cause,
            ⟨engine, ⟨.memory (some { blockedAlias with version := 2 }) 1, 0⟩, 5⟩) := by
  obtain ⟨engine, hbuilt⟩ := exists_ofConfiguration_twoAliases
  obtain ⟨after, hrestore, -, htaken⟩ :=
    ((restore_all_or_nothing engine blockedAlias 0).resolve_left
      fun hrefused => blockedAlias_readable hrefused.1).2
  obtain ⟨cause, -, -, hload⟩ :=
    ((restore_all_or_nothing engine { blockedAlias with version := 2 } 0).resolve_right
      fun hrestored => hrestored.1 (.inl (by decide))).2
  refine ⟨engine, after, .built hbuilt, hrestore, ?_, cause, hload _ _ 5 rfl⟩
  rw [htaken.entries, blockedAlias_held]
  rfl

/-! ## Limits and priorities -/

/-- A new engine has limits and priorities as its configuration declares them. -/
theorem Fresh.obeys (hfresh : Fresh config fresh) : fresh.quota.Obeys config.statics := by
  have hthrough : ReachableThrough [config] fresh := by
    induction hfresh with
    | built hbuilt => exact .built hbuilt
    | counting _ ih => exact ih.counting
    | groupedBy _ group ih => exact ih.groupedBy group
    | called _ _ _ hcall => exact hcall.elim
  intro key
  have hobeys := hthrough.obeys key
  rw [← List.nil_append [config], lastStatics_append_singleton] at hobeys
  exact StaticSettings.laidOver_nothing (config.statics key) ▸ hobeys

/-- In a new engine that restored a snapshot, a key has the limits and the priority that stand in
its entry of the snapshot, and those that the configuration declares if the snapshot has no entry of
it. -/
theorem restored_statics (hfresh : Fresh config fresh)
    (hrestore : fresh.restore snapshot = .ok restored) (key : ProviderKey) (now : Millis) :
    (restored.entryAt key now).limits =
        (snapshot.held? key).elim ((config.statics key).limits.getD {}) QuotaEntry.limits ∧
      (restored.entryAt key now).priorityTier =
        (snapshot.held? key).elim ((config.statics key).priorityTier.getD standardTier)
          QuotaEntry.priorityTier := by
  have hentry : restored.quota.entry key = (snapshot.held? key).getD (fresh.quota.entry key) := by
    rw [QuotaLedger.entry, (restore_takesOver hrestore).entries, QuotaLedger.entry]
    cases snapshot.held? key <;> rfl
  change (restored.quota.entry key).limits = _ ∧ (restored.quota.entry key).priorityTier = _
  rw [hentry]
  cases snapshot.held? key with
  | some entry => exact ⟨rfl, rfl⟩
  | none =>
      obtain ⟨hlimits, htier⟩ := hfresh.obeys key
      exact ⟨hlimits, htier⟩

/-- The limits of a configuration are lost to a snapshot that has none. -/
theorem restored_statics_of_unlimited :
    ∃ fresh restored, Fresh limitedAlias fresh ∧ fresh.restore blockedAlias = .ok restored ∧
      (restored.entryAt ⟨"north", "a", "large"⟩ 0).limits = {} ∧
        (restored.entryAt ⟨"north", "a", "large"⟩ 0).priorityTier = standardTier := by
  obtain ⟨fresh, hbuilt⟩ := exists_ofConfiguration limitedAlias_valid
  obtain ⟨restored, hrestore⟩ := exists_restore_blockedAlias fresh
  obtain ⟨hlimits, htier⟩ := restored_statics (.built hbuilt) hrestore ⟨"north", "a", "large"⟩ 0
  rw [blockedAlias_held] at hlimits htier
  exact ⟨fresh, restored, .built hbuilt, hrestore, hlimits, htier⟩

/-- Restoring a snapshot does not leave declared limits and priorities as they are. -/
theorem not_forall_restored_statics_declared :
    ¬ ∀ config fresh snapshot restored, Fresh config fresh →
      fresh.restore snapshot = .ok restored → ∀ key now,
        (∀ limits, (config.statics key).limits = some limits →
          (restored.entryAt key now).limits = limits) ∧
        ∀ tier, (config.statics key).priorityTier = some tier →
          (restored.entryAt key now).priorityTier = tier := by
  intro hall
  obtain ⟨fresh, hbuilt⟩ := exists_ofConfiguration limitedAlias_valid
  obtain ⟨restored, hrestore⟩ := exists_restore_blockedAlias fresh
  obtain ⟨-, htier⟩ := hall limitedAlias fresh blockedAlias restored (.built hbuilt) hrestore
    ⟨"north", "a", "large"⟩ 0
  have hdeclared := htier 5 (by decide +kernel)
  have htaken : (restored.quota.entry ⟨"north", "a", "large"⟩).priorityTier = standardTier := by
    rw [QuotaLedger.entry, (restore_takesOver hrestore).entries, blockedAlias_held]
    rfl
  have hsame : standardTier = 5 := htaken.symm.trans hdeclared
  exact absurd hsame (by decide)

end Engine

end ProviderRouting
