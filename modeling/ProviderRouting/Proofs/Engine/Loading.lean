import ProviderRouting.Proofs.Engine.Restart

/-!
# Snapshots that can be loaded

A snapshot keeps entries under the texts of their keys, whatever the keys are.  It can be loaded
again when each of these texts can be read, and gives back all entries when the keys are well
formed.  A single ill-formed key keeps the whole snapshot from being loaded, or comes back as
another key.
-/

namespace ProviderRouting

namespace Engine

variable {engine fresh after restored : Engine} {config : Configuration} {key : ProviderKey}
  {now : Millis} {snapshot : Snapshot}

/-- Restoring fails for nothing but an unreadable key, given a readable version. -/
theorem exists_restore_iff (engine : Engine) (hversion : snapshot.ensureReadable = .ok ()) :
    (∃ restored, engine.restore snapshot = .ok restored) ↔
      ∃ rows, snapshot.entries = .ok rows := by
  constructor
  · rintro ⟨restored, hrestore⟩
    obtain ⟨rows, -, hread, -⟩ := restore_ok hrestore
    exact ⟨rows, hread⟩
  · rintro ⟨rows, hread⟩
    rw [restore, hversion, hread]
    exact ⟨_, rfl⟩

/-- Whatever a new engine restores, it knows well-formed keys only. -/
theorem Fresh.wellFormed_of_restore (hfresh : Fresh config fresh)
    (hrestore : fresh.restore snapshot = .ok restored) (hknows : restored.quota.Knows key) :
    key.WellFormed := by
  obtain ⟨rows, -, hread, rfl⟩ := restore_ok hrestore
  rcases QuotaLedger.knows_putAll_iff.mp hknows with ⟨row, hrow, rfl⟩ | hbefore
  · exact Snapshot.wellFormed_of_entries hread hrow
  · exact Routes.wellFormed_of_settings hfresh.reachable.routes_eq (hfresh.knows_iff.mp hbefore)

/-- A snapshot of an engine can be loaded into a new engine exactly when every key that the engine
knows has a text that can be read.  All entries come back, each under its key, exactly when all of
these keys are well formed. -/
theorem snapshot_loads_iff (hreachable : Reachable config engine) (hfresh : Fresh config fresh)
    (hsnapshot : engine.snapshot now = (snapshot, after)) :
    ((∃ restored, fresh.restore snapshot = .ok restored) ↔
        ∀ key, engine.quota.Knows key → (ProviderKey.parse? key.text).isSome = true) ∧
      ((∃ restored, fresh.restore snapshot = .ok restored ∧
          restored.quota.entries = engine.quota.entries) ↔
        ∀ key, engine.quota.Knows key → key.WellFormed) := by
  cases hsnapshot
  constructor
  · refine (exists_restore_iff fresh rfl).trans (Snapshot.exists_entries_iff.trans ?_)
    simp only [Snapshot.contains_providers_iff]
    constructor
    · exact fun hread key hknows => hread key.text ⟨key, hknows, rfl⟩
    · rintro hread text ⟨key, hknows, rfl⟩
      exact hread key hknows
  · constructor
    · rintro ⟨restored, hrestore, hentries⟩ key hknows
      refine hfresh.wellFormed_of_restore hrestore ?_
      rw [QuotaLedger.Knows, hentries]
      exact hknows
    · intro hknown
      obtain ⟨restored, hrestore, hquota, -⟩ :=
        exists_restore_entries hreachable hknown hfresh (engine.series.prune now).cooldowns
      exact ⟨restored, hrestore, hquota.entries⟩

/-! ## A key without a model -/

/-- A success of a key that no text names. -/
def namelessSuccess : EngineCall :=
  .reportSuccess ⟨⟨"north", "a", ""⟩, 0⟩

/-- An engine was told about a key whose text cannot be read. -/
theorem exists_unreadable :
    ∃ fresh engine, Fresh twoAliases fresh ∧
      ReachableBy EngineCall.IsEvent twoAliases engine ∧
        engine.quota.Knows ⟨"north", "a", ""⟩ := by
  obtain ⟨fresh, hbuilt⟩ := exists_ofConfiguration_twoAliases
  refine ⟨fresh, fresh.perform 0 namelessSuccess, .built hbuilt,
    (ReachableBy.built hbuilt).called 0 namelessSuccess trivial, ?_⟩
  exact QuotaLedger.knows_store_iff.mpr (.inl rfl)

/-- The snapshot of an engine that knows a key without a model is refused. -/
theorem snapshot_loads_iff_of_unreadable :
    ∃ fresh engine, Fresh twoAliases fresh ∧ Reachable twoAliases engine ∧
      ¬ ∃ restored, fresh.restore (engine.snapshot 0).1 = .ok restored := by
  obtain ⟨fresh, engine, hfresh, hreachable, hknows⟩ := exists_unreadable
  refine ⟨fresh, engine, hfresh, hreachable.reachable, fun hrestored => ?_⟩
  have hread := (snapshot_loads_iff hreachable.reachable hfresh rfl).1.mp hrestored _ hknows
  exact absurd hread (by decide +kernel)

/-- Not every snapshot that an engine takes can be loaded, even if the engine was told about
events only. -/
theorem not_forall_snapshot_loads :
    ¬ ∀ config engine fresh now, ReachableBy EngineCall.IsEvent config engine →
      Fresh config fresh →
        ∃ restored, fresh.restore (engine.snapshot now).1 = .ok restored ∧
          restored.quota.entries = engine.quota.entries := by
  intro hall
  obtain ⟨fresh, engine, hfresh, hreachable, hknows⟩ := exists_unreadable
  obtain ⟨restored, hrestore, hentries⟩ := hall twoAliases engine fresh 0 hreachable hfresh
  have hkey : ProviderKey.WellFormed ⟨"north", "a", ""⟩ := by
    refine hfresh.wellFormed_of_restore hrestore ?_
    rw [QuotaLedger.Knows, hentries]
    exact hknows
  exact hkey.model_nonempty rfl

end Engine

end ProviderRouting
