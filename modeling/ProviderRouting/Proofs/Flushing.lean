import ProviderRouting.PersistentEngine
import ProviderRouting.Proofs.Engine.Restoring
import ProviderRouting.Proofs.Engine.Revision
import ProviderRouting.Proofs.SnapshotStore

/-!
# Flushes lose nothing

An engine is flushed to its store when its revision differs from the mark of the last flush that
succeeded.  The mark and the changes made since then always add up to the revision, where building
the engine counts as a change too and the mark of an engine that was never flushed stands one
before zero.  So a flush is left out only when nothing has changed since the store got what it
holds, unless so many changes were made that the revision came round to the mark.
-/

namespace ProviderRouting

/-! ## What a store holds -/

theorem Snapshot.read_ok {files : Files} {path : String} {snapshot : Snapshot}
    (hread : read files path = .ok (some snapshot)) :
    ∃ text, files.read (.ofText path) = .ok text ∧ ofText? text = some snapshot := by
  rw [read] at hread
  split at hread
  · cases hread
  · cases hread
  · next text htext =>
      split at hread
      · cases hread
      · next stored hstored =>
          obtain ⟨⟨⟩, -, hsome⟩ := bind_eq_ok_iff.mp hread
          cases hsome
          exact ⟨text, htext, hstored⟩

namespace SnapshotStore

variable {store after : SnapshotStore} {snapshot : Snapshot}

/-- The store holds the snapshot: in memory, or in a file that has the snapshot's text or is read as
the snapshot. -/
def Holds (store : SnapshotStore) (snapshot : Snapshot) : Prop :=
  match store.medium with
  | .memory kept _ => kept = some snapshot
  | .file path files =>
      ∃ text, files.read (.ofText path) = .ok text ∧
        (text = snapshot.fileText ∨ Snapshot.ofText? text = some snapshot)

theorem Holds.of_medium (hholds : store.Holds snapshot) (hmedium : after.medium = store.medium) :
    after.Holds snapshot := by
  rw [Holds, hmedium]
  exact hholds

/-- Loading changes nothing but how many more requests are refused. -/
theorem load_medium (store : SnapshotStore) : store.load.2.medium = store.medium := by
  obtain ⟨medium, refusals⟩ := store
  cases refusals with
  | succ remaining => rfl
  | zero => cases medium <;> rfl

/-- A store holds what was loaded from it. -/
theorem holds_of_load (hload : store.load = (.ok (some snapshot), after)) :
    after.Holds snapshot := by
  have hmedium := store.load_medium
  rw [hload] at hmedium
  refine Holds.of_medium ?_ hmedium
  obtain ⟨medium, refusals⟩ := store
  cases refusals with
  | succ remaining => cases hload
  | zero =>
      cases medium with
      | memory kept saves => exact Except.ok.inj (Prod.mk.inj hload).1
      | file path files =>
          obtain ⟨text, htext, hparsed⟩ := Snapshot.read_ok (Prod.mk.inj hload).1
          exact ⟨text, htext, .inr hparsed⟩

/-- A store holds what was saved in it. -/
theorem holds_of_save (hsave : store.save snapshot = (.ok (), after)) : after.Holds snapshot := by
  obtain ⟨medium, refusals⟩ := store
  cases refusals with
  | succ remaining => cases hsave
  | zero =>
      cases medium with
      | memory kept saves =>
          obtain ⟨-, rfl⟩ := Prod.mk.inj hsave
          rfl
      | file path files =>
          rcases Snapshot.write_contents files path snapshot with
            ⟨cause, written, hwrite, -⟩ | ⟨written, hwrite, hcontent⟩
          · simp [save, hwrite] at hsave
          · simp only [save, hwrite, Prod.mk.injEq, true_and] at hsave
            subst hsave
            exact ⟨snapshot.fileText, Files.read_eq_ok_iff.mpr hcontent, .inl rfl⟩

end SnapshotStore

/-! ## What a snapshot records -/

/-- The snapshot has exactly the engine's entries, and of the cooldowns that have not ended exactly
the engine's. -/
structure Snapshot.Records (snapshot : Snapshot) (engine : Engine) (now : Millis) : Prop where
  entries : ∃ rows, snapshot.entries = .ok rows ∧
    ∀ row, row ∈ rows ↔ row ∈ engine.quota.entries.rows
  cooldowns : ∀ series finish, now < finish →
    (snapshot.seriesCooldowns.get? series = some finish ↔
      engine.series.cooldowns.get? series = some finish)

namespace Snapshot.Records

variable {snapshot : Snapshot} {engine after : Engine} {now later : Millis}

theorem of_le (hrecords : snapshot.Records engine now) (hlater : now ≤ later) :
    snapshot.Records engine later where
  entries := hrecords.entries
  cooldowns := fun series finish hfinish =>
    hrecords.cooldowns series finish (Int.lt_of_le_of_lt hlater hfinish)

/-- What a snapshot recorded it still records after a call that makes no change. -/
theorem perform {call : EngineCall} (hrecords : snapshot.Records engine now)
    (hnone : engine.changes call = 0) : snapshot.Records (engine.perform now call) now := by
  obtain ⟨hentries, hcooldowns⟩ := Engine.perform_of_changes_eq_zero now hnone
  obtain ⟨rows, hread, hrows⟩ := hrecords.entries
  exact ⟨⟨rows, hread, hentries ▸ hrows⟩, fun series finish hfinish =>
    (hrecords.cooldowns series finish hfinish).trans (hcooldowns series finish hfinish).symm⟩

/-- A snapshot records the engine that it was taken of. -/
theorem of_snapshot (hknown : ∀ key, engine.quota.Knows key → key.WellFormed) (now : Millis) :
    (engine.snapshot now).1.Records (engine.snapshot now).2 now where
  entries := Snapshot.entries_ofEntries fun row hrow =>
    hknown row.1 (Table.contains_iff.mpr ⟨row.2, hrow⟩)
  cooldowns := fun _ _ _ => Iff.rfl

/-- A snapshot records an engine that restored it and had nothing recorded before. -/
theorem of_restore (hrestore : engine.restore snapshot = .ok after)
    (hentries : engine.quota.entries = ∅) (hcooldowns : engine.series.cooldowns = ∅)
    (now : Millis) : snapshot.Records after now := by
  obtain ⟨rows, -, hread, -⟩ := Engine.restore_ok hrestore
  have htaken := Engine.restore_takesOver hrestore
  refine ⟨⟨rows, hread, fun ⟨key, entry⟩ => ?_⟩, fun series finish _ => ?_⟩
  · rw [Snapshot.mem_entries_iff hread, ← Table.get?_eq_some_iff, htaken.entries, hentries,
      Table.get?_empty, Option.or_none]
  · rw [htaken.cooldowns, hcooldowns, Table.get?_empty]
    cases snapshot.seriesCooldowns.get? series <;> rfl

end Snapshot.Records

/-! ## Runs with a store -/

namespace PersistentEngine

/-- How many changes are not saved, now that a load or a flush has answered. -/
def unsavedAfter (unsaved : Nat) : Except RoutingError Bool → Nat
  | .ok true => 0
  | _ => unsaved

/-- The states that a run with a store can lead to, each with what the clock reads and with how many
changes were made since the store got what it holds.  The clock never goes back.  The store is used
for nothing else, but may refuse whatever it wants.  A snapshot is loaded only while nothing is
recorded yet. -/
inductive Reached : PersistentEngine → Millis → Nat → Prop where
  /-- The engine is new, and nothing of it is saved: building it counts as a change. -/
  | opened {config : Configuration} {engine : Engine} (fresh : Engine.Fresh config engine)
      (store : SnapshotStore) (now : Millis) :
      Reached { engine, store } now ((Routes.settingsOf config).size + 1)
  | waited {state : PersistentEngine} {now later : Millis} {unsaved : Nat}
      (reached : Reached state now unsaved) (later_le : now ≤ later) : Reached state later unsaved
  | called {state : PersistentEngine} {now : Millis} {unsaved : Nat}
      (reached : Reached state now unsaved) (call : EngineCall)
      (names : Engine.NamesWellFormed call) (restores : ∀ snapshot, call ≠ .restore snapshot) :
      Reached { state with engine := state.engine.perform now call } now
        (unsaved + state.engine.changes call)
  | loaded {state : PersistentEngine} {now : Millis} {unsaved : Nat}
      (reached : Reached state now unsaved) (entries : state.engine.quota.entries = ∅)
      (cooldowns : state.engine.series.cooldowns = ∅) :
      Reached state.load.2 now (unsavedAfter unsaved state.load.1)
  | flushed {state : PersistentEngine} {now : Millis} {unsaved : Nat}
      (reached : Reached state now unsaved) :
      Reached (state.flush now).2 now (unsavedAfter unsaved (state.flush now).1)
  | disturbed {state : PersistentEngine} {now : Millis} {unsaved : Nat}
      (reached : Reached state now unsaved) (store : SnapshotStore)
      (holds : ∀ snapshot, state.store.Holds snapshot → store.Holds snapshot) :
      Reached { state with store } now unsaved

structure KeptUp (state : PersistentEngine) (now : Millis) (unsaved : Nat) : Prop where
  reachable : ∃ config, Engine.ReachableBy Engine.NamesWellFormed config state.engine
  mark : state.engine.revision = state.lastFlushed + .ofNat unsaved
  saved : unsaved = 0 → ∃ snapshot, state.store.Holds snapshot ∧ snapshot.Records state.engine now

variable {state : PersistentEngine} {now later : Millis} {unsaved : Nat}

theorem isDue_iff (hmark : state.engine.revision = state.lastFlushed + .ofNat unsaved)
    (hroom : unsaved < 18446744073709551616) : state.isDue = true ↔ unsaved ≠ 0 := by
  rw [isDue, bne_iff_ne, hmark, ne_eq, eq_comm, UInt64.add_eq_left, ← UInt64.toNat_inj,
    UInt64.toNat_ofNat', UInt64.toNat_zero, Nat.mod_eq_of_lt hroom]

/-- The flush takes a snapshot to the store, and answers as the store does. -/
def Attempts (state : PersistentEngine) (now : Millis) : Prop :=
  (state.flush now).1 = (state.store.save (state.engine.snapshot now).1).1.map (fun _ => true) ∧
    (state.flush now).2.store = (state.store.save (state.engine.snapshot now).1).2

theorem attempts_of_isDue (hdue : state.isDue = true) (now : Millis) : state.Attempts now := by
  rw [Attempts, flush, if_pos hdue]
  rcases hsave : state.store.save (state.engine.snapshot now).1 with ⟨cause | ⟨⟩, store⟩ <;>
    simp [hsave, Except.map]

namespace KeptUp

theorem opened {config : Configuration} {engine : Engine} (hfresh : Engine.Fresh config engine)
    (store : SnapshotStore) (now : Millis) :
    KeptUp { engine, store } now ((Routes.settingsOf config).size + 1) where
  reachable := ⟨config, hfresh.mono fun _ hcall => hcall.elim⟩
  mark := by
    change engine.revision = 18446744073709551615 + .ofNat ((Routes.settingsOf config).size + 1)
    have hround : (18446744073709551615 : UInt64) + 1 = 0 := rfl
    rw [Engine.Fresh.revision_eq hfresh, Nat.add_comm, UInt64.ofNat_add, ← UInt64.add_assoc]
    exact (UInt64.zero_add _).symm
  saved := fun hnone => absurd hnone (Nat.succ_ne_zero _)

theorem waited (hkept : KeptUp state now unsaved) (hlater : now ≤ later) :
    KeptUp state later unsaved where
  reachable := hkept.reachable
  mark := hkept.mark
  saved := fun hnone =>
    (hkept.saved hnone).imp fun _ hsaved => ⟨hsaved.1, hsaved.2.of_le hlater⟩

theorem called (hkept : KeptUp state now unsaved) {call : EngineCall}
    (hnames : Engine.NamesWellFormed call) :
    KeptUp { state with engine := state.engine.perform now call } now
      (unsaved + state.engine.changes call) where
  reachable := by
    obtain ⟨config, hreachable⟩ := hkept.reachable
    exact ⟨_, hreachable.called now call hnames⟩
  mark := by
    rw [Engine.perform_revision, hkept.mark, UInt64.ofNat_add, UInt64.add_assoc]
  saved := by
    intro hnone
    obtain ⟨hunsaved, hchanges⟩ := Nat.add_eq_zero_iff.mp hnone
    exact (hkept.saved hunsaved).imp fun _ hsaved => ⟨hsaved.1, hsaved.2.perform hchanges⟩

theorem with_store (hkept : KeptUp state now unsaved) {store : SnapshotStore}
    (hholds : ∀ snapshot, state.store.Holds snapshot → store.Holds snapshot) :
    KeptUp { state with store } now unsaved where
  reachable := hkept.reachable
  mark := hkept.mark
  saved := fun hnone =>
    (hkept.saved hnone).imp fun snapshot hsaved => ⟨hholds snapshot hsaved.1, hsaved.2⟩

theorem loaded (hkept : KeptUp state now unsaved) (hentries : state.engine.quota.entries = ∅)
    (hcooldowns : state.engine.series.cooldowns = ∅) :
    KeptUp state.load.2 now (unsavedAfter unsaved state.load.1) := by
  have hmedium := state.store.load_medium
  rw [load]
  rcases hload : state.store.load with ⟨cause | (_ | snapshot), store⟩
  all_goals
    rw [hload] at hmedium
    have hsame : KeptUp { state with store } now unsaved :=
      hkept.with_store fun _ hholds => hholds.of_medium hmedium
  · exact hsame
  · exact hsame
  · cases hrestore : state.engine.restore snapshot with
    | error cause =>
        simp only [hrestore]
        exact hsame
    | ok after =>
        simp only [hrestore]
        obtain ⟨config, hreachable⟩ := hkept.reachable
        have hcalled := hreachable.called now (.restore snapshot) (by rintro _ ⟨⟩)
        rw [Engine.perform, hrestore] at hcalled
        exact {
          reachable := ⟨_, hcalled⟩
          mark := (UInt64.add_zero _).symm
          saved := fun _ => ⟨snapshot, SnapshotStore.holds_of_load hload,
            .of_restore hrestore hentries hcooldowns now⟩ }

theorem flushed (hkept : KeptUp state now unsaved) :
    KeptUp (state.flush now).2 now (unsavedAfter unsaved (state.flush now).1) := by
  obtain ⟨config, hreachable⟩ := hkept.reachable
  have htaken := hreachable.called now .snapshot (by rintro _ ⟨⟩)
  rw [flush]
  split
  · next hdue =>
      rcases hsave : state.store.save (state.engine.snapshot now).1 with ⟨cause | ⟨⟩, store⟩
      · simp only [hsave]
        refine ⟨⟨_, htaken⟩, hkept.mark, fun hnone => ?_⟩
        -- nothing would have been due
        have hmark := hkept.mark
        rw [show unsaved = 0 from hnone] at hmark
        exact absurd rfl ((isDue_iff hmark (by decide)).mp hdue)
      · simp only [hsave]
        exact {
          reachable := ⟨_, htaken⟩
          mark := (UInt64.add_zero _).symm
          saved := fun _ => ⟨_, SnapshotStore.holds_of_save hsave,
            .of_snapshot (fun _ => hreachable.wellFormed) now⟩ }
  · exact hkept

end KeptUp

theorem Reached.keptUp (hreached : Reached state now unsaved) : KeptUp state now unsaved := by
  induction hreached with
  | opened hfresh store now => exact .opened hfresh store now
  | waited _ hlater ih => exact ih.waited hlater
  | called _ call hnames _ ih => exact ih.called hnames
  | loaded _ hentries hcooldowns ih => exact ih.loaded hentries hcooldowns
  | flushed _ ih => exact ih.flushed
  | disturbed _ store hholds ih => exact ih.with_store hholds

/-- A flush that succeeds, whether it saved anything or not, leaves the store with what the engine has
recorded by then.  It saves whenever there are changes that are not saved, and so does the first
flush after one that failed, whatever calls were made between the two.  What is needed is that fewer
than 2^64 changes are waiting to be saved. -/
theorem flush_loses_nothing (hreached : Reached state now unsaved)
    (hroom : unsaved < 18446744073709551616) :
    (∀ saved, (state.flush now).1 = .ok saved →
        ∃ snapshot, (state.flush now).2.store.Holds snapshot ∧
          snapshot.Records (state.flush now).2.engine now) ∧
      (0 < unsaved → state.Attempts now) ∧
      ∀ cause, (state.flush now).1 = .error cause → ∀ calls store later,
        unsaved + (state.flush now).2.engine.changesOf calls < 18446744073709551616 →
          Attempts {
            engine := (state.flush now).2.engine.run calls
            store
            lastFlushed := (state.flush now).2.lastFlushed } later := by
  have hkept := hreached.keptUp
  have hflushed := hkept.flushed
  refine ⟨fun saved hok => hflushed.saved ?_, fun hunsaved => ?_, ?_⟩
  · cases saved with
    | true => rw [hok]; rfl
    | false =>
        rw [hok]
        -- a flush that saves nothing finds nothing to save
        by_contra hunsaved
        have hdue := (isDue_iff hkept.mark hroom).mpr hunsaved
        have hattempted := (attempts_of_isDue hdue now).1
        rw [hok] at hattempted
        cases hsave : (state.store.save (state.engine.snapshot now).1).1 <;>
          simp [hsave, Except.map] at hattempted
  · exact attempts_of_isDue ((isDue_iff hkept.mark hroom).mpr hunsaved.ne') now
  · intro cause hfailed calls store later hcalls
    have hunsaved : unsaved ≠ 0 := by
      refine (isDue_iff hkept.mark hroom).mp ?_
      by_contra hdue
      rw [flush, if_neg hdue] at hfailed
      cases hfailed
    have hmark := hflushed.mark
    rw [hfailed] at hmark
    refine attempts_of_isDue ((isDue_iff ?_ hcalls).mpr (by omega)) later
    change ((state.flush now).2.engine.run calls).revision = _
    rw [Engine.run_revision, hmark, UInt64.ofNat_add, UInt64.add_assoc]
    rfl

/-- A store refuses once, and has everything after the next flush. -/
theorem flush_loses_nothing_after_refusal :
    ∃ state, Reached state 0 2 ∧ (state.flush 0).1 = .error SnapshotStore.refusal ∧
      ((state.flush 0).2.flush 0).1 = .ok true ∧
        ∃ snapshot, ((state.flush 0).2.flush 0).2.store.Holds snapshot ∧
          snapshot.Records ((state.flush 0).2.flush 0).2.engine 0 := by
  obtain ⟨fresh, hbuilt⟩ := Engine.exists_ofConfiguration_twoAliases
  let store : SnapshotStore := { medium := .memory none 0, refusals := 1 }
  let success : EngineCall := .reportSuccess ⟨⟨"north", "a", "large"⟩, 0⟩
  have hnames : Engine.NamesWellFormed success := by
    rintro key hrecorded
    obtain rfl := Option.some.inj hrecorded
    constructor <;> simp
  let state : PersistentEngine := { engine := fresh.perform 0 success, store }
  have hreached : Reached state 0 2 := by
    have hcount : (Routes.settingsOf Engine.twoAliases).size + 1 + 1 = 2 := by decide +kernel
    have hcalled : Reached state 0 ((Routes.settingsOf Engine.twoAliases).size + 1 + 1) := by
      refine (Reached.opened (.built hbuilt) store 0).called success hnames ?_
      simp [success]
    rwa [hcount] at hcalled
  obtain ⟨-, hattempts, hretries⟩ := flush_loses_nothing hreached (by decide)
  obtain ⟨hanswer, hstore⟩ := hattempts (by decide)
  have hrefused : (state.flush 0).1 = .error SnapshotStore.refusal := hanswer
  obtain ⟨hagain, -⟩ := hretries _ hrefused [] (state.flush 0).2.store 0
    (by rw [Engine.changesOf]; decide)
  have hsaved : ((state.flush 0).2.flush 0).1 = .ok true := by
    refine hagain.trans ?_
    rw [hstore]
    rfl
  have hflushed := hreached.flushed
  rw [hrefused] at hflushed
  obtain ⟨hholds, -, -⟩ := flush_loses_nothing hflushed (by decide)
  exact ⟨state, hreached, hrefused, hsaved, hholds true hsaved⟩

end PersistentEngine

end ProviderRouting
