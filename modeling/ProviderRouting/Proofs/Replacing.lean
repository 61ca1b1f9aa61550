import ProviderRouting.Proofs.SnapshotStore

/-!
# The moments of a replacement

A replacement may stop after any of its steps, and be cleaned up or not.  No step before the last
changes what is read from the target, so at every moment it is read as before, or as all of the
new content.
-/

namespace ProviderRouting

namespace Replacement

variable {files after : Files} {target : String} {chunks : List String} {commit : Bool}

/-! ## The steps of a replacement -/

/-- Only a replacement that does not stop early takes the last step. -/
theorem prefix_steps_iff {taken : List FileStep} :
    taken <+: steps target chunks commit ↔
      taken <+: opening target ++ writing target chunks ∨
        commit = true ∧ taken = steps target chunks true := by
  cases commit with
  | false => simp [steps, closing]
  | true =>
      rw [steps, closing, if_pos rfl, List.prefix_concat_iff, or_comm]
      simp

/-- No step touches more than the target and the file beside it. -/
theorem touches_steps {step : FileStep} (hstep : step ∈ steps target chunks commit) {path : Path}
    (htouches : step.Touches path) : path = .ofText target ∨ path = .ofText (beside target) := by
  rw [steps, opening, writing, closing, List.mem_append, List.mem_append, List.mem_pair,
    List.mem_map] at hstep
  rcases hstep with ((rfl | rfl) | ⟨chunk, -, rfl⟩) | hlast
  · exact htouches.elim
  · exact .inr htouches
  · exact .inr htouches
  · split at hlast
    · obtain rfl := List.mem_singleton.mp hlast
      exact htouches.symm
    · cases hlast

/-! ## The moments -/

/-- A file system that is seen at some moment of a replacement: after some of its steps, or after
the file beside the target was removed at that point. -/
inductive Moment (files : Files) (target : String) (chunks : List String) (commit : Bool) :
    Files → Prop
  | stopped {taken : List FileStep} (htaken : taken <+: steps target chunks commit) :
      Moment files target chunks commit (files.performAll taken).2
  | cleaned {taken : List FileStep} (htaken : taken <+: steps target chunks commit) :
      Moment files target chunks commit (cleanUp (files.performAll taken).2 target)

theorem Moment.contents_of_ne {mid : Files} (hmoment : Moment files target chunks commit mid)
    {path : Path} (htarget : path ≠ .ofText target) (hbeside : path ≠ .ofText (beside target)) :
    mid.contents.get? path = files.contents.get? path := by
  have hstopped {taken : List FileStep} (htaken : taken <+: steps target chunks commit) :
      (files.performAll taken).2.contents.get? path = files.contents.get? path := by
    refine files.performAll_contents fun step hstep htouches => ?_
    rcases touches_steps (htaken.subset hstep) htouches with hsame | hsame
    · exact htarget hsame
    · exact hbeside hsame
  cases hmoment with
  | stopped htaken => exact hstopped htaken
  | cleaned htaken =>
      refine (Files.performAll_contents _ ?_).trans (hstopped htaken)
      rw [List.forall_mem_singleton]
      exact hbeside

/-- Removing the file beside the target leaves none there. -/
theorem cleanUp_beside (files : Files) (target : String) :
    (cleanUp files target).contents.get? (.ofText (beside target)) = none := by
  rw [cleanUp, Files.performAll]
  cases hremove : files.perform (.remove (.ofText (beside target))) with
  | ok after =>
      obtain ⟨content, -, hput⟩ := bind_eq_ok_iff.mp hremove
      cases hput
      exact (Table.get?_erase ..).trans (if_pos rfl)
  | error cause =>
      -- it can only fail when there is no such file
      refine Option.eq_none_iff_forall_ne_some.mpr fun content hcontent => ?_
      rw [Files.perform, Files.read_eq_ok_iff.mpr hcontent] at hremove
      cases hremove

/-- At every moment the target is read as before, or, in the end, as all of the new content. -/
theorem Moment.read {mid : Files} (hmoment : Moment files target chunks commit mid) :
    mid.read (.ofText target) = files.read (.ofText target) ∨
      commit = true ∧ mid.read (.ofText target) = .ok (String.join chunks) := by
  have hstopped {taken : List FileStep} (htaken : taken <+: steps target chunks commit) :
      (files.performAll taken).2.read (.ofText target) = files.read (.ofText target) ∨
        commit = true ∧
          (files.performAll taken).2.read (.ofText target) = .ok (String.join chunks) := by
    rcases prefix_steps_iff.mp htaken with hbefore | ⟨hcommit, rfl⟩
    · exact .inl (read_before_closing files hbefore)
    rcases hall : files.performAll (steps target chunks true) with ⟨⟨cause⟩ | ⟨⟨⟩⟩, after⟩
    · obtain ⟨taken, hbefore, rfl⟩ := steps_failed hall
      exact .inl (read_before_closing files hbefore)
    · exact .inr ⟨hcommit, Files.read_eq_ok_iff.mpr (steps_content hall)⟩
  cases hmoment with
  | stopped htaken => exact hstopped htaken
  | cleaned htaken =>
      rw [cleanUp_read]
      exact hstopped htaken

/-- A replacement ends at one of its moments. -/
theorem run_moment (files : Files) (target : String) (chunks : List String) (commit : Bool) :
    Moment files target chunks commit (run files target chunks commit).2 := by
  rcases run_eq files target chunks commit with
    ⟨cause, after, hopened, hrun⟩ | ⟨outcome, after, hsteps, hrun⟩
  · have hmoment : Moment files target chunks commit (files.performAll (opening target)).2 :=
      .stopped ⟨writing target chunks ++ closing target commit, by rw [steps, List.append_assoc]⟩
    rw [hopened] at hmoment
    rwa [hrun]
  · have hmoment : Moment files target chunks commit
        (cleanUp (files.performAll (steps target chunks commit)).2 target) :=
      .cleaned List.prefix_rfl
    rw [hsteps] at hmoment
    rwa [hrun]

/-- What cannot begin changes no content. -/
theorem opening_failed {cause : FileError}
    (hfailed : files.performAll (opening target) = (.error cause, after)) (path : Path) :
    after.contents.get? path = files.contents.get? path := by
  obtain ⟨taken, step, rest, hsteps, htaken⟩ := Files.performAll_error hfailed
  have hwithout := congrArg List.dropLast hsteps
  rw [List.dropLast_append_of_ne_nil (List.cons_ne_nil step rest)] at hwithout
  have hfolders : taken <+: [.makeFolders (Path.ofText target).dropLast] :=
    ⟨(step :: rest).dropLast, hwithout.symm⟩
  have hkept : (files.performAll taken).2.contents.get? path = files.contents.get? path := by
    refine files.performAll_contents fun step hstep => ?_
    rw [List.mem_singleton.mp (hfolders.subset hstep)]
    exact id
  rwa [htaken] at hkept

/-- No file is left beside the target. -/
theorem run_beside (files : Files) (target : String) (chunks : List String) (commit : Bool) :
    (∃ cause, (files.performAll (opening target)).1 = .error cause ∧
      ∀ path, (run files target chunks commit).2.contents.get? path = files.contents.get? path) ∨
    (run files target chunks commit).2.contents.get? (.ofText (beside target)) = none := by
  rcases run_eq files target chunks commit with
    ⟨cause, after, hopened, hrun⟩ | ⟨outcome, after, hsteps, hrun⟩
  · rw [hrun]
    exact .inl ⟨cause, congrArg Prod.fst hopened, opening_failed hopened⟩
  · rw [hrun]
    exact .inr (cleanUp_beside after target)

end Replacement

/-! ## Snapshot files -/

namespace Snapshot

variable {files mid : Files} {path : String} {snapshot : Snapshot}

/-- Writing a snapshot ends at a moment of replacing its file. -/
theorem write_moment (files : Files) (path : String) (snapshot : Snapshot) :
    Replacement.Moment files path [snapshot.fileText] true (write files path snapshot).2 := by
  have hmoment := Replacement.run_moment files path [snapshot.fileText] true
  rw [write]
  rcases hrun : Replacement.run files path [snapshot.fileText] true with
      ⟨⟨cause⟩ | ⟨⟨⟩⟩, after⟩ <;>
    rw [hrun] at hmoment <;> exact hmoment

/-- The file of a snapshot is read as the snapshot, or refused for its version. -/
theorem read_of_fileText (hshares : ∀ row ∈ snapshot.providers.rows, row.2.HasProperShare)
    (hfile : files.read (.ofText path) = .ok snapshot.fileText) :
    read files path = (do snapshot.reread.ensureReadable; .ok (some snapshot.reread)) := by
  rw [read, hfile]
  dsimp only
  rw [ofText?_fileText hshares]

/-- While a snapshot file is replaced, the snapshot from before is read, or the whole new file. -/
theorem read_moment (hmoment : Replacement.Moment files path [snapshot.fileText] true mid) :
    read mid path = read files path ∨ mid.read (.ofText path) = .ok snapshot.fileText := by
  rcases hmoment.read with hsame | ⟨-, hnew⟩
  · rw [read, read, hsame]
    exact .inl rfl
  · rw [String.join_cons, String.join_nil, String.append_empty] at hnew
    exact .inr hnew

end Snapshot

namespace Replacement

/-- What a replacement shows to whoever looks on. -/
structure ShowsOldOrAllNew (files : Files) (target : String) (chunks : List String)
    (commit : Bool) : Prop where
  /-- Up to the last step the target is read as before, also once it was cleaned up. -/
  before_closing : ∀ taken, taken <+: opening target ++ writing target chunks →
    (files.performAll taken).2.read (.ofText target) = files.read (.ofText target) ∧
    (cleanUp (files.performAll taken).2 target).read (.ofText target) =
      files.read (.ofText target)
  /-- Only a replacement that is committed and succeeds shows in the end. -/
  in_the_end : (run files target chunks commit).2.read (.ofText target) =
    if commit = true ∧ (run files target chunks commit).1 = .ok () then .ok (String.join chunks)
    else files.read (.ofText target)
  nothing_beside_dropped : ∀ stopped,
    (cleanUp stopped target).contents.get? (.ofText (beside target)) = none
  /-- A replacement that cannot begin changes nothing, and any other leaves no file beside the
  target. -/
  nothing_beside : (∃ cause, (files.performAll (opening target)).1 = .error cause ∧
      ∀ path, (run files target chunks commit).2.contents.get? path = files.contents.get? path) ∨
    (run files target chunks commit).2.contents.get? (.ofText (beside target)) = none
  ends_at_moment : Moment files target chunks commit (run files target chunks commit).2
  old_or_new : ∀ mid, Moment files target chunks commit mid →
    mid.read (.ofText target) = files.read (.ofText target) ∨
      commit = true ∧ mid.read (.ofText target) = .ok (String.join chunks)
  others_kept : ∀ mid, Moment files target chunks commit mid →
    ∀ path, path ≠ .ofText target → path ≠ .ofText (beside target) →
      mid.contents.get? path = files.contents.get? path

/-- What replacing a snapshot file shows to whoever reads snapshots. -/
structure ShowsSnapshots (files : Files) (target : String) (snapshot : Snapshot) : Prop where
  ends_at_moment : Moment files target [snapshot.fileText] true (snapshot.write files target).2
  old_or_new : ∀ mid, Moment files target [snapshot.fileText] true mid →
    Snapshot.read mid target = Snapshot.read files target ∨
    mid.read (.ofText target) = .ok snapshot.fileText ∧
      ((∀ row ∈ snapshot.providers.rows, row.2.HasProperShare) →
        Snapshot.read mid target =
          (do snapshot.reread.ensureReadable; .ok (some snapshot.reread)))

/-- The target is read as before until the finished file takes its place, and as all of the new
content from then on.  In the end no file is beside it, and no other content has changed.  So
whoever reads a snapshot file finds the snapshot from before or the new one. -/
theorem old_or_all_new (files : Files) (target : String) (chunks : List String) (commit : Bool) :
    ShowsOldOrAllNew files target chunks commit ∧
      ∀ snapshot : Snapshot, ShowsSnapshots files target snapshot := by
  constructor
  · constructor
    case before_closing =>
      intro taken htaken
      have hread := read_before_closing files htaken
      exact ⟨hread, (cleanUp_read _ target).trans hread⟩
    case in_the_end => exact run_read files target chunks commit
    case nothing_beside_dropped => exact fun stopped => cleanUp_beside stopped target
    case nothing_beside => exact run_beside files target chunks commit
    case ends_at_moment => exact run_moment files target chunks commit
    case old_or_new => exact fun mid hmoment => hmoment.read
    case others_kept => exact fun mid hmoment path => hmoment.contents_of_ne
  · intro snapshot
    constructor
    case ends_at_moment => exact snapshot.write_moment files target
    case old_or_new =>
      intro mid hmoment
      rcases Snapshot.read_moment hmoment with hold | hfile
      · exact .inl hold
      · exact .inr ⟨hfile, fun hshares => Snapshot.read_of_fileText hshares hfile⟩

/-- A file that is replaced in two chunks, but for a failure after the first of them, is read as
before; replaced for good, it holds both. -/
theorem old_or_all_new_of_two_chunks :
    let files := Files.ofList [("state/quota.json", "old")]
    let target := "state/quota.json"
    (files.performAll (opening target ++ writing target ["new "])).2.read (.ofText target) =
        .ok "old" ∧
      (run files target ["new ", "state"] true).2.read (.ofText target) = .ok "new state" ∧
      (run files target ["new ", "state"] true).2.contents.get? (.ofText (beside target)) = none ∧
      (run files target ["new ", "state"] true).2.contents.get? (.ofText "other") = none := by
  intro files target
  have hshows := (old_or_all_new files target ["new ", "state"] true).1
  have hold : files.read (.ofText target) = .ok "old" := by decide +kernel
  have hdone : (run files target ["new ", "state"] true).1 = .ok () := by decide +kernel
  refine ⟨?_, ?_, ?_, ?_⟩
  · rw [(hshows.before_closing _ (by decide +kernel)).1, hold]
  · rw [hshows.in_the_end, if_pos ⟨rfl, hdone⟩]
    decide +kernel
  · apply hshows.nothing_beside.resolve_left
    rintro ⟨cause, hcause, -⟩
    have hopened : (files.performAll (opening target)).1 = .ok () := by decide +kernel
    cases hopened.symm.trans hcause
  · rw [hshows.others_kept _ hshows.ends_at_moment _ (by decide +kernel) (by decide +kernel)]
    decide +kernel

end Replacement

end ProviderRouting
