import ProviderRouting.Files.Replacement
import ProviderRouting.Proofs.Computation

/-!
# What a replacement does to its target

A step touches the content of at most two paths.  What reading the target depends on is changed by
no step before the renaming at the end: neither the file beside the target nor the folders that
are made lie on the way to it.  By then the file beside the target holds all of the new content.
-/

namespace ProviderRouting

/-! ## Paths -/

namespace Path

theorem namesFrom_cons {character : Char} (hcharacter : character ≠ '/') (begun rest : List Char) :
    namesFrom begun (character :: rest) = namesFrom (character :: begun) rest :=
  namesFrom.eq_3 begun character rest hcharacter

theorem namesFrom_of_not_mem {text : List Char} (htext : '/' ∉ text) (begun : List Char) :
    namesFrom begun text = [.ofList (begun.reverse ++ text)] := by
  induction text generalizing begun with
  | nil => simp [namesFrom]
  | cons character rest ih =>
      rw [List.mem_cons, not_or] at htext
      rw [namesFrom_cons (Ne.symm htext.1), ih htext.2]
      simp

/-- A suffix without a slash goes to the last name. -/
theorem exists_namesFrom_append {suffix : List Char} (hsuffix : '/' ∉ suffix)
    (begun text : List Char) :
    ∃ names last, namesFrom begun text = names ++ [.ofList last] ∧
      namesFrom begun (text ++ suffix) = names ++ [.ofList (last ++ suffix)] := by
  induction text generalizing begun with
  | nil => exact ⟨[], begun.reverse, by simp [namesFrom], namesFrom_of_not_mem hsuffix begun⟩
  | cons character rest ih =>
      by_cases hcharacter : character = '/'
      · subst hcharacter
        obtain ⟨names, last, hnames, hsuffixed⟩ := ih []
        refine ⟨.ofList begun.reverse :: names, last, ?_, ?_⟩
        · rw [namesFrom, hnames]
          rfl
        · rw [List.cons_append, namesFrom, hsuffixed]
          rfl
      · obtain ⟨names, last, hnames, hsuffixed⟩ := ih (character :: begun)
        refine ⟨names, last, ?_, ?_⟩
        · rw [namesFrom_cons hcharacter, hnames]
        · rw [List.cons_append, namesFrom_cons hcharacter, hsuffixed]

/-- A name that is longer than two dots leads one name on. -/
theorem follow_of_long (path : Path) {name : List Char} (hname : 2 < name.length) :
    follow path (.ofList name) = path ++ [.ofList name] := by
  have hne (short : List Char) (hshort : short.length ≤ 2) :
      String.ofList name ≠ .ofList short := by
    intro hsame
    have hlist := String.ofList_injective hsame
    rw [hlist] at hname
    omega
  rw [follow, if_neg, if_neg]
  · exact hne ['.', '.'] (by decide)
  · rintro (hempty | hdot)
    · exact hne [] (by decide) hempty
    · exact hne ['.'] (by decide) hdot

/-- Following one name does not lead to a place beyond another. -/
theorem not_prefix_follow (path : Path) {name longer : String} (hne : longer ≠ name) :
    ¬ path ++ [longer] <+: follow path name := by
  intro hprefix
  have hlength := hprefix.length_le
  rw [List.length_append, List.length_singleton] at hlength
  rw [follow] at hprefix hlength
  split_ifs at hprefix hlength
  · omega
  · rw [List.length_dropLast] at hlength
    omega
  · exact hne (by simpa using hprefix)

theorem prefix_of_mem_lineage {path folder : Path} (hfolder : folder ∈ path.lineage) :
    folder <+: path := by
  obtain ⟨count, -, rfl⟩ := List.mem_map.mp hfolder
  exact List.take_prefix _ path

end Path

/-! ## Steps -/

def FileStep.Touches (path : Path) : FileStep → Prop
  | .makeFolders _ => False
  | .create other => path = other
  | .append other _ => path = other
  | .rename source target => path = source ∨ path = target
  | .remove other => path = other

namespace Files

variable {files after : Files} {path : Path} {text : String} {step : FileStep}
  {steps earlier later : List FileStep}

theorem read_eq_ok_iff : files.read path = .ok text ↔ files.contents.get? path = some text := by
  rw [read]
  cases files.contents.get? path with
  | some content => simp
  | none =>
      split
      · next hsome => cases hsome
      · split <;> simp

theorem makeFolders_contents (hmade : path.lineage.foldlM makeFolder files = .ok after) :
    after.contents = files.contents := by
  generalize path.lineage = folders at hmade
  induction folders generalizing files with
  | nil =>
      cases hmade
      rfl
  | cons folder rest ih =>
      obtain ⟨between, hfolder, hrest⟩ := bind_eq_ok_iff.mp hmade
      refine (ih hrest).trans ?_
      rw [makeFolder] at hfolder
      split at hfolder
      · cases hfolder
      · split at hfolder <;> (cases hfolder; rfl)

/-- A step changes no content but what it touches. -/
theorem perform_contents (hstep : files.perform step = .ok after)
    (huntouched : ¬ step.Touches path) :
    after.contents.get? path = files.contents.get? path := by
  cases step with
  | makeFolders folder => rw [makeFolders_contents hstep]
  | create other =>
      obtain ⟨⟨⟩, -, hput⟩ := bind_eq_ok_iff.mp hstep
      cases hput
      exact (Table.get?_insert ..).trans (if_neg huntouched)
  | append other added =>
      obtain ⟨content, -, hput⟩ := bind_eq_ok_iff.mp hstep
      cases hput
      exact (Table.get?_insert ..).trans (if_neg huntouched)
  | rename source target =>
      obtain ⟨content, -, hrest⟩ := bind_eq_ok_iff.mp hstep
      obtain ⟨⟨⟩, -, hput⟩ := bind_eq_ok_iff.mp hrest
      cases hput
      rw [FileStep.Touches, not_or] at huntouched
      rw [Table.get?_insert, if_neg huntouched.2, Table.get?_erase, if_neg huntouched.1]
  | remove other =>
      obtain ⟨content, -, hput⟩ := bind_eq_ok_iff.mp hstep
      cases hput
      exact (Table.get?_erase ..).trans (if_neg huntouched)

/-- A file that was moved keeps its content. -/
theorem rename_content {source target : Path} {content : String}
    (hcontent : files.contents.get? source = some content)
    (hstep : files.perform (.rename source target) = .ok after) :
    after.contents.get? target = some content := by
  obtain ⟨found, hfound, hrest⟩ := bind_eq_ok_iff.mp hstep
  obtain ⟨⟨⟩, -, hput⟩ := bind_eq_ok_iff.mp hrest
  rw [read_eq_ok_iff, hcontent] at hfound
  cases hfound
  cases hput
  exact (Table.get?_insert ..).trans (if_pos rfl)

/-- Neither do several, whether they succeed or one of them fails. -/
theorem performAll_contents (files : Files)
    (huntouched : ∀ step ∈ steps, ¬ step.Touches path) :
    (files.performAll steps).2.contents.get? path = files.contents.get? path := by
  induction steps generalizing files with
  | nil => rfl
  | cons step rest ih =>
      rw [List.forall_mem_cons] at huntouched
      rw [performAll]
      cases hstep : files.perform step with
      | error cause => rfl
      | ok after => exact (ih after huntouched.2).trans (perform_contents hstep huntouched.1)

/-- Steps after others are carried out if none of these failed. -/
theorem performAll_append (files : Files) (earlier later : List FileStep) :
    (∃ cause after, files.performAll earlier = (.error cause, after) ∧
      files.performAll (earlier ++ later) = (.error cause, after)) ∨
    ∃ after, files.performAll earlier = (.ok (), after) ∧
      files.performAll (earlier ++ later) = after.performAll later := by
  induction earlier generalizing files with
  | nil => exact .inr ⟨files, rfl, rfl⟩
  | cons step rest ih =>
      rw [List.cons_append, performAll, performAll]
      cases files.perform step with
      | error cause => exact .inl ⟨cause, files, rfl, rfl⟩
      | ok between => exact ih between

/-- What failed was carried out up to a step that was left out. -/
theorem performAll_error {cause : FileError}
    (hfailed : files.performAll steps = (.error cause, after)) :
    ∃ taken step rest, steps = taken ++ step :: rest ∧
      files.performAll taken = (.ok (), after) := by
  induction steps generalizing files with
  | nil => cases hfailed
  | cons step rest ih =>
      rw [performAll] at hfailed
      cases hstep : files.perform step with
      | error cause =>
          rw [hstep] at hfailed
          cases hfailed
          exact ⟨[], step, rest, rfl, rfl⟩
      | ok between =>
          rw [hstep] at hfailed
          obtain ⟨taken, last, left, rfl, htaken⟩ := ih hfailed
          refine ⟨step :: taken, last, left, rfl, ?_⟩
          rw [performAll, hstep]
          exact htaken

end Files

/-! ## What reading a path depends on -/

def FileStep.Makes (path : Path) : FileStep → Prop
  | .makeFolders other => path ∈ other.lineage
  | _ => False

/-- The step changes nothing that reading the path depends on: no content on the way to it, and no
folder in its place. -/
structure FileStep.Spares (path : Path) (step : FileStep) : Prop where
  untouched : ∀ place, place <+: path → ¬ step.Touches place
  notMade : ¬ step.Makes path

namespace Files

variable {files after : Files} {path : Path} {step : FileStep} {steps : List FileStep}

theorem contents_of_read (hread : after.read path = files.read path) :
    after.contents.get? path = files.contents.get? path := by
  ext text
  rw [← read_eq_ok_iff, ← read_eq_ok_iff, hread]

theorem makeFolder_isFolder {folder : Path} (hmade : files.makeFolder folder = .ok after)
    (hpath : path ≠ folder) : after.isFolder path = files.isFolder path := by
  rw [makeFolder] at hmade
  split at hmade
  · cases hmade
  · split at hmade <;> cases hmade
    · rfl
    · simp only [isFolder, Table.contains, Table.get?_insert, if_neg hpath]

theorem makeFolders_isFolder {folders : List Path}
    (hmade : folders.foldlM makeFolder files = .ok after) (hpath : path ∉ folders) :
    after.isFolder path = files.isFolder path := by
  induction folders generalizing files with
  | nil =>
      cases hmade
      rfl
  | cons folder rest ih =>
      obtain ⟨between, hfolder, hrest⟩ := bind_eq_ok_iff.mp hmade
      rw [List.mem_cons, not_or] at hpath
      rw [ih hrest hpath.2, makeFolder_isFolder hfolder hpath.1]

/-- Only making folders changes what is a folder. -/
theorem perform_isFolder (hstep : files.perform step = .ok after) (hmakes : ¬ step.Makes path) :
    after.isFolder path = files.isFolder path := by
  cases step with
  | makeFolders folder => exact makeFolders_isFolder hstep hmakes
  | create other =>
      obtain ⟨⟨⟩, -, hput⟩ := bind_eq_ok_iff.mp hstep
      cases hput
      rfl
  | append other added =>
      obtain ⟨content, -, hput⟩ := bind_eq_ok_iff.mp hstep
      cases hput
      rfl
  | rename source target =>
      obtain ⟨content, -, hrest⟩ := bind_eq_ok_iff.mp hstep
      obtain ⟨⟨⟩, -, hput⟩ := bind_eq_ok_iff.mp hrest
      cases hput
      rfl
  | remove other =>
      obtain ⟨content, -, hput⟩ := bind_eq_ok_iff.mp hstep
      cases hput
      rfl

theorem perform_read (hstep : files.perform step = .ok after) (hspares : step.Spares path) :
    after.read path = files.read path := by
  have hway :
      path.lineage.any after.contents.contains = path.lineage.any files.contents.contains := by
    rw [Bool.eq_iff_iff, List.any_eq_true, List.any_eq_true]
    refine exists_congr fun place => and_congr_right fun hplace => ?_
    have huntouched := hspares.untouched place (Path.prefix_of_mem_lineage hplace)
    rw [Table.contains, perform_contents hstep huntouched, Table.contains]
  rw [read, read, perform_contents hstep (hspares.untouched path List.prefix_rfl),
    perform_isFolder hstep hspares.notMade, hway]

/-- Steps that spare a path leave it to be read as before, whether or not one of them fails. -/
theorem performAll_read (files : Files) (hspares : ∀ step ∈ steps, step.Spares path) :
    (files.performAll steps).2.read path = files.read path := by
  induction steps generalizing files with
  | nil => rfl
  | cons step rest ih =>
      rw [List.forall_mem_cons] at hspares
      rw [performAll]
      cases hstep : files.perform step with
      | error cause => rfl
      | ok after => exact (ih after hspares.2).trans (perform_read hstep hspares.1)

end Files

/-! ## Replacements -/

namespace Replacement

variable {files : Files} {target : String} {chunks : List String}

/-- The file beside the target is not on the way to it. -/
theorem not_beside_prefix (target : String) :
    ¬ Path.ofText (beside target) <+: Path.ofText target := by
  obtain ⟨names, last, hnames, hsuffixed⟩ :=
    Path.exists_namesFrom_append (by decide : '/' ∉ ".tmp".toList) [] target.toList
  have hstart : (beside target).toList.head? = some '/' ↔ target.toList.head? = some '/' := by
    rw [beside, String.toList_append]
    cases target.toList with
    | nil => decide
    | cons character rest => exact Iff.rfl
  have hlong : 2 < (last ++ ".tmp".toList).length := by
    rw [List.length_append]
    exact Nat.lt_add_left _ (by decide)
  rw [Path.ofText, Path.ofText]
  simp only [hstart]
  rw [beside, String.toList_append, hsuffixed, hnames, List.foldl_append, List.foldl_append]
  simp only [List.foldl_cons, List.foldl_nil]
  rw [Path.follow_of_long _ hlong]
  refine Path.not_prefix_follow _ ?_
  intro hsame
  have hlist := String.ofList_injective hsame
  exact absurd hlist (by simp)

/-- What was opened is empty. -/
theorem opening_content {after : Files}
    (hopened : files.performAll (opening target) = (.ok (), after)) :
    after.contents.get? (Path.ofText (beside target)) = some "" := by
  rw [opening, Files.performAll] at hopened
  cases hfolders : files.perform (.makeFolders (Path.ofText target).dropLast) with
  | error cause => simp [hfolders] at hopened
  | ok between =>
      simp only [hfolders, Files.performAll] at hopened
      cases hcreate : between.perform (.create (.ofText (beside target))) with
      | error cause => simp [hcreate] at hopened
      | ok created =>
          obtain ⟨⟨⟩, -, hput⟩ := bind_eq_ok_iff.mp hcreate
          simp only [hcreate, Prod.mk.injEq] at hopened
          obtain ⟨-, rfl⟩ := hopened
          cases hput
          exact (Table.get?_insert ..).trans (if_pos rfl)

/-- What was written stands in the file beside the target. -/
theorem writing_content {after : Files} {begun : String}
    (hbegun : files.contents.get? (Path.ofText (beside target)) = some begun)
    (hwritten : files.performAll (writing target chunks) = (.ok (), after)) :
    after.contents.get? (Path.ofText (beside target)) = some (begun ++ String.join chunks) := by
  induction chunks generalizing files begun with
  | nil =>
      obtain ⟨-, rfl⟩ := Prod.mk.inj hwritten
      rw [hbegun, String.join_nil, String.append_empty]
  | cons chunk chunks ih =>
      rw [writing, List.map_cons, ← writing, Files.performAll] at hwritten
      have hread := Files.read_eq_ok_iff.mpr hbegun
      have happend : files.perform (.append (.ofText (beside target)) chunk) =
          .ok (files.put (.ofText (beside target)) (begun ++ chunk)) := by
        rw [Files.perform, hread]
        rfl
      rw [happend] at hwritten
      have hput : (files.put (.ofText (beside target)) (begun ++ chunk)).contents.get?
          (.ofText (beside target)) = some (begun ++ chunk) :=
        (Table.get?_insert ..).trans (if_pos rfl)
      rw [ih hput hwritten, String.join_cons, String.append_assoc]

def steps (target : String) (chunks : List String) (commit : Bool) : List FileStep :=
  opening target ++ writing target chunks ++ closing target commit

/-- A replacement that cannot begin stops there, and any other is cleaned up in the end. -/
theorem run_eq (files : Files) (target : String) (chunks : List String) (commit : Bool) :
    (∃ cause after, files.performAll (opening target) = (.error cause, after) ∧
      run files target chunks commit = (.error cause, after)) ∨
    ∃ outcome after, files.performAll (steps target chunks commit) = (outcome, after) ∧
      run files target chunks commit = (outcome, cleanUp after target) := by
  rw [steps, List.append_assoc, run]
  rcases files.performAll_append (opening target) (writing target chunks ++ closing target commit)
    with ⟨cause, after, hopened, hall⟩ | ⟨opened, hopened, hall⟩
  · rw [hopened]
    exact .inl ⟨cause, after, rfl, rfl⟩
  · rw [hopened, hall]
    exact .inr ⟨_, _, rfl, rfl⟩

/-- What was renamed in the end is all of the new content. -/
theorem steps_content {after : Files}
    (hdone : files.performAll (steps target chunks true) = (.ok (), after)) :
    after.contents.get? (.ofText target) = some (String.join chunks) := by
  rw [steps] at hdone
  rcases files.performAll_append (opening target ++ writing target chunks) (closing target true)
    with ⟨cause, failed, -, hall⟩ | ⟨written, hbefore, hall⟩
  · cases hall.symm.trans hdone
  rcases files.performAll_append (opening target) (writing target chunks)
    with ⟨cause, failed, -, hboth⟩ | ⟨opened, hopened, hboth⟩
  · cases hboth.symm.trans hbefore
  have hcontent := writing_content (opening_content hopened) (hboth.symm.trans hbefore)
  rw [String.empty_append] at hcontent
  have hclosing := hall.symm.trans hdone
  rw [closing, if_pos rfl, Files.performAll] at hclosing
  cases hrename : written.perform (.rename (.ofText (beside target)) (.ofText target)) with
  | error cause =>
      rw [hrename] at hclosing
      cases hclosing
  | ok renamed =>
      rw [hrename] at hclosing
      cases hclosing
      exact Files.rename_content hcontent hrename

/-- What failed did so before anything was put in the target's place. -/
theorem steps_failed {commit : Bool} {cause : FileError} {after : Files}
    (hfailed : files.performAll (steps target chunks commit) = (.error cause, after)) :
    ∃ taken, taken <+: opening target ++ writing target chunks ∧
      after = (files.performAll taken).2 := by
  obtain ⟨taken, step, rest, hsteps, htaken⟩ := Files.performAll_error hfailed
  refine ⟨taken, ?_, by rw [htaken]⟩
  cases commit with
  | false =>
      rw [steps, closing, if_neg Bool.false_ne_true, List.append_nil] at hsteps
      exact ⟨step :: rest, hsteps.symm⟩
  | true =>
      have hwithout := congrArg List.dropLast hsteps
      rw [steps, closing, if_pos rfl, List.dropLast_concat,
        List.dropLast_append_of_ne_nil (List.cons_ne_nil step rest)] at hwithout
      exact ⟨(step :: rest).dropLast, hwithout.symm⟩

theorem spares_of_beside {step : FileStep}
    (htouches : ∀ path, step.Touches path → path = .ofText (beside target))
    (hmakes : ¬ step.Makes (.ofText target)) : step.Spares (.ofText target) := by
  refine ⟨fun place hprefix htouch => ?_, hmakes⟩
  exact not_beside_prefix target (htouches place htouch ▸ hprefix)

theorem spares_opening_writing (target : String) (chunks : List String) :
    ∀ step ∈ opening target ++ writing target chunks, step.Spares (.ofText target) := by
  intro step hstep
  rw [opening, writing, List.mem_append, List.mem_pair, List.mem_map] at hstep
  rcases hstep with (rfl | rfl) | ⟨chunk, -, rfl⟩
  · refine spares_of_beside (fun _ => False.elim) fun hmade => ?_
    -- the folders on the way are shorter than the path, but for the path without names
    obtain ⟨count, hcount, hsame⟩ := List.mem_map.mp hmade
    have hlength := congrArg List.length hsame
    rw [List.mem_range, List.length_dropLast] at hcount
    rw [List.length_take, List.length_dropLast] at hlength
    omega
  · exact spares_of_beside (fun _ => id) id
  · exact spares_of_beside (fun _ => id) id

theorem spares_cleanUp (target : String) :
    ∀ step ∈ [FileStep.remove (.ofText (beside target))], step.Spares (.ofText target) := by
  rw [List.forall_mem_singleton]
  exact spares_of_beside (fun _ => id) id

theorem cleanUp_read (files : Files) (target : String) :
    (cleanUp files target).read (.ofText target) = files.read (.ofText target) :=
  files.performAll_read (spares_cleanUp target)

/-- Up to the last step the target is read as before. -/
theorem read_before_closing (files : Files) {taken : List FileStep}
    (htaken : taken <+: opening target ++ writing target chunks) :
    (files.performAll taken).2.read (.ofText target) = files.read (.ofText target) :=
  files.performAll_read fun step hstep =>
    spares_opening_writing target chunks step (htaken.subset hstep)

/-- Only a replacement that is committed and succeeds shows in the end. -/
theorem run_read (files : Files) (target : String) (chunks : List String) (commit : Bool) :
    (run files target chunks commit).2.read (.ofText target) =
      if commit = true ∧ (run files target chunks commit).1 = .ok () then .ok (String.join chunks)
      else files.read (.ofText target) := by
  rcases run_eq files target chunks commit with
    ⟨cause, after, hopened, hrun⟩ | ⟨outcome, after, hsteps, hrun⟩
  · have hread := read_before_closing files
      (List.prefix_append (opening target) (writing target chunks))
    rw [hopened] at hread
    rw [hrun, if_neg (by rintro ⟨-, ⟨⟩⟩)]
    exact hread
  rw [hrun, cleanUp_read]
  rcases outcome with cause | ⟨⟨⟩⟩
  · obtain ⟨taken, hbefore, rfl⟩ := steps_failed hsteps
    rw [if_neg (by rintro ⟨-, ⟨⟩⟩)]
    exact read_before_closing files hbefore
  cases commit with
  | true =>
      rw [if_pos ⟨rfl, rfl⟩]
      exact Files.read_eq_ok_iff.mpr (steps_content hsteps)
  | false =>
      have hread := read_before_closing files
        (List.prefix_rfl : _ <+: opening target ++ writing target chunks)
      rw [steps, closing, if_neg Bool.false_ne_true, List.append_nil] at hsteps
      rw [hsteps] at hread
      rw [if_neg fun hdone => Bool.false_ne_true hdone.1]
      exact hread

/-- A replacement that fails leaves the target as it was, and one that succeeds leaves all of the
new content there. -/
theorem run_contents (files : Files) (target : String) (chunks : List String) :
    (∃ cause after, run files target chunks true = (.error cause, after) ∧
      after.contents.get? (.ofText target) = files.contents.get? (.ofText target)) ∨
    ∃ after, run files target chunks true = (.ok (), after) ∧
      after.contents.get? (.ofText target) = some (String.join chunks) := by
  have hread := run_read files target chunks true
  rcases hrun : run files target chunks true with ⟨⟨cause⟩ | ⟨⟨⟩⟩, after⟩ <;> rw [hrun] at hread
  · rw [if_neg (by rintro ⟨-, ⟨⟩⟩)] at hread
    exact .inl ⟨cause, after, rfl, Files.contents_of_read hread⟩
  · rw [if_pos ⟨rfl, rfl⟩] at hread
    exact .inr ⟨after, rfl, Files.read_eq_ok_iff.mp hread⟩

end Replacement

end ProviderRouting
