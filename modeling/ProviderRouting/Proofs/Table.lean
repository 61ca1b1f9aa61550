import ProviderRouting.Table
import Mathlib.Data.List.Perm.Basic
import Mathlib.Data.List.Sort

/-!
# Tables and their look-ups

A table is determined by its look-ups, which are its rows.  Putting rows into a table one after
another leaves, under each key, what the last row with this key says.
-/

namespace ProviderRouting

open Std

/-- What holds after some changes is brought about by one of them, or held before, if this is
so for each single change. -/
theorem foldl_iff {State Change : Type} {apply : State → Change → State} (Holds : State → Prop)
    (Causes : Change → Prop)
    (hstep : ∀ state change, Holds (apply state change) ↔ Causes change ∨ Holds state)
    (changes : List Change) (state : State) :
    Holds (changes.foldl apply state) ↔ (∃ change ∈ changes, Causes change) ∨ Holds state := by
  induction changes generalizing state with
  | nil => simp
  | cons head rest ih =>
      rw [List.foldl_cons, ih, hstep, ← or_assoc, List.exists_mem_cons_iff]
      exact or_congr_left or_comm

namespace Table

variable {Key Value : Type} [Ord Key] {key : Key} {value : Value} {rows : List (Key × Value)}
  {table left right : Table Key Value}

section Order

variable [TransOrd Key] [LawfulEqOrd Key]

omit [TransOrd Key] in
theorem mem_of_find? (hfound : find? key rows = some value) : (key, value) ∈ rows := by
  induction rows with
  | nil => cases hfound
  | cons head rest ih =>
      rw [find?] at hfound
      by_cases hkey : compare key head.1 = .eq
      · rw [if_pos hkey, Option.some.injEq] at hfound
        rw [Std.compare_eq_iff_eq.mp hkey, ← hfound]
        exact List.mem_cons_self
      · rw [if_neg hkey] at hfound
        exact List.mem_cons_of_mem head (ih hfound)

theorem find?_eq_some_of_mem
    (hsorted : rows.Pairwise fun earlier later => compare earlier.1 later.1 = .lt)
    (hmem : (key, value) ∈ rows) : find? key rows = some value := by
  induction rows with
  | nil => exact absurd hmem List.not_mem_nil
  | cons head rest ih =>
      rw [List.pairwise_cons] at hsorted
      rw [find?]
      rcases List.mem_cons.mp hmem with rfl | hrest
      · rw [if_pos compare_self]
      · have hkey : compare key head.1 ≠ .eq := by
          rw [OrientedCmp.gt_of_lt (hsorted.1 (key, value) hrest)]
          exact Ordering.noConfusion
        rw [if_neg hkey, ih hsorted.2 hrest]

/-- Looking a key up finds the row that has it. -/
theorem get?_eq_some_iff : table.get? key = some value ↔ (key, value) ∈ table.rows :=
  ⟨mem_of_find?, find?_eq_some_of_mem table.sorted⟩

theorem contains_iff : table.contains key = true ↔ ∃ value, (key, value) ∈ table.rows := by
  rw [contains, Option.isSome_iff_exists]
  exact exists_congr fun value => get?_eq_some_iff

omit [TransOrd Key] in
theorem nodup_rows (table : Table Key Value) : table.rows.Nodup := by
  refine table.sorted.imp ?_
  rintro earlier _ hlt rfl
  rw [compare_self] at hlt
  exact Ordering.noConfusion hlt

/-- Tables with the same look-ups are the same. -/
theorem eq_of_get? (hsame : ∀ key, left.get? key = right.get? key) : left = right := by
  have hperm : left.rows.Perm right.rows := by
    refine (List.perm_ext_iff_of_nodup left.nodup_rows right.nodup_rows).mpr ?_
    intro row
    rw [← get?_eq_some_iff, hsame, get?_eq_some_iff]
  refine ext (hperm.eq_of_pairwise ?_ left.sorted right.sorted)
  intro earlier later _ _ hlt hgt
  rw [OrientedCmp.gt_of_lt hlt] at hgt
  exact Ordering.noConfusion hgt

end Order

/-! ## Rows put in one after another -/

section Update

variable [DecidableEq Key] [TransOrd Key] [LawfulEqOrd Key]

theorem contains_insert_iff (table : Table Key Value) (key probe : Key) (value : Value) :
    (table.insert key value).contains probe = true ↔
      probe = key ∨ table.contains probe = true := by
  rw [contains, contains, get?_insert]
  by_cases hprobe : probe = key <;> simp [hprobe]

theorem erase_of_get?_eq_none (hkey : table.get? key = none) : table.erase key = table := by
  apply eq_of_get?
  intro probe
  rw [get?_erase]
  split_ifs with hprobe
  · rw [hprobe, hkey]
  · rfl

theorem insert_of_get?_eq_some (hkey : table.get? key = some value) :
    table.insert key value = table := by
  apply eq_of_get?
  intro probe
  rw [get?_insert]
  split_ifs with hprobe
  · rw [hprobe, hkey]
  · rfl

/-- The rows with a new row are this row and those of other keys. -/
theorem rows_insert_perm (table : Table Key Value) (key : Key) (value : Value) :
    (table.insert key value).rows.Perm ((key, value) :: (table.erase key).rows) := by
  have hnew : (key, value) ∉ (table.erase key).rows := by
    rw [← get?_eq_some_iff, get?_erase, if_pos rfl]
    exact Option.some_ne_none value ∘ Eq.symm
  refine (List.perm_ext_iff_of_nodup (nodup_rows _)
    (List.nodup_cons.mpr ⟨hnew, nodup_rows _⟩)).mpr ?_
  rintro ⟨probe, found⟩
  rw [List.mem_cons, ← get?_eq_some_iff, ← get?_eq_some_iff, get?_insert, get?_erase]
  by_cases hprobe : probe = key
  · simp [hprobe, eq_comm]
  · simp [hprobe]

theorem get?_foldl_insert_of_not_mem (hkey : key ∉ rows.map Prod.fst) :
    (rows.foldl (fun table row => table.insert row.1 row.2) table).get? key = table.get? key := by
  induction rows generalizing table with
  | nil => rfl
  | cons head rest ih =>
      rw [List.map_cons, List.mem_cons, not_or] at hkey
      rw [List.foldl_cons, ih hkey.2, get?_insert, if_neg hkey.1]

/-- Rows that agree on a key put their value under it. -/
theorem get?_foldl_insert_of_mem (hmem : (key, value) ∈ rows)
    (hunique : ∀ other, (key, other) ∈ rows → other = value) :
    (rows.foldl (fun table row => table.insert row.1 row.2) table).get? key = some value := by
  induction rows generalizing table with
  | nil => exact absurd hmem List.not_mem_nil
  | cons head rest ih =>
      rw [List.foldl_cons]
      by_cases hrest : key ∈ rest.map Prod.fst
      · obtain ⟨row, hrow, rfl⟩ := List.mem_map.mp hrest
        have hrow_value : row.2 = value := hunique row.2 (List.mem_cons_of_mem head hrow)
        exact ih (hrow_value ▸ hrow) fun other hother =>
          hunique other (List.mem_cons_of_mem head hother)
      · rcases List.mem_cons.mp hmem with rfl | hlater
        · rw [get?_foldl_insert_of_not_mem hrest, get?_insert, if_pos rfl]
        · exact absurd (List.mem_map_of_mem hlater) hrest

theorem mem_rows_ofList_iff
    (hunique : ∀ value other, (key, value) ∈ rows → (key, other) ∈ rows → other = value) :
    (key, value) ∈ (ofList rows).rows ↔ (key, value) ∈ rows := by
  rw [← get?_eq_some_iff]
  constructor
  · exact mem_of_get?_ofList
  · exact fun hmem => get?_foldl_insert_of_mem hmem fun other => hunique value other hmem

/-- A table of keys without values is a set. -/
theorem contains_ofList_keys_iff (keys : List Key) (key : Key) :
    (ofList (keys.map (·, ()))).contains key = true ↔ key ∈ keys := by
  have hunique (value other : Unit) (_ : (key, value) ∈ keys.map (·, ()))
      (_ : (key, other) ∈ keys.map (·, ())) : other = value := rfl
  rw [contains_iff]
  constructor
  · rintro ⟨value, hmem⟩
    obtain ⟨named, hnamed, hsame⟩ := List.mem_map.mp ((mem_rows_ofList_iff hunique).mp hmem)
    cases hsame
    exact hnamed
  · intro hkey
    exact ⟨(), (mem_rows_ofList_iff hunique).mpr (List.mem_map_of_mem hkey)⟩

theorem isEmpty_ofList_keys (keys : List Key) :
    (ofList (keys.map (·, ()))).isEmpty = keys.isEmpty := by
  cases keys with
  | nil => rfl
  | cons head rest =>
      obtain ⟨value, hmem⟩ := contains_iff.mp
        ((contains_ofList_keys_iff (head :: rest) head).mpr List.mem_cons_self)
      exact List.isEmpty_eq_false_iff_exists_mem.mpr ⟨(head, value), hmem⟩

/-- A table is the table of its rows. -/
theorem ofList_rows (table : Table Key Value) : ofList table.rows = table := by
  apply eq_of_get?
  intro key
  apply Option.ext
  intro value
  rw [get?_eq_some_iff, get?_eq_some_iff]
  refine mem_rows_ofList_iff fun first second hfirst hsecond => ?_
  rw [← get?_eq_some_iff] at hfirst hsecond
  exact Option.some.inj (hsecond.symm.trans hfirst)

omit [DecidableEq Key] [TransOrd Key] [LawfulEqOrd Key] in
theorem get?_mapValues {Other : Type} (table : Table Key Value) (transform : Value → Other)
    (key : Key) : (table.mapValues transform).get? key = (table.get? key).map transform := by
  obtain ⟨rows, hsorted⟩ := table
  change find? key (rows.map fun row => (row.1, transform row.2)) = (find? key rows).map transform
  clear hsorted
  induction rows with
  | nil => rfl
  | cons row rows ih =>
      rw [List.map_cons, find?, find?]
      split
      · rfl
      · exact ih

theorem mapValues_insert {Other : Type} (table : Table Key Value) (transform : Value → Other)
    (key : Key) (value : Value) :
    (table.insert key value).mapValues transform =
      (table.mapValues transform).insert key (transform value) := by
  apply eq_of_get?
  intro probe
  rw [get?_mapValues, get?_insert, get?_insert, get?_mapValues]
  split <;> rfl

/-- Values may be changed before or after the rows are put into a table. -/
theorem mapValues_ofList {Other : Type} (rows : List (Key × Value)) (transform : Value → Other) :
    (ofList rows).mapValues transform =
      ofList (rows.map fun row => (row.1, transform row.2)) := by
  have hfold (table : Table Key Value) :
      (rows.foldl (fun table row => table.insert row.1 row.2) table).mapValues transform =
        (rows.map fun row => (row.1, transform row.2)).foldl
          (fun table row => table.insert row.1 row.2) (table.mapValues transform) := by
    induction rows generalizing table with
    | nil => rfl
    | cons row rows ih => rw [List.foldl_cons, ih, mapValues_insert, List.map_cons, List.foldl_cons]
  exact hfold ∅

theorem get?_insertWith (table : Table Key Value) (merge : Value → Value → Value)
    (key probe : Key) (value : Value) :
    (table.insertWith merge key value).get? probe =
      if probe = key then some ((table.get? key).elim value (merge · value))
      else table.get? probe := by
  rw [insertWith, get?_insert]
  cases table.get? key <;> rfl

/-- Values that are merged into a table may come in any order. -/
theorem insertWith_right_comm (merge : Value → Value → Value) [Std.Commutative merge]
    [Std.Associative merge] (table : Table Key Value) (first second : Key) (left right : Value) :
    (table.insertWith merge first left).insertWith merge second right =
      (table.insertWith merge second right).insertWith merge first left := by
  have hcomm (left right : Value) : merge left right = merge right left :=
    Std.Commutative.comm left right
  have hassoc (present left right : Value) :
      merge (merge present left) right = merge present (merge left right) :=
    Std.Associative.assoc present left right
  apply eq_of_get?
  intro probe
  simp only [get?_insertWith]
  by_cases hkeys : first = second
  · subst hkeys
    by_cases hprobe : probe = first
    · rw [if_pos hprobe, if_pos hprobe]
      cases table.get? first with
      | none => simp only [if_true, Option.elim_none, Option.elim_some, hcomm left right]
      | some present => simp only [if_true, Option.elim_some, hassoc, hcomm left right]
    · simp only [if_neg hprobe]
  · by_cases hfirst : probe = first
    · simp [hfirst, hkeys]
    · simp [hfirst, Ne.symm hkeys]

/-- Where each row of a table changes the value of its key in another table, a key's value there
changes by its own row only. -/
theorem get?_foldl_change {Change : Type} (next : Option Value → Change → Value)
    (table : Table Key Value) (changes : Table Key Change) (key : Key) :
    (changes.rows.foldl (fun table row => table.insert row.1 (next (table.get? row.1) row.2))
        table).get? key =
      (changes.get? key).elim (table.get? key) fun change => some (next (table.get? key) change) := by
  obtain ⟨rows, hsorted⟩ := changes
  change _ = (find? key rows).elim _ _
  induction rows generalizing table with
  | nil => rfl
  | cons head rest ih =>
      rw [List.pairwise_cons] at hsorted
      rw [List.foldl_cons, ih _ hsorted.2, get?_insert, find?]
      by_cases hkey : key = head.1
      · rw [if_pos hkey, if_pos (Std.compare_eq_iff_eq.mpr hkey), hkey,
          find?_eq_none_of_forall_lt hsorted.1]
        rfl
      · rw [if_neg hkey, if_neg (mt Std.compare_eq_iff_eq.mp hkey)]

/-- Merging a table into another merges the values of each key. -/
theorem get?_foldl_insertWith (merge : Value → Value → Value) (table taken : Table Key Value)
    (key : Key) :
    (taken.rows.foldl (fun table row => table.insertWith merge row.1 row.2) table).get? key =
      (taken.get? key).elim (table.get? key) fun value =>
        some ((table.get? key).elim value (merge · value)) := by
  refine Eq.trans ?_ (get?_foldl_change (fun present value => present.elim value (merge · value))
    table taken key)
  congr 2
  funext table row
  rw [insertWith]
  cases table.get? row.1 <;> rfl

end Update

end Table

end ProviderRouting
