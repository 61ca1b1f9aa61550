/-!
# Tables

A table holds at most one row per key and keeps its rows in key order, so two tables with the
same look-ups are equal and listing a table needs no sorting.
-/

namespace ProviderRouting

open Std

/-- Rows in strictly increasing key order. -/
structure Table (Key Value : Type) [Ord Key] where
  rows : List (Key × Value)
  sorted : rows.Pairwise fun earlier later => compare earlier.1 later.1 = .lt

namespace Table

variable {Key Value : Type} [Ord Key]

instance : EmptyCollection (Table Key Value) := ⟨⟨[], .nil⟩⟩

instance : Inhabited (Table Key Value) := ⟨∅⟩

@[ext]
theorem ext {left right : Table Key Value} (equality : left.rows = right.rows) :
    left = right := by
  cases left; cases right; cases equality; rfl

/-- The value of the first row with this key. -/
def find? (key : Key) : List (Key × Value) → Option Value
  | [] => none
  | (candidate, value) :: rest =>
    if compare key candidate = .eq then some value else find? key rest

def get? (table : Table Key Value) (key : Key) : Option Value :=
  find? key table.rows

def contains (table : Table Key Value) (key : Key) : Bool :=
  (table.get? key).isSome

def keys (table : Table Key Value) : List Key :=
  table.rows.map Prod.fst

def size (table : Table Key Value) : Nat :=
  table.rows.length

def isEmpty (table : Table Key Value) : Bool :=
  table.rows.isEmpty

/-- Put a row into its place, over the row that has the same key. -/
def insertRow (key : Key) (value : Value) : List (Key × Value) → List (Key × Value)
  | [] => [(key, value)]
  | row :: rest =>
    match compare key row.1 with
    | .lt => (key, value) :: row :: rest
    | .eq => (key, value) :: rest
    | .gt => row :: insertRow key value rest

theorem mem_insertRow {key : Key} {value : Value} {rows : List (Key × Value)}
    {row : Key × Value} (member : row ∈ insertRow key value rows) :
    row = (key, value) ∨ row ∈ rows := by
  induction rows with
  | nil => simpa [insertRow] using member
  | cons head rest ih =>
    rw [insertRow] at member
    split at member <;> simp only [List.mem_cons] at member ⊢ <;> grind

theorem find?_insertRow [DecidableEq Key] [TransOrd Key] [LawfulEqOrd Key]
    (key probe : Key) (value : Value) (rows : List (Key × Value)) :
    find? probe (insertRow key value rows) =
      if probe = key then some value else find? probe rows := by
  induction rows with
  | nil => simp [insertRow, find?]
  | cons head rest ih =>
    rw [insertRow]
    split <;> rename_i order
    · simp only [find?, Std.compare_eq_iff_eq]
    · have equality := Std.compare_eq_iff_eq.mp order
      simp only [find?, Std.compare_eq_iff_eq, equality]
      split <;> rfl
    · have differ : key ≠ head.1 := by
        intro equality
        rw [Std.compare_eq_iff_eq.mpr equality] at order
        cases order
      simp only [find?, Std.compare_eq_iff_eq, ih]
      split <;> split <;> simp_all

theorem insertRow_sorted [TransOrd Key] [LawfulEqOrd Key] (key : Key) (value : Value)
    {rows : List (Key × Value)}
    (sorted : rows.Pairwise fun earlier later => compare earlier.1 later.1 = .lt) :
    (insertRow key value rows).Pairwise fun earlier later =>
      compare earlier.1 later.1 = .lt := by
  induction rows with
  | nil => simp [insertRow]
  | cons head rest ih =>
    rw [List.pairwise_cons] at sorted
    rw [insertRow]
    split <;> rename_i order
    · refine List.pairwise_cons.mpr ⟨?_, List.pairwise_cons.mpr sorted⟩
      intro row member
      rcases List.mem_cons.mp member with rfl | member
      · exact order
      · exact TransCmp.lt_trans order (sorted.1 row member)
    · have equality := Std.compare_eq_iff_eq.mp order
      refine List.pairwise_cons.mpr ⟨?_, sorted.2⟩
      intro row member
      simpa [equality] using sorted.1 row member
    · refine List.pairwise_cons.mpr ⟨?_, ih sorted.2⟩
      intro row member
      rcases mem_insertRow member with rfl | member
      · exact OrientedCmp.lt_of_gt order
      · exact sorted.1 row member

section Update

variable [TransOrd Key] [LawfulEqOrd Key]

def insert (table : Table Key Value) (key : Key) (value : Value) : Table Key Value where
  rows := insertRow key value table.rows
  sorted := insertRow_sorted key value table.sorted

theorem get?_insert [DecidableEq Key] (table : Table Key Value) (key probe : Key) (value : Value) :
    (table.insert key value).get? probe = if probe = key then some value else table.get? probe :=
  find?_insertRow key probe value table.rows

/-- Later rows replace earlier ones of the same key. -/
def ofList (rows : List (Key × Value)) : Table Key Value :=
  rows.foldl (fun table row => table.insert row.1 row.2) ∅

theorem mem_of_get?_foldl_insert [DecidableEq Key] {rows : List (Key × Value)}
    {table : Table Key Value} {key : Key} {value : Value}
    (found : (rows.foldl (fun table row => table.insert row.1 row.2) table).get? key =
      some value) :
    (key, value) ∈ rows ∨ table.get? key = some value := by
  induction rows generalizing table with
  | nil => exact .inr found
  | cons head rest ih =>
    rcases ih found with member | earlier
    · exact .inl (List.mem_cons_of_mem head member)
    · rw [get?_insert] at earlier
      by_cases equality : key = head.1
      · rw [if_pos equality, Option.some.injEq] at earlier
        rw [equality, ← earlier]
        exact .inl List.mem_cons_self
      · rw [if_neg equality] at earlier
        exact .inr earlier

theorem mem_of_get?_ofList [DecidableEq Key] {rows : List (Key × Value)} {key : Key}
    {value : Value} (found : (ofList rows).get? key = some value) : (key, value) ∈ rows := by
  rcases mem_of_get?_foldl_insert found with member | absurd
  · exact member
  · cases absurd

/-- Put the value of `merge` at a key: the value given when the key is new, else the two
merged. -/
def insertWith (table : Table Key Value) (merge : Value → Value → Value) (key : Key)
    (value : Value) : Table Key Value :=
  table.insert key <| match table.get? key with
    | none => value
    | some present => merge present value

end Update

@[simp]
theorem get?_empty (key : Key) : (∅ : Table Key Value).get? key = none := rfl

/-- The rows that satisfy a condition. -/
def filter (table : Table Key Value) (keep : Key → Value → Bool) : Table Key Value where
  rows := table.rows.filter fun row => keep row.1 row.2
  sorted := table.sorted.filter _

def erase [LawfulEqOrd Key] (table : Table Key Value) (key : Key) : Table Key Value :=
  table.filter fun candidate _ => compare key candidate != .eq

/-- The same keys with other values. -/
def mapValues {Other : Type} (table : Table Key Value) (transform : Value → Other) :
    Table Key Other where
  rows := table.rows.map fun row => (row.1, transform row.2)
  sorted := List.pairwise_map.mpr table.sorted

theorem find?_eq_none_of_forall_lt [TransOrd Key] [LawfulEqOrd Key] {key : Key}
    {rows : List (Key × Value)} (below : ∀ row ∈ rows, compare key row.1 = .lt) :
    find? key rows = none := by
  induction rows with
  | nil => rfl
  | cons head rest ih =>
    have order := below head (by simp)
    rw [find?, if_neg (by simp [order])]
    exact ih fun row member => below row (by simp [member])

theorem find?_filter [TransOrd Key] [LawfulEqOrd Key] (keep : Key → Value → Bool) (key : Key)
    {rows : List (Key × Value)}
    (sorted : rows.Pairwise fun earlier later => compare earlier.1 later.1 = .lt) :
    find? key (rows.filter fun row => keep row.1 row.2) =
      (find? key rows).filter (keep key) := by
  induction rows with
  | nil => rfl
  | cons head rest ih =>
    rw [List.pairwise_cons] at sorted
    by_cases equality : compare key head.1 = .eq
    · have same := Std.compare_eq_iff_eq.mp equality
      subst same
      rw [find?, if_pos equality]
      by_cases kept : keep head.1 head.2
      · simp [kept, find?, Option.filter]
      · have absent : find? head.1 rest = none := find?_eq_none_of_forall_lt sorted.1
        simp [kept, ih sorted.2, absent, Option.filter]
    · rw [find?, if_neg equality, List.filter_cons]
      split
      · rw [find?, if_neg equality, ih sorted.2]
      · exact ih sorted.2

theorem get?_filter [TransOrd Key] [LawfulEqOrd Key] (table : Table Key Value)
    (keep : Key → Value → Bool) (key : Key) :
    (table.filter keep).get? key = (table.get? key).filter (keep key) :=
  find?_filter keep key table.sorted

theorem get?_erase [DecidableEq Key] [TransOrd Key] [LawfulEqOrd Key]
    (table : Table Key Value) (key probe : Key) :
    (table.erase key).get? probe = if probe = key then none else table.get? probe := by
  rw [erase, get?_filter]
  split <;> rename_i equality
  · subst equality
    cases table.get? probe <;> simp [Option.filter]
  · have differ : compare key probe ≠ .eq := fun same =>
      equality (Std.compare_eq_iff_eq.mp same).symm
    cases table.get? probe <;> simp [Option.filter, differ]

end Table

end ProviderRouting
