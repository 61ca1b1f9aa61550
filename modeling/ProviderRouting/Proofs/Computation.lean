import Mathlib.Data.List.Basic

/-!
# Computations that may fail

What it takes for a computation in several steps, or over the items of a list, to succeed.
-/

namespace ProviderRouting

/-- A computation in two steps succeeds when both steps do. -/
theorem bind_eq_ok_iff {Cause First Second : Type} {computation : Except Cause First}
    {next : First → Except Cause Second} {result : Second} :
    computation >>= next = .ok result ↔
      ∃ between, computation = .ok between ∧ next between = .ok result := by
  cases computation <;> simp [bind, Except.bind]

section Lists

variable {Cause Item Result State : Type}

/-- A check of all items succeeds only if it does for each of them. -/
theorem ok_of_forM {check : Item → Except Cause Unit} {items : List Item} {item : Item}
    (hchecked : items.forM check = .ok ()) (hitem : item ∈ items) : check item = .ok () := by
  induction items with
  | nil => exact absurd hitem List.not_mem_nil
  | cons head rest ih =>
      obtain ⟨⟨⟩, hhead, hrest⟩ := bind_eq_ok_iff.mp hchecked
      rcases List.mem_cons.mp hitem with rfl | hitem
      · exact hhead
      · exact ih hrest hitem

/-- A check that hands a state on succeeds only if it does for each item in some state. -/
theorem ok_of_foldlM {check : State → Item → Except Cause State} {items : List Item}
    {item : Item} {state final : State} (hchecked : items.foldlM check state = .ok final)
    (hitem : item ∈ items) : ∃ before after, check before item = .ok after := by
  induction items generalizing state with
  | nil => exact absurd hitem List.not_mem_nil
  | cons head rest ih =>
      obtain ⟨between, hhead, hrest⟩ := bind_eq_ok_iff.mp hchecked
      rcases List.mem_cons.mp hitem with rfl | hitem
      · exact ⟨state, between, hhead⟩
      · exact ih hrest hitem

/-- The results of a computation over a list are those of the list's items. -/
theorem mem_mapM_iff {compute : Item → Except Cause Result} {items : List Item}
    {results : List Result} {result : Result} (hcomputed : items.mapM compute = .ok results) :
    result ∈ results ↔ ∃ item ∈ items, compute item = .ok result := by
  induction items generalizing results with
  | nil =>
      obtain rfl : [] = results := Except.ok.inj hcomputed
      simp
  | cons head rest ih =>
      rw [List.mapM_cons] at hcomputed
      obtain ⟨first, hfirst, hcomputed⟩ := bind_eq_ok_iff.mp hcomputed
      obtain ⟨others, hothers, hcomputed⟩ := bind_eq_ok_iff.mp hcomputed
      obtain rfl : first :: others = results := Except.ok.inj hcomputed
      rw [List.mem_cons, ih hothers, List.exists_mem_cons_iff, hfirst, Except.ok.injEq, eq_comm]

/-- A computation over a list succeeds when it does so for each of the items. -/
theorem exists_mapM_ok_iff {compute : Item → Except Cause Result}
    {items : List Item} :
    (∃ results, items.mapM compute = .ok results) ↔
      ∀ item ∈ items, ∃ result, compute item = .ok result := by
  induction items with
  | nil => exact iff_of_true ⟨[], rfl⟩ (List.forall_mem_nil _)
  | cons head rest ih =>
      rw [List.forall_mem_cons, ← ih, List.mapM_cons]
      constructor
      · rintro ⟨results, hcomputed⟩
        obtain ⟨first, hfirst, hcomputed⟩ := bind_eq_ok_iff.mp hcomputed
        obtain ⟨others, hothers, -⟩ := bind_eq_ok_iff.mp hcomputed
        exact ⟨⟨first, hfirst⟩, others, hothers⟩
      · rintro ⟨⟨first, hfirst⟩, others, hothers⟩
        refine ⟨first :: others, ?_⟩
        rw [hfirst, hothers]
        rfl

end Lists

end ProviderRouting
