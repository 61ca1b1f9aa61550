import ProviderRouting.Engine.Select
import Mathlib.Data.List.Basic

/-!
# Choosing among candidates

Sessions, priority tiers and rotations each have their own way of choosing a key.  All of them
answer with one of the candidates that they were given, and with none only when there is no
candidate.  For rotations this rests on weights: a candidate counts only if its weight is not
zero, and health weights never are.
-/

namespace ProviderRouting

section FirstGreatest

variable {α : Type} {measure : α → Int} {items : List α}

/-- What is greatest is one of the items. -/
theorem firstGreatest?_mem {item : α} (hitem : firstGreatest? measure items = some item) :
    item ∈ items := by
  induction items generalizing item with
  | nil => simp [firstGreatest?] at hitem
  | cons head rest ih =>
      rw [firstGreatest?] at hitem
      cases hrest : firstGreatest? measure rest with
      | none =>
          simp only [hrest, Option.some.injEq] at hitem
          simp [hitem]
      | some later =>
          simp only [hrest, Option.some.injEq] at hitem
          have hlater := ih hrest
          by_cases hmeasure : measure later ≤ measure head
          · rw [if_pos hmeasure] at hitem
            simp [hitem]
          · rw [if_neg hmeasure] at hitem
            exact List.mem_cons_of_mem head (hitem ▸ hlater)

/-- Only an empty list has no greatest item. -/
theorem firstGreatest?_eq_none_iff : firstGreatest? measure items = none ↔ items = [] := by
  cases items with
  | nil => simp [firstGreatest?]
  | cons head rest =>
      rw [firstGreatest?]
      cases firstGreatest? measure rest <;> simp

/-- No item has a greater measure than what is greatest. -/
theorem firstGreatest?_le {item other : α} (hitem : firstGreatest? measure items = some item)
    (hother : other ∈ items) : measure other ≤ measure item := by
  induction items generalizing item with
  | nil => exact absurd hother List.not_mem_nil
  | cons head rest ih =>
      rw [firstGreatest?] at hitem
      cases hrest : firstGreatest? measure rest with
      | none =>
          simp only [hrest, Option.some.injEq] at hitem
          rw [firstGreatest?_eq_none_iff.mp hrest, List.mem_singleton] at hother
          exact Int.le_of_eq (congrArg measure (hother.trans hitem))
      | some later =>
          simp only [hrest, Option.some.injEq] at hitem
          have hgreatest : measure head ≤ measure item ∧ measure later ≤ measure item := by
            by_cases hmeasure : measure later ≤ measure head
            · rw [if_pos hmeasure] at hitem
              exact hitem ▸ ⟨Int.le_refl _, hmeasure⟩
            · rw [if_neg hmeasure] at hitem
              exact hitem ▸ ⟨Int.le_of_not_le hmeasure, Int.le_refl _⟩
          rcases List.mem_cons.mp hother with rfl | hmem
          · exact hgreatest.1
          · exact Int.le_trans (ih hrest hmem) hgreatest.2

/-- If no later item has a greater measure, the first item is greatest. -/
theorem firstGreatest?_eq_head?
    (hfalling : items.Pairwise fun earlier later => measure later ≤ measure earlier) :
    firstGreatest? measure items = items.head? := by
  cases items with
  | nil => rfl
  | cons head rest =>
      rw [List.pairwise_cons] at hfalling
      rw [firstGreatest?]
      cases hrest : firstGreatest? measure rest with
      | none => rfl
      | some later =>
          have hlater := hfalling.1 later (firstGreatest?_mem hrest)
          simp only [if_pos hlater, List.head?_cons]

/-- The item is the earliest of those with the greatest measure. -/
def EarliestGreatest (measure : α → Int) (items : List α) (item : α) : Prop :=
  ∃ before later, items = before ++ item :: later ∧
    (∀ other ∈ before, measure other < measure item) ∧
      ∀ other ∈ later, measure other ≤ measure item

/-- Of several greatest items the earliest is chosen. -/
theorem firstGreatest?_split {item : α} (hitem : firstGreatest? measure items = some item) :
    EarliestGreatest measure items item := by
  induction items generalizing item with
  | nil => cases hitem
  | cons head rest ih =>
      rw [firstGreatest?] at hitem
      cases hrest : firstGreatest? measure rest with
      | none =>
          simp only [hrest, Option.some.injEq] at hitem
          rw [firstGreatest?_eq_none_iff.mp hrest, hitem]
          exact ⟨[], [], rfl, by simp, by simp⟩
      | some greatest =>
          simp only [hrest, Option.some.injEq] at hitem
          by_cases hmeasure : measure greatest ≤ measure head
          · obtain rfl : head = item := by rwa [if_pos hmeasure] at hitem
            refine ⟨[], rest, rfl, by simp, ?_⟩
            exact fun other hother => Int.le_trans (firstGreatest?_le hrest hother) hmeasure
          · obtain rfl : greatest = item := by rwa [if_neg hmeasure] at hitem
            obtain ⟨before, later, hsplit, hbefore, hlater⟩ := ih hrest
            refine ⟨head :: before, later, by rw [hsplit, List.cons_append], ?_, hlater⟩
            rw [List.forall_mem_cons]
            exact ⟨Int.lt_of_not_ge hmeasure, hbefore⟩

theorem firstGreatest?_eq_some_iff {item : α} :
    firstGreatest? measure items = some item ↔ EarliestGreatest measure items item := by
  refine ⟨firstGreatest?_split, ?_⟩
  rintro ⟨before, later, rfl, hbefore, hlater⟩
  induction before with
  | nil =>
      rw [List.nil_append, firstGreatest?]
      cases hrest : firstGreatest? measure later with
      | none => rfl
      | some other => simp only [if_pos (hlater other (firstGreatest?_mem hrest))]
  | cons head rest ih =>
      rw [List.forall_mem_cons] at hbefore
      rw [List.cons_append, firstGreatest?, ih hbefore.2]
      simp only [if_neg (Int.not_le_of_gt hbefore.1)]

/-- The greatest item stays so when others fall behind further. -/
theorem EarliestGreatest.of_le {lowered : α → Int} {item : α}
    (hitem : EarliestGreatest measure items item)
    (hlowered : ∀ other, lowered other ≤ measure other) (hsame : lowered item = measure item) :
    EarliestGreatest lowered items item := by
  obtain ⟨before, later, hsplit, hbefore, hlater⟩ := hitem
  refine ⟨before, later, hsplit, ?_, ?_⟩
  · intro other hother
    exact hsame ▸ Int.lt_of_le_of_lt (hlowered other) (hbefore other hother)
  · intro other hother
    exact hsame ▸ Int.le_trans (hlowered other) (hlater other hother)

/-- What is greatest stays so when other items are left out. -/
theorem firstGreatest?_filter {keep : α → Bool} {item : α}
    (hitem : firstGreatest? measure items = some item) (hkeep : keep item = true) :
    firstGreatest? measure (items.filter keep) = some item := by
  induction items generalizing item with
  | nil => simp [firstGreatest?] at hitem
  | cons head rest ih =>
      rw [firstGreatest?] at hitem
      cases hrest : firstGreatest? measure rest with
      | none =>
          simp only [hrest, Option.some.injEq] at hitem
          rw [firstGreatest?_eq_none_iff.mp hrest, hitem, List.filter_cons_of_pos hkeep]
          rfl
      | some later =>
          simp only [hrest, Option.some.injEq] at hitem
          by_cases hmeasure : measure later ≤ measure head
          · obtain rfl : head = item := by rwa [if_pos hmeasure] at hitem
            rw [List.filter_cons_of_pos hkeep, firstGreatest?]
            cases hkept : firstGreatest? measure (rest.filter keep) with
            | none => rfl
            | some other =>
                have hother := List.mem_of_mem_filter (firstGreatest?_mem hkept)
                have hbelow := Int.le_trans (firstGreatest?_le hrest hother) hmeasure
                simp only [if_pos hbelow]
          · obtain rfl : later = item := by rwa [if_neg hmeasure] at hitem
            have hkept := ih hrest hkeep
            by_cases hhead : keep head = true
            · rw [List.filter_cons_of_pos hhead, firstGreatest?, hkept]
              simp only [if_neg hmeasure]
            · rw [List.filter_cons_of_neg hhead, hkept]

end FirstGreatest

theorem heaviest?_mem {weight : ProviderKey → Nat} {keys : List ProviderKey} {key : ProviderKey}
    (hkey : heaviest? weight keys = some key) : key ∈ keys :=
  firstGreatest?_mem hkey

theorem heaviest?_eq_none_iff {weight : ProviderKey → Nat} {keys : List ProviderKey} :
    heaviest? weight keys = none ↔ keys = [] :=
  firstGreatest?_eq_none_iff

/-- Among the keys that are kept, the earliest of greatest weight is chosen. -/
theorem heaviest?_filter_split {weight : ProviderKey → Nat} {keep : ProviderKey → Bool}
    {keys : List ProviderKey} {key : ProviderKey}
    (hkey : heaviest? weight (keys.filter keep) = some key) :
    ∃ before later, keys = before ++ key :: later ∧
      (∀ other ∈ before, keep other = true → weight other < weight key) ∧
        ∀ other ∈ later, keep other = true → weight other ≤ weight key := by
  obtain ⟨before, later, hsplit, hbefore, hlater⟩ := firstGreatest?_split hkey
  obtain ⟨front, back, rfl, rfl, hback⟩ := List.filter_eq_append_iff.mp hsplit
  obtain ⟨skipped, rest, rfl, hskipped, -, rfl⟩ := List.filter_eq_cons_iff.mp hback
  refine ⟨front ++ skipped, rest, by rw [List.append_assoc], ?_, ?_⟩
  · intro other hother hkept
    rcases List.mem_append.mp hother with hfront | hskip
    · exact Int.ofNat_lt.mp (hbefore other (List.mem_filter.mpr ⟨hfront, hkept⟩))
    · exact absurd hkept (hskipped other hskip)
  · intro other hother hkept
    exact Int.ofNat_le.mp (hlater other (List.mem_filter.mpr ⟨hother, hkept⟩))

/-! ## Priority tiers -/

namespace Priority

theorem length_scoresAfter (last : ProviderKey) (group keyAlias : Nat)
    (targets : List ProviderKey) :
    (scoresAfter last group keyAlias targets).length = targets.length := by
  induction targets generalizing last group keyAlias with
  | nil => rfl
  | cons key rest ih =>
      rw [scoresAfter]
      by_cases hsame : key.sharesModel last = true
      · rw [if_pos hsame, List.length_cons, List.length_cons, ih]
      · rw [if_neg hsame, List.length_cons, List.length_cons, ih]

@[simp]
theorem length_scores (targets : List ProviderKey) :
    (scores targets).length = targets.length := by
  cases targets with
  | nil => rfl
  | cons key rest => simp [scores, length_scoresAfter]

variable {targets : List ProviderKey} {selectable : ProviderKey → Bool}
  {penalty : ProviderKey → Nat}

theorem map_fst_scored (targets : List ProviderKey) :
    (targets.zip (scores targets)).map Prod.fst = targets :=
  List.map_fst_zip (Nat.le_of_eq (length_scores targets).symm)

theorem map_snd_scored (targets : List ProviderKey) :
    (targets.zip (scores targets)).map Prod.snd = scores targets :=
  List.map_snd_zip (Nat.le_of_eq (length_scores targets))

/-- A priority tier answers with a target that may be selected. -/
theorem select_mem {key : ProviderKey} (hkey : select targets selectable penalty = some key) :
    key ∈ targets ∧ selectable key = true := by
  simp only [select, Option.map_eq_some_iff] at hkey
  obtain ⟨target, htarget, hfst⟩ := hkey
  have hmem := List.mem_filter.mp (firstGreatest?_mem htarget)
  rw [← hfst]
  exact ⟨(List.of_mem_zip hmem.1).1, hmem.2⟩

/-- Neither scores nor penalties keep a priority tier from answering. -/
theorem select_eq_none_iff :
    select targets selectable penalty = none ↔ ∀ key ∈ targets, selectable key = false := by
  simp only [select, Option.map_eq_none_iff, firstGreatest?_eq_none_iff, List.filter_eq_nil_iff,
    Bool.not_eq_true]
  constructor
  · intro hnone key hkey
    rw [← map_fst_scored targets] at hkey
    obtain ⟨target, htarget, hfst⟩ := List.mem_map.mp hkey
    exact hfst ▸ hnone target htarget
  · intro hnone target htarget
    exact hnone target.1 (List.of_mem_zip htarget).1

/-- The best target stays the best when fewer targets may be selected. -/
theorem select_narrowed {keep : ProviderKey → Bool} {key : ProviderKey}
    (hkey : select targets selectable penalty = some key) (hkeep : keep key = true) :
    select targets (fun target => selectable target && keep target) penalty = some key := by
  simp only [select, Option.map_eq_some_iff] at hkey ⊢
  obtain ⟨target, htarget, rfl⟩ := hkey
  refine ⟨target, ?_, rfl⟩
  let kept (target : ProviderKey × Int) : Bool := keep target.1
  have hkept : kept target = true := hkeep
  simpa only [kept, List.filter_filter, Bool.and_comm] using firstGreatest?_filter htarget hkept

end Priority

/-! ## Rotations -/

namespace Rotation

variable {rotation : Rotation} {candidates : List Candidate} {bound : Nat}

/-- Whether a candidate is overdue or has the most credit, it is one of the candidates. -/
theorem choose_mem {key : ProviderKey} (hkey : rotation.choose candidates bound = some key) :
    key ∈ candidates.map Prod.fst := by
  rw [choose] at hkey
  cases hoverdue : firstGreatest? (fun candidate => (rotation.wait candidate.1 : Int))
      (candidates.filter (rotation.isOverdue bound)) with
  | some candidate =>
      simp only [hoverdue, Option.some.injEq] at hkey
      have hmem := (List.mem_filter.mp (firstGreatest?_mem hoverdue)).1
      exact List.mem_map.mpr ⟨candidate, hmem, hkey⟩
  | none =>
      simp only [hoverdue, Option.map_eq_some_iff] at hkey
      obtain ⟨candidate, hcandidate, hfst⟩ := hkey
      exact List.mem_map.mpr ⟨candidate, firstGreatest?_mem hcandidate, hfst⟩

theorem choose_ne_none (hcandidates : candidates ≠ []) :
    rotation.choose candidates bound ≠ none := by
  rw [choose]
  cases firstGreatest? (fun candidate => (rotation.wait candidate.1 : Int))
      (candidates.filter (rotation.isOverdue bound)) with
  | some candidate => simp
  | none => simpa [firstGreatest?_eq_none_iff] using hcandidates

theorem select_mem {key : ProviderKey} (hkey : (rotation.select candidates bound).1 = some key) :
    key ∈ candidates.map Prod.fst := by
  rw [select] at hkey
  by_cases hweight : totalWeight candidates = 0
  · simp [hweight] at hkey
  · rw [if_neg hweight] at hkey
    cases hchoice : ((rotation.retain candidates).accrue candidates).choose candidates bound with
    | none => simp [hchoice] at hkey
    | some picked =>
        simp only [hchoice, Option.some.injEq] at hkey
        exact hkey ▸ choose_mem hchoice

/-- Neither credits nor waits keep a rotation from picking: only weights do. -/
theorem select_eq_none_iff :
    (rotation.select candidates bound).1 = none ↔ totalWeight candidates = 0 := by
  rw [select]
  by_cases hweight : totalWeight candidates = 0
  · simp [hweight]
  · rw [if_neg hweight]
    have hcandidates : candidates ≠ [] := by
      rintro rfl
      exact hweight rfl
    cases hchoice : ((rotation.retain candidates).accrue candidates).choose candidates bound with
    | none => exact absurd hchoice (choose_ne_none hcandidates)
    | some picked => simp [hweight, hchoice]

theorem totalWeight_eq_zero_iff_of_pos (hpos : ∀ candidate ∈ candidates, 0 < candidate.2) :
    totalWeight candidates = 0 ↔ candidates = [] := by
  cases candidates with
  | nil => simp [totalWeight]
  | cons head rest =>
      have hhead := hpos head (by simp)
      simp only [totalWeight, List.foldr_cons, reduceCtorEq, iff_false]
      omega

end Rotation

/-! ## Health weights -/

/-- However many errors a key has, it keeps a weight. -/
theorem HealthSettings.weight_pos (settings : HealthSettings) (now : Millis)
    (lastErrorAt : Option Millis) (errors : UInt32) :
    0 < settings.weight now lastErrorAt errors := by
  rw [weight]
  exact Nat.lt_of_lt_of_le Nat.one_pos (Nat.le_max_left 1 _)

theorem Engine.weight_pos (engine : Engine) (now : Millis) (key : ProviderKey) :
    0 < engine.weight now key :=
  engine.health.weight_pos now _ _

end ProviderRouting
