import ProviderRouting.Proofs.Choosing

/-!
# The scores of a priority tier and its pick

The score of a target tells where it stands: ten points are taken off for every change of provider
or model up to it, and one for every target between it and the start of its run.  Runs of one model
that are apart are scored apart.  The pick is the earliest of the targets that may be selected and
have the most left once penalties are taken off, so it does not matter how far the others fall
behind.
-/

namespace ProviderRouting

namespace Priority

variable {targets : List ProviderKey} {selectable : ProviderKey → Bool}
  {penalty raised : ProviderKey → Nat} {key : ProviderKey}

/-! ## Scores by position -/

def modelAt (targets : List ProviderKey) (position : Nat) : Option (String × String) :=
  targets[position]?.map fun key => (key.provider, key.model)

/-- How many positions up to this one differ in provider or model from the position before. -/
def changesUpTo (targets : List ProviderKey) (position : Nat) : Nat :=
  (List.range position).countP fun earlier =>
    modelAt targets (earlier + 1) != modelAt targets earlier

/-- The longest run of targets of one provider and model that ends at a position starts here. -/
structure StartsRun (targets : List ProviderKey) (start position : Nat) : Prop where
  start_le : start ≤ position
  alike : ∀ between, start ≤ between → between ≤ position →
    modelAt targets between = modelAt targets position
  longest : ∀ earlier, earlier + 1 = start → modelAt targets earlier ≠ modelAt targets position

def runStart (targets : List ProviderKey) : Nat → Nat
  | 0 => 0
  | position + 1 =>
      if modelAt targets (position + 1) = modelAt targets position then runStart targets position
      else position + 1

theorem startsRun_runStart (targets : List ProviderKey) (position : Nat) :
    StartsRun targets (runStart targets position) position := by
  induction position with
  | zero =>
      refine ⟨Nat.le_refl 0, fun between _ hle => ?_, fun earlier hearlier => by cases hearlier⟩
      rw [Nat.le_zero.mp hle]
  | succ position ih =>
      rw [runStart]
      by_cases hsame : modelAt targets (position + 1) = modelAt targets position
      · rw [if_pos hsame]
        refine ⟨Nat.le_succ_of_le ih.start_le, fun between hstart hle => ?_,
          fun earlier hearlier => ?_⟩
        · rcases Nat.le_succ_iff.mp hle with hwithin | rfl
          · exact (ih.alike between hstart hwithin).trans hsame.symm
          · rfl
        · rw [hsame]
          exact ih.longest earlier hearlier
      · rw [if_neg hsame]
        refine ⟨Nat.le_refl _, fun between hstart hle => ?_, fun earlier hearlier => ?_⟩
        · rw [Nat.le_antisymm hle hstart]
        · rw [Nat.succ_inj.mp hearlier]
          exact Ne.symm hsame

theorem changesUpTo_succ (targets : List ProviderKey) (position : Nat) :
    changesUpTo targets (position + 1) = changesUpTo targets position +
      if modelAt targets (position + 1) = modelAt targets position then 0 else 1 := by
  rw [changesUpTo, List.range_succ, List.countP_append, List.countP_singleton, ← changesUpTo]
  congr 1
  simp

/-- The score of a position, counted from there. -/
def scoreOf (targets : List ProviderKey) (position : Nat) : Int :=
  scoreAt (changesUpTo targets position) (position - runStart targets position)

/-- The two counters of the scan are, at every position, the changes so far and the distance from
the start of the run. -/
theorem scoresAfter_eq (before rest : List ProviderKey) (last : ProviderKey)
    (htargets : targets = before ++ last :: rest) :
    scoresAfter last (changesUpTo targets before.length)
        (before.length - runStart targets before.length) rest =
      (List.range' (before.length + 1) rest.length).map (scoreOf targets) := by
  induction rest generalizing before last with
  | nil => rfl
  | cons key rest ih =>
      have hrest := ih (before ++ [last]) key (by simp [htargets])
      rw [List.length_append, List.length_singleton] at hrest
      have hmodels : modelAt targets (before.length + 1) = modelAt targets before.length ↔
          key.sharesModel last = true := by
        simp [htargets, modelAt, ProviderKey.sharesModel]
      have hstart := (startsRun_runStart targets before.length).start_le
      rw [scoresAfter, List.length_cons, List.range'_succ, List.map_cons, ← hrest, scoreOf,
        changesUpTo_succ, runStart]
      by_cases hsame : key.sharesModel last = true
      · rw [if_pos hsame, if_pos (hmodels.mpr hsame), if_pos (hmodels.mpr hsame),
          Nat.sub_add_comm hstart]
        rfl
      · rw [if_neg hsame, if_neg (mt hmodels.mp hsame), if_neg (mt hmodels.mp hsame), Nat.sub_self]

theorem scores_eq_map (targets : List ProviderKey) :
    scores targets = (List.range targets.length).map (scoreOf targets) := by
  cases targets with
  | nil => rfl
  | cons key rest =>
      rw [scores, List.range_eq_range', List.length_cons, List.range'_succ, List.map_cons]
      exact congrArg _ (scoresAfter_eq [] rest key rfl)

theorem exists_startsRun_score {position : Nat} (hposition : position < targets.length) :
    ∃ start, StartsRun targets start position ∧ (scores targets)[position]? =
      some (200 - 10 * changesUpTo targets position - (position - start : Nat) : Int) := by
  refine ⟨runStart targets position, startsRun_runStart targets position, ?_⟩
  rw [scores_eq_map, List.getElem?_map, List.getElem?_range hposition, Option.map_some, scoreOf,
    scoreAt]
  exact congrArg some (by omega)

/-! ## The pick -/

/-- The pick is the earliest of the selectable targets that have most left of their score. -/
theorem select_eq_some_iff :
    select targets selectable penalty = some key ↔
      ∃ score, EarliestGreatest (fun target : ProviderKey × Int => target.2 - penalty target.1)
        ((targets.zip (scores targets)).filter fun target => selectable target.1) (key, score) := by
  rw [select, Option.map_eq_some_iff]
  constructor
  · rintro ⟨⟨picked, score⟩, hpicked, rfl⟩
    exact ⟨score, firstGreatest?_eq_some_iff.mp hpicked⟩
  · rintro ⟨score, hgreatest⟩
    exact ⟨(key, score), firstGreatest?_eq_some_iff.mpr hgreatest, rfl⟩

/-- Penalties of the others, however high, do not change the pick. -/
theorem select_raised (hraised : ∀ key, penalty key ≤ raised key)
    (hpick : ∀ key, select targets selectable penalty = some key → raised key = penalty key) :
    select targets selectable raised = select targets selectable penalty := by
  cases hselect : select targets selectable penalty with
  | none => exact select_eq_none_iff.mpr (select_eq_none_iff.mp hselect)
  | some key =>
      obtain ⟨score, hgreatest⟩ := select_eq_some_iff.mp hselect
      refine select_eq_some_iff.mpr ⟨score, hgreatest.of_le (fun target => ?_) ?_⟩
      · exact Int.sub_le_sub_left (Int.ofNat_le.mpr (hraised target.1)) target.2
      · rw [hpick key hselect]

/-- Each target is scored by the changes of provider or model up to it and by its distance from the
start of its run.  Nothing is picked exactly if nothing may be selected, else the earliest of the
selectable targets that have most left of their score, whatever is taken off the others on top. -/
theorem select_earliest_greatest (targets : List ProviderKey) (selectable : ProviderKey → Bool)
    (penalty : ProviderKey → Nat) :
    ((scores targets).length = targets.length ∧
      ∀ position, position < targets.length →
        ∃ start, StartsRun targets start position ∧ (scores targets)[position]? =
          some (200 - 10 * changesUpTo targets position - (position - start : Nat) : Int)) ∧
    (select targets selectable penalty = none ↔ ∀ key ∈ targets, selectable key = false) ∧
    (∀ key, select targets selectable penalty = some key ↔
      ∃ score, EarliestGreatest (fun target : ProviderKey × Int => target.2 - penalty target.1)
        ((targets.zip (scores targets)).filter fun target => selectable target.1) (key, score)) ∧
    ∀ raised : ProviderKey → Nat, (∀ key, penalty key ≤ raised key) →
      (∀ key, select targets selectable penalty = some key → raised key = penalty key) →
        select targets selectable raised = select targets selectable penalty := by
  refine ⟨⟨length_scores targets, fun position => exists_startsRun_score⟩, select_eq_none_iff,
    fun key => select_eq_some_iff, ?_⟩
  intro raised hraised hpick
  exact select_raised hraised hpick

def returningTier : List ProviderKey :=
  [⟨"north", "a", "large"⟩, ⟨"north", "b", "large"⟩, ⟨"south", "z", "large"⟩,
    ⟨"north", "c", "large"⟩]

/-- The third alias opens a run of its own, and the second one stays the pick when all others have
many more errors than before. -/
theorem select_earliest_greatest_of_returning :
    3 < returningTier.length ∧
      (∃ start, StartsRun returningTier start 3 ∧ (scores returningTier)[3]? =
        some (200 - 10 * changesUpTo returningTier 3 - (3 - start : Nat) : Int)) ∧
      let penalty (key : ProviderKey) : Nat := if key.keyAlias = "a" then 2 else 0
      let raised (key : ProviderKey) : Nat := penalty key + if key.keyAlias = "b" then 0 else 50
      (∀ key, penalty key ≤ raised key) ∧
        (∀ key, select returningTier (fun _ => true) penalty = some key →
          raised key = penalty key) ∧
        select returningTier (fun _ => true) raised = some ⟨"north", "b", "large"⟩ := by
  have hlength : 3 < returningTier.length := by decide
  refine ⟨hlength, ?_, ?_⟩
  · exact (select_earliest_greatest returningTier (fun _ => true) fun _ => 0).1.2 3 hlength
  · intro penalty raised
    have hpicked : select returningTier (fun _ => true) penalty = some ⟨"north", "b", "large"⟩ := by
      decide
    have hraised : ∀ key, penalty key ≤ raised key := fun key => Nat.le_add_right (penalty key) _
    have hpick : ∀ key, select returningTier (fun _ => true) penalty = some key →
        raised key = penalty key := by
      intro key hkey
      rw [hpicked, Option.some.injEq] at hkey
      subst hkey
      rfl
    refine ⟨hraised, hpick, ?_⟩
    rw [(select_earliest_greatest returningTier (fun _ => true) penalty).2.2.2 raised hraised hpick,
      hpicked]

end Priority

end ProviderRouting
