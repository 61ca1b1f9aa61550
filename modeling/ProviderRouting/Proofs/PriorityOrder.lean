import ProviderRouting.Proofs.Choosing
import Mathlib.Data.List.Nodup
import Mathlib.Data.List.SplitBy

/-!
# The order of a priority tier

A tier lists its targets in the order of their priority.  Whether selection keeps to that order
is a matter of scores: it does as long as each score exceeds the scores of all later targets by
what errors may cost.  Inside a group scores fall by one, and from the first target of a group to
the first of the next by ten.  So the order is kept where every group but the last is small
enough, and in a larger group the last aliases fall behind the next group.
-/

namespace ProviderRouting

namespace Priority

variable {targets group rest : List ProviderKey} {groups : List (List ProviderKey)}
  {key last : ProviderKey} {most : Nat}

/-! ## The scores of groups -/

/-- The groups of a tier: neighbouring targets of one provider and model. -/
def groupsOf (targets : List ProviderKey) : List (List ProviderKey) :=
  targets.splitBy fun earlier later => later.sharesModel earlier

def scoresFrom (number : Nat) : List ProviderKey → List Int
  | [] => []
  | key :: rest => scoreAt number 0 :: scoresAfter key number 0 rest

def groupScores (number : Nat) : List (List ProviderKey) → List Int
  | [] => []
  | group :: rest =>
      (List.range group.length).map (fun keyAlias => scoreAt number keyAlias) ++
        groupScores (number + 1) rest

/-- The rest of a group is scored alias after alias, and what comes then opens the next group. -/
theorem scoresAfter_append (number keyAlias : Nat)
    (hgroup : (last :: group).IsChain fun earlier later => later.sharesModel earlier = true)
    (hnext : ∀ next ∈ rest.head?,
      next.sharesModel ((last :: group).getLast (List.cons_ne_nil last group)) = false) :
    scoresAfter last number keyAlias (group ++ rest) =
      (List.range group.length).map (fun further => scoreAt number (keyAlias + 1 + further)) ++
        scoresFrom (number + 1) rest := by
  induction group generalizing last keyAlias with
  | nil =>
      cases rest with
      | nil => rfl
      | cons next rest =>
          have hother : next.sharesModel last = false := hnext next rfl
          rw [List.nil_append, scoresAfter, hother]
          rfl
  | cons key group ih =>
      rw [List.isChain_cons_cons] at hgroup
      rw [List.getLast_cons (List.cons_ne_nil key group)] at hnext
      rw [List.cons_append, scoresAfter, if_pos hgroup.1, ih (keyAlias + 1) hgroup.2 hnext,
        List.length_cons, List.range_succ_eq_map, List.map_cons, List.map_map, List.cons_append]
      congr 2
      apply List.map_congr_left
      intro further _
      exact congrArg (scoreAt number) (by omega)

/-- Groups, each of one provider and model that its neighbours do not share. -/
structure Grouped (groups : List (List ProviderKey)) : Prop where
  nonempty : [] ∉ groups
  alike : ∀ group ∈ groups, group.IsChain fun earlier later => later.sharesModel earlier = true
  apart : groups.IsChain fun earlier later => ∃ hearlier hlater,
    (later.head hlater).sharesModel (earlier.getLast hearlier) = false

theorem grouped_groupsOf (targets : List ProviderKey) : Grouped (groupsOf targets) where
  nonempty := List.nil_notMem_splitBy _ targets
  alike _ := List.isChain_of_mem_splitBy
  apart := List.isChain_getLast_head_splitBy (fun earlier later => later.sharesModel earlier) targets

theorem scoresFrom_flatten (number : Nat) (hgroups : Grouped groups) :
    scoresFrom number groups.flatten = groupScores number groups := by
  induction groups generalizing number with
  | nil => rfl
  | cons group groups ih =>
      obtain ⟨hnonempty, halike, hapart⟩ := hgroups
      rw [List.mem_cons, not_or] at hnonempty
      rw [List.forall_mem_cons] at halike
      rw [List.isChain_cons] at hapart
      have hrest := ih (number + 1) ⟨hnonempty.2, halike.2, hapart.2⟩
      cases group with
      | nil => exact absurd rfl hnonempty.1
      | cons key group =>
          have hnext : ∀ next ∈ groups.flatten.head?,
              next.sharesModel ((key :: group).getLast (List.cons_ne_nil key group)) = false := by
            intro next hnext
            cases groups with
            | nil => cases hnext
            | cons later groups =>
                obtain ⟨_, hlater, hother⟩ := hapart.1 later rfl
                obtain rfl : later.head hlater = next := by
                  rw [List.flatten_cons, List.head?_append_of_ne_nil _ hlater,
                    List.head?_eq_some_head hlater] at hnext
                  exact Option.some.inj hnext
                exact hother
          rw [List.flatten_cons, List.cons_append, scoresFrom,
            scoresAfter_append number 0 halike.1 hnext, hrest, groupScores, List.length_cons,
            List.range_succ_eq_map, List.map_cons, List.map_map, List.cons_append]
          congr 2
          apply List.map_congr_left
          intro further _
          exact congrArg (scoreAt number) (by omega)

/-- Each target is scored by the number of its group and by its own number there. -/
theorem scores_eq (targets : List ProviderKey) :
    scores targets = groupScores 0 (groupsOf targets) := by
  have hflatten : (groupsOf targets).flatten = targets := List.flatten_splitBy _ targets
  rw [← scoresFrom_flatten 0 (grouped_groupsOf targets), hflatten]
  cases targets <;> rfl

/-! ## Scores that are far enough apart -/

/-- Every score exceeds all later ones by this much. -/
def FallsBy (most : Nat) (scores : List Int) : Prop :=
  scores.Pairwise fun earlier later : Int => later + most ≤ earlier

/-- The first target of a group has the best score of all from there on. -/
theorem groupScores_le {number : Nat} {score : Int} (hscore : score ∈ groupScores number groups) :
    score ≤ scoreAt number 0 := by
  induction groups generalizing number with
  | nil => exact absurd hscore List.not_mem_nil
  | cons group groups ih =>
      rw [groupScores, List.mem_append] at hscore
      rcases hscore with hown | hlater
      · obtain ⟨keyAlias, -, rfl⟩ := List.mem_map.mp hown
        simp only [scoreAt]
        omega
      · refine Int.le_trans (ih hlater) ?_
        simp only [scoreAt]
        omega

theorem scoreAt_mem_groupScores {number : Nat} (hgroups : [] ∉ groups) (hsome : groups ≠ []) :
    scoreAt number 0 ∈ groupScores number groups := by
  cases groups with
  | nil => exact absurd rfl hsome
  | cons group groups =>
      rw [List.mem_cons, not_or] at hgroups
      rw [groupScores, List.mem_append]
      have hlength := List.length_pos_iff.mpr (Ne.symm hgroups.1)
      exact .inl (List.mem_map.mpr ⟨0, List.mem_range.mpr hlength, rfl⟩)

/-- The scores of a group fall by one from alias to alias. -/
theorem fallsBy_group (hmost : most ≤ 1) (number size : Nat) :
    FallsBy most ((List.range size).map fun keyAlias => scoreAt number keyAlias) := by
  rw [FallsBy, List.pairwise_map]
  refine List.pairwise_lt_range.imp fun {earlier later} hlt => ?_
  simp only [scoreAt]
  omega

/-- The next group is ten points below the first alias of a group, so only so many aliases fit
in between. -/
theorem fallsBy_groupScores_iff (hmost : most ≤ 1) {number : Nat} (hgroups : [] ∉ groups) :
    FallsBy most (groupScores number groups) ↔
      ∀ group ∈ groups.dropLast, group.length + most ≤ 11 := by
  induction groups generalizing number with
  | nil => exact iff_of_true .nil (List.forall_mem_nil _)
  | cons group groups ih =>
      rw [List.mem_cons, not_or] at hgroups
      rw [FallsBy, groupScores, List.pairwise_append, ← FallsBy, ← FallsBy, ih hgroups.2]
      by_cases hlast : groups = []
      · subst hlast
        exact iff_of_true ⟨fallsBy_group hmost number group.length, by simp, by simp [groupScores]⟩
          (by simp)
      · rw [List.dropLast_cons_of_ne_nil hlast, List.forall_mem_cons]
        have hlength := List.length_pos_iff.mpr (Ne.symm hgroups.1)
        constructor
        · rintro ⟨-, hlater, hcross⟩
          refine ⟨?_, hlater⟩
          -- the last alias of the group against the first target of the next group
          have hnext := hcross (scoreAt number (group.length - 1))
            (List.mem_map.mpr ⟨group.length - 1, List.mem_range.mpr (by omega), rfl⟩)
            (scoreAt (number + 1) 0) (scoreAt_mem_groupScores hgroups.2 hlast)
          simp only [scoreAt] at hnext
          omega
        · rintro ⟨hsize, hlater⟩
          refine ⟨fallsBy_group hmost number group.length, hlater, ?_⟩
          intro earlier hearlier later hlater
          obtain ⟨keyAlias, hkeyAlias, rfl⟩ := List.mem_map.mp hearlier
          have hbest := groupScores_le hlater
          have hbound := List.mem_range.mp hkeyAlias
          simp only [scoreAt] at hbest ⊢
          omega

/-! ## Selection -/

/-- With penalties up to this much, the first target that may be selected is selected, and none
only if there is none. -/
def KeepsOrder (most : Nat) (targets : List ProviderKey) : Prop :=
  ∀ (selectable : ProviderKey → Bool) (penalty : ProviderKey → Nat),
    (∀ key, penalty key ≤ most) → select targets selectable penalty = targets.find? selectable

/-- Penalties that the scores make up for do not change the order. -/
theorem keepsOrder_of_fallsBy (hfalls : FallsBy most (scores targets)) :
    KeepsOrder most targets := by
  intro selectable penalty hpenalty
  have hscored : (targets.zip (scores targets)).Pairwise fun earlier later =>
      later.2 + (most : Int) ≤ earlier.2 := by
    rw [FallsBy, ← map_snd_scored, List.pairwise_map] at hfalls
    exact hfalls
  have hfalling : ((targets.zip (scores targets)).filter fun target => selectable target.1).Pairwise
      fun earlier later => later.2 - (penalty later.1 : Int) ≤ earlier.2 - penalty earlier.1 := by
    refine (hscored.imp fun {earlier later} hscore => ?_).filter _
    have hearlier := hpenalty earlier.1
    omega
  calc
    select targets selectable penalty
    _ = (((targets.zip (scores targets)).filter fun target => selectable target.1).head?).map
          Prod.fst := by
      rw [select, firstGreatest?_eq_head? hfalling]
    _ = ((targets.zip (scores targets)).map Prod.fst).find? selectable := by
      rw [List.head?_filter, List.find?_map]
      rfl
    _ = targets.find? selectable := by
      rw [map_fst_scored]

/-- Two targets alone show whether the score of the one makes up for its penalty. -/
theorem fallsBy_of_keepsOrder (hdistinct : targets.Nodup) (hkeeps : KeepsOrder most targets) :
    FallsBy most (scores targets) := by
  rw [FallsBy, List.pairwise_iff_getElem]
  intro earlier later hearlier hlater hlt
  have hfirst : earlier < targets.length := length_scores targets ▸ hearlier
  have hsecond : later < targets.length := length_scores targets ▸ hlater
  let selectable (key : ProviderKey) : Bool := key == targets[earlier] || key == targets[later]
  let penalty (key : ProviderKey) : Nat := if key = targets[earlier] then most else 0
  have hpenalty : ∀ key, penalty key ≤ most := by
    intro key
    simp only [penalty]
    split <;> omega
  have hne : targets[later] ≠ targets[earlier] := by
    rw [Ne, hdistinct.getElem_inj_iff]
    exact Nat.ne_of_gt hlt
  have hfind : targets.find? selectable = some targets[earlier] := by
    refine List.find?_eq_some_iff_getElem.mpr ⟨by simp [selectable], earlier, hfirst, rfl, ?_⟩
    intro before hbefore
    simp only [selectable, Bool.not_or, Bool.and_eq_true, Bool.not_eq_true', beq_eq_false_iff_ne, Ne,
      hdistinct.getElem_inj_iff]
    omega
  have hselect := (hkeeps selectable penalty hpenalty).trans hfind
  rw [select, Option.map_eq_some_iff] at hselect
  obtain ⟨⟨key, score⟩, hgreatest, hkey⟩ := hselect
  obtain rfl : key = targets[earlier] := hkey
  have hscore : score = (scores targets)[earlier] := by
    have hmem := (List.mem_filter.mp (firstGreatest?_mem hgreatest)).1
    obtain ⟨number, hnumber, hrow⟩ := List.mem_iff_getElem.mp hmem
    rw [List.getElem_zip, Prod.mk.injEq] at hrow
    obtain rfl := hdistinct.getElem_inj_iff.mp hrow.1
    exact hrow.2.symm
  have hother : (targets[later], (scores targets)[later]) ∈
      (targets.zip (scores targets)).filter fun target => selectable target.1 := by
    refine List.mem_filter.mpr ⟨?_, by simp [selectable]⟩
    exact List.mem_iff_getElem.mpr ⟨later, by simp [hsecond], List.getElem_zip⟩
  have hle := firstGreatest?_le hgreatest hother
  simp only [penalty, if_true, if_neg hne, hscore] at hle
  omega

/-- A tier keeps to the order of its targets, under penalties of up to one, if every group but the
last has so few aliases that the penalty fits in between the last of them and the next group, and
only then if no target stands in the tier twice. -/
theorem keepsOrder_iff (targets : List ProviderKey) {most : Nat} (hmost : most ≤ 1) :
    ((∀ group ∈ (groupsOf targets).dropLast, group.length + most ≤ 11) →
        KeepsOrder most targets) ∧
      (targets.Nodup → KeepsOrder most targets →
        ∀ group ∈ (groupsOf targets).dropLast, group.length + most ≤ 11) := by
  have hfalls : FallsBy most (scores targets) ↔
      ∀ group ∈ (groupsOf targets).dropLast, group.length + most ≤ 11 := by
    rw [scores_eq]
    exact fallsBy_groupScores_iff hmost (grouped_groupsOf targets).nonempty
  constructor
  · intro hsmall
    exact keepsOrder_of_fallsBy (hfalls.mpr hsmall)
  · intro hdistinct hkeeps
    exact hfalls.mp (fallsBy_of_keepsOrder hdistinct hkeeps)

def crowdedTier (aliases : List String) : List ProviderKey :=
  aliases.map (fun keyAlias => ⟨"north", keyAlias, "large"⟩) ++ [⟨"south", "z", "large"⟩]

/-- One error costs none of ten aliases its place, but it may cost the eleventh its own. -/
theorem keepsOrder_iff_of_crowded :
    KeepsOrder 1 (crowdedTier ["a", "b", "c", "d", "e", "f", "g", "h", "i", "j"]) ∧
      (crowdedTier ["a", "b", "c", "d", "e", "f", "g", "h", "i", "j", "k"]).Nodup ∧
        ¬ KeepsOrder 1 (crowdedTier ["a", "b", "c", "d", "e", "f", "g", "h", "i", "j", "k"]) := by
  have hdistinct :
      (crowdedTier ["a", "b", "c", "d", "e", "f", "g", "h", "i", "j", "k"]).Nodup := by decide
  refine ⟨(keepsOrder_iff _ (Nat.le_refl 1)).1 (by decide), hdistinct, ?_⟩
  intro hkeeps
  exact absurd ((keepsOrder_iff _ (Nat.le_refl 1)).2 hdistinct hkeeps) (by decide)

/-- Without any errors the twelfth alias of a model is passed over for the next provider. -/
theorem not_forall_keepsOrder :
    ¬ (∀ targets, KeepsOrder 1 targets) ∧ ¬ ∀ targets, KeepsOrder 0 targets := by
  let targets := crowdedTier ["a", "b", "c", "d", "e", "f", "g", "h", "i", "j", "k", "l"]
  let selectable (key : ProviderKey) : Bool := key.keyAlias == "l" || key.keyAlias == "z"
  have hpassed : select targets selectable (fun _ => 0) ≠ targets.find? selectable := by decide
  constructor
  · intro hkeeps
    exact hpassed (hkeeps targets selectable (fun _ => 0) fun _ => Nat.zero_le 1)
  · intro hkeeps
    exact hpassed (hkeeps targets selectable (fun _ => 0) fun _ => Nat.le_refl 0)

end Priority

end ProviderRouting
