import ProviderRouting.Proofs.Choosing
import Mathlib.Algebra.BigOperators.Group.Finset.Piecewise
import Mathlib.Algebra.BigOperators.Ring.Finset
import Mathlib.Algebra.Order.BigOperators.Group.Finset

/-!
# The turns of a rotation

A turn offers some candidates to a rotation.  The pick is the candidate that is due and has
waited longest, or, while none is due, the one with the most credit.  Afterwards the waits and
credits of the candidates are those before, moved on by one turn, and those of all other keys are
gone.
-/

namespace ProviderRouting

/-- One selection on a tier: the keys that can be selected, with their weights, and the number of
turns in which each should get its own. -/
structure Turn where
  candidates : List Candidate
  bound : Nat

namespace Turn

def keys (turn : Turn) : List ProviderKey :=
  turn.candidates.map Prod.fst

def weightAmong (key : ProviderKey) : List Candidate → Nat
  | [] => 0
  | candidate :: rest => (if candidate.1 = key then candidate.2 else 0) + weightAmong key rest

/-- The weight of a key in a turn, which is zero for a key that is no candidate. -/
def weight (turn : Turn) (key : ProviderKey) : Nat :=
  weightAmong key turn.candidates

def total (turn : Turn) : Nat :=
  Rotation.totalWeight turn.candidates

variable {key : ProviderKey} {candidates : List Candidate} {turn : Turn}

theorem le_weightAmong {candidate : Candidate} (hmem : candidate ∈ candidates) :
    candidate.2 ≤ weightAmong candidate.1 candidates := by
  induction candidates with
  | nil => exact absurd hmem List.not_mem_nil
  | cons head rest ih =>
      rw [weightAmong]
      rcases List.mem_cons.mp hmem with rfl | hrest
      · rw [if_pos rfl]
        exact Nat.le_add_right _ _
      · exact Nat.le_trans (ih hrest) (Nat.le_add_left _ _)

theorem weightAmong_eq_zero (hkey : key ∉ candidates.map Prod.fst) :
    weightAmong key candidates = 0 := by
  induction candidates with
  | nil => rfl
  | cons head rest ih =>
      rw [List.map_cons, List.mem_cons, not_or] at hkey
      rw [weightAmong, if_neg (Ne.symm hkey.1), ih hkey.2]

/-- A key that stands once among some candidates has the weight that it has there. -/
theorem weightAmong_eq (hdistinct : (candidates.map Prod.fst).Nodup) {candidate : Candidate}
    (hmem : candidate ∈ candidates) : weightAmong candidate.1 candidates = candidate.2 := by
  induction candidates with
  | nil => exact absurd hmem List.not_mem_nil
  | cons head rest ih =>
      rw [List.map_cons, List.nodup_cons] at hdistinct
      rw [weightAmong]
      rcases List.mem_cons.mp hmem with rfl | hrest
      · rw [if_pos rfl, weightAmong_eq_zero hdistinct.1, Nat.add_zero]
      · have hne : head.1 ≠ candidate.1 := by
          intro hsame
          exact hdistinct.1 (hsame ▸ List.mem_map_of_mem hrest)
        rw [if_neg hne, ih hdistinct.2 hrest, Nat.zero_add]

theorem weight_eq (hdistinct : turn.keys.Nodup) {candidate : Candidate}
    (hmem : candidate ∈ turn.candidates) : turn.weight candidate.1 = candidate.2 :=
  weightAmong_eq hdistinct hmem

theorem exists_candidate_of_weight_pos (hweight : 0 < turn.weight key) :
    ∃ candidate ∈ turn.candidates, candidate.1 = key ∧ 0 < candidate.2 := by
  rw [weight] at hweight
  generalize turn.candidates = candidates at hweight ⊢
  induction candidates with
  | nil => exact absurd hweight (Nat.lt_irrefl 0)
  | cons head rest ih =>
      rw [weightAmong] at hweight
      by_cases hhead : head.1 = key ∧ 0 < head.2
      · exact ⟨head, List.mem_cons_self, hhead⟩
      · have hrest : 0 < weightAmong key rest := by
          split at hweight <;> grind
        obtain ⟨candidate, hmem, hcandidate⟩ := ih hrest
        exact ⟨candidate, List.mem_cons_of_mem head hmem, hcandidate⟩

theorem weight_pos_iff :
    0 < turn.weight key ↔ ∃ candidate ∈ turn.candidates, candidate.1 = key ∧ 0 < candidate.2 := by
  constructor
  · exact exists_candidate_of_weight_pos
  · rintro ⟨candidate, hmem, rfl, hpos⟩
    exact Nat.lt_of_lt_of_le hpos (le_weightAmong hmem)

theorem mem_keys_of_weight_pos (hweight : 0 < turn.weight key) : key ∈ turn.keys := by
  obtain ⟨candidate, hmem, rfl, -⟩ := weight_pos_iff.mp hweight
  exact List.mem_map_of_mem hmem

/-- The weights of the keys add up to the weights of the candidates. -/
theorem sum_weight (turn : Turn) : ∑ key ∈ turn.keys.toFinset, turn.weight key = turn.total := by
  suffices hsum : ∀ (keys : Finset ProviderKey) (candidates : List Candidate),
      (∀ candidate ∈ candidates, candidate.1 ∈ keys) →
        ∑ key ∈ keys, weightAmong key candidates = Rotation.totalWeight candidates from
    hsum _ turn.candidates fun candidate hmem =>
      List.mem_toFinset.mpr (List.mem_map_of_mem hmem)
  intro keys candidates hkeys
  induction candidates with
  | nil => exact Finset.sum_const_zero
  | cons head rest ih =>
      simp only [weightAmong, Finset.sum_add_distrib, Finset.sum_ite_eq,
        hkeys head List.mem_cons_self, if_true]
      rw [ih fun candidate hmem => hkeys candidate (List.mem_cons_of_mem head hmem)]
      rfl

theorem weight_le_total (turn : Turn) (key : ProviderKey) : turn.weight key ≤ turn.total := by
  by_cases hkey : key ∈ turn.keys
  · rw [← turn.sum_weight]
    exact Finset.single_le_sum (fun _ _ => Nat.zero_le _) (List.mem_toFinset.mpr hkey)
  · rw [weight, weightAmong_eq_zero hkey]
    exact Nat.zero_le _

end Turn

namespace Rotation

variable {rotation : Rotation} {turn : Turn} {turns : List Turn} {key picked : ProviderKey}
  {candidates : List Candidate}

/-! ## The parts of a selection -/

theorem credit_addCredit (rotation : Rotation) (credited key : ProviderKey) (amount : Int) :
    (rotation.addCredit credited amount).credit key =
      rotation.credit key + if credited = key then amount else 0 := by
  rw [credit, addCredit, Table.get?_insert]
  by_cases hkey : key = credited
  · rw [if_pos hkey, if_pos hkey.symm, hkey]
    rfl
  · rw [if_neg hkey, if_neg (Ne.symm hkey), Int.add_zero]
    rfl

theorem credit_accrue (rotation : Rotation) (candidates : List Candidate) (key : ProviderKey) :
    (rotation.accrue candidates).credit key =
      rotation.credit key + Turn.weightAmong key candidates := by
  rw [accrue]
  induction candidates generalizing rotation with
  | nil => rw [List.foldl_nil, Turn.weightAmong, Int.natCast_zero, Int.add_zero]
  | cons head rest ih =>
      rw [List.foldl_cons, ih, credit_addCredit, Turn.weightAmong]
      split <;> push_cast <;> omega

theorem wait_accrue (rotation : Rotation) (candidates : List Candidate) (key : ProviderKey) :
    (rotation.accrue candidates).wait key = rotation.wait key := by
  rw [accrue]
  induction candidates generalizing rotation with
  | nil => rfl
  | cons head rest ih =>
      rw [List.foldl_cons, ih]
      rfl

theorem any_fst_beq_iff :
    (candidates.any fun candidate => candidate.1 == key) = true ↔
      key ∈ candidates.map Prod.fst := by
  simp [List.mem_map]

theorem credit_retain (rotation : Rotation) (candidates : List Candidate) (key : ProviderKey) :
    (rotation.retain candidates).credit key =
      if key ∈ candidates.map Prod.fst then rotation.credit key else 0 := by
  rw [credit, retain, Table.get?_filter, credit]
  cases rotation.credits.get? key with
  | none => simp
  | some credit =>
      rw [Option.filter_some]
      simp only [any_fst_beq_iff]
      split <;> rfl

theorem wait_retain (rotation : Rotation) (candidates : List Candidate) (key : ProviderKey) :
    (rotation.retain candidates).wait key =
      if key ∈ candidates.map Prod.fst then rotation.wait key else 0 := by
  rw [wait, retain, Table.get?_filter, wait]
  cases rotation.waits.get? key with
  | none => simp
  | some wait =>
      rw [Option.filter_some]
      simp only [any_fst_beq_iff]
      split <;> rfl

/-- Each candidate waits once more for every time that it stands in the turn. -/
theorem getD_foldl_wait (waits : Table ProviderKey Nat) (candidates : List Candidate)
    (key : ProviderKey) :
    ((candidates.foldl (fun waits candidate =>
        waits.insert candidate.1 ((waits.get? candidate.1).getD 0 + 1)) waits).get? key).getD 0 =
      (waits.get? key).getD 0 + (candidates.map Prod.fst).count key := by
  induction candidates generalizing waits with
  | nil => rfl
  | cons head rest ih =>
      rw [List.foldl_cons, ih, Table.get?_insert, List.map_cons, List.count_cons]
      by_cases hkey : key = head.1
      · rw [if_pos hkey, hkey, Option.getD_some, if_pos (by simp)]
        omega
      · rw [if_neg hkey, if_neg (by simpa using Ne.symm hkey), Nat.add_zero]

theorem wait_settle (rotation : Rotation) (candidates : List Candidate)
    (picked key : ProviderKey) :
    (rotation.settle candidates picked).wait key =
      if key = picked then 0
      else rotation.wait key + (candidates.map Prod.fst).count key := by
  rw [wait, settle, passTurn, Table.get?_insert]
  by_cases hkey : key = picked
  · rw [if_pos hkey, if_pos hkey, Option.getD_some]
  · rw [if_neg hkey, if_neg hkey, getD_foldl_wait]
    rfl

theorem credit_settle (rotation : Rotation) (candidates : List Candidate)
    (picked key : ProviderKey) :
    (rotation.settle candidates picked).credit key =
      rotation.credit key - if picked = key then (totalWeight candidates : Int) else 0 := by
  change (rotation.addCredit picked (-(totalWeight candidates : Int))).credit key = _
  rw [credit_addCredit]
  split <;> omega

/-! ## One turn -/

def pick? (rotation : Rotation) (turn : Turn) : Option ProviderKey :=
  (rotation.select turn.candidates turn.bound).1

def next (rotation : Rotation) (turn : Turn) : Rotation :=
  (rotation.select turn.candidates turn.bound).2

/-- The rotation once the candidates of a turn have their credit. -/
def credited (rotation : Rotation) (turn : Turn) : Rotation :=
  (rotation.retain turn.candidates).accrue turn.candidates

theorem credit_credited (hkey : key ∈ turn.keys) :
    (rotation.credited turn).credit key = rotation.credit key + turn.weight key := by
  rw [credited, credit_accrue, credit_retain]
  exact congrArg (· + (turn.weight key : Int)) (if_pos hkey)

theorem wait_credited (rotation : Rotation) (turn : Turn) (key : ProviderKey) :
    (rotation.credited turn).wait key = if key ∈ turn.keys then rotation.wait key else 0 := by
  rw [credited, wait_accrue, wait_retain]
  rfl

theorem exists_pick?_of_total (rotation : Rotation) (htotal : 0 < turn.total) :
    ∃ picked, rotation.pick? turn = some picked := by
  rw [← Option.isSome_iff_exists, Option.isSome_iff_ne_none]
  exact mt select_eq_none_iff.mp (Nat.ne_of_gt htotal)

/-- A turn in which some key has a weight has a pick. -/
theorem exists_pick? (rotation : Rotation) (hweight : 0 < turn.weight key) :
    ∃ picked, rotation.pick? turn = some picked :=
  rotation.exists_pick?_of_total (Nat.lt_of_lt_of_le hweight (turn.weight_le_total key))

theorem choose_of_pick? (hpick : rotation.pick? turn = some picked) :
    (rotation.credited turn).choose turn.candidates turn.bound = some picked ∧
      rotation.next turn = (rotation.credited turn).settle turn.candidates picked := by
  rw [pick?, select] at hpick
  rw [next, select]
  by_cases htotal : totalWeight turn.candidates = 0
  · rw [if_pos htotal] at hpick
    cases hpick
  · rw [if_neg htotal] at hpick ⊢
    cases hchoice : (rotation.credited turn).choose turn.candidates turn.bound with
    | none =>
        rw [credited] at hchoice
        simp [hchoice] at hpick
    | some choice =>
        rw [credited] at hchoice
        simp only [hchoice, Option.some.injEq] at hpick
        simp only [hchoice, hpick]
        exact ⟨trivial, rfl⟩

theorem mem_keys_of_pick? (hpick : rotation.pick? turn = some picked) : picked ∈ turn.keys :=
  select_mem hpick

/-- After a turn every candidate but the pick has waited once more. -/
theorem wait_next (hpick : rotation.pick? turn = some picked) (hdistinct : turn.keys.Nodup)
    (key : ProviderKey) :
    (rotation.next turn).wait key =
      if key = picked then 0 else if key ∈ turn.keys then rotation.wait key + 1 else 0 := by
  rw [(choose_of_pick? hpick).2, wait_settle, wait_credited]
  have hcount : (turn.candidates.map Prod.fst).count key = if key ∈ turn.keys then 1 else 0 :=
    hdistinct.count
  rw [hcount]
  split_ifs <;> rfl

/-- After a turn every candidate has its weight for it, and the pick has paid for all. -/
theorem credit_next (hpick : rotation.pick? turn = some picked) (hkey : key ∈ turn.keys) :
    (rotation.next turn).credit key =
      rotation.credit key + turn.weight key - if picked = key then (turn.total : Int) else 0 := by
  rw [(choose_of_pick? hpick).2, credit_settle, credit_credited hkey]
  rfl

/-- The candidate has a weight and must be picked now to keep the bound. -/
def Due (rotation : Rotation) (turn : Turn) (key : ProviderKey) : Prop :=
  0 < turn.weight key ∧ turn.bound ≤ rotation.wait key + 1

/-- Why a key may be picked. -/
inductive Preferred (rotation : Rotation) (turn : Turn) (picked : ProviderKey) : Prop
  | waited (due : rotation.Due turn picked)
      (longest : ∀ key ∈ turn.keys, rotation.Due turn key →
        rotation.wait key ≤ rotation.wait picked)
  | credited (none_due : ∀ key ∈ turn.keys, ¬ rotation.Due turn key)
      (most : ∀ key ∈ turn.keys,
        rotation.credit key + turn.weight key ≤ rotation.credit picked + turn.weight picked)

theorem isOverdue_credited_iff {candidate : Candidate} (hmem : candidate ∈ turn.candidates) :
    (rotation.credited turn).isOverdue turn.bound candidate = true ↔
      0 < candidate.2 ∧ turn.bound ≤ rotation.wait candidate.1 + 1 := by
  have hkey : candidate.1 ∈ turn.keys := List.mem_map_of_mem hmem
  rw [isOverdue, wait_credited, if_pos hkey]
  simp [Nat.pos_iff_ne_zero]

theorem preferred_of_pick? (hpick : rotation.pick? turn = some picked) :
    rotation.Preferred turn picked := by
  have hchoice := (choose_of_pick? hpick).1
  rw [choose] at hchoice
  have hdue {key : ProviderKey} (hkey : rotation.Due turn key) :
      ∃ candidate ∈ turn.candidates.filter ((rotation.credited turn).isOverdue turn.bound),
        candidate.1 = key := by
    obtain ⟨candidate, hmem, rfl, hpos⟩ := Turn.weight_pos_iff.mp hkey.1
    exact ⟨candidate, List.mem_filter.mpr
      ⟨hmem, (isOverdue_credited_iff hmem).mpr ⟨hpos, hkey.2⟩⟩, rfl⟩
  cases hoverdue : firstGreatest?
      (fun candidate : Candidate => ((rotation.credited turn).wait candidate.1 : Int))
      (turn.candidates.filter ((rotation.credited turn).isOverdue turn.bound)) with
  | some candidate =>
      simp only [hoverdue, Option.some.injEq] at hchoice
      subst hchoice
      obtain ⟨hmem, hcandidate⟩ := List.mem_filter.mp (firstGreatest?_mem hoverdue)
      obtain ⟨hpos, hwait⟩ := (isOverdue_credited_iff hmem).mp hcandidate
      have hpicked : candidate.1 ∈ turn.keys := List.mem_map_of_mem hmem
      refine .waited ⟨Turn.weight_pos_iff.mpr ⟨candidate, hmem, rfl, hpos⟩, hwait⟩ ?_
      intro key hkey hkey_due
      obtain ⟨other, hother, rfl⟩ := hdue hkey_due
      have hle := firstGreatest?_le hoverdue hother
      rw [wait_credited, wait_credited, if_pos hkey, if_pos hpicked] at hle
      exact Int.ofNat_le.mp hle
  | none =>
      simp only [hoverdue, Option.map_eq_some_iff] at hchoice
      obtain ⟨candidate, hcandidate, rfl⟩ := hchoice
      refine .credited ?_ ?_
      · intro key _ hkey_due
        obtain ⟨other, hother, -⟩ := hdue hkey_due
        rw [firstGreatest?_eq_none_iff.mp hoverdue] at hother
        exact List.not_mem_nil hother
      · intro key hkey
        obtain ⟨other, hother, rfl⟩ := List.mem_map.mp hkey
        have hle := firstGreatest?_le hcandidate hother
        rwa [credit_credited hkey,
          credit_credited (List.mem_map_of_mem (firstGreatest?_mem hcandidate))] at hle

/-- What the candidates are credited is what the pick pays. -/
theorem sum_credit_next (hpick : rotation.pick? turn = some picked) :
    ∑ key ∈ turn.keys.toFinset, (rotation.next turn).credit key =
      ∑ key ∈ turn.keys.toFinset, rotation.credit key := by
  have hpicked : picked ∈ turn.keys.toFinset := List.mem_toFinset.mpr (mem_keys_of_pick? hpick)
  calc
    ∑ key ∈ turn.keys.toFinset, (rotation.next turn).credit key
    _ = ∑ key ∈ turn.keys.toFinset, (rotation.credit key + turn.weight key -
          if picked = key then (turn.total : Int) else 0) :=
      Finset.sum_congr rfl fun key hkey => credit_next hpick (List.mem_toFinset.mp hkey)
    _ = ∑ key ∈ turn.keys.toFinset, rotation.credit key +
          ((∑ key ∈ turn.keys.toFinset, turn.weight key : Nat) : Int) - turn.total := by
      rw [Finset.sum_sub_distrib, Finset.sum_add_distrib, Finset.sum_ite_eq, if_pos hpicked,
        Nat.cast_sum]
    _ = ∑ key ∈ turn.keys.toFinset, rotation.credit key := by
      rw [turn.sum_weight, Int.add_sub_cancel]

/-! ## Turns after one another -/

def after (rotation : Rotation) (turns : List Turn) : Rotation :=
  turns.foldl next rotation

def picks : Rotation → List Turn → List (Option ProviderKey)
  | _, [] => []
  | rotation, turn :: rest => rotation.pick? turn :: (rotation.next turn).picks rest

theorem after_cons (rotation : Rotation) (turn : Turn) (turns : List Turn) :
    rotation.after (turn :: turns) = (rotation.next turn).after turns := rfl

theorem after_append (rotation : Rotation) (first second : List Turn) :
    rotation.after (first ++ second) = (rotation.after first).after second :=
  List.foldl_append

theorem picks_append (rotation : Rotation) (first second : List Turn) :
    rotation.picks (first ++ second) =
      rotation.picks first ++ (rotation.after first).picks second := by
  induction first generalizing rotation with
  | nil => rfl
  | cons turn rest ih => rw [List.cons_append, picks, ih, picks, after_cons, List.cons_append]

/-- A key that is passed over in a turn waits one turn more. -/
theorem wait_next_of_passed (hdistinct : turn.keys.Nodup) (hweight : 0 < turn.weight key)
    (hpassed : rotation.pick? turn ≠ some key) :
    (rotation.next turn).wait key = rotation.wait key + 1 := by
  obtain ⟨picked, hpick⟩ := rotation.exists_pick? hweight
  have hne : key ≠ picked := fun hkey => hpassed (hkey ▸ hpick)
  rw [wait_next hpick hdistinct, if_neg hne, if_pos (Turn.mem_keys_of_weight_pos hweight)]

/-- A key that is passed over in some turns has waited for all of them. -/
theorem wait_after_of_passed (hdistinct : ∀ turn ∈ turns, turn.keys.Nodup)
    (hweight : ∀ turn ∈ turns, 0 < turn.weight key)
    (hpassed : some key ∉ rotation.picks turns) :
    (rotation.after turns).wait key = rotation.wait key + turns.length := by
  induction turns generalizing rotation with
  | nil => rfl
  | cons turn rest ih =>
      rw [List.forall_mem_cons] at hdistinct hweight
      rw [picks, List.mem_cons, not_or] at hpassed
      rw [after_cons, ih hdistinct.2 hweight.2 hpassed.2,
        wait_next_of_passed hdistinct.1 hweight.1 (Ne.symm hpassed.1), List.length_cons]
      omega

end Rotation

end ProviderRouting
