import ProviderRouting.Proofs.Rotation.Turns
import Mathlib.Algebra.Order.Floor.Semiring
import Mathlib.Data.List.Induction
import Mathlib.Data.Rat.Floor
import Mathlib.Tactic.Linarith
import Mathlib.Tactic.Ring

/-!
# No candidate starves

A rotation starts anew and is then offered the same keys in every turn, with weights that may
change but stay within a range.  If the bound is large enough for the range, every key is picked
in any so many turns after one another.

In each turn one key at most can be picked because it is due, so two keys must never be due
together.  Keys that have been picked have waited for different numbers of turns.  Two keys that
have not been picked yet cannot both be left when the first of them becomes due: each would have
been credited its weight ever since, and then the other keys, which were picked only while they
had more credit than these two, could not have paid for that.
-/

namespace ProviderRouting

/-- The bound in exact arithmetic. -/
def exactTurnBound (candidates : Nat) (leastMultiplier : ℚ) : Nat :=
  turnBoundOver (fun count => (count : ℚ)) (fun quotient => ⌈quotient⌉₊) candidates leastMultiplier

/-- A multiplier of at most one never needs the number of candidates as a lower end. -/
theorem exactTurnBound_eq_ceil {candidates : Nat} {leastMultiplier : ℚ}
    (hpos : 0 < leastMultiplier) (hle : leastMultiplier ≤ 1) :
    exactTurnBound candidates leastMultiplier = ⌈(candidates : ℚ) / leastMultiplier⌉₊ := by
  rw [exactTurnBound, turnBoundOver]
  split
  · next hnone => simp [hnone]
  · refine Nat.max_eq_left (Nat.cast_le.mp (le_trans ?_ (Nat.le_ceil _)) : candidates ≤ _)
    exact le_div_self (Nat.cast_nonneg _) hpos hle

/-- The bound is large enough for weights of which none is less than the multiplier's part of
the greatest. -/
theorem mul_le_exactTurnBound_mul {candidates least greatest : Nat} {leastMultiplier : ℚ}
    (hpos : 0 < leastMultiplier) (hle : leastMultiplier ≤ 1)
    (hrange : leastMultiplier * greatest ≤ least) :
    candidates * greatest ≤ exactTurnBound candidates leastMultiplier * least := by
  rw [exactTurnBound_eq_ceil hpos hle]
  suffices hreal : (candidates : ℚ) * greatest ≤
      (⌈(candidates : ℚ) / leastMultiplier⌉₊ : ℚ) * least by exact_mod_cast hreal
  calc
    (candidates : ℚ) * greatest
    _ = candidates / leastMultiplier * (leastMultiplier * greatest) := by
      field_simp
    _ ≤ candidates / leastMultiplier * least :=
      mul_le_mul_of_nonneg_left hrange (div_nonneg (Nat.cast_nonneg _) hpos.le)
    _ ≤ (⌈(candidates : ℚ) / leastMultiplier⌉₊ : ℚ) * least :=
      mul_le_mul_of_nonneg_right (Nat.le_ceil _) (Nat.cast_nonneg _)

/-- The turn offers exactly these keys, each once, with weights in a range. -/
structure Turn.Offers (turn : Turn) (keys : Finset ProviderKey) (least greatest bound : Nat) :
    Prop where
  distinct : turn.keys.Nodup
  same_keys : turn.keys.toFinset = keys
  weights : ∀ candidate ∈ turn.candidates, least ≤ candidate.2 ∧ candidate.2 ≤ greatest
  bound_eq : turn.bound = bound

namespace Turn.Offers

variable {turn : Turn} {keys : Finset ProviderKey} {least greatest bound : Nat}
  {key : ProviderKey}

theorem mem_iff (hoffers : turn.Offers keys least greatest bound) :
    key ∈ turn.keys ↔ key ∈ keys := by
  rw [← hoffers.same_keys, List.mem_toFinset]

theorem weight_mem (hoffers : turn.Offers keys least greatest bound) (hkey : key ∈ keys) :
    least ≤ turn.weight key ∧ turn.weight key ≤ greatest := by
  obtain ⟨candidate, hmem, rfl⟩ := List.mem_map.mp (hoffers.mem_iff.mpr hkey)
  rw [turn.weight_eq hoffers.distinct hmem]
  exact hoffers.weights candidate hmem

theorem total_le (hoffers : turn.Offers keys least greatest bound) :
    turn.total ≤ keys.card * greatest := by
  rw [← turn.sum_weight, hoffers.same_keys]
  exact Finset.sum_le_card_nsmul keys _ greatest fun key hkey => (hoffers.weight_mem hkey).2

theorem exists_pick? (hoffers : turn.Offers keys least greatest bound) (hleast : 1 ≤ least)
    (hkey : key ∈ keys) (rotation : Rotation) :
    ∃ picked ∈ keys, rotation.pick? turn = some picked := by
  have hweight : 0 < turn.weight key := Nat.lt_of_lt_of_le hleast (hoffers.weight_mem hkey).1
  obtain ⟨picked, hpick⟩ := rotation.exists_pick? hweight
  exact ⟨picked, hoffers.mem_iff.mp (Rotation.mem_keys_of_pick? hpick), hpick⟩

end Turn.Offers

namespace Rotation

variable {rotation : Rotation} {turn : Turn} {keys : Finset ProviderKey}
  {least greatest bound turns : Nat} {key picked : ProviderKey}

/-! ## The opening turns -/

/-- What credits tell while there still is a key that was never picked: such a key has been
credited at least the least weight in every turn, and no key has paid more than one turn's weights
since its credit was as high as that. -/
structure Opening (keys : Finset ProviderKey) (least greatest turns : Nat)
    (rotation : Rotation) : Prop where
  unpicked : ∀ key ∈ keys, rotation.wait key = turns → (turns * least : Int) ≤ rotation.credit key
  floor : (∃ key ∈ keys, rotation.wait key = turns) →
    ∀ key ∈ keys, (turns * least - keys.card * greatest : Int) ≤ rotation.credit key

/-- While no key is due, a turn keeps what credits tell. -/
theorem Opening.next (hopening : Opening keys least greatest turns rotation)
    (hoffers : turn.Offers keys least greatest bound) (hpick : rotation.pick? turn = some picked)
    (hnone_due : ∀ key ∈ turn.keys, ¬ rotation.Due turn key) :
    Opening keys least greatest (turns + 1) (rotation.next turn) := by
  have hpicked : picked ∈ keys := hoffers.mem_iff.mp (mem_keys_of_pick? hpick)
  have hwait {key : ProviderKey} (hkey : key ∈ keys)
      (hleft : (rotation.next turn).wait key = turns + 1) :
      key ≠ picked ∧ rotation.wait key = turns := by
    rw [wait_next hpick hoffers.distinct, if_pos (hoffers.mem_iff.mpr hkey)] at hleft
    split at hleft <;> simp_all
  have hcredit {key : ProviderKey} (hkey : key ∈ keys) :=
    credit_next hpick (hoffers.mem_iff.mpr hkey)
  have hmost : ∀ key ∈ keys,
      rotation.credit key + turn.weight key ≤ rotation.credit picked + turn.weight picked := by
    cases preferred_of_pick? hpick with
    | waited hdue => exact absurd hdue (hnone_due picked (mem_keys_of_pick? hpick))
    | credited _ hmost => exact fun key hkey => hmost key (hoffers.mem_iff.mpr hkey)
  constructor
  · intro key hkey hleft
    obtain ⟨hne, hbefore⟩ := hwait hkey hleft
    have hold := hopening.unpicked key hkey hbefore
    have hweight := (hoffers.weight_mem hkey).1
    rw [hcredit hkey, if_neg (Ne.symm hne)]
    push_cast
    linarith [(by exact_mod_cast hweight : (least : Int) ≤ turn.weight key)]
  · rintro ⟨left, hleft_mem, hleft⟩ key hkey
    obtain ⟨-, hbefore⟩ := hwait hleft_mem hleft
    have hweight : (least : Int) ≤ turn.weight key := by
      exact_mod_cast (hoffers.weight_mem hkey).1
    rw [hcredit hkey]
    by_cases hkey_picked : picked = key
    · -- The pick had at least the credit of the key that is left, and pays one turn's weights.
      have hhigh := hmost left hleft_mem
      have hleft_credit := hopening.unpicked left hleft_mem hbefore
      have hleft_weight : (least : Int) ≤ turn.weight left := by
        exact_mod_cast (hoffers.weight_mem hleft_mem).1
      have htotal : (turn.total : Int) ≤ keys.card * greatest := by
        exact_mod_cast hoffers.total_le
      rw [if_pos hkey_picked]
      subst hkey_picked
      push_cast
      linarith
    · have hold := hopening.floor ⟨left, hleft_mem, hbefore⟩ key hkey
      rw [if_neg hkey_picked]
      push_cast
      linarith

/-- When the bound is about to be reached, one key at most was never picked: the credits of two
could not be paid for by the other keys. -/
theorem Opening.unpicked_unique (hopening : Opening keys least greatest turns rotation)
    (hbalance : ∑ key ∈ keys, rotation.credit key = 0) (hleast : 1 ≤ least)
    (hrange : least ≤ greatest) (hbound : keys.card * greatest ≤ (turns + 1) * least)
    {left right : ProviderKey} (hleft : left ∈ keys) (hright : right ∈ keys)
    (hleft_wait : rotation.wait left = turns) (hright_wait : rotation.wait right = turns) :
    left = right := by
  by_contra hne
  have hfloor := hopening.floor ⟨left, hleft, hleft_wait⟩
  have hleft_credit := hopening.unpicked left hleft hleft_wait
  have hright_credit := hopening.unpicked right hright hright_wait
  let others := (keys.erase left).erase right
  have hright_mem : right ∈ keys.erase left := Finset.mem_erase.mpr ⟨Ne.symm hne, hright⟩
  have hcard : keys.card = others.card + 2 := by
    rw [← Finset.card_erase_add_one hleft, ← Finset.card_erase_add_one hright_mem]
  have hothers : others.card * (turns * least - keys.card * greatest : Int) ≤
      ∑ key ∈ others, rotation.credit key := by
    rw [← nsmul_eq_mul]
    exact Finset.card_nsmul_le_sum others _ _ fun key hkey =>
      hfloor key (Finset.mem_of_mem_erase (Finset.mem_of_mem_erase hkey))
  have hsum : rotation.credit left + (rotation.credit right +
      ∑ key ∈ others, rotation.credit key) = 0 := by
    rw [Finset.add_sum_erase _ _ hright_mem, Finset.add_sum_erase _ _ hleft, hbalance]
  have hpaid : (keys.card : Int) * (turns * least) ≤ keys.card * (others.card * greatest) := by
    rw [hcard] at hothers ⊢
    push_cast at hothers ⊢
    linarith
  have hkeys : (0 : Int) < keys.card := by omega
  have hleast_paid : (turns * least : Int) ≤ others.card * greatest :=
    le_of_mul_le_mul_left hpaid hkeys
  have hbound' : ((others.card : Int) + 2) * greatest ≤ (turns + 1) * least := by
    rw [hcard] at hbound
    exact_mod_cast hbound
  have hrange' : (least : Int) ≤ greatest := by exact_mod_cast hrange
  have hleast' : (1 : Int) ≤ least := by exact_mod_cast hleast
  linarith

/-! ## All turns -/

/-- The state after so many turns: keys that have been picked wait for different numbers of
turns, no key waits for as many as the bound, and before that credits tell about the keys that
have not been picked. -/
structure Paced (keys : Finset ProviderKey) (least greatest bound turns : Nat)
    (rotation : Rotation) : Prop where
  wait_le : ∀ key ∈ keys, rotation.wait key ≤ turns
  apart : ∀ left ∈ keys, ∀ right ∈ keys, rotation.wait left = rotation.wait right →
    rotation.wait left < turns → left = right
  in_time : ∀ key ∈ keys, rotation.wait key < bound
  balance : ∑ key ∈ keys, rotation.credit key = 0
  opening : turns < bound → Opening keys least greatest turns rotation

variable (hleast : 1 ≤ least) (hrange : least ≤ greatest)
  (hbound : keys.card * greatest ≤ bound * least)

include hleast hrange hbound in
theorem paced_empty : Paced keys least greatest bound 0 {} where
  wait_le _ _ := Nat.le_refl 0
  apart _ _ _ _ _ hlt := absurd hlt (Nat.lt_irrefl 0)
  in_time key hkey := by
    have hcard : 0 < keys.card := Finset.card_pos.mpr ⟨key, hkey⟩
    have hmul : 0 < bound * least :=
      Nat.lt_of_lt_of_le (Nat.mul_pos hcard (Nat.lt_of_lt_of_le hleast hrange)) hbound
    exact Nat.pos_of_mul_pos_right hmul
  balance := Finset.sum_const_zero
  opening _ := by
    constructor
    · intro key _ _
      simp [credit]
    · intro _ key _
      simp [credit]
      positivity

include hleast hrange hbound in
/-- One key at most is due. -/
theorem Paced.due_unique (hpaced : Paced keys least greatest bound turns rotation)
    {left right : ProviderKey} (hleft : left ∈ keys) (hright : right ∈ keys)
    (hleft_due : bound ≤ rotation.wait left + 1) (hright_due : bound ≤ rotation.wait right + 1) :
    left = right := by
  have hleft_time := hpaced.in_time left hleft
  have hright_time := hpaced.in_time right hright
  have hleft_le := hpaced.wait_le left hleft
  have hright_le := hpaced.wait_le right hright
  by_cases hpicked : rotation.wait left < turns
  · exact hpaced.apart left hleft right hright (by omega) hpicked
  · have hturns : bound = turns + 1 := by omega
    exact (hpaced.opening (by omega)).unpicked_unique hpaced.balance hleast hrange
      (hturns ▸ hbound) hleft hright (by omega) (by omega)

include hleast hrange hbound in
/-- What a turn keeps. -/
theorem Paced.next (hpaced : Paced keys least greatest bound turns rotation)
    (hoffers : turn.Offers keys least greatest bound) (hkeys : keys.Nonempty) :
    Paced keys least greatest bound (turns + 1) (rotation.next turn) := by
  obtain ⟨some_key, hsome_key⟩ := hkeys
  obtain ⟨picked, hpicked, hpick⟩ := hoffers.exists_pick? hleast hsome_key rotation
  have hwait {key : ProviderKey} (hkey : key ∈ keys) :
      (rotation.next turn).wait key = if key = picked then 0 else rotation.wait key + 1 := by
    rw [wait_next hpick hoffers.distinct, if_pos (hoffers.mem_iff.mpr hkey)]
  have hdue {key : ProviderKey} (hkey : key ∈ keys) :
      rotation.Due turn key ↔ bound ≤ rotation.wait key + 1 := by
    rw [Due, hoffers.bound_eq]
    exact and_iff_right (Nat.lt_of_lt_of_le hleast (hoffers.weight_mem hkey).1)
  constructor
  · intro key hkey
    have hle := hpaced.wait_le key hkey
    rw [hwait hkey]
    split <;> omega
  · intro left hleft right hright hsame hlt
    rw [hwait hleft, hwait hright] at hsame
    rw [hwait hleft] at hlt
    by_cases hleft_picked : left = picked <;> by_cases hright_picked : right = picked
    · rw [hleft_picked, hright_picked]
    · rw [if_pos hleft_picked, if_neg hright_picked] at hsame
      omega
    · rw [if_neg hleft_picked, if_pos hright_picked] at hsame
      omega
    · rw [if_neg hleft_picked] at hsame hlt
      rw [if_neg hright_picked] at hsame
      exact hpaced.apart left hleft right hright (by omega) (by omega)
  · intro key hkey
    have htime := hpaced.in_time key hkey
    rw [hwait hkey]
    split
    · omega
    · next hpassed =>
        -- A key that is due now is the only one, so it is the pick.
        by_contra hlate
        have hkey_due : bound ≤ rotation.wait key + 1 := by omega
        cases preferred_of_pick? hpick with
        | waited hpicked_due _ =>
            exact hpassed (hpaced.due_unique hleast hrange hbound hkey hpicked hkey_due
              ((hdue hpicked).mp hpicked_due))
        | credited hnone_due _ =>
            exact hnone_due key (hoffers.mem_iff.mpr hkey) ((hdue hkey).mpr hkey_due)
  · have hsum := sum_credit_next hpick
    rw [hoffers.same_keys] at hsum
    rw [hsum, hpaced.balance]
  · intro hturns
    refine (hpaced.opening (by omega)).next hoffers hpick fun key hkey hkey_due => ?_
    have hkey_mem := hoffers.mem_iff.mp hkey
    have hle := hpaced.wait_le key hkey_mem
    have hlate := (hdue hkey_mem).mp hkey_due
    omega

include hleast hrange hbound in
theorem paced_after (hkeys : keys.Nonempty) {before : List Turn}
    (hoffers : ∀ turn ∈ before, turn.Offers keys least greatest bound) :
    Paced keys least greatest bound before.length (({} : Rotation).after before) := by
  induction before using List.reverseRecOn with
  | nil => exact paced_empty hleast hrange hbound
  | append_singleton before turn ih =>
      rw [after_append, List.length_append, List.length_singleton]
      refine (ih fun earlier hearlier => hoffers earlier ?_).next hleast hrange hbound
        (hoffers turn ?_) hkeys
      · exact List.mem_append_left _ hearlier
      · exact List.mem_append_right _ (List.mem_singleton_self turn)

/-- A rotation that starts anew and is always offered the same keys, with weights in a range,
picks every one of them in any turns after one another that are as many as the bound, if the
bound makes up for the range.  The bound that follows from the least multiplier does. -/
theorem picked_within_bound (keys : Finset ProviderKey) (hleast : 1 ≤ least)
    (hrange : least ≤ greatest) :
    (∀ bound, keys.card * greatest ≤ bound * least → ∀ before window : List Turn,
      (∀ turn ∈ before ++ window, turn.Offers keys least greatest bound) →
        window.length = bound → ∀ key ∈ keys,
          some key ∈ (({} : Rotation).after before).picks window) ∧
      ∀ leastMultiplier : ℚ, 0 < leastMultiplier → leastMultiplier ≤ 1 →
        leastMultiplier * greatest ≤ least →
          exactTurnBound keys.card leastMultiplier = ⌈(keys.card : ℚ) / leastMultiplier⌉₊ ∧
            keys.card * greatest ≤ exactTurnBound keys.card leastMultiplier * least := by
  refine ⟨?_, fun _ hpos hle hmultiplier =>
    ⟨exactTurnBound_eq_ceil hpos hle, mul_le_exactTurnBound_mul hpos hle hmultiplier⟩⟩
  intro bound hbound before window hoffers hwindow key hkey
  by_contra hpassed
  have hpaced := paced_after hleast hrange hbound ⟨key, hkey⟩ hoffers
  have hwindow_offers : ∀ turn ∈ window, turn.Offers keys least greatest bound :=
    fun turn hturn => hoffers turn (List.mem_append_right before hturn)
  have hwait := wait_after_of_passed
    (fun turn hturn => (hwindow_offers turn hturn).distinct)
    (fun turn hturn => Nat.lt_of_lt_of_le hleast ((hwindow_offers turn hturn).weight_mem hkey).1)
    hpassed
  have htime := hpaced.in_time key hkey
  rw [after_append, hwait, hwindow] at htime
  omega

def threeAliases (first second third : Nat) : Turn where
  candidates := [(⟨"north", "a", "large"⟩, first), (⟨"north", "b", "large"⟩, second),
    (⟨"north", "c", "large"⟩, third)]
  bound := 6

/-- The alias that is lightest in almost every turn is picked nevertheless. -/
theorem picked_within_bound_of_three :
    3 * 2 ≤ 6 * 1 ∧ some ⟨"north", "c", "large"⟩ ∈
      (({} : Rotation).after [threeAliases 2 2 1, threeAliases 2 1 2]).picks
        [threeAliases 2 2 1, threeAliases 2 2 1, threeAliases 1 2 1, threeAliases 2 2 1,
          threeAliases 2 1 1, threeAliases 2 2 1] := by
  refine ⟨Nat.le_refl 6, ?_⟩
  have hoffers (first second third : Nat) (hfirst : 1 ≤ first ∧ first ≤ 2)
      (hsecond : 1 ≤ second ∧ second ≤ 2) (hthird : 1 ≤ third ∧ third ≤ 2) :
      (threeAliases first second third).Offers {⟨"north", "a", "large"⟩, ⟨"north", "b", "large"⟩,
        ⟨"north", "c", "large"⟩} 1 2 6 := by
    refine ⟨?_, rfl, ?_, rfl⟩
    · simp [Turn.keys, threeAliases]
    · simpa [threeAliases] using ⟨hfirst, hsecond, hthird⟩
  refine (picked_within_bound {⟨"north", "a", "large"⟩, ⟨"north", "b", "large"⟩,
    ⟨"north", "c", "large"⟩} (Nat.le_refl 1) (Nat.le_succ 1)).1 6 (by decide) _ _ ?_ rfl _
    (by decide)
  intro turn hturn
  simp only [List.cons_append, List.nil_append, List.mem_cons, List.not_mem_nil, or_false] at hturn
  rcases hturn with rfl | rfl | rfl | rfl | rfl | rfl | rfl | rfl <;>
    exact hoffers _ _ _ (by decide) (by decide) (by decide)

end Rotation

end ProviderRouting
