import ProviderRouting.Proofs.Rotation.Turns
import Mathlib.Data.List.Induction
import Mathlib.Tactic.Linarith
import Mathlib.Tactic.Ring

/-!
# Proportional shares

A rotation starts anew and is offered the same candidates, with the same weights, turn after turn.
A key's credit is what it was credited over all turns less what it paid for its picks, and no key
ever owes as much as all weights together.  A key that is picked for its credit has some, since
the credits of all add up to the weights of one turn.  A key that is picked because it is due has
waited so long that it was credited a whole turn's weights since it paid for the last one.

So no key is ahead of its share by a whole pick.  Where the shares of all keys are whole numbers,
none can be behind either, and every key has been picked exactly as often as its weight says.
-/

namespace ProviderRouting

/-- The turn offers these candidates, and lets nobody be due who has not been credited a whole
turn's weights since the last pick. -/
structure Turn.Repeats (turn : Turn) (candidates : List Candidate) : Prop where
  same : turn.candidates = candidates
  patient : ∀ candidate ∈ candidates, 0 < candidate.2 →
    Rotation.totalWeight candidates ≤ turn.bound * candidate.2

namespace Rotation

variable {rotation : Rotation} {turn : Turn} {turns : List Turn} {candidates : List Candidate}
  {key picked : ProviderKey}

/-! ## Periods -/

/-- The greatest common divisor of all weights. -/
def commonWeight (candidates : List Candidate) : Nat :=
  candidates.foldr (fun candidate common => Nat.gcd candidate.2 common) 0

/-- The least number of turns in which every candidate's share is a whole number of picks. -/
def period (candidates : List Candidate) : Nat :=
  totalWeight candidates / commonWeight candidates

theorem commonWeight_dvd {candidate : Candidate} (hmem : candidate ∈ candidates) :
    commonWeight candidates ∣ candidate.2 := by
  induction candidates with
  | nil => exact absurd hmem List.not_mem_nil
  | cons head rest ih =>
      change Nat.gcd head.2 (commonWeight rest) ∣ candidate.2
      rcases List.mem_cons.mp hmem with rfl | hrest
      · exact Nat.gcd_dvd_left _ _
      · exact (Nat.gcd_dvd_right _ _).trans (ih hrest)

theorem dvd_totalWeight {divisor : Nat} (hdvd : ∀ candidate ∈ candidates, divisor ∣ candidate.2) :
    divisor ∣ totalWeight candidates := by
  induction candidates with
  | nil => exact Nat.dvd_zero divisor
  | cons head rest ih =>
      rw [List.forall_mem_cons] at hdvd
      exact Nat.dvd_add hdvd.1 (ih hdvd.2)

/-- In a period, and in several, every share is whole. -/
theorem totalWeight_dvd_of_period {count : Nat} (hperiod : period candidates ∣ count)
    {candidate : Candidate} (hmem : candidate ∈ candidates) :
    totalWeight candidates ∣ count * candidate.2 := by
  have hcommon : commonWeight candidates ∣ totalWeight candidates :=
    dvd_totalWeight fun _ => commonWeight_dvd
  obtain ⟨periods, rfl⟩ := hperiod
  obtain ⟨part, hpart⟩ := commonWeight_dvd hmem
  refine ⟨periods * part, ?_⟩
  calc
    period candidates * periods * candidate.2
    _ = commonWeight candidates * period candidates * (periods * part) := by
      rw [hpart]
      ring
    _ = totalWeight candidates * (periods * part) := by
      rw [period, Nat.mul_div_cancel' hcommon]

/-! ## One turn -/

/-- No key owes a whole turn's weights, however long it has waited since it paid for them, and a
key without a weight owes nothing. -/
structure Solvent (candidates : List Candidate) (rotation : Rotation) : Prop where
  balance : ∑ key ∈ (candidates.map Prod.fst).toFinset, rotation.credit key = 0
  floor : ∀ key ∈ candidates.map Prod.fst,
    (rotation.wait key * Turn.weightAmong key candidates : Int) - totalWeight candidates <
      rotation.credit key
  idle : ∀ key ∈ candidates.map Prod.fst,
    Turn.weightAmong key candidates = 0 → rotation.credit key = 0

theorem solvent_empty (htotal : 0 < totalWeight candidates) : Solvent candidates {} where
  balance := Finset.sum_const_zero
  floor key _ := by
    change ((0 : Nat) * Turn.weightAmong key candidates : Int) - totalWeight candidates < 0
    omega
  idle _ _ _ := rfl

/-- What the candidates have once they are credited is one turn's weights, so whoever then has
the most has something. -/
theorem Solvent.credit_pos (hsolvent : Solvent turn.candidates rotation) (htotal : 0 < turn.total)
    (hmost : ∀ key ∈ turn.keys,
      rotation.credit key + turn.weight key ≤ rotation.credit picked + turn.weight picked) :
    0 < rotation.credit picked + turn.weight picked := by
  by_contra hnothing
  have hsum : ∑ key ∈ turn.keys.toFinset, (rotation.credit key + turn.weight key) = turn.total := by
    rw [Finset.sum_add_distrib, ← turn.sum_weight, Nat.cast_sum]
    exact (congrArg (· + _) hsolvent.balance).trans (zero_add _)
  have hnone : ∑ key ∈ turn.keys.toFinset, (rotation.credit key + turn.weight key) ≤ 0 := by
    apply Finset.sum_nonpos
    intro key hkey
    exact (hmost key (List.mem_toFinset.mp hkey)).trans (Int.not_lt.mp hnothing)
  omega

/-- A pick can pay, and a key without a weight is never picked. -/
theorem Solvent.pick_pays (hsolvent : Solvent turn.candidates rotation)
    (hturn : turn.Repeats turn.candidates) (hdistinct : turn.keys.Nodup)
    (htotal : 0 < turn.total) (hpick : rotation.pick? turn = some picked) :
    0 < turn.weight picked ∧ 0 < rotation.credit picked + turn.weight picked := by
  have hpicked := mem_keys_of_pick? hpick
  cases preferred_of_pick? hpick with
  | waited hdue _ =>
      obtain ⟨hweight, hlate⟩ := hdue
      refine ⟨hweight, ?_⟩
      obtain ⟨candidate, hmem, rfl⟩ := List.mem_map.mp hpicked
      have hworth : turn.total ≤ turn.bound * turn.weight candidate.1 := by
        rw [turn.weight_eq hdistinct hmem] at hweight ⊢
        exact hturn.patient candidate hmem hweight
      have hfloor := hsolvent.floor candidate.1 hpicked
      have hwaited : turn.bound * turn.weight candidate.1 ≤
          (rotation.wait candidate.1 + 1) * turn.weight candidate.1 :=
        Nat.mul_le_mul_right _ hlate
      have hcredited : (turn.total : Int) ≤
          (rotation.wait candidate.1 + 1) * turn.weight candidate.1 := by
        exact_mod_cast hworth.trans hwaited
      change (rotation.wait candidate.1 * turn.weight candidate.1 : Int) - turn.total <
        rotation.credit candidate.1 at hfloor
      linarith
  | credited _ hmost =>
      have hcredit := hsolvent.credit_pos htotal hmost
      refine ⟨Nat.pos_of_ne_zero ?_, hcredit⟩
      intro hweight
      rw [hsolvent.idle picked hpicked hweight, hweight] at hcredit
      exact absurd hcredit (Int.lt_irrefl 0)

/-- What a turn keeps. -/
theorem Solvent.next (hsolvent : Solvent turn.candidates rotation)
    (hturn : turn.Repeats turn.candidates) (hdistinct : turn.keys.Nodup)
    (htotal : 0 < turn.total) (hpick : rotation.pick? turn = some picked) :
    Solvent turn.candidates (rotation.next turn) := by
  obtain ⟨hweight, hpays⟩ := hsolvent.pick_pays hturn hdistinct htotal hpick
  have hcredit {key : ProviderKey} (hkey : key ∈ turn.keys) := credit_next hpick hkey
  constructor
  · exact (sum_credit_next hpick).trans hsolvent.balance
  · intro key hkey
    have hfloor := hsolvent.floor key hkey
    change ((rotation.next turn).wait key * turn.weight key : Int) - turn.total <
      (rotation.next turn).credit key
    change (rotation.wait key * turn.weight key : Int) - turn.total < rotation.credit key at hfloor
    rw [hcredit hkey, wait_next hpick hdistinct]
    by_cases hkey_picked : key = picked
    · rw [if_pos hkey_picked, if_pos hkey_picked.symm, hkey_picked]
      push_cast
      linarith
    · rw [if_neg hkey_picked, if_pos (show key ∈ turn.keys from hkey), if_neg (Ne.symm hkey_picked)]
      push_cast
      linarith
  · intro key hkey hnone
    have hkey_picked : picked ≠ key := by
      rintro rfl
      exact absurd hnone (Nat.ne_of_gt hweight)
    change turn.weight key = 0 at hnone
    rw [hcredit hkey, if_neg hkey_picked, hnone, hsolvent.idle key hkey hnone]
    rfl

/-! ## All turns -/

variable (hdistinct : (candidates.map Prod.fst).Nodup) (htotal : 0 < totalWeight candidates)

include hdistinct htotal in
theorem solvent_after (hturns : ∀ turn ∈ turns, turn.Repeats candidates) :
    Solvent candidates (({} : Rotation).after turns) := by
  induction turns using List.reverseRecOn with
  | nil => exact solvent_empty htotal
  | append_singleton before turn ih =>
      have hturn := hturns turn (List.mem_append_right _ (List.mem_singleton_self turn))
      have hbefore := ih fun earlier hearlier => hturns earlier (List.mem_append_left _ hearlier)
      obtain rfl : turn.candidates = candidates := hturn.same
      obtain ⟨picked, hpick⟩ := (({} : Rotation).after before).exists_pick?_of_total htotal
      rw [after_append]
      exact hbefore.next hturn hdistinct htotal hpick

include htotal in
/-- A key's credit is what it was credited over the turns less what it paid for its picks. -/
theorem credit_after (hturns : ∀ turn ∈ turns, turn.Repeats candidates)
    (hkey : key ∈ candidates.map Prod.fst) :
    (({} : Rotation).after turns).credit key =
      turns.length * Turn.weightAmong key candidates -
        (({} : Rotation).picks turns).count (some key) * totalWeight candidates := by
  induction turns using List.reverseRecOn with
  | nil =>
      change (0 : Int) = (0 : Nat) * _ - (0 : Nat) * _
      omega
  | append_singleton before turn ih =>
      have hturn := hturns turn (List.mem_append_right _ (List.mem_singleton_self turn))
      have hbefore := ih fun earlier hearlier => hturns earlier (List.mem_append_left _ hearlier)
      obtain rfl : turn.candidates = candidates := hturn.same
      obtain ⟨picked, hpick⟩ := (({} : Rotation).after before).exists_pick?_of_total htotal
      rw [after_append, picks_append, List.length_append, List.count_append]
      change ((({} : Rotation).after before).next turn).credit key = _
      rw [credit_next hpick hkey, hbefore, picks, hpick, picks]
      change _ + (Turn.weightAmong key turn.candidates : Int) -
        (if picked = key then (totalWeight turn.candidates : Int) else 0) = _
      by_cases hkey_picked : picked = key
      · simp only [hkey_picked, if_true, List.length_singleton, List.count_singleton, beq_self_eq_true]
        push_cast
        ring
      · simp only [hkey_picked, if_false, List.length_singleton, List.count_singleton,
          Option.some_beq_some, beq_iff_eq, Nat.add_zero]
        push_cast
        ring

/-! ## Shares -/

theorem Solvent.owed_lt (hsolvent : Solvent candidates rotation)
    (hkey : key ∈ candidates.map Prod.fst) :
    -(totalWeight candidates : Int) < rotation.credit key := by
  have hfloor := hsolvent.floor key hkey
  have hcredited : (0 : Int) ≤ rotation.wait key * Turn.weightAmong key candidates := by positivity
  linarith

include hdistinct in
/-- All that a key can be owed is what the other keys owe. -/
theorem Solvent.credit_le (hsolvent : Solvent candidates rotation)
    (hkey : key ∈ candidates.map Prod.fst) :
    rotation.credit key ≤ (candidates.length - 1) * totalWeight candidates := by
  let keys := (candidates.map Prod.fst).toFinset
  have hmem : key ∈ keys := List.mem_toFinset.mpr hkey
  have hcard : keys.card = candidates.length := by
    rw [List.toFinset_card_of_nodup hdistinct, List.length_map]
  have hothers : ((keys.erase key).card : Int) * -totalWeight candidates ≤
      ∑ other ∈ keys.erase key, rotation.credit other := by
    rw [← nsmul_eq_mul]
    apply Finset.card_nsmul_le_sum
    intro other hother
    exact (hsolvent.owed_lt (List.mem_toFinset.mp (Finset.mem_of_mem_erase hother))).le
  have hcard_others : ((keys.erase key).card : Int) = candidates.length - 1 := by
    rw [← hcard, ← Finset.card_erase_add_one hmem]
    push_cast
    ring
  have hsum : rotation.credit key + ∑ other ∈ keys.erase key, rotation.credit other = 0 := by
    rw [Finset.add_sum_erase keys _ hmem]
    exact hsolvent.balance
  rw [hcard_others] at hothers
  linarith

/-- Where every credit is a multiple of all weights together, there are none. -/
theorem Solvent.credit_eq_zero (hsolvent : Solvent candidates rotation)
    (hwhole : ∀ key ∈ candidates.map Prod.fst,
      (totalWeight candidates : Int) ∣ rotation.credit key)
    (hkey : key ∈ candidates.map Prod.fst) : rotation.credit key = 0 := by
  have hnonneg : ∀ other ∈ (candidates.map Prod.fst).toFinset, 0 ≤ rotation.credit other := by
    intro other hother
    have hother := List.mem_toFinset.mp hother
    have howed := hsolvent.owed_lt hother
    obtain ⟨wholes, hwholes⟩ := hwhole other hother
    rw [hwholes] at howed ⊢
    have hwholes_nonneg : -1 < wholes := by
      by_contra hnegative
      have hle : (totalWeight candidates : Int) * wholes ≤ totalWeight candidates * -1 :=
        mul_le_mul_of_nonneg_left (Int.not_lt.mp hnegative) (Int.natCast_nonneg _)
      linarith
    exact mul_nonneg (Int.natCast_nonneg _) (by omega)
  exact (Finset.sum_eq_zero_iff_of_nonneg hnonneg).mp hsolvent.balance key
    (List.mem_toFinset.mpr hkey)

/-- What a candidate has got in some turns, and what it has left, goes by its weight. -/
structure FairShare (candidates : List Candidate) (turns picks : Nat) (credit : Int)
    (candidate : Candidate) : Prop where
  credit_eq : credit = turns * candidate.2 - picks * totalWeight candidates
  /-- No key is ahead of its share by a whole pick. -/
  ahead_lt : (picks * totalWeight candidates : Int) - turns * candidate.2 < totalWeight candidates
  owed_lt : -(totalWeight candidates : Int) < credit
  credit_le : credit ≤ (candidates.length - 1) * totalWeight candidates
  /-- Neither between turns nor in the midst of one does a credit need more than 64 bits. -/
  fits : (candidates.length * totalWeight candidates : Int) ≤ 9223372036854775807 →
    -9223372036854775808 ≤ credit ∧ credit + candidate.2 ≤ 9223372036854775807
  whole : period candidates ∣ turns → picks * totalWeight candidates = turns * candidate.2
  idle : candidate.2 = 0 → picks = 0

include hdistinct htotal in
/-- A rotation that starts anew and is offered the same candidates in all turns keeps its credits
in balance, and gives every candidate its share. -/
theorem shared_by_weight (hturns : ∀ turn ∈ turns, turn.Repeats candidates) :
    ∑ key ∈ (candidates.map Prod.fst).toFinset, (({} : Rotation).after turns).credit key = 0 ∧
      ∀ candidate ∈ candidates,
        FairShare candidates turns.length
          ((({} : Rotation).picks turns).count (some candidate.1))
          ((({} : Rotation).after turns).credit candidate.1) candidate := by
  have hsolvent := solvent_after hdistinct htotal hturns
  have hcredit {candidate : Candidate} (hmem : candidate ∈ candidates) :
      (({} : Rotation).after turns).credit candidate.1 = turns.length * candidate.2 -
        (({} : Rotation).picks turns).count (some candidate.1) * totalWeight candidates := by
    rw [credit_after htotal hturns (List.mem_map_of_mem hmem), Turn.weightAmong_eq hdistinct hmem]
  refine ⟨hsolvent.balance, fun candidate hmem => ?_⟩
  have hkey : candidate.1 ∈ candidates.map Prod.fst := List.mem_map_of_mem hmem
  have howed := hsolvent.owed_lt hkey
  have hmost := hsolvent.credit_le hdistinct hkey
  have hown := hcredit hmem
  refine ⟨hown, by linarith, howed, hmost, ?_, ?_, ?_⟩
  · intro hroom
    have hweight : (candidate.2 : Int) ≤ totalWeight candidates := by
      rw [← Turn.weightAmong_eq hdistinct hmem]
      exact_mod_cast Turn.weight_le_total ⟨candidates, 0⟩ candidate.1
    have hsome : (totalWeight candidates : Int) ≤ candidates.length * totalWeight candidates := by
      exact_mod_cast Nat.le_mul_of_pos_left _ (List.length_pos_of_mem hmem)
    constructor <;> linarith
  · intro hperiod
    have hzero := hsolvent.credit_eq_zero (fun key hkey => ?_) hkey
    · rw [hown, sub_eq_zero] at hzero
      exact_mod_cast hzero.symm
    · obtain ⟨other, hother, rfl⟩ := List.mem_map.mp hkey
      rw [hcredit hother]
      refine Int.dvd_sub ?_ (Dvd.intro_left _ rfl)
      exact_mod_cast totalWeight_dvd_of_period hperiod hother
  · intro hidle
    have hzero := hsolvent.idle candidate.1 hkey ((Turn.weightAmong_eq hdistinct hmem).trans hidle)
    rw [hown, hidle, Nat.cast_zero, mul_zero, zero_sub, neg_eq_zero] at hzero
    have hpaid : (({} : Rotation).picks turns).count (some candidate.1) *
        totalWeight candidates = 0 := by
      exact_mod_cast hzero
    exact (Nat.mul_eq_zero.mp hpaid).resolve_right (Nat.ne_of_gt htotal)

/-- A turn that offers one alias, a second with half its weight, and a third with none. -/
def halved : Turn where
  candidates := [(⟨"north", "a", "large"⟩, 100), (⟨"north", "b", "large"⟩, 50),
    (⟨"north", "c", "large"⟩, 0)]
  bound := 3

/-- Three hundred turns are shared out two to one, though the second alias is due again and
again. -/
theorem shared_by_weight_of_halved :
    halved.Repeats halved.candidates ∧ period halved.candidates = 3 ∧
      FairShare halved.candidates 300 200
        ((({} : Rotation).after (List.replicate 300 halved)).credit ⟨"north", "a", "large"⟩)
        (⟨"north", "a", "large"⟩, 100) ∧
      (({} : Rotation).picks (List.replicate 300 halved)).count
        (some ⟨"north", "b", "large"⟩) = 100 ∧
      (({} : Rotation).picks (List.replicate 300 halved)).count
        (some ⟨"north", "c", "large"⟩) = 0 := by
  have hrepeats : halved.Repeats halved.candidates := ⟨rfl, by decide⟩
  have hturns : ∀ turn ∈ List.replicate 300 halved, turn.Repeats halved.candidates := by
    intro turn hturn
    rw [List.eq_of_mem_replicate hturn]
    exact hrepeats
  obtain ⟨-, hshares⟩ := shared_by_weight (by decide) (by decide) hturns
  rw [List.length_replicate] at hshares
  have hfirst := hshares (⟨"north", "a", "large"⟩, 100) (by decide)
  have hsecond := hshares (⟨"north", "b", "large"⟩, 50) (by decide)
  have hthird := hshares (⟨"north", "c", "large"⟩, 0) (by decide)
  have hperiods : period halved.candidates ∣ 300 := by decide
  have hpicks {picks weight : Nat} (hwhole : picks * totalWeight halved.candidates = 300 * weight) :
      picks = 300 * weight / 150 :=
    Nat.eq_div_of_mul_eq_left (by decide) hwhole
  rw [hpicks (hfirst.whole hperiods)] at hfirst
  have hsecond_picks := hpicks (hsecond.whole hperiods)
  exact ⟨hrepeats, rfl, hfirst, hsecond_picks, hthird.idle rfl⟩

end Rotation

end ProviderRouting
