import ProviderRouting.Proofs.Rotation.Turns

/-!
# Every candidate gets its turn

Whatever a rotation remembers, and whatever keys join, leave and come back, a key that stays a
candidate with a weight is picked before long.  Once it is due, only keys that have waited as long
as it can be picked in its place.  Each turn takes one of them away, since the pick starts to wait
anew, and adds none, since a key that joins has not waited at all.
-/

namespace ProviderRouting

namespace Rotation

variable {rotation : Rotation} {turn : Turn} {turns : List Turn}
  {key picked : ProviderKey} {bound size : Nat}

/-- The candidates of a turn that have waited at least as long as a key. -/
def elders (rotation : Rotation) (turn : Turn) (key : ProviderKey) : Finset ProviderKey :=
  turn.keys.toFinset.filter fun other => rotation.wait key ≤ rotation.wait other

theorem mem_elders_iff {other : ProviderKey} :
    other ∈ rotation.elders turn key ↔
      other ∈ turn.keys ∧ rotation.wait key ≤ rotation.wait other := by
  rw [elders, Finset.mem_filter, List.mem_toFinset]

/-- A key that is due gives way to its elders only. -/
theorem Due.pick_mem_elders (hdue : rotation.Due turn key)
    (hpick : rotation.pick? turn = some picked) : picked ∈ rotation.elders turn key := by
  have hkey := Turn.mem_keys_of_weight_pos hdue.1
  rw [mem_elders_iff]
  cases preferred_of_pick? hpick with
  | waited _ hlongest => exact ⟨mem_keys_of_pick? hpick, hlongest key hkey hdue⟩
  | credited hnone_due _ => exact absurd hdue (hnone_due key hkey)

/-- A turn that passes a key over makes nobody its elder. -/
theorem elders_next_subset (hdistinct : turn.keys.Nodup) (hkey : key ∈ turn.keys)
    (hpick : rotation.pick? turn = some picked) (hpassed : key ≠ picked) (following : Turn) :
    (rotation.next turn).elders following key ⊆ (rotation.elders turn key).erase picked := by
  intro other hother
  obtain ⟨-, hle⟩ := mem_elders_iff.mp hother
  rw [wait_next hpick hdistinct, wait_next hpick hdistinct, if_neg hpassed, if_pos hkey] at hle
  by_cases hother_picked : other = picked
  · rw [if_pos hother_picked] at hle
    exact absurd hle (Nat.not_succ_le_zero _)
  · rw [if_neg hother_picked] at hle
    by_cases hother_mem : other ∈ turn.keys
    · rw [if_pos hother_mem] at hle
      exact Finset.mem_erase.mpr
        ⟨hother_picked, mem_elders_iff.mpr ⟨hother_mem, Nat.le_of_succ_le_succ hle⟩⟩
    · rw [if_neg hother_mem] at hle
      exact absurd hle (Nat.not_succ_le_zero _)

theorem card_elders_next_lt (hdistinct : turn.keys.Nodup) (hdue : rotation.Due turn key)
    (hpassed : rotation.pick? turn ≠ some key) (following : Turn) :
    ((rotation.next turn).elders following key).card < (rotation.elders turn key).card := by
  obtain ⟨picked, hpick⟩ := rotation.exists_pick? hdue.1
  have hne : key ≠ picked := fun hsame => hpassed (hsame ▸ hpick)
  refine Nat.lt_of_le_of_lt (Finset.card_le_card (elders_next_subset hdistinct
    (Turn.mem_keys_of_weight_pos hdue.1) hpick hne following)) ?_
  exact Finset.card_erase_lt_of_mem (hdue.pick_mem_elders hpick)

theorem card_elders_le (rotation : Rotation) (turn : Turn) (key : ProviderKey) :
    (rotation.elders turn key).card ≤ turn.candidates.length :=
  calc
    (rotation.elders turn key).card ≤ turn.keys.toFinset.card := Finset.card_filter_le _ _
    _ ≤ turn.keys.length := List.toFinset_card_le _
    _ = turn.candidates.length := List.length_map _

theorem card_elders_pos (rotation : Rotation) (hkey : key ∈ turn.keys) :
    0 < (rotation.elders turn key).card :=
  Finset.card_pos.mpr ⟨key, mem_elders_iff.mpr ⟨hkey, Nat.le_refl _⟩⟩

/-- A key that is due is passed over less often than it has elders. -/
theorem length_lt_card_elders (hdistinct : ∀ other ∈ turn :: turns, other.keys.Nodup)
    (hbound : ∀ other ∈ turn :: turns, other.bound ≤ bound)
    (hweight : ∀ other ∈ turn :: turns, 0 < other.weight key)
    (hwait : bound ≤ rotation.wait key + 1) (hpassed : some key ∉ rotation.picks (turn :: turns)) :
    (turn :: turns).length < (rotation.elders turn key).card := by
  induction turns generalizing rotation turn with
  | nil =>
      have hmem : turn ∈ [turn] := List.mem_singleton_self turn
      have hdue : rotation.Due turn key :=
        ⟨hweight turn hmem, Nat.le_trans (hbound turn hmem) hwait⟩
      rw [picks, List.mem_cons, not_or] at hpassed
      have hfewer := card_elders_next_lt (hdistinct turn hmem) hdue (Ne.symm hpassed.1) turn
      have hpos := (rotation.next turn).card_elders_pos (Turn.mem_keys_of_weight_pos hdue.1)
      rw [List.length_singleton]
      omega
  | cons following rest ih =>
      rw [List.forall_mem_cons] at hdistinct hbound hweight
      rw [picks, List.mem_cons, not_or] at hpassed
      have hdue : rotation.Due turn key := ⟨hweight.1, Nat.le_trans hbound.1 hwait⟩
      have hfewer := card_elders_next_lt hdistinct.1 hdue (Ne.symm hpassed.1) following
      have hlonger : bound ≤ (rotation.next turn).wait key + 1 := by
        rw [wait_next_of_passed hdistinct.1 hweight.1 (Ne.symm hpassed.1)]
        omega
      have hrest := ih hdistinct.2 hbound.2 hweight.2 hlonger hpassed.2
      rw [List.length_cons]
      omega

/-- A key that is a candidate with a weight in turns after one another, as many as the greatest
bound and all but one of the most candidates of a turn, is picked in one of them. -/
theorem picked_despite_churn (rotation : Rotation) {window : List Turn} (hbound_pos : 1 ≤ bound)
    (hsize_pos : 1 ≤ size) (hlength : window.length = bound + size - 1)
    (hdistinct : ∀ turn ∈ window, turn.keys.Nodup)
    (hsize : ∀ turn ∈ window, turn.candidates.length ≤ size)
    (hbound : ∀ turn ∈ window, turn.bound ≤ bound)
    (hcandidate : ∀ turn ∈ window, ∃ weight, 0 < weight ∧ (key, weight) ∈ turn.candidates) :
    some key ∈ rotation.picks window := by
  by_contra hpassed
  have hweight : ∀ turn ∈ window, 0 < turn.weight key := by
    intro turn hturn
    obtain ⟨weight, hpos, hmem⟩ := hcandidate turn hturn
    exact Turn.weight_pos_iff.mpr ⟨(key, weight), hmem, rfl, hpos⟩
  -- The key has waited long enough once all but the last `size` turns are over.
  have hsplit := List.take_append_drop (bound - 1) window
  have hfirst_length : (window.take (bound - 1)).length = bound - 1 := by
    rw [List.length_take]
    omega
  have hlast_length : (window.drop (bound - 1)).length = size := by
    rw [List.length_drop]
    omega
  rw [← hsplit, picks_append, List.mem_append, not_or] at hpassed
  have hwait := wait_after_of_passed
    (fun turn hturn => hdistinct turn (List.mem_of_mem_take hturn))
    (fun turn hturn => hweight turn (List.mem_of_mem_take hturn)) hpassed.1
  cases hlast : window.drop (bound - 1) with
  | nil =>
      rw [hlast, List.length_nil] at hlast_length
      omega
  | cons turn rest =>
      have hmem : ∀ other ∈ turn :: rest, other ∈ window := by
        rw [← hlast]
        exact fun other hother => List.mem_of_mem_drop hother
      rw [hlast] at hlast_length hpassed
      have hlt := length_lt_card_elders (fun other hother => hdistinct other (hmem other hother))
        (fun other hother => hbound other (hmem other hother))
        (fun other hother => hweight other (hmem other hother)) (by omega) hpassed.2
      have hle := card_elders_le (rotation.after (window.take (bound - 1))) turn key
      have hfew := hsize turn (hmem turn List.mem_cons_self)
      omega

/-- A turn in which a light key stands beside a heavy one. -/
def besideLight (heavy : ProviderKey) : Turn where
  candidates := [(heavy, 100), (⟨"north", "c", "large"⟩, 1)]
  bound := 2

/-- Heavy keys that come and go do not keep a light one from its turn. -/
theorem picked_despite_churn_of_light :
    3 = 2 + 2 - 1 ∧ some ⟨"north", "c", "large"⟩ ∈
      (({} : Rotation).after [⟨[(⟨"north", "a", "large"⟩, 3)], 1⟩]).picks
        [besideLight ⟨"north", "a", "large"⟩, besideLight ⟨"north", "b", "large"⟩,
          besideLight ⟨"north", "a", "large"⟩] := by
  have hturns : ∀ turn ∈ [besideLight ⟨"north", "a", "large"⟩, besideLight ⟨"north", "b", "large"⟩,
      besideLight ⟨"north", "a", "large"⟩], turn.keys.Nodup ∧ turn.candidates.length ≤ 2 ∧
        turn.bound ≤ 2 ∧ ∃ weight, 0 < weight ∧
          ((⟨"north", "c", "large"⟩ : ProviderKey), weight) ∈ turn.candidates := by
    intro turn hturn
    have hlight : ∃ heavy, heavy ≠ (⟨"north", "c", "large"⟩ : ProviderKey) ∧
        turn = besideLight heavy := by
      simp only [List.mem_cons, List.not_mem_nil, or_false] at hturn
      rcases hturn with rfl | rfl | rfl <;> exact ⟨_, by decide, rfl⟩
    obtain ⟨heavy, hne, rfl⟩ := hlight
    exact ⟨by simpa [Turn.keys, besideLight] using hne, Nat.le_refl 2, Nat.le_refl 2, 1,
      Nat.one_pos, by simp [besideLight]⟩
  refine ⟨rfl, picked_despite_churn _ (Nat.le_succ 1 : 1 ≤ 2) (Nat.le_succ 1 : 1 ≤ 2) rfl
    ?_ ?_ ?_ ?_⟩
  · exact fun turn hturn => (hturns turn hturn).1
  · exact fun turn hturn => (hturns turn hturn).2.1
  · exact fun turn hturn => (hturns turn hturn).2.2.1
  · exact fun turn hturn => (hturns turn hturn).2.2.2

end Rotation

end ProviderRouting
