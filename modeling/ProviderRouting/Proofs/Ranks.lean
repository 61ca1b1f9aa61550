import ProviderRouting.Proofs.Configuration
import Mathlib.Data.List.Nodup

/-!
# Ranks and ids of tiers

The check of a configuration refuses a rank that a route already uses, and compiling sorts the tiers
of a route, so its tiers stand in strictly increasing rank.  The id of a tier is made of the route
and the rank.  A route may hold the separator too, but the text of a rank does not; so the id tells
the route and the rank, and no two tiers share one.
-/

namespace ProviderRouting

/-! ## Checked ranks -/

namespace Configuration

variable {config : Configuration} {route : String} {tier : ConfiguredTier}
  {tiers : List ConfiguredTier} {ranks after : List UInt32}

/-- Tiers that pass their checks one after another have different ranks. -/
theorem nodup_ranks_of_foldlM (hchecked : tiers.foldlM (ensureTier route) ranks = .ok after) :
    (tiers.map ConfiguredTier.rank).Nodup ∧ ∀ tier ∈ tiers, tier.rank ∉ ranks := by
  induction tiers generalizing ranks with
  | nil => exact ⟨List.nodup_nil, fun _ hnone => absurd hnone List.not_mem_nil⟩
  | cons head rest ih =>
      obtain ⟨between, hhead, hrest⟩ := bind_eq_ok_iff.mp hchecked
      obtain ⟨hnew, -, -, rfl⟩ := ensureTier_parts hhead
      obtain ⟨hnodup, hothers⟩ := ih hrest
      refine ⟨?_, ?_⟩
      · rw [List.map_cons, List.nodup_cons]
        refine ⟨?_, hnodup⟩
        intro hmem
        obtain ⟨tier, htier, hrank⟩ := List.mem_map.mp hmem
        exact hothers tier htier (hrank ▸ List.mem_cons_self)
      · rw [List.forall_mem_cons]
        exact ⟨hnew, fun tier htier hused => hothers tier htier (List.mem_cons_of_mem _ hused)⟩

theorem nodup_ranks_of_validate (hvalid : config.validate = .ok ())
    {row : String × ConfiguredRoute} (hrow : row ∈ config.routes.rows) :
    (row.2.tiers.map ConfiguredTier.rank).Nodup := by
  obtain ⟨-, ranks, htiers⟩ := ensureRoute_parts (route_ok_of_validate hvalid hrow)
  exact (nodup_ranks_of_foldlM htiers).1

end Configuration

/-! ## Compiled tiers -/

namespace Routes

variable {config : Configuration} {routes : Routes} {route : String} {tiers : List Tier}
  {tier : Tier}

/-- The window of tiers that name none of their own. -/
def penaltyWindow (config : Configuration) : Millis :=
  .ofSeconds config.priority.penaltyWindowSeconds

/-- Compiling keeps the routes, each with its own tiers. -/
theorem tiers?_eq (hcompiled : ofConfiguration config = .ok routes) (route : String) :
    routes.tiers? route =
      (config.routes.get? route).map (tiersOf (penaltyWindow config) route) := by
  have hunique (tiers others : List Tier)
      (htiers : (route, tiers) ∈ config.routes.rows.map fun row =>
        (row.1, tiersOf (penaltyWindow config) row.1 row.2))
      (hothers : (route, others) ∈ config.routes.rows.map fun row =>
        (row.1, tiersOf (penaltyWindow config) row.1 row.2)) : others = tiers := by
    obtain ⟨left, hleft, hleft_eq⟩ := List.mem_map.mp htiers
    obtain ⟨right, hright, hright_eq⟩ := List.mem_map.mp hothers
    cases hleft_eq
    obtain ⟨hname, rfl⟩ := Prod.mk.inj hright_eq
    have hfound : config.routes.get? left.1 = some right.2 :=
      Table.get?_eq_some_iff.mpr (hname ▸ hright)
    rw [Table.get?_eq_some_iff.mpr hleft] at hfound
    rw [hname, Option.some.inj hfound]
  rw [(ofConfiguration_ok hcompiled).2]
  apply Option.ext
  intro tiers
  change (Table.ofList (config.routes.rows.map fun row =>
    (row.1, tiersOf (penaltyWindow config) row.1 row.2))).get? route = some tiers ↔ _
  rw [Table.get?_eq_some_iff, Table.mem_rows_ofList_iff hunique, Option.map_eq_some_iff]
  constructor
  · intro hmem
    obtain ⟨row, hrow, heq⟩ := List.mem_map.mp hmem
    cases heq
    exact ⟨row.2, Table.get?_eq_some_iff.mpr hrow, rfl⟩
  · rintro ⟨configured, hfound, rfl⟩
    exact List.mem_map.mpr ⟨(route, configured), Table.get?_eq_some_iff.mp hfound, rfl⟩

/-- The tiers of a route are its configured tiers. -/
theorem exists_configured_route (hcompiled : ofConfiguration config = .ok routes)
    (htiers : routes.tiers? route = some tiers) :
    ∃ configured, config.routes.get? route = some configured ∧
      ∀ tier, tier ∈ tiers ↔
        ∃ source ∈ configured.tiers, tierOf route (penaltyWindow config) source = tier := by
  rw [tiers?_eq hcompiled] at htiers
  obtain ⟨configured, hfound, rfl⟩ := Option.map_eq_some_iff.mp htiers
  refine ⟨configured, hfound, fun tier => ?_⟩
  rw [tiersOf, List.mem_mergeSort, List.mem_map]

/-- Tiers are sorted by their ranks. -/
theorem tiersOf_sorted (window : Millis) (route : String) (configured : ConfiguredRoute) :
    (tiersOf window route configured).Pairwise fun earlier later => earlier.rank ≤ later.rank := by
  have hsorted : (tiersOf window route configured).Pairwise fun earlier later =>
      decide (earlier.rank ≤ later.rank) = true := by
    apply List.pairwise_mergeSort
    · intro first second third hfirst hsecond
      rw [decide_eq_true_eq] at hfirst hsecond ⊢
      exact UInt32.le_trans hfirst hsecond
    · intro left right
      rw [Bool.or_eq_true, decide_eq_true_eq, decide_eq_true_eq]
      exact UInt32.le_total left.rank right.rank
  exact hsorted.imp of_decide_eq_true

def byRank (configured : ConfiguredRoute) : List ConfiguredTier :=
  configured.tiers.mergeSort fun left right => left.rank ≤ right.rank

theorem byRank_perm (configured : ConfiguredRoute) : (byRank configured).Perm configured.tiers :=
  List.mergeSort_perm _ _

/-- It does not matter whether tiers are compiled or sorted first. -/
theorem tiersOf_eq (window : Millis) (route : String) (configured : ConfiguredRoute) :
    tiersOf window route configured = (byRank configured).map (tierOf route window) := by
  rw [byRank, List.map_mergeSort (s := fun left right => left.rank ≤ right.rank)]
  · rfl
  · exact fun _ _ _ _ => rfl

theorem tiersOf_ranks_perm (window : Millis) (route : String) (configured : ConfiguredRoute) :
    ((tiersOf window route configured).map Tier.rank).Perm
      (configured.tiers.map ConfiguredTier.rank) := by
  rw [tiersOf_eq, List.map_map]
  exact (byRank_perm configured).map ConfiguredTier.rank

/-- The check of a configuration leaves every rank to one tier. -/
theorem nodup_ranks (hcompiled : ofConfiguration config = .ok routes)
    (htiers : routes.tiers? route = some tiers) : (tiers.map Tier.rank).Nodup := by
  rw [tiers?_eq hcompiled] at htiers
  obtain ⟨configured, hfound, rfl⟩ := Option.map_eq_some_iff.mp htiers
  have hconfigured := Configuration.nodup_ranks_of_validate (ofConfiguration_ok hcompiled).1
    (Table.get?_eq_some_iff.mp hfound)
  exact (tiersOf_ranks_perm _ route configured).nodup_iff.mpr hconfigured

/-- The tiers of a compiled route stand in strictly increasing rank. -/
theorem ranks_increasing (hcompiled : ofConfiguration config = .ok routes)
    (htiers : routes.tiers? route = some tiers) :
    tiers.Pairwise fun earlier later => earlier.rank < later.rank := by
  have hdistinct := List.pairwise_map.mp (nodup_ranks hcompiled htiers)
  rw [tiers?_eq hcompiled] at htiers
  obtain ⟨configured, -, rfl⟩ := Option.map_eq_some_iff.mp htiers
  exact (tiersOf_sorted _ route configured).imp₂ (fun _ _ hle hne => UInt32.lt_of_le_of_ne hle hne)
    hdistinct

/-- The first tier of a kind is the one of least rank. -/
theorem rank_lt_of_find? {isKind : Tier → Bool} {other : Tier}
    (hcompiled : ofConfiguration config = .ok routes)
    (htiers : routes.tiers? route = some tiers) (hfind : tiers.find? isKind = some tier)
    (hother : other ∈ tiers) (hkind : isKind other = true) (hne : other ≠ tier) :
    tier.rank < other.rank := by
  have hincreasing := ranks_increasing hcompiled htiers
  obtain ⟨-, front, back, rfl, hfront⟩ := List.find?_eq_some_iff_append.mp hfind
  obtain ⟨-, hback, -⟩ := List.pairwise_append.mp hincreasing
  rcases List.mem_append.mp hother with hbefore | hrest
  · have hnot_kind : isKind other = false := by simpa using hfront other hbefore
    exact absurd (hnot_kind.symm.trans hkind) Bool.false_ne_true
  · rcases List.mem_cons.mp hrest with heq | hbehind
    · exact absurd heq hne
    · exact (List.pairwise_cons.mp hback).1 other hbehind

/-! ## Ids -/

/-- What stands before and after the last separator is determined by the whole. -/
theorem append_separator_inj {α : Type} {separator : α} {before after before' after' : List α}
    (hafter : separator ∉ after) (hafter' : separator ∉ after')
    (hsame : before ++ separator :: after = before' ++ separator :: after') :
    before = before' ∧ after = after' := by
  rcases append_separator_eq_iff.mp hsame with hparts | ⟨part, -, rfl⟩ | ⟨part, -, rfl⟩
  · exact hparts
  · exact absurd (List.mem_append_right part List.mem_cons_self) hafter'
  · exact absurd (List.mem_append_right part List.mem_cons_self) hafter

theorem separator_not_mem_toDigits (rank : Nat) : '#' ∉ Nat.toDigits 10 rank := by
  intro hmem
  have hdigit : '#'.isDigit = true :=
    Nat.isDigit_of_mem_toDigits (by decide) (by decide) hmem
  exact absurd hdigit (by decide)

/-- The id of a tier tells its route and its rank. -/
theorem tierId_injective {route other : String} {rank otherRank : Nat}
    (hsame : route ++ "#" ++ toString rank = other ++ "#" ++ toString otherRank) :
    route = other ∧ rank = otherRank := by
  have hchars : route.toList ++ '#' :: Nat.toDigits 10 rank =
      other.toList ++ '#' :: Nat.toDigits 10 otherRank := by
    simpa [Nat.repr] using congrArg String.toList hsame
  obtain ⟨hroute, hdigits⟩ := append_separator_inj (separator_not_mem_toDigits rank)
    (separator_not_mem_toDigits otherRank) hchars
  refine ⟨String.toList_injective hroute, ?_⟩
  calc
    rank = Nat.ofDigitChars 10 (Nat.toDigits 10 rank) 0 := Nat.ofDigitChars_ten_toDigits.symm
    _ = Nat.ofDigitChars 10 (Nat.toDigits 10 otherRank) 0 := by rw [hdigits]
    _ = otherRank := Nat.ofDigitChars_ten_toDigits

/-- Different tiers have different ids, on one route as well as on different routes. -/
theorem eq_of_tierId {other : String} {otherTiers : List Tier} {otherTier : Tier}
    (hcompiled : ofConfiguration config = .ok routes)
    (htiers : routes.tiers? route = some tiers) (htier : tier ∈ tiers)
    (hother : routes.tiers? other = some otherTiers) (hotherTier : otherTier ∈ otherTiers)
    (hid : tier.id = otherTier.id) : route = other ∧ tier = otherTier := by
  obtain ⟨_, -, hsources⟩ := exists_configured_route hcompiled htiers
  obtain ⟨source, -, rfl⟩ := (hsources tier).mp htier
  obtain ⟨_, -, hsources⟩ := exists_configured_route hcompiled hother
  obtain ⟨otherSource, -, rfl⟩ := (hsources otherTier).mp hotherTier
  obtain ⟨rfl, hnat⟩ := tierId_injective hid
  have hrank : source.rank = otherSource.rank := UInt32.toNat_inj.mp hnat
  obtain rfl := Option.some.inj (htiers.symm.trans hother)
  exact ⟨rfl, List.inj_on_of_nodup_map (nodup_ranks hcompiled htiers) htier hotherTier hrank⟩

end Routes

end ProviderRouting
