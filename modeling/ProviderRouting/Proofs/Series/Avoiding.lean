import ProviderRouting.Proofs.Series.Calls

/-!
# How long a provider is avoided

A provider is avoided because of a cooldown, and no longer than that cooldown runs.  The guard keeps
the two apart: errors extend both, taking over cooldowns extends one of them, and both are pruned.
Still some cooldown always runs as long as any provider is avoided.  Pruning drops what has ended,
and whatever is done afterwards, no answer about a later time shows that it happened.
-/

namespace ProviderRouting

namespace SeriesGuard

variable {guard : SeriesGuard} {provider : String} {now pruned : Millis}

/-! ## Cooldowns behind avoided providers -/

/-- For every avoided provider some cooldown runs as long. -/
def Accounted (guard : SeriesGuard) : Prop :=
  ∀ provider finish, guard.avoided.get? provider = some finish → Covers guard.cooldowns finish

theorem noteError_accounted (haccounted : guard.Accounted) (event : ErrorEvent) :
    (guard.noteError event).2.Accounted := by
  by_cases hcapacity : guard.rules.meansNoCapacity event = true
  · obtain ⟨cooldowns, finish, hcooldowns, hfinish, hguard⟩ := noteError_of_capacity hcapacity
    have hkept (provider : String) (present : Millis)
        (hpresent : guard.avoided.get? provider = some present) : Covers cooldowns present := by
      rw [hcooldowns]
      exact (haccounted provider present hpresent).prolonged (prolonged_extend _ _ _)
    rw [hguard]
    intro provider avoidedUntil hprovider
    dsimp only at hprovider ⊢
    split at hprovider
    · rw [get?_extend] at hprovider
      split at hprovider
      · -- the provider is avoided until the later of two ends, and each has its cooldown
        obtain rfl := Option.some.inj hprovider
        exact .elim_max (hkept event.key.provider) ⟨_, finish, hfinish, Int.le_refl _⟩
      · exact hkept provider avoidedUntil hprovider
    · exact hkept provider avoidedUntil hprovider
  · rw [noteError_of_no_capacity hcapacity]
    exact haccounted

/-- What is avoided beyond a time is left with a cooldown that runs beyond it. -/
theorem prune_accounted (haccounted : guard.Accounted) (now : Millis) :
    (guard.prune now).Accounted := by
  intro provider finish hprovider
  rw [prune, Table.get?_filter, Option.filter_eq_some_iff, decide_eq_true_eq] at hprovider
  obtain ⟨hfinish, hopen⟩ := hprovider
  obtain ⟨series, later, hlater, hle⟩ := haccounted provider finish hfinish
  refine ⟨series, later, ?_, hle⟩
  rw [prune, Table.get?_filter, Option.filter_eq_some_iff, decide_eq_true_eq]
  exact ⟨hlater, Int.lt_of_lt_of_le hopen hle⟩

theorem perform_accounted (haccounted : guard.Accounted) (call : GuardCall) :
    (guard.perform call).Accounted := by
  cases call with
  | noteError event => exact noteError_accounted haccounted event
  | prune now => exact prune_accounted haccounted now
  | resume cooldowns =>
      exact fun provider finish hprovider =>
        (haccounted provider finish hprovider).prolonged (guard.prolonged_resume cooldowns)
  | configure settings =>
      rw [perform_configure]
      exact haccounted

/-- The guards that can come to be: built with some settings, given a grouping, and called. -/
inductive Reachable : SeriesGuard → Prop where
  | built {settings : SeriesSettings} {guard : SeriesGuard}
      (built : ofSettings settings = .ok guard) : Reachable guard
  | groupedBy {guard : SeriesGuard} (reachable : Reachable guard)
      (group : ProviderKey → String) : Reachable { guard with grouping := some group }
  | called {guard : SeriesGuard} (reachable : Reachable guard) (call : GuardCall) :
      Reachable (guard.perform call)

theorem Reachable.accounted (hreachable : guard.Reachable) : guard.Accounted := by
  induction hreachable with
  | built hbuilt =>
      obtain ⟨rules, -, hguard⟩ := bind_eq_ok_iff.mp hbuilt
      obtain rfl := Except.ok.inj hguard
      exact fun provider finish hprovider => by simp at hprovider
  | groupedBy _ group ih => exact ih
  | called _ call ih => exact perform_accounted ih call

theorem Reachable.run (hreachable : guard.Reachable) (calls : List GuardCall) :
    (guard.run calls).Reachable := by
  induction calls generalizing guard with
  | nil => exact hreachable
  | cons call rest ih => exact ih (.called hreachable call)

/-- Avoiding a provider never outlives its cause: some cooldown is recorded that ends no earlier, so
while any provider is avoided some series cools down.  And that the guard was pruned shows in no
answer about a time from then on, whatever was done since. -/
theorem avoided_while_cooling (hreachable : guard.Reachable) :
    (∀ provider finish, guard.avoided.get? provider = some finish →
      ∃ series later, guard.cooldowns.get? series = some later ∧ finish ≤ later) ∧
    (∀ now, (guard.avoidsAny now = true ∨ ∃ provider, guard.isAvoided provider now = true) →
      ∃ series finish, guard.cooldowns.get? series = some finish ∧ now < finish) ∧
    ∀ pruned now calls, pruned ≤ now →
      (∀ key, ((guard.prune pruned).run calls).isCoolingDown key now =
        (guard.run calls).isCoolingDown key now) ∧
      (∀ provider, ((guard.prune pruned).run calls).isAvoided provider now =
        (guard.run calls).isAvoided provider now) ∧
      ((guard.prune pruned).run calls).avoidsAny now = (guard.run calls).avoidsAny now := by
  refine ⟨hreachable.accounted, fun now havoids => ?_, fun pruned now calls hle => ?_⟩
  · obtain ⟨provider, finish, hfinish, hopen⟩ :
        ∃ provider, RunsBeyond guard.avoided provider now := by
      rcases havoids with hany | ⟨provider, hprovider⟩
      · exact avoidsAny_iff.mp hany
      · exact ⟨provider, isAvoided_iff.mp hprovider⟩
    obtain ⟨series, later, hlater, hlonger⟩ := hreachable.accounted provider finish hfinish
    exact ⟨series, later, hlater, Int.lt_of_lt_of_le hopen hlonger⟩
  · have halike := (guard.prune_answersAlike pruned).run calls
    exact ⟨halike.isCoolingDown_eq hle, halike.isAvoided_eq hle, halike.avoidsAny_eq hle⟩

/-- Two models of a provider with a single account have no capacity left, the second one while
longer cooldowns are in force. -/
def sharedShortage : List GuardCall :=
  [.noteError ⟨⟨"north", "a", "large"⟩, some "overloaded", some 429, none, 0⟩,
    .configure { cooldownSeconds := 90, singleAccountProviders := ["north"] },
    .noteError ⟨⟨"north", "a", "small"⟩, some "overloaded", some 429, none, 10000⟩]

/-- The provider is avoided for as long as the second model cools down.  A look at the end of the
first cooldown and a third error do not show afterwards. -/
theorem avoided_while_cooling_of_shared :
    ∃ guard : SeriesGuard, guard.Reachable ∧ guard.avoided.get? "north" = some 100000 ∧
      (∃ series later, guard.cooldowns.get? series = some later ∧ 100000 ≤ later) ∧
      guard.isAvoided "north" 99999 = true ∧
      (∃ series finish, guard.cooldowns.get? series = some finish ∧ 99999 < finish) ∧
      ((guard.prune 60000).run sharedShortage).isAvoided "north" 99999 = true := by
  obtain ⟨guard, hbuilt, hfinish, hopen⟩ :
      ∃ guard, ofSettings { singleAccountProviders := ["north"] } = .ok guard ∧
        (guard.run sharedShortage).avoided.get? "north" = some 100000 ∧
        ((guard.run sharedShortage).run sharedShortage).isAvoided "north" 99999 = true :=
    ⟨_, rfl, by decide +kernel⟩
  have hreachable : (guard.run sharedShortage).Reachable :=
    Reachable.run (.built hbuilt) sharedShortage
  obtain ⟨hcause, hcools, hpruned⟩ := avoided_while_cooling hreachable
  have havoided : (guard.run sharedShortage).isAvoided "north" 99999 = true :=
    isAvoided_iff.mpr ⟨100000, hfinish, by decide⟩
  refine ⟨_, hreachable, hfinish, hcause "north" 100000 hfinish, havoided,
    hcools 99999 (.inr ⟨"north", havoided⟩), ?_⟩
  rw [(hpruned 60000 99999 sharedShortage (by decide)).2.1 "north"]
  exact hopen

end SeriesGuard

end ProviderRouting
