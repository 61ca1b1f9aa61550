import ProviderRouting.Proofs.Lowercase
import ProviderRouting.Proofs.Series.Calls

/-!
# How long a series cools down

Whether a series cools down at a time depends only on what the guard was told of this series: on the
errors that it took for capacity errors, each under the settings of its own moment, and on the
cooldowns that were taken over.  Dropping what has ended changes no later answer, and nothing ends a
cooldown early.

A capacity error is one whose code holds a marker, but for case.  The guard looks for a lowercase
marker in the lowercase code instead, which is the same for markers without a sigma and codes
without a dotted capital I.  With a marker that ends in a capital sigma it misses codes that hold
the marker as it is.
-/

namespace ProviderRouting

/-- What is said of an item and of what comes before it, is said of the last item or of an earlier
one. -/
theorem exists_split_append_singleton_iff {Item : Type} {Says : List Item → Item → Prop}
    {items : List Item} {last : Item} :
    (∃ before item after, items ++ [last] = before ++ item :: after ∧ Says before item) ↔
      Says items last ∨
        ∃ before item after, items = before ++ item :: after ∧ Says before item := by
  constructor
  · rintro ⟨before, item, after, hsplit, hcalled⟩
    rcases List.eq_nil_or_concat after with rfl | ⟨rest, final, rfl⟩
    · obtain ⟨rfl, hlast⟩ := List.append_inj' hsplit rfl
      obtain rfl := List.singleton_inj.mp hlast
      exact .inl hcalled
    · rw [List.concat_eq_append, ← List.cons_append, ← List.append_assoc] at hsplit
      obtain ⟨rfl, -⟩ := List.append_inj' hsplit rfl
      exact .inr ⟨before, item, rest, rfl, hcalled⟩
  · rintro (hlast | ⟨before, item, after, rfl, hcalled⟩)
    · exact ⟨items, last, [], rfl, hlast⟩
    · exact ⟨before, item, after ++ [last], by simp, hcalled⟩

/-! ## Capacity errors -/

theorem containsText_iff {text part : List Char} :
    containsText text part = true ↔ part <:+: text := by
  induction text with
  | nil => simp [containsText]
  | cons head rest ih =>
      rw [containsText, Bool.or_eq_true, List.isPrefixOf_iff_prefix, ih, List.infix_cons_iff]

namespace SeriesSettings

/-- The error says that a model has no capacity left: its status is 429, and a part of its code is a
marker, but for case. -/
def SaysNoCapacity (settings : SeriesSettings) (event : ErrorEvent) : Prop :=
  event.status = some 429 ∧ ∃ code, event.code = some code ∧
    ∃ marker ∈ settings.capacityMarkers, Lowercase.HoldsButForCase code.toList marker.toList

/-- The error is taken to mean that a model has no capacity left: its status is 429, and a marker is
found in its code once both are lowercase. -/
def MeansNoCapacity (settings : SeriesSettings) (event : ErrorEvent) : Prop :=
  event.status = some 429 ∧ ∃ code, event.code = some code ∧
    ∃ marker ∈ settings.capacityMarkers, (lowercase marker).toList <:+: (lowercase code).toList

/-- No marker holds a sigma. -/
def FreeOfSigma (settings : SeriesSettings) : Prop :=
  ∀ marker ∈ settings.capacityMarkers, 'σ' ∉ marker.toList.flatMap Lowercase.letters

variable {settings : SeriesSettings} {event : ErrorEvent}

theorem meansNoCapacity_of_says (hmarkers : settings.FreeOfSigma)
    (hshort : settings.SaysNoCapacity event) : settings.MeansNoCapacity event := by
  obtain ⟨hstatus, code, hcode, marker, hmarker, hholds⟩ := hshort
  refine ⟨hstatus, code, hcode, marker, hmarker, ?_⟩
  rw [lowercase, lowercase, String.toList_ofList, String.toList_ofList]
  exact Lowercase.infix_of_holdsButForCase (hmarkers marker hmarker) hholds

theorem saysNoCapacity_of_means (hcode : ∀ code, event.code = some code → 'İ' ∉ code.toList)
    (hmeans : settings.MeansNoCapacity event) : settings.SaysNoCapacity event := by
  obtain ⟨hstatus, code, hpresent, marker, hmarker, hfound⟩ := hmeans
  refine ⟨hstatus, code, hpresent, marker, hmarker, ?_⟩
  rw [lowercase, lowercase, String.toList_ofList, String.toList_ofList] at hfound
  exact Lowercase.holdsButForCase_of_infix (hcode code hpresent) hfound

end SeriesSettings

theorem SeriesRules.meansNoCapacity_iff {settings : SeriesSettings} {rules : SeriesRules}
    {event : ErrorEvent} (hrules : ofSettings settings = .ok rules) :
    rules.meansNoCapacity event = true ↔ settings.MeansNoCapacity event := by
  obtain ⟨families, -, rfl⟩ := ofSettings_ok hrules
  simp only [meansNoCapacity, Bool.and_eq_true, beq_iff_eq, Option.any_eq_true, List.any_map,
    List.any_eq_true, Function.comp_apply, containsText_iff, SeriesSettings.MeansNoCapacity]

/-! ## What makes a series cool down -/

namespace GuardCall

variable {Capacity : SeriesSettings → ErrorEvent → Prop} {settings : SeriesSettings}
  {guard : SeriesGuard} {series : String} {now : Millis}

/-- The call makes a series cool down beyond a time: a capacity error under the settings in force
does, and so does a cooldown that is taken over. -/
inductive Cools (Capacity : SeriesSettings → ErrorEvent → Prop) (settings : SeriesSettings)
    (guard : SeriesGuard) (series : String) (now : Millis) : GuardCall → Prop where
  | noted {event : ErrorEvent} (capacity : Capacity settings event)
      (series_eq : guard.seriesOf event.key = series)
      (lasts : now < event.time.plus (.ofSeconds settings.cooldownSeconds)) :
      Cools Capacity settings guard series now (.noteError event)
  | resumed {cooldowns : Table String Millis} (runs : RunsBeyond cooldowns series now) :
      Cools Capacity settings guard series now (.resume cooldowns)

theorem cools_noteError_iff {event : ErrorEvent} :
    Cools Capacity settings guard series now (.noteError event) ↔
      Capacity settings event ∧ guard.seriesOf event.key = series ∧
        now < event.time.plus (.ofSeconds settings.cooldownSeconds) := by
  constructor
  · rintro ⟨hcapacity, hseries, hlasts⟩
    exact ⟨hcapacity, hseries, hlasts⟩
  · rintro ⟨hcapacity, hseries, hlasts⟩
    exact .noted hcapacity hseries hlasts

theorem cools_resume_iff {cooldowns : Table String Millis} :
    Cools Capacity settings guard series now (.resume cooldowns) ↔
      RunsBeyond cooldowns series now := by
  constructor
  · rintro ⟨⟩
    assumption
  · exact .resumed

theorem Cools.mono {Other : SeriesSettings → ErrorEvent → Prop} {call : GuardCall}
    (hcools : call.Cools Capacity settings guard series now)
    (hevent : ∀ event, call = .noteError event → Capacity settings event → Other settings event) :
    call.Cools Other settings guard series now := by
  cases hcools with
  | noted hcapacity hseries hlasts => exact .noted (hevent _ rfl hcapacity) hseries hlasts
  | resumed hruns => exact .resumed hruns

end GuardCall

namespace SeriesGuard

variable {Capacity : SeriesSettings → ErrorEvent → Prop} {guard : SeriesGuard}
  {settings : SeriesSettings} {call : GuardCall} {calls : List GuardCall} {series : String}
  {key : ProviderKey} {now : Millis}

/-- Some call has made the series cool down beyond a time, under the settings of that moment. -/
def CooledBy (Capacity : SeriesSettings → ErrorEvent → Prop) (settings : SeriesSettings)
    (guard : SeriesGuard) (calls : List GuardCall) (series : String) (now : Millis) : Prop :=
  ∃ before call after, calls = before ++ call :: after ∧
    call.Cools Capacity (settings.after before) (guard.run before) series now

theorem CooledBy.mono {Other : SeriesSettings → ErrorEvent → Prop}
    (hcooled : guard.CooledBy Capacity settings calls series now)
    (hevent : ∀ before event after, calls = before ++ .noteError event :: after →
      Capacity (settings.after before) event → Other (settings.after before) event) :
    guard.CooledBy Other settings calls series now := by
  obtain ⟨before, call, after, hcalls, hcools⟩ := hcooled
  refine ⟨before, call, after, hcalls, hcools.mono fun event hcall hcapacity => ?_⟩
  subst hcall
  exact hevent before event after hcalls hcapacity

theorem runsBeyond_prune_iff {time : Millis} (htime : time ≤ now) :
    RunsBeyond (guard.prune time).cooldowns series now ↔ RunsBeyond guard.cooldowns series now :=
  (guard.prune_answersAlike time).cooldowns series now htime

theorem runsBeyond_noteError_iff (hrules : SeriesRules.ofSettings settings = .ok guard.rules)
    (event : ErrorEvent) :
    RunsBeyond (guard.noteError event).2.cooldowns series now ↔
      (GuardCall.noteError event).Cools SeriesSettings.MeansNoCapacity settings guard series now ∨
        RunsBeyond guard.cooldowns series now := by
  rw [GuardCall.cools_noteError_iff, ← SeriesRules.meansNoCapacity_iff hrules,
    ← SeriesRules.cooldown_eq hrules]
  by_cases hcapacity : guard.rules.meansNoCapacity event = true
  · obtain ⟨cooldowns, finish, hcooldowns, -, hguard⟩ := noteError_of_capacity hcapacity
    rw [hguard, and_iff_right hcapacity, eq_comm (b := series)]
    dsimp only
    rw [hcooldowns, runsBeyond_extend_iff]
  · rw [noteError_of_no_capacity hcapacity]
    exact (or_iff_right fun hcools => hcapacity hcools.1).symm

/-- After a call those series cool down that did before, and those that the call cools down. -/
theorem runsBeyond_perform_iff (hrules : SeriesRules.ofSettings settings = .ok guard.rules)
    (hpruned : ∀ time, call = .prune time → time ≤ now) :
    RunsBeyond (guard.perform call).cooldowns series now ↔
      call.Cools SeriesSettings.MeansNoCapacity settings guard series now ∨
        RunsBeyond guard.cooldowns series now := by
  cases call with
  | noteError event => exact runsBeyond_noteError_iff hrules event
  | prune time =>
      rw [or_iff_right nofun]
      exact runsBeyond_prune_iff (hpruned time rfl)
  | resume cooldowns =>
      rw [GuardCall.cools_resume_iff]
      exact runsBeyond_resume_iff
  | configure next =>
      rw [or_iff_right nofun, perform_configure]

/-! ## What a run comes to -/

/-- A series cools down when some call has made it do so, under the settings of that moment. -/
theorem runsBeyond_run_iff (hnew : guard.New settings)
    (hpruned : ∀ time, .prune time ∈ calls → time ≤ now) :
    RunsBeyond (guard.run calls).cooldowns series now ↔
      guard.CooledBy SeriesSettings.MeansNoCapacity settings calls series now := by
  rw [CooledBy]
  induction calls using List.reverseRecOn with
  | nil =>
      have hidle : ¬ RunsBeyond guard.cooldowns series now := by
        rw [RunsBeyond, hnew.idle]
        simp
      simp [run, hidle]
  | append_singleton earlier call ih =>
      simp only [List.mem_append, List.mem_singleton] at hpruned
      rw [exists_split_append_singleton_iff, run_append, ← ih fun time htime =>
        hpruned time (.inl htime)]
      exact runsBeyond_perform_iff (run_rules hnew earlier) fun time htime =>
        hpruned time (.inr htime.symm)

/-- A cooldown that lasts beyond the time is never cut short. -/
theorem lasts_run (hnew : guard.New settings) {before later : List GuardCall}
    (hpruned : ∀ time, .prune time ∈ before ++ later → time ≤ now) {finish : Millis}
    (hfound : (guard.run before).cooldowns.get? series = some finish) (hopen : now < finish) :
    ∃ prolonged, (guard.run (before ++ later)).cooldowns.get? series = some prolonged ∧
      finish ≤ prolonged := by
  -- Whatever cools down beyond a time before the later calls still does so after them.
  have hkept (time : Millis) (htime : now ≤ time)
      (hruns : RunsBeyond (guard.run before).cooldowns series time) :
      RunsBeyond (guard.run (before ++ later)).cooldowns series time := by
    have hbound (pruned : Millis) (hmem : .prune pruned ∈ before ++ later) : pruned ≤ time :=
      Int.le_trans (hpruned pruned hmem) htime
    rw [runsBeyond_run_iff hnew hbound]
    rw [runsBeyond_run_iff hnew fun pruned hmem => hbound pruned (List.mem_append_left later hmem)]
      at hruns
    obtain ⟨first, call, rest, rfl, hcall⟩ := hruns
    exact ⟨first, call, rest ++ later, by simp, hcall⟩
  obtain ⟨prolonged, hprolonged, hlasts⟩ := hkept now (Int.le_refl _) ⟨finish, hfound, hopen⟩
  refine ⟨prolonged, hprolonged, Int.not_lt.mp fun hcut => ?_⟩
  obtain ⟨longer, hlonger, hafter⟩ :=
    hkept prolonged (Int.le_of_lt hlasts) ⟨finish, hfound, hcut⟩
  rw [hprolonged] at hlonger
  obtain rfl := Option.some.inj hlonger
  exact Int.lt_irrefl _ hafter

/-! ## The account of a run -/

/-- What a guard does with what it was told, seen at a time. -/
structure CoolsAsTold (settings : SeriesSettings) (guard : SeriesGuard) (calls : List GuardCall)
    (key : ProviderKey) (now : Millis) : Prop where
  /-- A key's series cools down exactly when a cooldown of that name was taken over, or an error
  was taken for a capacity error of it. -/
  cooling_iff : (guard.run calls).isCoolingDown key now = true ↔
    guard.CooledBy SeriesSettings.MeansNoCapacity settings calls
      ((guard.run calls).seriesOf key) now
  /-- It does so for every capacity error, if the markers that were in force for errors hold no
  sigma. -/
  heeded : (∀ before event after, calls = before ++ .noteError event :: after →
      (settings.after before).FreeOfSigma) →
    guard.CooledBy SeriesSettings.SaysNoCapacity settings calls ((guard.run calls).seriesOf key)
      now → (guard.run calls).isCoolingDown key now = true
  /-- It does so for no other error, if no code holds a dotted capital I. -/
  warranted : (∀ event code, .noteError event ∈ calls → event.code = some code →
      'İ' ∉ code.toList) →
    (guard.run calls).isCoolingDown key now = true →
      guard.CooledBy SeriesSettings.SaysNoCapacity settings calls
        ((guard.run calls).seriesOf key) now
  /-- Dropping what has ended changes nothing. -/
  unpruned : (guard.run (calls.filter fun call => !call.isPrune)).isCoolingDown key now =
    (guard.run calls).isCoolingDown key now
  /-- A cooldown that runs beyond the time keeps its end or gets a later one, whatever the later
  calls are. -/
  lasting : ∀ before later, calls = before ++ later → ∀ series finish,
    (guard.run before).cooldowns.get? series = some finish → now < finish →
      ∃ prolonged, (guard.run calls).cooldowns.get? series = some prolonged ∧ finish ≤ prolonged
  /-- A cooldown is reported for each error that is taken for a capacity error, with an end that is
  not too early. -/
  reported : ∀ event, match ((guard.run calls).noteError event).1 with
    | some cooldown =>
        (settings.after calls).MeansNoCapacity event ∧
          cooldown.series = (guard.run calls).seriesOf event.key ∧
          event.time.plus (.ofSeconds (settings.after calls).cooldownSeconds) ≤ cooldown.endsAt
    | none => ¬ (settings.after calls).MeansNoCapacity event

theorem noteError_reported (hrules : SeriesRules.ofSettings settings = .ok guard.rules)
    (event : ErrorEvent) :
    match (guard.noteError event).1 with
    | some cooldown =>
        settings.MeansNoCapacity event ∧ cooldown.series = guard.seriesOf event.key ∧
          event.time.plus (.ofSeconds settings.cooldownSeconds) ≤ cooldown.endsAt
    | none => ¬ settings.MeansNoCapacity event := by
  rw [noteError]
  by_cases hcapacity : guard.rules.meansNoCapacity event = true
  · rw [if_pos hcapacity]
    refine ⟨(SeriesRules.meansNoCapacity_iff hrules).mp hcapacity, rfl, ?_⟩
    rw [← SeriesRules.cooldown_eq hrules]
    dsimp only
    rw [get?_extend, if_pos rfl, Option.getD_some]
    cases guard.cooldowns.get? (guard.seriesOf event.key) with
    | none => exact Int.le_refl _
    | some finish =>
        rw [Option.elim_some, Millis.le_iff, Millis.value_max]
        exact Int.le_max_right _ _
  · rw [if_neg hcapacity]
    exact mt (SeriesRules.meansNoCapacity_iff hrules).mpr hcapacity

/-- Whatever is done to a new guard, at a time before which it has dropped nothing that still runs,
a series cools down exactly as long as the guard was told, but for what lowercase does to a sigma
and to a dotted capital I. -/
theorem cools_as_told (hnew : guard.New settings)
    (hpruned : ∀ time, .prune time ∈ calls → time ≤ now) (key : ProviderKey) :
    CoolsAsTold settings guard calls key now := by
  have hcooling : (guard.run calls).isCoolingDown key now = true ↔
      guard.CooledBy SeriesSettings.MeansNoCapacity settings calls
        ((guard.run calls).seriesOf key) now :=
    isCoolingDown_iff.trans (runsBeyond_run_iff hnew hpruned)
  constructor
  case cooling_iff => exact hcooling
  case heeded =>
    intro hmarkers htold
    apply hcooling.mpr
    apply htold.mono
    intro before event after hcalls
    exact SeriesSettings.meansNoCapacity_of_says (hmarkers before event after hcalls)
  case warranted =>
    intro hcodes hcools
    apply (hcooling.mp hcools).mono
    intro before event after hcalls
    have hevent : .noteError event ∈ calls := by simp [hcalls]
    exact SeriesSettings.saysNoCapacity_of_means fun code hcode => hcodes event code hevent hcode
  case unpruned =>
    exact (guard.run_filter_answersAlike hpruned).isCoolingDown_eq (Int.le_refl _) key
  case lasting =>
    rintro before later rfl series finish hfound hopen
    exact lasts_run hnew hpruned hfound hopen
  case reported => exact noteError_reported (run_rules hnew calls)

/-- A model has no capacity left for one of its aliases; the cooldown is looked at, shortened for
errors to come, and not taken back by a later error that would end sooner. -/
def shortage : List GuardCall :=
  [.noteError ⟨⟨"north", "a", "large"⟩, some "Overloaded", some 429, none, 0⟩, .prune 1000,
    .configure { cooldownSeconds := 1 },
    .noteError ⟨⟨"north", "b", "large"⟩, some "resource_exhausted", some 429, none, 2000⟩,
    .resume (.ofList [("south.small", 90000)])]

/-- The first error decides how long the other aliases of its model cool down. -/
theorem cools_as_told_of_shortage :
    ∃ guard, ofSettings {} = .ok guard ∧ (∀ time, .prune time ∈ shortage → time ≤ 59999) ∧
      CoolsAsTold {} guard shortage ⟨"north", "c", "large"⟩ 59999 ∧
      (guard.run shortage).isCoolingDown ⟨"north", "c", "large"⟩ 59999 = true ∧
      guard.CooledBy SeriesSettings.SaysNoCapacity {} shortage "north.large" 59999 := by
  have hpruned (time : Millis) (hmem : .prune time ∈ shortage) : time ≤ 59999 := by
    simp only [shortage, List.mem_cons, GuardCall.prune.injEq, reduceCtorEq, List.not_mem_nil,
      false_or, or_false] at hmem
    subst hmem
    decide
  have hcodes : ∀ event code, .noteError event ∈ shortage → event.code = some code →
      'İ' ∉ code.toList := by
    intro event code hmem hcode
    simp only [shortage, List.mem_cons, GuardCall.noteError.injEq, reduceCtorEq, List.not_mem_nil,
      false_or, or_false] at hmem
    rcases hmem with rfl | rfl <;> cases hcode <;> decide
  obtain ⟨guard, hbuilt, hcools, hseries⟩ : ∃ guard, ofSettings {} = .ok guard ∧
      (guard.run shortage).isCoolingDown ⟨"north", "c", "large"⟩ 59999 = true ∧
      (guard.run shortage).seriesOf ⟨"north", "c", "large"⟩ = "north.large" :=
    ⟨_, rfl, by decide +kernel, by decide +kernel⟩
  have htold := cools_as_told (new_of_ofSettings hbuilt) hpruned ⟨"north", "c", "large"⟩
  refine ⟨guard, hbuilt, hpruned, htold, hcools, ?_⟩
  rw [← hseries]
  exact htold.warranted hcodes hcools

/-- An error whose code holds the marker `ΟΣ` as it is, with one more letter behind it. -/
def sigmaError : ErrorEvent :=
  ⟨⟨"north", "a", "large"⟩, some "ΟΣΑ", some 429, none, 0⟩

/-- Not every capacity error makes its series cool down: the sigma that ends the marker becomes a
final sigma in lowercase, and the one in the code does not. -/
theorem not_forall_cools_when_told :
    ¬ ∀ (settings : SeriesSettings) (guard : SeriesGuard) (calls : List GuardCall)
        (key : ProviderKey) (now : Millis), guard.New settings →
      (∀ time, .prune time ∈ calls → time ≤ now) →
      ((guard.run calls).isCoolingDown key now = true ↔
        guard.CooledBy SeriesSettings.SaysNoCapacity settings calls
          ((guard.run calls).seriesOf key) now) := by
  intro hall
  obtain ⟨guard, hbuilt, hidle⟩ :
      ∃ guard, ofSettings { capacityMarkers := ["ΟΣ"] } = .ok guard ∧
        (guard.run [.noteError sigmaError]).isCoolingDown sigmaError.key 0 = false :=
    ⟨_, rfl, by decide +kernel⟩
  have hshort : SeriesSettings.SaysNoCapacity { capacityMarkers := ["ΟΣ"] } sigmaError :=
    ⟨rfl, "ΟΣΑ", rfl, "ΟΣ", List.mem_cons_self, _, ⟨[], ['Α'], rfl⟩, rfl⟩
  have hcools := hall _ guard [.noteError sigmaError] sigmaError.key 0
    (new_of_ofSettings hbuilt) (by simp)
  have htold : guard.CooledBy SeriesSettings.SaysNoCapacity { capacityMarkers := ["ΟΣ"] }
      [.noteError sigmaError] ((guard.run [.noteError sigmaError]).seriesOf sigmaError.key) 0 := by
    refine ⟨[], .noteError sigmaError, [], rfl, .noted hshort ?_ (by decide)⟩
    exact (guard.seriesOf_noteError sigmaError sigmaError.key).symm
  rw [hcools.mpr htold] at hidle
  cases hidle

end SeriesGuard

end ProviderRouting
