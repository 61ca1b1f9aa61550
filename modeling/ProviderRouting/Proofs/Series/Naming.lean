import ProviderRouting.Proofs.ProviderKey
import ProviderRouting.Proofs.Series.Cooling

/-!
# The names of series

Without rules for families a series is the model of a provider, and its name is both, joined by a
dot.  A provider may hold a dot as well as a model may.  So the name does not tell where the
provider ends, and a capacity error also cools down keys of another provider and another model when
the part between two dots can be read as the end of the one or as the start of the other.
-/

namespace ProviderRouting

/-- Both keys are joined to one text although their providers differ: the provider of the first
one goes on with a dot and a part, with which the model of the other one begins. -/
def ProviderKey.Blends (key other : ProviderKey) : Prop :=
  ∃ part, key.provider = other.provider ++ "." ++ part ∧ other.model = part ++ "." ++ key.model

namespace ProviderKey

variable {key other : ProviderKey}

theorem sharesModel_iff :
    key.sharesModel other = true ↔ key.provider = other.provider ∧ key.model = other.model := by
  rw [sharesModel, Bool.and_eq_true, beq_iff_eq, beq_iff_eq]

/-- Only a provider that holds a dot reaches into a model. -/
theorem Blends.dot_mem (hblends : key.Blends other) : '.' ∈ key.provider.toList := by
  obtain ⟨part, hprovider, -⟩ := hblends
  rw [hprovider]
  simp

theorem blends_iff :
    key.Blends other ↔ ∃ part, key.provider.toList = other.provider.toList ++ '.' :: part ∧
      other.model.toList = part ++ '.' :: key.model.toList := by
  constructor
  · rintro ⟨part, hprovider, hmodel⟩
    exact ⟨part.toList, by simp [hprovider], by simp [hmodel]⟩
  · rintro ⟨part, hprovider, hmodel⟩
    refine ⟨.ofList part, ?_, ?_⟩
    · apply String.toList_injective
      simp [hprovider]
    · apply String.toList_injective
      simp [hmodel]

/-- The joined texts are the same for one model of one provider, and for models that blend. -/
theorem joined_eq_iff :
    key.provider ++ "." ++ key.model = other.provider ++ "." ++ other.model ↔
      key.sharesModel other = true ∨ key.Blends other ∨ other.Blends key := by
  have hchars : key.provider ++ "." ++ key.model = other.provider ++ "." ++ other.model ↔
      key.provider.toList ++ '.' :: key.model.toList =
        other.provider.toList ++ '.' :: other.model.toList := by
    rw [← String.toList_inj]
    simp
  rw [hchars, append_separator_eq_iff, sharesModel_iff, blends_iff, blends_iff,
    String.toList_inj, String.toList_inj]

end ProviderKey

namespace SeriesGuard

variable {settings : SeriesSettings} {guard : SeriesGuard} {event : ErrorEvent} {now : Millis}

/-- Without rules for families, and with no grouping of its own, a guard names a series after the
provider and the model. -/
theorem seriesOf_eq_joined (hfamilies : settings.families = [])
    (hbuilt : ofSettings settings = .ok guard) (key : ProviderKey) :
    guard.seriesOf key = key.provider ++ "." ++ key.model := by
  obtain ⟨rules, hrules, hguard⟩ := bind_eq_ok_iff.mp hbuilt
  obtain rfl := Except.ok.inj hguard
  obtain ⟨families, htests, rfl⟩ := SeriesRules.ofSettings_ok hrules
  rw [hfamilies] at htests
  obtain rfl := Except.ok.inj htests
  rfl

/-- After one capacity error exactly the series of its key cools down. -/
theorem isCoolingDown_noteError_iff (hbuilt : ofSettings settings = .ok guard)
    (hcapacity : settings.MeansNoCapacity event)
    (hlasts : now < event.time.plus (.ofSeconds settings.cooldownSeconds)) (key : ProviderKey) :
    (guard.noteError event).2.isCoolingDown key now = true ↔
      guard.seriesOf event.key = guard.seriesOf key := by
  have hnew := new_of_ofSettings hbuilt
  have hidle : ¬ RunsBeyond guard.cooldowns (guard.seriesOf key) now := by
    rw [RunsBeyond, hnew.idle]
    simp
  calc
    _ ↔ RunsBeyond (guard.noteError event).2.cooldowns (guard.seriesOf key) now := by
      rw [isCoolingDown_iff, seriesOf_noteError]
    _ ↔ (GuardCall.noteError event).Cools SeriesSettings.MeansNoCapacity settings guard
          (guard.seriesOf key) now := by
      rw [runsBeyond_noteError_iff hnew.rules, or_iff_left hidle]
    _ ↔ guard.seriesOf event.key = guard.seriesOf key := by
      rw [GuardCall.cools_noteError_iff, and_iff_right hcapacity, and_iff_left hlasts]

/-- Which keys cool down after one capacity error. -/
structure CoolsExactly (guard : SeriesGuard) (event : ErrorEvent) (key : ProviderKey)
    (now : Millis) : Prop where
  /-- The keys of the same model of the same provider, and those whose name of a series is joined
  to the same text from another provider and another model. -/
  cooling_iff : (guard.noteError event).2.isCoolingDown key now = true ↔
    key.sharesModel event.key = true ∨ key.Blends event.key ∨ event.key.Blends key
  /-- Providers without dots are kept apart. -/
  isolated : '.' ∉ key.provider.toList → '.' ∉ event.key.provider.toList →
    ((guard.noteError event).2.isCoolingDown key now = true ↔ key.sharesModel event.key = true)

/-- Without rules for families, a capacity error cools down the keys of its model at its provider,
and beyond these only keys whose provider and model blend with its own. -/
theorem noteError_cools_exactly (hfamilies : settings.families = [])
    (hbuilt : ofSettings settings = .ok guard) (hcapacity : settings.MeansNoCapacity event)
    (hlasts : now < event.time.plus (.ofSeconds settings.cooldownSeconds)) (key : ProviderKey) :
    CoolsExactly guard event key now := by
  have hcooling : (guard.noteError event).2.isCoolingDown key now = true ↔
      key.sharesModel event.key = true ∨ key.Blends event.key ∨ event.key.Blends key := by
    rw [isCoolingDown_noteError_iff hbuilt hcapacity hlasts, eq_comm,
      seriesOf_eq_joined hfamilies hbuilt, seriesOf_eq_joined hfamilies hbuilt,
      ProviderKey.joined_eq_iff]
  refine ⟨hcooling, fun hkey hevent => ?_⟩
  have hapart : ¬ (key.Blends event.key ∨ event.key.Blends key) := by
    rintro (hblends | hblends)
    · exact hkey hblends.dot_mem
    · exact hevent hblends.dot_mem
  rw [hcooling, or_iff_left hapart]

/-- A model has no capacity left, at a provider whose name holds a dot. -/
def dottedError : ErrorEvent :=
  ⟨⟨"north.eu", "a", "large"⟩, some "overloaded", some 429, none, 0⟩

theorem dottedError_meansNoCapacity : ({} : SeriesSettings).MeansNoCapacity dottedError :=
  ⟨rfl, "overloaded", rfl, "overloaded", by decide, List.infix_rfl⟩

/-- A key of another model at another provider cools down with it. -/
theorem isCoolingDown_of_dotted (hbuilt : ofSettings {} = .ok guard) :
    (guard.noteError dottedError).2.isCoolingDown ⟨"north", "b", "eu.large"⟩ 30000 = true := by
  rw [isCoolingDown_noteError_iff hbuilt dottedError_meansNoCapacity (by decide),
    seriesOf_eq_joined rfl hbuilt, seriesOf_eq_joined rfl hbuilt]
  decide

theorem noteError_cools_exactly_of_dotted :
    ∃ guard, ofSettings {} = .ok guard ∧ ({} : SeriesSettings).MeansNoCapacity dottedError ∧
      (30000 : Millis) < dottedError.time.plus (.ofSeconds 60) ∧
      CoolsExactly guard dottedError ⟨"north", "b", "eu.large"⟩ 30000 ∧
      (guard.noteError dottedError).2.isCoolingDown ⟨"north", "b", "eu.large"⟩ 30000 = true := by
  have hlasts : (30000 : Millis) < dottedError.time.plus (.ofSeconds 60) := by decide
  have hcapacity := dottedError_meansNoCapacity
  refine ⟨_, rfl, hcapacity, hlasts, ?_, isCoolingDown_of_dotted rfl⟩
  exact noteError_cools_exactly rfl rfl hcapacity hlasts _

/-- That both providers are identifiers does not keep them apart. -/
theorem not_forall_cools_own_model :
    ¬ ∀ (guard : SeriesGuard) (event : ErrorEvent) (key : ProviderKey) (now : Millis),
      ofSettings {} = .ok guard → ({} : SeriesSettings).MeansNoCapacity event →
      Configuration.ensureIdentifier event.key.provider = .ok () →
      Configuration.ensureIdentifier key.provider = .ok () →
      event.time ≤ now → now < event.time.plus (.ofSeconds 60) →
      ((guard.noteError event).2.isCoolingDown key now = true ↔
        key.provider = event.key.provider ∧ key.model = event.key.model) := by
  intro hall
  obtain ⟨guard, hbuilt⟩ : ∃ guard, ofSettings {} = .ok guard := ⟨_, rfl⟩
  have hevent : Configuration.ensureIdentifier dottedError.key.provider = .ok () := by
    simp [Configuration.ensureIdentifier, dottedError]
  have hother : Configuration.ensureIdentifier "north" = .ok () := by
    simp [Configuration.ensureIdentifier]
  have howns := hall guard dottedError ⟨"north", "b", "eu.large"⟩ 30000 hbuilt
    dottedError_meansNoCapacity hevent hother (by decide) (by decide)
  obtain ⟨hprovider, -⟩ := howns.mp (isCoolingDown_of_dotted hbuilt)
  exact absurd hprovider (by decide)

end SeriesGuard

end ProviderRouting
