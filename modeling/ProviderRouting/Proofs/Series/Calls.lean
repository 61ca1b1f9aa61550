import Mathlib.Data.List.Induction
import ProviderRouting.Proofs.Configuration
import ProviderRouting.Proofs.Series.Ends

/-!
# Calls on a guard

A guard is told of errors, drops what has ended, takes over cooldowns that were kept elsewhere, and
is given other settings.  Guards with the same rules whose tables are alike from a time on answer
alike from then on, and go on to do so when the same is done to both.  Pruning makes a guard that is
alike in this sense, so no later answer shows that it happened.
-/

namespace ProviderRouting

/-! ## Rules -/

namespace SeriesRules

variable {settings : SeriesSettings} {rules : SeriesRules}

theorem ofSettings_ok (hrules : ofSettings settings = .ok rules) :
    ∃ families, settings.families.mapM familyTest = .ok families ∧ rules = {
      cooldown := .ofSeconds settings.cooldownSeconds
      markers := settings.capacityMarkers.map lowercase
      families
      singleAccount := settings.singleAccountProviders } := by
  obtain ⟨families, hfamilies, hbuilt⟩ := bind_eq_ok_iff.mp hrules
  exact ⟨families, hfamilies, (Except.ok.inj hbuilt).symm⟩

theorem cooldown_eq (hrules : ofSettings settings = .ok rules) :
    rules.cooldown = .ofSeconds settings.cooldownSeconds := by
  obtain ⟨families, -, rfl⟩ := ofSettings_ok hrules
  rfl

/-- A cooldown does not end before it begins. -/
theorem cooldown_nonneg (hrules : ofSettings settings = .ok rules) : 0 ≤ rules.cooldown.value := by
  rw [cooldown_eq hrules]
  simp only [Millis.ofSeconds, Millis.clamp]
  omega

end SeriesRules

/-! ## Calls -/

inductive GuardCall where
  | noteError (event : ErrorEvent)
  | prune (now : Millis)
  | resume (cooldowns : Table String Millis)
  | configure (settings : SeriesSettings)

namespace GuardCall

def isPrune : GuardCall → Bool
  | .prune _ => true
  | _ => false

/-- The settings that a call puts into force, if rules can be made of them. -/
def adopted? : GuardCall → Option SeriesSettings
  | .configure settings => (SeriesRules.ofSettings settings).toOption.map fun _ => settings
  | _ => none

end GuardCall

/-- The settings that are in force after some calls: the last ones that rules could be made of. -/
def SeriesSettings.after (settings : SeriesSettings) (calls : List GuardCall) : SeriesSettings :=
  ((calls.filterMap GuardCall.adopted?).getLast?).getD settings

theorem SeriesSettings.after_append_singleton (settings : SeriesSettings) (calls : List GuardCall)
    (call : GuardCall) :
    settings.after (calls ++ [call]) = call.adopted?.getD (settings.after calls) := by
  rw [after, after, List.filterMap_append]
  cases hadopted : call.adopted? with
  | none => simp [hadopted]
  | some next => simp [hadopted]

namespace SeriesGuard

variable {guard left right after : SeriesGuard} {settings : SeriesSettings} {call : GuardCall}
  {calls : List GuardCall} {provider : String} {key : ProviderKey} {now pruned : Millis}

/-- The guard after a call.  Settings that no rules can be made of are refused. -/
def perform (guard : SeriesGuard) : GuardCall → SeriesGuard
  | .noteError event => (guard.noteError event).2
  | .prune now => guard.prune now
  | .resume cooldowns => guard.resume cooldowns
  | .configure settings =>
      match guard.withSettings settings with
      | .ok after => after
      | .error _ => guard

def run (guard : SeriesGuard) (calls : List GuardCall) : SeriesGuard :=
  calls.foldl perform guard

theorem run_append (guard : SeriesGuard) (first second : List GuardCall) :
    guard.run (first ++ second) = (guard.run first).run second :=
  List.foldl_append

/-- The guard was built with the settings and has not been told of any cooldown. -/
structure New (settings : SeriesSettings) (guard : SeriesGuard) : Prop where
  rules : SeriesRules.ofSettings settings = .ok guard.rules
  idle : guard.cooldowns = ∅

theorem new_of_ofSettings (hbuilt : ofSettings settings = .ok guard) : New settings guard := by
  obtain ⟨rules, hrules, hguard⟩ := bind_eq_ok_iff.mp hbuilt
  obtain rfl := Except.ok.inj hguard
  exact ⟨hrules, rfl⟩

/-! ## What one call changes -/

/-- A capacity error extends the cooldown of its series and, up to the end of that, avoids the
provider. -/
theorem noteError_of_capacity {event : ErrorEvent}
    (hcapacity : guard.rules.meansNoCapacity event = true) :
    ∃ cooldowns finish,
      cooldowns = extend guard.cooldowns (guard.seriesOf event.key)
        (event.time.plus guard.rules.cooldown) ∧
      cooldowns.get? (guard.seriesOf event.key) = some finish ∧
      (guard.noteError event).2 = { guard with
        cooldowns
        avoided :=
          if guard.rules.singleAccount.contains event.key.provider then
            extend guard.avoided event.key.provider finish
          else guard.avoided
        revision := guard.revision + 1 } := by
  have hfinish := get?_extend guard.cooldowns (guard.seriesOf event.key)
    (guard.seriesOf event.key) (event.time.plus guard.rules.cooldown)
  rw [if_pos rfl] at hfinish
  refine ⟨_, _, rfl, hfinish, ?_⟩
  rw [noteError, if_pos hcapacity]
  simp only [hfinish, Option.getD_some]

theorem noteError_of_no_capacity {event : ErrorEvent}
    (hcapacity : ¬ guard.rules.meansNoCapacity event = true) :
    (guard.noteError event).2 = guard := by
  rw [noteError, if_neg hcapacity]

theorem noteError_rules (guard : SeriesGuard) (event : ErrorEvent) :
    (guard.noteError event).2.rules = guard.rules := by
  rw [noteError]
  split <;> rfl

theorem seriesOf_noteError (guard : SeriesGuard) (event : ErrorEvent) (key : ProviderKey) :
    (guard.noteError event).2.seriesOf key = guard.seriesOf key := by
  rw [noteError]
  split <;> rfl

theorem withSettings_ok (hsettings : guard.withSettings settings = .ok after) :
    ∃ rules, SeriesRules.ofSettings settings = .ok rules ∧ after = { guard with rules } := by
  obtain ⟨rules, hrules, hafter⟩ := bind_eq_ok_iff.mp hsettings
  exact ⟨rules, hrules, (Except.ok.inj hafter).symm⟩

theorem perform_configure (guard : SeriesGuard) (settings : SeriesSettings) :
    guard.perform (.configure settings) = { guard with
      rules := ((SeriesRules.ofSettings settings).toOption).getD guard.rules } := by
  rw [perform, withSettings]
  cases SeriesRules.ofSettings settings <;> rfl

/-- A guard has the rules of the settings in force. -/
theorem perform_rules (hrules : SeriesRules.ofSettings settings = .ok guard.rules)
    (call : GuardCall) :
    SeriesRules.ofSettings (call.adopted?.getD settings) = .ok (guard.perform call).rules := by
  cases call with
  | noteError event => exact hrules.trans (congrArg _ (guard.noteError_rules event).symm)
  | prune time => exact hrules
  | resume cooldowns => exact hrules
  | configure next =>
      rw [perform_configure, GuardCall.adopted?]
      cases hnext : SeriesRules.ofSettings next with
      | error cause => exact hrules
      | ok rules => exact hnext

theorem run_rules (hnew : guard.New settings) (calls : List GuardCall) :
    SeriesRules.ofSettings (settings.after calls) = .ok (guard.run calls).rules := by
  induction calls using List.reverseRecOn with
  | nil => exact hnew.rules
  | append_singleton earlier call ih =>
      rw [SeriesSettings.after_append_singleton, run_append]
      exact perform_rules ih call

/-! ## What an answer tells -/

theorem isCoolingDown_iff :
    guard.isCoolingDown key now = true ↔ RunsBeyond guard.cooldowns (guard.seriesOf key) now := by
  rw [isCoolingDown, Option.any_eq_true]
  simp only [decide_eq_true_eq, RunsBeyond]

theorem isAvoided_iff :
    guard.isAvoided provider now = true ↔ RunsBeyond guard.avoided provider now := by
  rw [isAvoided, Option.any_eq_true]
  simp only [decide_eq_true_eq, RunsBeyond]

theorem avoidsAny_iff :
    guard.avoidsAny now = true ↔ ∃ provider, RunsBeyond guard.avoided provider now := by
  rw [avoidsAny, List.any_eq_true]
  constructor
  · rintro ⟨⟨provider, finish⟩, hrow, hopen⟩
    exact ⟨provider, finish, Table.get?_eq_some_iff.mpr hrow, of_decide_eq_true hopen⟩
  · rintro ⟨provider, finish, hfinish, hopen⟩
    exact ⟨(provider, finish), Table.get?_eq_some_iff.mp hfinish, decide_eq_true hopen⟩

/-- From a time on, the guards give the same answers. -/
structure AnswersAlike (now : Millis) (left right : SeriesGuard) : Prop where
  rules : left.rules = right.rules
  grouping : left.grouping = right.grouping
  cooldowns : SameFrom now left.cooldowns right.cooldowns
  avoided : SameFrom now left.avoided right.avoided

theorem prune_answersAlike (guard : SeriesGuard) (now : Millis) :
    AnswersAlike now (guard.prune now) guard :=
  ⟨rfl, rfl, sameFrom_filter guard.cooldowns now, sameFrom_filter guard.avoided now⟩

namespace AnswersAlike

theorem refl (now : Millis) (guard : SeriesGuard) : AnswersAlike now guard guard :=
  ⟨rfl, rfl, fun _ _ _ => Iff.rfl, fun _ _ _ => Iff.rfl⟩

theorem symm (halike : AnswersAlike now left right) : AnswersAlike now right left :=
  ⟨halike.rules.symm, halike.grouping.symm, halike.cooldowns.symm, halike.avoided.symm⟩

theorem trans {middle : SeriesGuard} (hfirst : AnswersAlike now left middle)
    (hsecond : AnswersAlike now middle right) : AnswersAlike now left right :=
  ⟨hfirst.rules.trans hsecond.rules, hfirst.grouping.trans hsecond.grouping,
    hfirst.cooldowns.trans hsecond.cooldowns, hfirst.avoided.trans hsecond.avoided⟩

theorem mono (halike : AnswersAlike pruned left right) (hle : pruned ≤ now) :
    AnswersAlike now left right :=
  ⟨halike.rules, halike.grouping, halike.cooldowns.mono hle, halike.avoided.mono hle⟩

theorem seriesOf_eq (halike : AnswersAlike now left right) (key : ProviderKey) :
    left.seriesOf key = right.seriesOf key := by
  rw [seriesOf, seriesOf, halike.rules, halike.grouping]

theorem isCoolingDown_eq (halike : AnswersAlike pruned left right) (hle : pruned ≤ now)
    (key : ProviderKey) : left.isCoolingDown key now = right.isCoolingDown key now := by
  rw [Bool.eq_iff_iff, isCoolingDown_iff, isCoolingDown_iff, halike.seriesOf_eq]
  exact halike.cooldowns _ now hle

theorem isAvoided_eq (halike : AnswersAlike pruned left right) (hle : pruned ≤ now)
    (provider : String) : left.isAvoided provider now = right.isAvoided provider now := by
  rw [Bool.eq_iff_iff, isAvoided_iff, isAvoided_iff]
  exact halike.avoided provider now hle

theorem avoidsAny_eq (halike : AnswersAlike pruned left right) (hle : pruned ≤ now) :
    left.avoidsAny now = right.avoidsAny now := by
  rw [Bool.eq_iff_iff, avoidsAny_iff, avoidsAny_iff]
  exact exists_congr fun provider => halike.avoided provider now hle

/-- An error extends the same ends by the same time, or by times that are the same from then on. -/
theorem noteError (halike : AnswersAlike now left right) (event : ErrorEvent) :
    AnswersAlike now (left.noteError event).2 (right.noteError event).2 := by
  by_cases hcapacity : right.rules.meansNoCapacity event = true
  · have hcapacity' : left.rules.meansNoCapacity event = true := by rwa [halike.rules]
    obtain ⟨cooldowns, finish, hcooldowns, hfinish, hleft⟩ := noteError_of_capacity hcapacity'
    obtain ⟨cooldowns', finish', hcooldowns', hfinish', hright⟩ := noteError_of_capacity hcapacity
    have hsame : SameFrom now cooldowns cooldowns' := by
      rw [hcooldowns, hcooldowns', halike.seriesOf_eq, halike.rules]
      exact halike.cooldowns.extend _ fun _ _ => Iff.rfl
    have htimes (time : Millis) (htime : now ≤ time) : time < finish ↔ time < finish' := by
      have hseen := hsame (right.seriesOf event.key) time htime
      rw [halike.seriesOf_eq] at hfinish
      simpa only [RunsBeyond, hfinish, hfinish', Option.some.injEq, exists_eq_left'] using hseen
    rw [hleft, hright]
    refine ⟨halike.rules, halike.grouping, hsame, ?_⟩
    rw [halike.rules]
    split
    · exact halike.avoided.extend event.key.provider htimes
    · exact halike.avoided
  · have hcapacity' : ¬ left.rules.meansNoCapacity event = true := by rwa [halike.rules]
    rw [noteError_of_no_capacity hcapacity, noteError_of_no_capacity hcapacity']
    exact halike

theorem perform (halike : AnswersAlike now left right) (call : GuardCall) :
    AnswersAlike now (left.perform call) (right.perform call) := by
  cases call with
  | noteError event => exact halike.noteError event
  | prune time =>
      exact ⟨halike.rules, halike.grouping, halike.cooldowns.filter time,
        halike.avoided.filter time⟩
  | resume cooldowns =>
      refine ⟨halike.rules, halike.grouping, fun name time htime => ?_, halike.avoided⟩
      change RunsBeyond (left.resume cooldowns).cooldowns name time ↔
        RunsBeyond (right.resume cooldowns).cooldowns name time
      rw [runsBeyond_resume_iff, runsBeyond_resume_iff, halike.cooldowns name time htime]
  | configure settings =>
      rw [perform_configure, perform_configure]
      exact ⟨by rw [halike.rules], halike.grouping, halike.cooldowns, halike.avoided⟩

theorem run (halike : AnswersAlike now left right) (calls : List GuardCall) :
    AnswersAlike now (left.run calls) (right.run calls) := by
  induction calls generalizing left right with
  | nil => exact halike
  | cons call rest ih => exact ih (halike.perform call)

end AnswersAlike

/-- A run comes to the same without its prunes. -/
theorem run_filter_answersAlike (guard : SeriesGuard)
    (hpruned : ∀ time, .prune time ∈ calls → time ≤ now) :
    AnswersAlike now (guard.run (calls.filter fun call => !call.isPrune)) (guard.run calls) := by
  induction calls using List.reverseRecOn with
  | nil => exact .refl now guard
  | append_singleton earlier call ih =>
      simp only [List.mem_append, List.mem_singleton] at hpruned
      have hearlier := ih fun time htime => hpruned time (.inl htime)
      rw [List.filter_append, run_append, run_append]
      cases call with
      | prune time =>
          have hlast := (guard.run earlier).prune_answersAlike time
          exact hearlier.trans (hlast.mono (hpruned time (.inr rfl))).symm
      | noteError event => exact hearlier.perform (.noteError event)
      | resume cooldowns => exact hearlier.perform (.resume cooldowns)
      | configure settings => exact hearlier.perform (.configure settings)

end SeriesGuard

end ProviderRouting
