import ProviderRouting.Proofs.Quota.Parts

/-!
# Looking at an entry

Nothing sweeps the entries: that a window has ended is found out by looking.  A look that is stored
forgets windows, counts and the mark of a fatal error, and events look at the entry before they
change it.  Still no look can be told from what is seen later.  At any time the reason is the
strongest that something stands for then, and a key that could be selected stays selectable until
something happens to it.
-/

namespace ProviderRouting

/-! ## Events after a look -/

namespace QuotaEntry

variable {early now window : Millis}

theorem afterError_asOf (entry : QuotaEntry) (settings : QuotaSettings) {event : ErrorEvent}
    (hle : early ≤ event.time) :
    (entry.asOf early settings.usageWindow).afterError settings event =
      entry.afterError settings event := by
  rw [afterError, afterError, asOf_asOf _ _ hle]

/-- What the counts of errors are does not matter to a look. -/
theorem afterSuccess_asOf (entry : QuotaEntry) (settings : QuotaSettings) (hle : early ≤ now) :
    (entry.asOf early settings.usageWindow).afterSuccess settings now =
      entry.afterSuccess settings now :=
  asOf_asOf { entry with
    consecutiveErrors := 0
    seriesErrors := 0
    penalty := 0
    lastErrorClass := none
    updatedAt := now } settings.usageWindow hle

theorem afterUsage_asOf (entry : QuotaEntry) (settings : QuotaSettings) (tokens : UInt64)
    (hle : early ≤ now) :
    (entry.asOf early settings.usageWindow).afterUsage settings tokens now =
      entry.afterUsage settings tokens now := by
  rw [afterUsage, afterUsage, asOf_asOf _ _ hle]

theorem meter_asOf_asOf (entry : QuotaEntry) (window : Millis) (hle : early ≤ now) :
    ((entry.asOf early window).asOf now window).meter = (entry.asOf now window).meter :=
  congrArg meter (entry.asOf_asOf window hle)

/-- A report replaces the supply, whatever an earlier look has left of it. -/
theorem afterReport_asOf (entry : QuotaEntry) (settings : QuotaSettings) (remaining : Float)
    (resetAt : Option Millis) (hle : early ≤ now) :
    (entry.asOf early settings.usageWindow).afterReport settings remaining resetAt now =
      entry.afterReport settings remaining resetAt now := by
  refine eq_of_agreeOn rfl rfl (fun part => ?_) ⟨rfl, rfl⟩ rfl
  cases part with
  | errors => exact entry.errorRecord.asOf_asOf hle
  | usage => exact entry.meter_asOf_asOf settings.usageWindow hle
  | supply => rfl

/-- New settings do not change what a look sees of the parts. -/
theorem withStatic_asOf (entry : QuotaEntry) (limits : Option UsageLimits)
    (priorityTier : Option UInt32) (hle : early ≤ now) :
    ((entry.asOf early window).withStatic limits priorityTier).asOf now window =
      (entry.withStatic limits priorityTier).asOf now window := by
  refine eq_of_agreeOn rfl rfl (fun part => ?_) ⟨rfl, rfl⟩ rfl
  cases part with
  | errors => exact entry.errorRecord.asOf_asOf hle
  | usage => exact entry.meter_asOf_asOf window hle
  | supply => exact entry.supply.asOf_asOf hle

end QuotaEntry

/-- From a time on, there is no telling two stored entries apart by looking. -/
def SeenAlike (time window : Millis) (left? right? : Option QuotaEntry) : Prop :=
  left?.map (·.asOf time window) = right?.map (·.asOf time window)

section

variable {settings : QuotaSettings} {time now window : Millis}
  {left? right? : Option QuotaEntry} {event : LedgerEvent}

theorem SeenAlike.mono (hsame : SeenAlike time window left? right?) (hle : time ≤ now) :
    SeenAlike now window left? right? := by
  have hlook (stored? : Option QuotaEntry) :
      (stored?.map (·.asOf time window)).map (·.asOf now window) =
        stored?.map (·.asOf now window) := by
    rw [Option.map_map]
    exact congrArg (stored?.map ·) (funext fun entry => entry.asOf_asOf window hle)
  rw [SeenAlike, ← hlook left?, ← hlook right?]
  exact congrArg (Option.map _) hsame

/-- A look that is stored makes no difference to a later event: neither to the answer nor to what
the event makes of the entry. -/
theorem LedgerEvent.act_look (settings : QuotaSettings) (stored? : Option QuotaEntry)
    (htime : ∀ later ∈ event.time?, time ≤ later) :
    (event.act settings (stored?.map (·.asOf time settings.usageWindow))).1 =
        (event.act settings stored?).1 ∧
      SeenAlike time settings.usageWindow
        (event.act settings (stored?.map (·.asOf time settings.usageWindow))).2
        (event.act settings stored?).2 := by
  cases stored? with
  | none => exact ⟨rfl, rfl⟩
  | some entry =>
      cases event with
      | error event =>
          have hsame := entry.afterError_asOf settings (htime event.time rfl)
          simp only [act, Option.map_some, Option.getD_some, hsame]
          exact ⟨trivial, rfl⟩
      | success event =>
          have hsame := entry.afterSuccess_asOf settings (htime event.time rfl)
          simp only [act, Option.map_some, Option.getD_some, hsame]
          exact ⟨trivial, rfl⟩
      | usage key tokens later =>
          have hsame := entry.afterUsage_asOf settings tokens (htime later rfl)
          simp only [act, Option.map_some, Option.getD_some, hsame]
          exact ⟨trivial, rfl⟩
      | report report later =>
          have hsame := entry.afterReport_asOf settings report.remaining report.resetAt
            (htime later rfl)
          simp only [act, Option.map_some, Option.getD_some, hsame]
          exact ⟨trivial, rfl⟩
      | static key limits tier =>
          exact ⟨rfl, congrArg some (entry.withStatic_asOf limits tier (Int.le_refl _))⟩
      | clear key later => exact ⟨rfl, rfl⟩

theorem LedgerEvent.act_alike (hsame : SeenAlike time settings.usageWindow left? right?)
    (htime : ∀ later ∈ event.time?, time ≤ later) :
    (event.act settings left?).1 = (event.act settings right?).1 ∧
      SeenAlike time settings.usageWindow (event.act settings left?).2
        (event.act settings right?).2 := by
  obtain ⟨hleft, hnextLeft⟩ := event.act_look settings left? htime
  obtain ⟨hright, hnextRight⟩ := event.act_look settings right? htime
  rw [hsame] at hleft hnextLeft
  exact ⟨hleft.symm.trans hright, Eq.trans hnextLeft.symm hnextRight⟩

end

/-! ## A run with looks in it -/

inductive Touch where
  /-- A look, and what it sees is stored. -/
  | look (time : Millis)
  | event (event : LedgerEvent)

namespace Touch

def time? : Touch → Option Millis
  | .look time => some time
  | .event given => given.time?

def isEvent : Touch → Bool
  | .look _ => false
  | .event _ => true

/-- The answers to the events, and what becomes of the stored entry. -/
def runAll (settings : QuotaSettings) :
    Option QuotaEntry → List Touch → List LedgerAnswer × Option QuotaEntry
  | stored?, [] => ([], stored?)
  | stored?, .look time :: rest =>
      runAll settings (stored?.map (·.asOf time settings.usageWindow)) rest
  | stored?, .event given :: rest =>
      let done := given.act settings stored?
      let ended := runAll settings done.2 rest
      (done.1 :: ended.1, ended.2)

variable {settings : QuotaSettings} {time now : Millis} {left? right? : Option QuotaEntry}
  {touches : List Touch}

/-- Entries that look the same from a time on lead to the same answers from then on. -/
theorem runAll_alike (hsame : SeenAlike time settings.usageWindow left? right?)
    (htimes : ∀ touch ∈ touches, ∀ later ∈ touch.time?, time ≤ later) :
    (runAll settings left? touches).1 = (runAll settings right? touches).1 ∧
      SeenAlike time settings.usageWindow (runAll settings left? touches).2
        (runAll settings right? touches).2 := by
  induction touches generalizing left? right? with
  | nil => exact ⟨rfl, hsame⟩
  | cons touch rest ih =>
      obtain ⟨htouch, hrest⟩ := List.forall_mem_cons.mp htimes
      cases touch with
      | look later =>
          have hseen : left?.map (·.asOf later settings.usageWindow) =
              right?.map (·.asOf later settings.usageWindow) := hsame.mono (htouch later rfl)
          simp only [runAll, hseen]
          exact ⟨trivial, rfl⟩
      | event given =>
          obtain ⟨hanswer, hnext⟩ := given.act_alike hsame htouch
          obtain ⟨hanswers, hended⟩ := ih hnext hrest
          exact ⟨congrArg₂ List.cons hanswer hanswers, hended⟩

/-- In a run whose times do not go back, the looks can be left out: all answers are the same, and
so is what is seen at the end. -/
theorem runAll_filter (settings : QuotaSettings) (stored? : Option QuotaEntry)
    (hordered : (touches.filterMap time? ++ [now]).Pairwise (· ≤ ·)) :
    (runAll settings stored? touches).1 =
        (runAll settings stored? (touches.filter isEvent)).1 ∧
      SeenAlike now settings.usageWindow (runAll settings stored? touches).2
        (runAll settings stored? (touches.filter isEvent)).2 := by
  induction touches generalizing stored? with
  | nil => exact ⟨rfl, rfl⟩
  | cons touch rest ih =>
      have hrest : (rest.filterMap time? ++ [now]).Pairwise (· ≤ ·) :=
        hordered.sublist (((List.sublist_cons_self touch rest).filterMap time?).append_right [now])
      cases touch with
      | look time =>
          obtain ⟨hlater, -⟩ := List.pairwise_cons.mp hordered
          have hseen : SeenAlike time settings.usageWindow
              (stored?.map (·.asOf time settings.usageWindow)) stored? := by
            rw [SeenAlike, Option.map_map]
            exact congrArg (stored?.map ·) (funext fun entry => entry.asOf_asOf _ (Int.le_refl _))
          have htimes : ∀ touch ∈ rest, ∀ later ∈ touch.time?, time ≤ later :=
            fun touch htouch later htime => hlater later
              (List.mem_append_left _ (List.mem_filterMap.mpr ⟨touch, htouch, htime⟩))
          obtain ⟨hanswers, hended⟩ := runAll_alike hseen htimes
          obtain ⟨hkept, hlast⟩ := ih stored? hrest
          have hnow : time ≤ now := hlater now (List.mem_append_right _ List.mem_cons_self)
          exact ⟨hanswers.trans hkept, Eq.trans (hended.mono hnow) hlast⟩
      | event given =>
          obtain ⟨hanswers, hlast⟩ := ih (given.act settings stored?).2 hrest
          exact ⟨congrArg (List.cons _) hanswers, hlast⟩

end Touch

/-! ## Reasons -/

/-- A stronger reason hides the weaker ones. -/
def PoolReason.rank : PoolReason → Nat
  | .ok => 0
  | .depleted => 1
  | .cooldown => 2
  | .blacklist => 3
  | .fatal => 4

namespace QuotaEntry

variable {entry : QuotaEntry} {early now window : Millis} {until? : Option Millis}
  {used : UInt64} {limit? : Option UInt64}

def EndsAfter (now : Millis) (until? : Option Millis) : Prop :=
  ∃ finish ∈ until?, now < finish

theorem isSome_stillOpen_iff : (stillOpen now until?).isSome = true ↔ EndsAfter now until? := by
  rw [Option.isSome_iff_exists]
  exact exists_congr fun finish => stillOpen_eq_some_iff

theorem reached_iff : reached used limit? = true ↔ ∃ limit ∈ limit?, limit ≤ used := by
  rw [reached, Option.any_eq_true]
  exact exists_congr fun limit => and_congr_right fun _ => decide_eq_true_iff

/-- What a count of the usage window is at a time: nothing, once the window is over. -/
def countAt (entry : QuotaEntry) (now window : Millis) (count : UInt64) : UInt64 :=
  if entry.windowIsOver now window then 0 else count

/-- A limit is reached by the counts of the usage window that a time lies in, or by all tokens. -/
def ReachesLimit (entry : QuotaEntry) (now window : Millis) : Prop :=
  (∃ limit ∈ entry.limits.requests, limit ≤ entry.countAt now window entry.windowRequests) ∨
    (∃ limit ∈ entry.limits.tokens, limit ≤ entry.countAt now window entry.windowTokens) ∨
      ∃ limit ∈ entry.limits.totalTokens, limit ≤ entry.totalTokens

theorem isDepleted_iff (entry : QuotaEntry) :
    entry.isDepleted = true ↔
      (∃ limit ∈ entry.limits.requests, limit ≤ entry.windowRequests) ∨
        (∃ limit ∈ entry.limits.tokens, limit ≤ entry.windowTokens) ∨
          ∃ limit ∈ entry.limits.totalTokens, limit ≤ entry.totalTokens := by
  rw [isDepleted, Bool.or_eq_true, Bool.or_eq_true, reached_iff, reached_iff, reached_iff, or_assoc]

theorem isDepleted_asOf_iff (entry : QuotaEntry) (now window : Millis) :
    (entry.asOf now window).isDepleted = true ↔ entry.ReachesLimit now window :=
  isDepleted_iff (entry.asOf now window)

/-- What stands for a reason at a time. -/
inductive Grounds (entry : QuotaEntry) (now window : Millis) : PoolReason → Prop
  | fatal (hblacklist : EndsAfter now entry.blacklistUntil) (hfatal : entry.fatal = true) :
      Grounds entry now window .fatal
  | blacklist (hblacklist : EndsAfter now entry.blacklistUntil) :
      Grounds entry now window .blacklist
  | cooldown (hcooldown : EndsAfter now entry.cooldownUntil) : Grounds entry now window .cooldown
  | supply (hdepleted : EndsAfter now entry.depletedUntil) : Grounds entry now window .depleted
  | usage (hlimit : entry.ReachesLimit now window) : Grounds entry now window .depleted
  | ok : Grounds entry now window .ok

theorem isDepleted_or_iff (entry : QuotaEntry) (now window : Millis) :
    ((stillOpen now entry.depletedUntil).isSome || (entry.asOf now window).isDepleted) = true ↔
      EndsAfter now entry.depletedUntil ∨ entry.ReachesLimit now window := by
  rw [Bool.or_eq_true, isSome_stillOpen_iff, isDepleted_asOf_iff]

theorem grounds_reason (entry : QuotaEntry) (now window : Millis) :
    entry.Grounds now window (entry.asOf now window).reason := by
  rw [asOf_reason, strongestReason]
  split
  · next hblacklist =>
      split
      · next hfatal =>
          rw [asOf_fatal, Bool.and_eq_true] at hfatal
          exact .fatal (isSome_stillOpen_iff.mp hblacklist) hfatal.1
      · exact .blacklist (isSome_stillOpen_iff.mp hblacklist)
  · split
    · next hcooldown => exact .cooldown (isSome_stillOpen_iff.mp hcooldown)
    · split
      · next hdepleted =>
          exact ((isDepleted_or_iff entry now window).mp hdepleted).elim .supply .usage
      · exact .ok

/-- Nothing stands for a reason stronger than that of the entry. -/
theorem Grounds.rank_le {reason : PoolReason} (hgrounds : entry.Grounds now window reason) :
    reason.rank ≤ (entry.asOf now window).reason.rank := by
  rw [asOf_reason, strongestReason, asOf_blacklistUntil, asOf_cooldownUntil, asOf_depletedUntil]
  cases hgrounds with
  | fatal hblacklist hfatal =>
      have hopen := isSome_stillOpen_iff.mpr hblacklist
      rw [if_pos hopen, asOf_fatal, hopen, hfatal]
      exact Nat.le_refl _
  | blacklist hblacklist =>
      rw [if_pos (isSome_stillOpen_iff.mpr hblacklist)]
      split <;> decide
  | cooldown hcooldown =>
      rw [if_pos (isSome_stillOpen_iff.mpr hcooldown)]
      split
      · split <;> decide
      · decide
  | supply hdepleted =>
      rw [if_pos ((isDepleted_or_iff entry now window).mpr (.inl hdepleted))]
      split
      · split <;> decide
      · split <;> decide
  | usage hlimit =>
      rw [if_pos ((isDepleted_or_iff entry now window).mpr (.inr hlimit))]
      split
      · split <;> decide
      · split <;> decide
  | ok => exact Nat.zero_le _

/-! ## The pool -/

/-- Counts only fall by a look. -/
theorem isDepleted_of_asOf (hdepleted : (entry.asOf now window).isDepleted = true) :
    entry.isDepleted = true := by
  have hcount (count : UInt64) : entry.countAt now window count ≤ count := by
    rw [countAt]
    split
    · exact UInt64.zero_le
    · exact UInt64.le_refl count
  rw [isDepleted_iff]
  rcases (isDepleted_asOf_iff entry now window).mp hdepleted with
    ⟨limit, hlimit, hle⟩ | ⟨limit, hlimit, hle⟩ | ⟨limit, hlimit, hle⟩
  · exact .inl ⟨limit, hlimit, UInt64.le_trans hle (hcount _)⟩
  · exact .inr (.inl ⟨limit, hlimit, UInt64.le_trans hle (hcount _)⟩)
  · exact .inr (.inr ⟨limit, hlimit, hle⟩)

theorem Unblocked.mono (hunblocked : entry.Unblocked early window) (hle : early ≤ now) :
    entry.Unblocked now window where
  cooldown finish hfinish := Int.le_trans (hunblocked.cooldown finish hfinish) hle
  blacklist finish hfinish := Int.le_trans (hunblocked.blacklist finish hfinish) hle
  depletion finish hfinish := Int.le_trans (hunblocked.depletion finish hfinish) hle
  usage := by
    rw [← asOf_asOf entry window hle, ← Bool.not_eq_true]
    intro hdepleted
    have hearlier := isDepleted_of_asOf hdepleted
    rw [hunblocked.usage] at hearlier
    exact Bool.false_ne_true hearlier

/-- Looks leave no trace.  An earlier look, or the same one twice, makes no difference to what is
seen, nor do any looks between the events of a run.  What is seen is the strongest reason that the
windows, and the counts of the usage window of that time, stand for; and a key that is in the pool
at a time is in the pool at all later ones. -/
theorem looks_leave_no_trace (entry : QuotaEntry) (window : Millis) (hle : early ≤ now) :
    (entry.asOf early window).asOf now window = entry.asOf now window ∧
    (entry.asOf now window).asOf now window = entry.asOf now window ∧
    (∀ (settings : QuotaSettings) (touches : List Touch), settings.usageWindow = window →
      (touches.filterMap Touch.time? ++ [now]).Pairwise (· ≤ ·) →
        (Touch.runAll settings (some entry) touches).1 =
            (Touch.runAll settings (some entry) (touches.filter Touch.isEvent)).1 ∧
          SeenAlike now window (Touch.runAll settings (some entry) touches).2
            (Touch.runAll settings (some entry) (touches.filter Touch.isEvent)).2) ∧
    (entry.Grounds now window (entry.asOf now window).reason ∧
      ∀ reason, entry.Grounds now window reason →
        reason.rank ≤ (entry.asOf now window).reason.rank) ∧
    ((entry.asOf early window).inPool = true → (entry.asOf now window).inPool = true) := by
  refine ⟨entry.asOf_asOf window hle, entry.asOf_asOf window (Int.le_refl _), ?_,
    ⟨entry.grounds_reason now window, fun _ => Grounds.rank_le⟩, ?_⟩
  · rintro settings touches rfl hordered
    exact Touch.runAll_filter settings (some entry) hordered
  · rw [asOf_inPool_iff, asOf_inPool_iff]
    exact fun hunblocked => hunblocked.mono hle

/-- A key with a fatal blacklist and a longer cooldown, which has used its one request a minute. -/
def troubledEntry : QuotaEntry where
  cooldownUntil := some 8000
  blacklistUntil := some 6000
  fatal := true
  limits := { requests := some 1 }
  windowStartedAt := some 1000
  windowRequests := 1

/-- The first look forgets nothing yet, the second the blacklist and that it was fatal. -/
def watchedSuccess : List Touch :=
  [.look 5000, .event (.success ⟨⟨"north", "a", "large"⟩, 6500⟩), .look 6600]

/-- The blacklist gives way to the cooldown, and that to the limit; then the key is back for good,
whether anyone looked or not. -/
theorem looks_leave_no_trace_of_troubled :
    (troubledEntry.asOf 5000 60000).reason = .fatal ∧
    (troubledEntry.asOf 5000 60000).asOf 7000 60000 = troubledEntry.asOf 7000 60000 ∧
    (troubledEntry.asOf 7000 60000).reason = .cooldown ∧
    (∀ reason, troubledEntry.Grounds 7000 60000 reason → reason.rank ≤ 2) ∧
    SeenAlike 7000 60000 (Touch.runAll {} (some troubledEntry) watchedSuccess).2
      (some (troubledEntry.afterSuccess {} 6500)) ∧
    (troubledEntry.asOf 8000 60000).reason = .depleted ∧
    ((troubledEntry.asOf 61000 60000).inPool = true ∧
      (troubledEntry.asOf 90000 60000).inPool = true) := by
  obtain ⟨htwice, -, hrun, ⟨-, hstrongest⟩, -⟩ :=
    looks_leave_no_trace troubledEntry 60000 (show (5000 : Millis) ≤ 7000 by decide)
  obtain ⟨-, -, -, -, hlasts⟩ :=
    looks_leave_no_trace troubledEntry 60000 (show (61000 : Millis) ≤ 90000 by decide)
  obtain ⟨-, hseen⟩ := hrun {} watchedSuccess (by decide) (by decide +kernel)
  have hback : (troubledEntry.asOf 61000 60000).inPool = true := by decide +kernel
  exact ⟨by decide +kernel, htwice, by decide +kernel, hstrongest, hseen, by decide +kernel, hback,
    hlasts hback⟩

end QuotaEntry

end ProviderRouting
