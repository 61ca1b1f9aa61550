import ProviderRouting.Proofs.Quota.Usage

/-!
# Usage accounting

An entry's counters are brought up to date by whatever happens to the key, once or twice or not at
all, and a look at the entry keeps nothing of what it sees.  They still stand for what was used:
at any time, an entry shows the uses of the window that the time lies in, and all tokens since the
last reset.  So limits that are asked before each use hold in every window.
-/

namespace ProviderRouting

/-! ## Meters -/

/-- What an entry keeps of the uses of its key. -/
structure Meter where
  startedAt : Option Millis := none
  requests : UInt64 := 0
  tokens : UInt64 := 0
  total : UInt64 := 0

def QuotaEntry.meter (entry : QuotaEntry) : Meter :=
  ⟨entry.windowStartedAt, entry.windowRequests, entry.windowTokens, entry.totalTokens⟩

namespace Meter

def asOf (meter : Meter) (now window : Millis) : Meter :=
  if meter.startedAt.any fun started => decide (started.plus window ≤ now) then
    { total := meter.total }
  else meter

def count (meter : Meter) (usage : Usage) : Meter where
  startedAt := some (meter.startedAt.getD usage.time)
  requests := accumulate meter.requests 1
  tokens := accumulate meter.tokens usage.tokens
  total := accumulate meter.total usage.tokens

/-- The meter after an event, as it stands at a time. -/
def after (window now : Millis) (meter : Meter) : LedgerEvent → Meter
  | .usage _ tokens time => ((meter.asOf time window).count ⟨tokens, time⟩).asOf now window
  | .clear _ _ => {}
  | _ => meter.asOf now window

variable {meter : Meter} {window now time : Millis}

/-- An earlier look makes no difference to a later one. -/
theorem asOf_asOf (meter : Meter) (window : Millis) (htime : time ≤ now) :
    (meter.asOf time window).asOf now window = meter.asOf now window := by
  obtain ⟨startedAt, requests, tokens, total⟩ := meter
  cases startedAt with
  | none => rfl
  | some started =>
      simp only [asOf, Option.any_some, decide_eq_true_eq]
      by_cases hover : started.plus window ≤ time
      · have hlater : started.plus window ≤ now := Int.le_trans hover htime
        rw [if_pos hover, if_pos hlater]
        rfl
      · rw [if_neg hover]
        simp only [Option.any_some, decide_eq_true_eq]

end Meter

section

variable {settings : QuotaSettings} {window now time : Millis} {event : LedgerEvent}

theorem QuotaEntry.meter_asOf (entry : QuotaEntry) (now window : Millis) :
    (entry.asOf now window).meter = entry.meter.asOf now window := by
  rw [Meter.asOf]
  split <;> rename_i hover
  · have hended : entry.windowIsOver now window = true := hover
    simp only [QuotaEntry.meter, asOf, judged, dropEnded, hended, if_true]
  · have hopen : ¬ entry.windowIsOver now window = true := hover
    simp only [QuotaEntry.meter, asOf, judged, dropEnded, if_neg hopen]

/-- What an event makes of an entry, it makes of the meter alone. -/
theorem LedgerEvent.meter_act (stored? : Option QuotaEntry)
    (htime : event.isReset = false → ∀ time ∈ event.time?, time ≤ now) :
    ((event.act settings stored?).2.getD {}).meter.asOf now settings.usageWindow =
      (stored?.getD {}).meter.after settings.usageWindow now event := by
  have hlook (time : Millis) (entry : QuotaEntry) (hle : time ≤ now) :
      (entry.asOf time settings.usageWindow).meter.asOf now settings.usageWindow =
        entry.meter.asOf now settings.usageWindow := by
    rw [QuotaEntry.meter_asOf, Meter.asOf_asOf _ _ hle]
  cases event with
  | error event =>
      have hle : event.time ≤ now := htime rfl event.time rfl
      let current := (stored?.getD {}).asOf event.time settings.usageWindow
      -- neither counting the error nor its windows touch the meter
      have hblocked (counted : QuotaEntry) :
          (counted.escalate settings event.errorClass event.retryAfter event.time).meter =
            counted.meter := by
        rw [QuotaEntry.escalate]
        split <;> rfl
      calc ((stored?.getD {}).afterError settings event).meter.asOf now settings.usageWindow
          = ((current.countError settings event.errorClass event.time).escalate settings
              event.errorClass event.retryAfter event.time).meter.asOf now settings.usageWindow :=
            hlook event.time _ hle
        _ = current.meter.asOf now settings.usageWindow := by
            rw [hblocked]
            rfl
        _ = (stored?.getD {}).meter.asOf now settings.usageWindow := hlook event.time _ hle
  | success event => exact hlook event.time _ (htime rfl event.time rfl)
  | usage key tokens time =>
      refine (hlook time _ (htime rfl time rfl)).trans ?_
      rw [Meter.after, ← QuotaEntry.meter_asOf (stored?.getD {}) time]
      rfl
  | report given time => exact hlook time _ (htime rfl time rfl)
  | static key limits tier => rfl
  | clear key time =>
      cases stored? with
      | none => rfl
      | some stored => rfl

namespace QuotaLedger

variable {ledger : QuotaLedger} {key : ProviderKey}

theorem entry_apply_of_ne (ledger : QuotaLedger) (hkey : event.key ≠ key) :
    (ledger.apply event).entry key = ledger.entry key := by
  rw [entry, get?_apply, if_neg (Ne.symm hkey), ← entry]

theorem meter_apply_self (ledger : QuotaLedger) (hkey : event.key = key)
    (htime : event.isReset = false → ∀ time ∈ event.time?, time ≤ now) :
    ((ledger.apply event).entry key).meter.asOf now ledger.settings.usageWindow =
      (ledger.entry key).meter.after ledger.settings.usageWindow now event := by
  rw [entry, get?_apply, if_pos hkey.symm]
  exact LedgerEvent.meter_act _ htime

end QuotaLedger

end

/-! ## What a meter shows -/

/-- The number, or the greatest that a counter can hold. -/
def saturated (number : Nat) : UInt64 :=
  .ofNat (min number 18446744073709551615)

theorem toNat_saturated (number : Nat) :
    (saturated number).toNat = min number 18446744073709551615 := by
  rw [saturated, UInt64.toNat_ofNat']
  omega

theorem accumulate_saturated (number : Nat) (amount : UInt64) :
    accumulate (saturated number) amount = saturated (number + amount.toNat) := by
  apply UInt64.toNat.inj
  rw [toNat_accumulate, toNat_saturated, toNat_saturated]
  omega

/-- The meter that shows some uses as those of the window, and the tokens of others in all. -/
def Meter.showing (current all : List Usage) : Meter where
  startedAt := current.head?.map Usage.time
  requests := saturated current.length
  tokens := saturated (tokensOf current)
  total := saturated (tokensOf all)

section

variable {length now : Millis} {windows : List UsageWindow} {usages : List Usage}

theorem Meter.showing_count (current all : List Usage) (usage : Usage) :
    (showing current all).count usage = showing (current ++ [usage]) (all ++ [usage]) := by
  have hsum (given : List Usage) :
      accumulate (saturated (tokensOf given)) usage.tokens =
        saturated (tokensOf (given ++ [usage])) := by
    rw [accumulate_saturated, tokensOf_append]
    rfl
  have hlength : accumulate (saturated current.length) 1 =
      saturated (current ++ [usage]).length := by
    rw [accumulate_saturated, List.length_append]
    rfl
  have hfirst : some ((current.head?.map Usage.time).getD usage.time) =
      (current ++ [usage]).head?.map Usage.time := by
    cases current <;> rfl
  rw [count, showing, showing, hlength, hsum, hsum, hfirst]

/-- A meter forgets the window exactly when it is over, for no window ends at the last instant of
all before the clock is there. -/
theorem Meter.showing_asOf (window : UsageWindow) (all : List Usage) (hlength : 0 < length)
    (hnow : now < .greatest) :
    (showing window.usages all).asOf now length =
      showing (if window.isOver length now then [] else window.usages) all := by
  have hend : window.first.time.plus length ≤ now ↔ window.isOver length now = true := by
    have hlower := window.first.time.least_le
    have hpositive : 0 < length.value := hlength
    have hbound : now.value < 9223372036854775807 := hnow
    rw [UsageWindow.isOver_iff, Millis.le_iff, Millis.value_plus]
    omega
  have hstarted : (showing window.usages all).startedAt = some window.first.time := rfl
  simp only [asOf, hstarted, Option.any_some, decide_eq_true_eq]
  by_cases hover : window.isOver length now = true
  · rw [if_pos hover, if_pos (hend.mpr hover)]
    rfl
  · rw [if_neg hover, if_neg fun hended => hover (hend.mp hended)]

/-- At every time from the last event on, the meter shows the uses of the last window, if that is
not over, and all tokens. -/
theorem meter_ofHistory (settings : QuotaSettings) (history : List LedgerEvent)
    (key : ProviderKey) (hlength : 0 < settings.usageWindow)
    (hordered : (timesSince key history ++ [now]).Pairwise (· ≤ ·)) (hnow : now < .greatest) :
    ((QuotaLedger.ofHistory settings history).entry key).meter.asOf now settings.usageWindow =
      .showing (UsageWindow.openAt settings.usageWindow now
        (usageWindows settings.usageWindow (usagesSince key history))) (usagesSince key history)
      := by
  induction history using List.reverseRecOn generalizing now with
  | nil => rfl
  | append_singleton history event ih =>
      have hsettings := QuotaLedger.ofHistory_settings settings history
      rw [QuotaLedger.ofHistory_append_singleton]
      by_cases hkey : event.key = key
      · have hearlier (hreset : event.isReset = false) := timesSince_ordered hkey hreset hordered
        have happly := (QuotaLedger.ofHistory settings history).meter_apply_self hkey
          fun hreset time htime => ((hearlier hreset).2 time htime).1
        rw [hsettings] at happly
        rw [happly]
        cases event with
        | clear own time =>
            rw [usagesSince_append_self hkey]
            rfl
        | usage own tokens time =>
            obtain rfl : key = own := hkey.symm
            obtain ⟨hle, hbefore⟩ := (hearlier rfl).2 time rfl
            have htime : time < .greatest := Int.lt_of_le_of_lt hle hnow
            obtain ⟨last, earlier, hwindows, hlast, -⟩ := exists_last_window settings.usageWindow
              (usagesSince key history) ⟨tokens, time⟩
            rw [Meter.after, ih hbefore htime, Meter.showing_count, ← hlast,
              Meter.showing_asOf last _ hlength hnow, usagesSince_append_usage, hwindows]
            rfl
        | _ =>
            rw [usagesSince_append_of_other rfl rfl]
            exact ih (hearlier rfl).1 hnow
      · rw [timesSince_append_of_ne hkey] at hordered
        rw [QuotaLedger.entry_apply_of_ne _ hkey, usagesSince_append_of_ne hkey]
        exact ih hordered hnow

end

/-! ## Limits -/

/-- Some uses have reached a limit, as those of one window or as all there were. -/
def UsageLimits.ReachedBy (limits : UsageLimits) (current all : List Usage) : Prop :=
  (∃ limit ∈ limits.requests, limit.toNat ≤ current.length) ∨
    (∃ limit ∈ limits.tokens, limit.toNat ≤ tokensOf current) ∨
      ∃ limit ∈ limits.totalTokens, limit.toNat ≤ tokensOf all

/-- A window holds no more requests than it may, and all of them but the last leave it tokens. -/
structure UsageLimits.RespectedIn (limits : UsageLimits) (window : UsageWindow) : Prop where
  requests : ∀ limit ∈ limits.requests, window.usages.length ≤ limit.toNat
  tokens : ∀ limit ∈ limits.tokens, ∀ count < window.usages.length,
    tokensOf (window.usages.take count) < limit.toNat

/-- An entry counts the uses of a window and the tokens of all uses, up to the ends of its
counters, and tells whether a limit is reached. -/
structure QuotaEntry.Accounts (entry : QuotaEntry) (current all : List Usage) : Prop where
  startedAt : entry.windowStartedAt = current.head?.map Usage.time
  requests : entry.windowRequests.toNat = min current.length 18446744073709551615
  tokens : entry.windowTokens.toNat = min (tokensOf current) 18446744073709551615
  total : entry.totalTokens.toNat = min (tokensOf all) 18446744073709551615
  depleted : entry.isDepleted = true ↔ entry.limits.ReachedBy current all

/-- Since its last reset, a key was used only when it could be selected, and under some limits. -/
def Admitted (settings : QuotaSettings) (key : ProviderKey) (limits : UsageLimits)
    (history : List LedgerEvent) : Prop :=
  ∀ before tokens time later, history = before ++ .usage key tokens time :: later →
    (∀ event ∈ later, event.key = key → event.isReset = false) →
      (QuotaLedger.ofHistory settings before).isAvailable key time = true ∧
        ((QuotaLedger.ofHistory settings before).entry key).limits = limits

section

variable {settings : QuotaSettings} {key : ProviderKey} {limits : UsageLimits} {now : Millis}
  {history : List LedgerEvent} {event : LedgerEvent} {current all : List Usage}

theorem reached_saturated (number : Nat) (limit? : Option UInt64) :
    QuotaEntry.reached (saturated number) limit? = true ↔
      ∃ limit ∈ limit?, limit.toNat ≤ number := by
  cases limit? with
  | none => simp [QuotaEntry.reached]
  | some limit =>
      have hbound := limit.toNat_lt
      simp only [QuotaEntry.reached, Option.any_some, decide_eq_true_eq, UInt64.le_iff_toNat_le,
        toNat_saturated, Option.mem_some_iff, exists_eq_left']
      omega

theorem QuotaEntry.accounts_of_meter {entry : QuotaEntry}
    (hmeter : entry.meter = .showing current all) : entry.Accounts current all := by
  have hrequests : entry.windowRequests = saturated current.length :=
    congrArg Meter.requests hmeter
  have htokens : entry.windowTokens = saturated (tokensOf current) := congrArg Meter.tokens hmeter
  have htotal : entry.totalTokens = saturated (tokensOf all) := congrArg Meter.total hmeter
  refine ⟨congrArg Meter.startedAt hmeter, ?_, ?_, ?_, ?_⟩
  · rw [hrequests, toNat_saturated]
  · rw [htokens, toNat_saturated]
  · rw [htotal, toNat_saturated]
  · rw [isDepleted, hrequests, htokens, htotal, Bool.or_eq_true, Bool.or_eq_true,
      reached_saturated, reached_saturated, reached_saturated, or_assoc]
    rfl

/-- At every time from the last event on, a key's entry accounts for the uses of the last window,
if that is not over, and for all tokens. -/
theorem accounts_entryAt (settings : QuotaSettings) (history : List LedgerEvent)
    (key : ProviderKey) (hlength : 0 < settings.usageWindow)
    (hordered : (timesSince key history ++ [now]).Pairwise (· ≤ ·)) (hnow : now < .greatest) :
    ((QuotaLedger.ofHistory settings history).entryAt key now).Accounts
      (UsageWindow.openAt settings.usageWindow now
        (usageWindows settings.usageWindow (usagesSince key history)))
      (usagesSince key history) := by
  apply QuotaEntry.accounts_of_meter
  rw [QuotaLedger.entryAt, QuotaEntry.meter_asOf, QuotaLedger.ofHistory_settings]
  exact meter_ofHistory settings history key hlength hordered hnow

/-- Each use is judged by what was before it. -/
theorem admitted_append_iff (hreset : event.key = key → event.isReset = false) :
    Admitted settings key limits (history ++ [event]) ↔
      Admitted settings key limits history ∧
        ∀ tokens time, event = .usage key tokens time →
          (QuotaLedger.ofHistory settings history).isAvailable key time = true ∧
            ((QuotaLedger.ofHistory settings history).entry key).limits = limits := by
  constructor
  · refine fun hadmitted => ⟨fun before tokens time later hhistory hlater => ?_,
      fun tokens time hevent => ?_⟩
    · apply hadmitted before tokens time (later ++ [event])
      · rw [hhistory, List.append_assoc]
        rfl
      · intro other hother
        rcases List.mem_append.mp hother with hearlier | hlast
        · exact hlater other hearlier
        · rw [List.mem_singleton.mp hlast]
          exact hreset
    · exact hadmitted history tokens time [] (congrArg (history ++ [·]) hevent)
        fun _ hnone => absurd hnone List.not_mem_nil
  · rintro ⟨hadmitted, hlast⟩ before tokens time later hhistory hlater
    rcases List.eq_nil_or_concat' later with rfl | ⟨earlier, last, rfl⟩
    · obtain ⟨rfl, hevent⟩ := List.append_inj' hhistory rfl
      exact hlast tokens time (List.singleton_inj.mp hevent)
    · rw [← List.cons_append, ← List.append_assoc] at hhistory
      have hearlier := (List.append_inj' hhistory rfl).1
      exact hadmitted before tokens time earlier hearlier fun other hother =>
        hlater other (List.mem_append_left [last] hother)

/-- A selectable key has reached none of its limits. -/
theorem not_reachedBy_of_available {ledger : QuotaLedger}
    (haccounts : (ledger.entryAt key now).Accounts current all)
    (havailable : ledger.isAvailable key now = true) (hlimits : (ledger.entry key).limits = limits) :
    ¬ limits.ReachedBy current all := by
  have hunblocked := (QuotaEntry.asOf_inPool_iff _ _ _).mp havailable
  have hentry : (ledger.entryAt key now).limits = limits := hlimits
  rw [← hentry, ← haccounts.depleted, QuotaLedger.entryAt, hunblocked.usage]
  exact Bool.false_ne_true

/-- A use that no limit forbids leaves its window within the limits. -/
theorem UsageLimits.respectedIn_of_last {window : UsageWindow} {usage : Usage}
    (hwindow : window.usages = current ++ [usage]) (hbelow : ¬ limits.ReachedBy current all) :
    limits.RespectedIn window where
  requests limit hlimit := by
    have hroom : ¬ limit.toNat ≤ current.length :=
      fun hreached => hbelow (.inl ⟨limit, hlimit, hreached⟩)
    rw [hwindow, List.length_append, List.length_singleton]
    omega
  tokens limit hlimit count hcount := by
    rw [hwindow, List.length_append, List.length_singleton] at hcount
    have hroom : ¬ limit.toNat ≤ tokensOf current :=
      fun hreached => hbelow (.inr (.inl ⟨limit, hlimit, hreached⟩))
    have hsplit : tokensOf (current.take count) + tokensOf (current.drop count) =
        tokensOf current := by
      rw [← tokensOf_append, List.take_append_drop]
    rw [hwindow, List.take_append_of_le_length (Nat.le_of_lt_succ hcount)]
    omega

theorem respectedIn_of_admitted (hlength : 0 < settings.usageWindow)
    (hordered : (timesSince key history ++ [now]).Pairwise (· ≤ ·)) (hnow : now < .greatest)
    (hadmitted : Admitted settings key limits history) :
    ∀ window ∈ usageWindows settings.usageWindow (usagesSince key history),
      limits.RespectedIn window := by
  induction history using List.reverseRecOn generalizing now with
  | nil => exact fun window hwindow => absurd hwindow List.not_mem_nil
  | append_singleton history event ih =>
      by_cases hkey : event.key = key
      · have hearlier (hreset : event.isReset = false) := timesSince_ordered hkey hreset hordered
        have hbefore (hreset : event.isReset = false) :=
          (admitted_append_iff fun _ => hreset).mp hadmitted
        cases event with
        | clear own time =>
            rw [usagesSince_append_self hkey]
            exact fun window hwindow => absurd hwindow List.not_mem_nil
        | usage own tokens time =>
            obtain rfl : key = own := hkey.symm
            obtain ⟨hle, htimes⟩ := (hearlier rfl).2 time rfl
            have htime : time < .greatest := Int.lt_of_le_of_lt hle hnow
            obtain ⟨havailable, hlimits⟩ := (hbefore rfl).2 tokens time rfl
            have hbelow := not_reachedBy_of_available
              (accounts_entryAt settings history key hlength htimes htime) havailable hlimits
            obtain ⟨last, earlier, hwindows, hlast, hsublist⟩ := exists_last_window
              settings.usageWindow (usagesSince key history) ⟨tokens, time⟩
            rw [usagesSince_append_usage, hwindows]
            intro window hwindow
            rcases List.mem_cons.mp hwindow with rfl | hold
            · exact UsageLimits.respectedIn_of_last hlast hbelow
            · exact ih htimes htime (hbefore rfl).1 window (hsublist.mem hold)
        | _ =>
            rw [usagesSince_append_of_other rfl rfl]
            exact ih (hearlier rfl).1 hnow (hbefore rfl).1
      · rw [usagesSince_append_of_ne hkey]
        rw [timesSince_append_of_ne hkey] at hordered
        exact ih hordered hnow ((admitted_append_iff fun hsame => absurd hsame hkey).mp hadmitted).1

/-- A key's uses are counted exactly, whatever else happens to the key and whenever one looks; and
if the key is used only when it can be selected, its limits hold in every window. -/
theorem usage_accounted (settings : QuotaSettings) (history : List LedgerEvent)
    (key : ProviderKey) (now : Millis) (hlength : 0 < settings.usageWindow)
    (hordered : (timesSince key history ++ [now]).Pairwise (· ≤ ·)) (hnow : now < .greatest) :
    Divides settings.usageWindow
        (usageWindows settings.usageWindow (usagesSince key history)) (usagesSince key history) ∧
      ((QuotaLedger.ofHistory settings history).entryAt key now).Accounts
        (usagesAt settings.usageWindow (usagesSince key history) now)
        (usagesSince key history) ∧
      ∀ limits, Admitted settings key limits history →
        ∀ window ∈ usageWindows settings.usageWindow (usagesSince key history),
          limits.RespectedIn window := by
  obtain ⟨htimes, -, hlast⟩ := List.pairwise_append.mp hordered
  have hsublist := sublist_timesSince key history
  have hdivides := usageWindows_divides hlength (htimes.sublist hsublist)
  have hpast : ∀ usage ∈ usagesSince key history, usage.time ≤ now := fun usage husage =>
    hlast usage.time (hsublist.mem (List.mem_map_of_mem husage)) now List.mem_cons_self
  refine ⟨hdivides, ?_, fun limits hadmitted =>
    respectedIn_of_admitted hlength hordered hnow hadmitted⟩
  rw [usagesAt, hdivides.find?_covers hpast]
  exact accounts_entryAt settings history key hlength hordered hnow

def meteredKey : ProviderKey := ⟨"north", "a", "large"⟩

def oneRequest : UsageLimits where
  requests := some 1

/-- A key of one request a minute is used twice, the second time at the end of the first minute. -/
def meteredRequests : List LedgerEvent :=
  [.static meteredKey oneRequest none, .usage meteredKey 40 1000, .usage meteredKey 70 61000]

/-- The second request is the first of a window of its own. -/
theorem usage_accounted_of_rollover :
    (timesSince meteredKey meteredRequests ++ [61000]).Pairwise (· ≤ ·) ∧
      ((QuotaLedger.ofHistory {} meteredRequests).entryAt meteredKey 61000).windowTokens.toNat =
        70 ∧
      Admitted {} meteredKey oneRequest meteredRequests ∧
      ∀ window ∈ usageWindows 60000 (usagesSince meteredKey meteredRequests),
        window.usages.length ≤ 1 := by
  have hordered : (timesSince meteredKey meteredRequests ++ [61000]).Pairwise (· ≤ ·) := by
    decide +kernel
  have hnone : Admitted {} meteredKey oneRequest [] := by
    intro before tokens time later hhistory _
    exact absurd hhistory.symm (List.append_ne_nil_of_right_ne_nil before (List.cons_ne_nil _ _))
  have hlimited : Admitted {} meteredKey oneRequest ([] ++ [.static meteredKey oneRequest none]) := by
    refine (admitted_append_iff fun _ => rfl).mpr ⟨hnone, ?_⟩
    rintro tokens time ⟨⟩
  have hfirst : Admitted {} meteredKey oneRequest
      ([.static meteredKey oneRequest none] ++ [.usage meteredKey 40 1000]) := by
    refine (admitted_append_iff fun _ => rfl).mpr ⟨hlimited, ?_⟩
    rintro tokens time ⟨⟩
    decide +kernel
  have hadmitted : Admitted {} meteredKey oneRequest
      ([.static meteredKey oneRequest none, .usage meteredKey 40 1000] ++
        [.usage meteredKey 70 61000]) := by
    refine (admitted_append_iff fun _ => rfl).mpr ⟨hfirst, ?_⟩
    rintro tokens time ⟨⟩
    decide +kernel
  obtain ⟨-, haccounts, hrespected⟩ := usage_accounted {} meteredRequests meteredKey 61000
    (by decide) hordered (by decide)
  refine ⟨hordered, haccounts.tokens.trans (by decide +kernel), hadmitted, ?_⟩
  intro window hwindow
  exact (hrespected _ hadmitted window hwindow).requests 1 rfl

end

end ProviderRouting
