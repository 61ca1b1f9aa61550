import ProviderRouting.Proofs.Quota.Escalation
import ProviderRouting.Proofs.Table
import ProviderRouting.Series.Guard

/-!
# Events of different keys

An event reads and writes the entry of its own key only.  So a key's entry, and what is answered to
its events, depend on its own events, in their order, and on no others between them.  Whatever
counts or merges the events of several keys, as the revision and the cooldowns of a series do, does
not depend on their order.
-/

namespace ProviderRouting

/-- Lists that have the same items of every kind, in the same order, are permutations of each
other. -/
theorem perm_of_filter_eq {α Kind : Type} [DecidableEq Kind] (kind : α → Kind)
    {left right : List α}
    (hsame : ∀ each, left.filter (fun item => kind item = each) =
      right.filter (fun item => kind item = each)) : left.Perm right := by
  classical
  refine List.perm_iff_count.mpr fun item => ?_
  let own (other : α) : Bool := decide (kind other = kind item)
  have hown : own item = true := decide_eq_true rfl
  calc left.count item
      = (left.filter own).count item := (List.count_filter hown).symm
    _ = (right.filter own).count item := congrArg (List.count item) (hsame (kind item))
    _ = right.count item := List.count_filter hown

/-! ## One event -/

inductive LedgerAnswer where
  | failed (effect : ErrorEffect)
  | recorded (reason : PoolReason)
  /-- Static settings are taken over without an answer. -/
  | noted
  /-- Whether something was known of the key. -/
  | cleared (known : Bool)

namespace LedgerEvent

def key : LedgerEvent → ProviderKey
  | .error event => event.key
  | .success event => event.key
  | .usage key _ _ => key
  | .report given _ => given.key
  | .static key _ _ => key
  | .clear key _ => key

/-- What is answered to an event, and what it makes of the stored entry of its key. -/
def act (settings : QuotaSettings) (stored? : Option QuotaEntry) :
    LedgerEvent → LedgerAnswer × Option QuotaEntry
  | .error event =>
      let entry := (stored?.getD {}).afterError settings event
      (.failed (entry.effect event.errorClass), some entry)
  | .success event =>
      let entry := (stored?.getD {}).afterSuccess settings event.time
      (.recorded entry.reason, some entry)
  | .usage _ tokens time =>
      let entry := (stored?.getD {}).afterUsage settings tokens time
      (.recorded entry.reason, some entry)
  | .report given time =>
      let entry := (stored?.getD {}).afterReport settings given.remaining given.resetAt time
      (.recorded entry.reason, some entry)
  | .static _ limits priorityTier =>
      (.noted, some ((stored?.getD {}).withStatic limits priorityTier))
  | .clear _ time => (.cleared stored?.isSome, stored?.map (·.cleared time))

def ofKey (key : ProviderKey) (history : List LedgerEvent) : List LedgerEvent :=
  history.filter fun event => event.key = key

theorem ofKey_cons (key : ProviderKey) (event : LedgerEvent) (rest : List LedgerEvent) :
    ofKey key (event :: rest) =
      if event.key = key then event :: ofKey key rest else ofKey key rest := by
  rw [ofKey, List.filter_cons]
  exact if_congr decide_eq_true_iff rfl rfl

end LedgerEvent

namespace LedgerAnswer

def isChange : LedgerAnswer → Bool
  | .cleared known => known
  | _ => true

end LedgerAnswer

namespace QuotaLedger

variable {ledger left right : QuotaLedger} {key : ProviderKey} {history : List LedgerEvent}

def answer (ledger : QuotaLedger) : LedgerEvent → LedgerAnswer
  | .error event => .failed (ledger.noteError event).1
  | .success event => .recorded (ledger.noteSuccess event).1
  | .usage key tokens time => .recorded (ledger.noteUsage key tokens time).1
  | .report report time => .recorded (ledger.noteReport report time).1
  | .static _ _ _ => .noted
  | .clear key time => .cleared (ledger.clear key time).1

/-- An answer depends on the settings and on the entry of the event's key. -/
theorem answer_eq (ledger : QuotaLedger) (event : LedgerEvent) :
    ledger.answer event =
      (event.act ledger.settings (ledger.entries.get? event.key)).1 := by
  cases event with
  | clear key time =>
      simp only [answer, clear, LedgerEvent.act, LedgerEvent.key]
      cases ledger.entries.get? key <;> rfl
  | _ => rfl

theorem get?_store (ledger : QuotaLedger) (key probe : ProviderKey) (stored : QuotaEntry) :
    (ledger.store key stored).entries.get? probe =
      if probe = key then some stored else ledger.entries.get? probe :=
  ledger.entries.get?_insert key probe stored

/-- An event changes the entry of its own key, as it acts on this entry, and no other. -/
theorem get?_apply (ledger : QuotaLedger) (event : LedgerEvent) (key : ProviderKey) :
    (ledger.apply event).entries.get? key =
      if key = event.key then (event.act ledger.settings (ledger.entries.get? key)).2
      else ledger.entries.get? key := by
  have hstore (own : ProviderKey) (next : QuotaEntry → QuotaEntry) :
      (ledger.store own (next (ledger.entry own))).entries.get? key =
        if key = own then some (next ((ledger.entries.get? key).getD {}))
        else ledger.entries.get? key := by
    rw [get?_store]
    by_cases hkey : key = own
    · rw [if_pos hkey, if_pos hkey, hkey, entry]
    · rw [if_neg hkey, if_neg hkey]
  cases event with
  | error event => exact hstore event.key fun entry => entry.afterError ledger.settings event
  | success event =>
      exact hstore event.key fun entry => entry.afterSuccess ledger.settings event.time
  | usage own tokens time =>
      exact hstore own fun entry => entry.afterUsage ledger.settings tokens time
  | report report time =>
      exact hstore report.key fun entry =>
        entry.afterReport ledger.settings report.remaining report.resetAt time
  | static own limits tier => exact hstore own fun entry => entry.withStatic limits tier
  | clear own time =>
      change (ledger.clear own time).2.entries.get? key =
        if key = own then (ledger.entries.get? key).map (·.cleared time)
        else ledger.entries.get? key
      rw [clear]
      by_cases hkey : key = own
      · rw [if_pos hkey, hkey]
        cases hstored : ledger.entries.get? own with
        | none => exact hstored
        | some stored => exact (get?_store ..).trans (if_pos rfl)
      · rw [if_neg hkey]
        cases ledger.entries.get? own with
        | none => rfl
        | some stored => exact (get?_store ..).trans (if_neg hkey)

theorem apply_revision (ledger : QuotaLedger) (event : LedgerEvent) :
    (ledger.apply event).revision =
      ledger.revision + .ofNat (if (ledger.answer event).isChange then 1 else 0) := by
  cases event with
  | clear key time =>
      change (ledger.clear key time).2.revision =
        ledger.revision + .ofNat (if (ledger.clear key time).1 then 1 else 0)
      rw [clear]
      cases ledger.entries.get? key with
      | none => exact ledger.revision.add_zero.symm
      | some stored => rfl
  | _ => rfl

/-! ## A history -/

def run (ledger : QuotaLedger) (history : List LedgerEvent) : QuotaLedger :=
  history.foldl apply ledger

def log (ledger : QuotaLedger) : List LedgerEvent → List (LedgerEvent × LedgerAnswer)
  | [] => []
  | event :: rest => (event, ledger.answer event) :: (ledger.apply event).log rest

/-- What is logged of a key, and what becomes of its entry, is what its own events lead to from any
ledger that has the same entry of it. -/
theorem run_ofKey (hentry : left.entries.get? key = right.entries.get? key)
    (hsettings : left.settings = right.settings) (history : List LedgerEvent) :
    (left.log history).filter (fun row => row.1.key = key) =
        right.log (LedgerEvent.ofKey key history) ∧
      (left.run history).entries.get? key =
        (right.run (LedgerEvent.ofKey key history)).entries.get? key := by
  induction history generalizing left right with
  | nil => exact ⟨rfl, hentry⟩
  | cons event rest ih =>
      have hleft := left.get?_apply event key
      by_cases hkey : event.key = key
      · -- both ledgers meet the event, and with the same entry
        subst hkey
        have hright := right.get?_apply event event.key
        rw [if_pos rfl, hentry, hsettings] at hleft
        rw [if_pos rfl] at hright
        obtain ⟨hlog, hrun⟩ := ih (hleft.trans hright.symm)
          (by rw [apply_settings, apply_settings, hsettings])
        have hanswer : left.answer event = right.answer event := by
          rw [answer_eq, answer_eq, hentry, hsettings]
        rw [LedgerEvent.ofKey_cons, if_pos rfl, log, log, List.filter_cons_of_pos (by simp), hlog,
          hanswer]
        exact ⟨rfl, hrun⟩
      · -- only the left ledger meets it, and keeps the entry
        rw [if_neg (Ne.symm hkey)] at hleft
        obtain ⟨hlog, hrun⟩ := ih (hleft.trans hentry) (by rw [apply_settings, hsettings])
        rw [LedgerEvent.ofKey_cons, if_neg hkey, log, List.filter_cons_of_neg (by simpa using hkey)]
        exact ⟨hlog, hrun⟩

/-- The revision counts the events that have changed the ledger. -/
theorem run_revision (ledger : QuotaLedger) (history : List LedgerEvent) :
    (ledger.run history).revision =
      ledger.revision + .ofNat ((ledger.log history).countP fun row => row.2.isChange) := by
  induction history generalizing ledger with
  | nil => exact ledger.revision.add_zero.symm
  | cons event rest ih =>
      have hstep := ih (ledger.apply event)
      rw [apply_revision, UInt64.add_assoc, ← UInt64.ofNat_add, Nat.add_comm] at hstep
      rw [log, List.countP_cons]
      exact hstep

end QuotaLedger

/-! ## Series -/

namespace SeriesGuard

variable {guard : SeriesGuard}

/-- The guard after an event, which concerns it only if it is an error. -/
def heed (guard : SeriesGuard) : LedgerEvent → SeriesGuard
  | .error event => (guard.noteError event).2
  | _ => guard

def heedAll (guard : SeriesGuard) (history : List LedgerEvent) : SeriesGuard :=
  history.foldl heed guard

/-- What an event makes of the cooldowns under the rules of a guard. -/
def prolong (guard : SeriesGuard) (cooldowns : Table String Millis) :
    LedgerEvent → Table String Millis
  | .error event =>
      if guard.rules.meansNoCapacity event then
        extend cooldowns (guard.seriesOf event.key) (event.time.plus guard.rules.cooldown)
      else cooldowns
  | _ => cooldowns

theorem heed_eq (guard : SeriesGuard) (event : LedgerEvent) :
    (guard.heed event).rules = guard.rules ∧ (guard.heed event).grouping = guard.grouping ∧
      (guard.heed event).cooldowns = guard.prolong guard.cooldowns event := by
  cases event with
  | error event =>
      rw [heed, noteError, prolong]
      split <;> exact ⟨rfl, rfl, rfl⟩
  | _ => exact ⟨rfl, rfl, rfl⟩

theorem prolong_congr {other : SeriesGuard} (hrules : other.rules = guard.rules)
    (hgrouping : other.grouping = guard.grouping) : other.prolong = guard.prolong := by
  funext cooldowns event
  cases event with
  | error event => rw [prolong, prolong, seriesOf, seriesOf, hrules, hgrouping]
  | _ => rfl

theorem heedAll_cooldowns (guard : SeriesGuard) (history : List LedgerEvent) :
    (guard.heedAll history).cooldowns = history.foldl guard.prolong guard.cooldowns := by
  induction history generalizing guard with
  | nil => rfl
  | cons event rest ih =>
      obtain ⟨hrules, hgrouping, hcooldowns⟩ := guard.heed_eq event
      have hstep := ih (guard.heed event)
      rw [prolong_congr hrules hgrouping, hcooldowns] at hstep
      exact hstep

theorem extend_right_comm (ends : Table String Millis) (first second : String)
    (early late : Millis) :
    extend (extend ends first early) second late =
      extend (extend ends second late) first early :=
  Table.insertWith_right_comm max ends first second early late

/-- Series keep the latest of their ends, in whatever order these come. -/
theorem prolong_right_comm (guard : SeriesGuard) (cooldowns : Table String Millis)
    (first second : LedgerEvent) :
    guard.prolong (guard.prolong cooldowns first) second =
      guard.prolong (guard.prolong cooldowns second) first := by
  cases first with
  | error first =>
      cases second with
      | error second =>
          simp only [prolong]
          by_cases hfirst : guard.rules.meansNoCapacity first = true
          · by_cases hsecond : guard.rules.meansNoCapacity second = true
            · simp only [if_pos hfirst, if_pos hsecond]
              exact extend_right_comm ..
            · simp only [if_pos hfirst, if_neg hsecond]
          · simp only [if_neg hfirst]
      | _ => rfl
  | _ => cases second <;> rfl

theorem heedAll_cooldowns_of_perm (guard : SeriesGuard) {first second : List LedgerEvent}
    (hperm : first.Perm second) :
    (guard.heedAll first).cooldowns = (guard.heedAll second).cooldowns := by
  rw [heedAll_cooldowns, heedAll_cooldowns]
  exact hperm.foldl_eq' (fun earlier _ later _ cooldowns =>
    guard.prolong_right_comm cooldowns earlier later) guard.cooldowns

end SeriesGuard

/-! ## Interleavings -/

/-- The history is made of one stream of events for each key, each stream in its own order. -/
def Interleaves (streams : ProviderKey → List LedgerEvent) (history : List LedgerEvent) : Prop :=
  ∀ key, LedgerEvent.ofKey key history = streams key

/-- Two histories, recorded by the same ledger and heeded by the same guard, come to the same. -/
structure SameRecord (ledger : QuotaLedger) (guard : SeriesGuard)
    (first second : List LedgerEvent) : Prop where
  entries : (ledger.run first).entries = (ledger.run second).entries
  /-- Key by key, the same events got the same answers. -/
  answers : ∀ key, (ledger.log first).filter (fun row => row.1.key = key) =
    (ledger.log second).filter (fun row => row.1.key = key)
  revision : (ledger.run first).revision = (ledger.run second).revision
  cooldowns : (guard.heedAll first).cooldowns = (guard.heedAll second).cooldowns

/-- A history treats a key as its stream alone would have treated it. -/
structure FollowsStream (ledger : QuotaLedger) (history : List LedgerEvent) (key : ProviderKey)
    (stream : List LedgerEvent) : Prop where
  entry : (ledger.run history).entries.get? key = (ledger.run stream).entries.get? key
  answers : (ledger.log history).filter (fun row => row.1.key = key) = ledger.log stream

theorem Interleaves.followsStream {streams : ProviderKey → List LedgerEvent}
    {history : List LedgerEvent} (hstreams : Interleaves streams history) (ledger : QuotaLedger)
    (key : ProviderKey) : FollowsStream ledger history key (streams key) := by
  have hentry : ledger.entries.get? key = ledger.entries.get? key := rfl
  obtain ⟨hlog, hrun⟩ := QuotaLedger.run_ofKey hentry rfl history
  rw [← hstreams key]
  exact ⟨hrun, hlog⟩

/-- How the streams of different keys are interleaved makes no difference, and each key is treated
as if its own stream were all that ever happened. -/
theorem interleavings_agree {streams : ProviderKey → List LedgerEvent}
    {first second : List LedgerEvent} (hfirst : Interleaves streams first)
    (hsecond : Interleaves streams second) (ledger : QuotaLedger) (guard : SeriesGuard) :
    SameRecord ledger guard first second ∧
      ∀ key, FollowsStream ledger first key (streams key) := by
  have hlog (key : ProviderKey) : (ledger.log first).filter (fun row => row.1.key = key) =
      (ledger.log second).filter (fun row => row.1.key = key) :=
    (hfirst.followsStream ledger key).answers.trans (hsecond.followsStream ledger key).answers.symm
  have hcount : ((ledger.log first).countP fun row => row.2.isChange) =
      (ledger.log second).countP fun row => row.2.isChange :=
    (perm_of_filter_eq (fun row => row.1.key) hlog).countP_eq _
  have hperm : first.Perm second :=
    perm_of_filter_eq LedgerEvent.key fun key => (hfirst key).trans (hsecond key).symm
  refine ⟨⟨?_, hlog, ?_, guard.heedAll_cooldowns_of_perm hperm⟩, hfirst.followsStream ledger⟩
  · apply Table.eq_of_get?
    intro key
    exact (hfirst.followsStream ledger key).entry.trans
      (hsecond.followsStream ledger key).entry.symm
  · rw [QuotaLedger.run_revision, QuotaLedger.run_revision, hcount]

def overloadOf (keyAlias : String) (time : Millis) : LedgerEvent :=
  .error ⟨⟨"north", keyAlias, "large"⟩, some "overloaded", some 429, none, time⟩

/-- Two aliases of one series fail, one of them recovers, and a third key is cleared. -/
def byAlias : List LedgerEvent :=
  [overloadOf "a" 0, .success ⟨⟨"north", "a", "large"⟩, 20⟩, overloadOf "b" 10,
    .clear ⟨"south", "c", "small"⟩ 30]

/-- The same events, those of the second alias and of the third key first. -/
def byTurns : List LedgerEvent :=
  [.clear ⟨"south", "c", "small"⟩ 30, overloadOf "b" 10, overloadOf "a" 0,
    .success ⟨⟨"north", "a", "large"⟩, 20⟩]

def overloadGuard : SeriesGuard where
  rules := ⟨60000, ["overloaded"], [], []⟩

/-- The series of two aliases cools down equally long, whichever of them fails first. -/
theorem interleavings_agree_of_overload :
    Interleaves (fun key => LedgerEvent.ofKey key byAlias) byTurns ∧
      SameRecord {} overloadGuard byAlias byTurns ∧
      (overloadGuard.heedAll byTurns).cooldowns.get? "north.large" = some 60010 ∧
      ∀ key, FollowsStream {} byAlias key (LedgerEvent.ofKey key byAlias) := by
  have hturns : Interleaves (fun key => LedgerEvent.ofKey key byAlias) byTurns := by
    intro key
    by_cases hfirst : key = ⟨"north", "a", "large"⟩
    · subst hfirst
      rfl
    · by_cases hsecond : key = ⟨"north", "b", "large"⟩
      · subst hsecond
        rfl
      · have hleft : (overloadOf "a" 0).key ≠ key := Ne.symm hfirst
        have hright : (overloadOf "b" 10).key ≠ key := Ne.symm hsecond
        have hhealed : (LedgerEvent.success ⟨⟨"north", "a", "large"⟩, 20⟩).key ≠ key := hleft
        simp only [byAlias, byTurns, LedgerEvent.ofKey_cons, if_neg hleft, if_neg hright,
          if_neg hhealed]
  obtain ⟨hsame, hown⟩ :=
    interleavings_agree (fun _ => rfl) hturns {} overloadGuard
  exact ⟨hturns, hsame, by decide +kernel, hown⟩

end ProviderRouting
